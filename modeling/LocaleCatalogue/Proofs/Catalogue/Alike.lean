import Mathlib.Data.List.Forall2
import Mathlib.Data.Option.Basic
import LocaleCatalogue.Catalogue.Logged

/-!
# Analyses that end alike

Two analyses are alike if they make the same remarks and end with values that correspond, or with the
same failure. A composite analysis is alike as soon as its parts are, so what is to be shown of two
runs of one program is only shown of what they read.
-/

namespace LocaleCatalogue

/-- Two computations end alike: with values that correspond, or with the same error. -/
inductive EndAlike {ε α β : Type} (R : α → β → Prop) : Except ε α → Except ε β → Prop
  | ok {a : α} {b : β} : R a b → EndAlike R (.ok a) (.ok b)
  | error {e : ε} : EndAlike R (.error e) (.error e)

namespace Logged

variable {α β γ δ : Type} {R : α → β → Prop} {S : γ → δ → Prop}

/-- Two analyses are alike. -/
structure Alike (R : α → β → Prop) (x : Logged α) (y : Logged β) : Prop where
  remarks : y.remarks = x.remarks
  result : EndAlike R x.result y.result

theorem Alike.done {a : α} {b : β} (h : R a b) : Alike R (done a) (done b) := ⟨rfl, .ok h⟩

theorem Alike.fail {e : Failure} : Alike R (fail e) (fail e) := ⟨rfl, .error⟩

theorem Alike.ofExcept {x : Except Failure α} {y : Except Failure β} (h : EndAlike R x y) :
    Alike R (ofExcept x) (ofExcept y) := ⟨rfl, h⟩

theorem Alike.andThen {x : Logged α} {y : Logged β} {f : α → Logged γ} {g : β → Logged δ}
    (hxy : Alike R x y) (hfg : ∀ a b, R a b → Alike S (f a) (g b)) :
    Alike S (x.andThen f) (y.andThen g) := by
  obtain ⟨hremarks, hresult⟩ := hxy
  rw [Logged.andThen, Logged.andThen]
  generalize x.result = r, y.result = s at hresult ⊢
  cases hresult with
  | ok h => exact ⟨by simp only [hremarks, (hfg _ _ h).remarks], (hfg _ _ h).result⟩
  | error => exact ⟨hremarks, .error⟩

/-- What corresponds is what the analyses end with. -/
theorem Alike.ended {x : Logged α} {y : Logged β} (h : Alike R x y) :
    Alike (fun a b => R a b ∧ x.result = .ok a ∧ y.result = .ok b) x y := by
  obtain ⟨hremarks, hresult⟩ := h
  refine ⟨hremarks, ?_⟩
  generalize hx : x.result = r, hy : y.result = s at hresult ⊢
  cases hresult with
  | ok h => exact .ok ⟨h, rfl, rfl⟩
  | error => exact .error

/-- The same remark before analyses that are alike. -/
theorem Alike.said {r : Remark} {f : Unit → Logged γ} {g : Unit → Logged δ} (h : Alike S (f ()) (g ())) :
    Alike S ((say r).andThen f) ((say r).andThen g) :=
  Alike.andThen (R := fun _ _ => True) ⟨rfl, .ok trivial⟩ fun _ _ _ => h

/-- Analyses of one list after another are alike if those of corresponding members are. -/
theorem Alike.gather {f : α → Logged (List γ)} {g : β → Logged (List δ)} {as : List α} {bs : List β}
    (h : List.Forall₂ R as bs) (hfg : ∀ a b, R a b → Alike (List.Forall₂ S) (f a) (g b)) :
    Alike (List.Forall₂ S) (Logged.gather f as) (Logged.gather g bs) := by
  induction h with
  | nil => exact .done .nil
  | cons hab _ ih =>
      refine (hfg _ _ hab).andThen fun found found' hfound => ih.andThen fun more more' hmore => ?_
      exact .done (List.rel_append hfound hmore)

/-- Analyses that are alike up to equal members are the same. -/
theorem Alike.eq {x y : Logged (List α)} (h : Alike (List.Forall₂ Eq) x y) : y = x := by
  obtain ⟨remarks, result⟩ := x
  obtain ⟨remarks', result'⟩ := y
  obtain ⟨rfl, hresult⟩ := h
  cases hresult with
  | ok hmembers =>
      rw [List.forall₂_eq_eq_eq] at hmembers
      rw [hmembers]
  | error => rfl

theorem Alike.of_eq {x y : Logged (Option (List α))} (h : y = x) :
    Alike (Option.Rel (List.Forall₂ Eq)) x y := by
  subst h
  refine ⟨rfl, ?_⟩
  cases y.result with
  | error failure => exact .error
  | ok found =>
      cases found with
      | none => exact .ok .none
      | some members => exact .ok (.some (List.forall₂_refl members))

end Logged

end LocaleCatalogue
