import Mathlib.Data.List.Forall2
import LocaleCatalogue.Catalogue.Logged

/-!
# How composite analyses end

The remarks of an analysis never decide how it ends. So a composite analysis ends well exactly if
each of its parts does, and it fails with the first part that fails.
-/

namespace LocaleCatalogue.Logged

variable {α β : Type}

theorem andThen_result_eq_ok {x : Logged α} {f : α → Logged β} {b : β} :
    (x.andThen f).result = .ok b ↔ ∃ a, x.result = .ok a ∧ (f a).result = .ok b := by
  rw [andThen]
  cases hx : x.result with
  | ok a => simp
  | error e => simp

theorem andThen_result_eq_error {x : Logged α} {f : α → Logged β} {e : Failure} :
    (x.andThen f).result = .error e ↔
      x.result = .error e ∨ ∃ a, x.result = .ok a ∧ (f a).result = .error e := by
  rw [andThen]
  cases hx : x.result with
  | ok a => simp
  | error e' => simp

/-- What comes after an analysis only matters for what the analysis ends with. -/
theorem andThen_congr {x : Logged α} {f g : α → Logged β} (h : ∀ a, x.result = .ok a → f a = g a) :
    x.andThen f = x.andThen g := by
  rw [andThen, andThen]
  cases hx : x.result with
  | ok a => simp only [h a hx]
  | error e => rfl

@[simp] theorem done_result (a : α) : (done a).result = .ok a := rfl

@[simp] theorem ofExcept_ok (a : α) : ofExcept (.ok a) = done a := rfl

@[simp] theorem fail_result (e : Failure) : (fail e : Logged α).result = .error e := rfl

@[simp] theorem say_andThen_result (r : Remark) (f : Unit → Logged β) :
    ((say r).andThen f).result = (f ()).result := rfl

/-- Several analyses that end well contribute one part each, joined in order. -/
theorem exists_parts_of_gather {f : α → Logged (List β)} {as : List α} {all : List β}
    (h : (gather f as).result = .ok all) :
    ∃ parts : List (List β), parts.flatten = all ∧ parts.length = as.length ∧
      ∀ (i : Nat) (a : α) (part : List β), as[i]? = some a → parts[i]? = some part →
        (f a).result = .ok part := by
  induction as generalizing all with
  | nil =>
      cases h
      exact ⟨[], rfl, rfl, by simp⟩
  | cons a as ih =>
      obtain ⟨found, hfound, h⟩ := andThen_result_eq_ok.mp h
      obtain ⟨more, hmore, h⟩ := andThen_result_eq_ok.mp h
      cases h
      obtain ⟨parts, rfl, hlength, hparts⟩ := ih hmore
      refine ⟨found :: parts, rfl, by simp [hlength], ?_⟩
      intro i b part hb hpart
      cases i with
      | zero =>
          cases hb
          cases hpart
          exact hfound
      | succ i => exact hparts i b part hb hpart

theorem andThen_remarks {x : Logged α} {f : α → Logged β} {a : α} (h : x.result = .ok a) :
    (x.andThen f).remarks = x.remarks ++ (f a).remarks := by
  rw [andThen, h]

/-- If several analyses end well, and the remarks of each are read off things that stand at its
position, the remarks of all are read off these things, joined in order. -/
theorem exists_parts_of_gather_remarks {γ : Type} {f : α → Logged (List β)} {as : List α} {all : List β}
    (h : (gather f as).result = .ok all) {stands : Nat → List γ → Prop} {say? : γ → Option Remark}
    (hpart : ∀ i a part, as[i]? = some a → (f a).result = .ok part →
      ∃ things, stands i things ∧ (f a).remarks = things.filterMap say?) :
    ∃ parts : List (List γ), parts.length = as.length ∧
      (∀ i things, parts[i]? = some things → stands i things) ∧
      (gather f as).remarks = parts.flatten.filterMap say? := by
  induction as generalizing all stands with
  | nil => exact ⟨[], rfl, by simp, rfl⟩
  | cons a as ih =>
      obtain ⟨found, hfound, h⟩ := andThen_result_eq_ok.mp h
      obtain ⟨more, hmore, -⟩ := andThen_result_eq_ok.mp h
      obtain ⟨things, hthings, hsaid⟩ := hpart 0 a found rfl hfound
      obtain ⟨parts, hlength, hstands, hrest⟩ := @ih more hmore (fun i => stands (i + 1))
        fun i b part hb => hpart (i + 1) b part (by simpa using hb)
      refine ⟨things :: parts, by rw [List.length_cons, hlength, List.length_cons], ?_, ?_⟩
      · intro i part hi
        cases i with
        | zero =>
            obtain rfl := Option.some.inj hi
            exact hthings
        | succ i => exact hstands i part (by simpa using hi)
      · rw [gather, andThen_remarks hfound, andThen_remarks hmore, hsaid, hrest, List.flatten_cons,
          List.filterMap_append]
        simp [done]

/-- Several analyses that each end with a part end with the parts joined. -/
theorem gather_result_of_parts {f : α → Logged (List β)} {as : List α} {parts : List (List β)}
    (h : List.Forall₂ (fun a part => (f a).result = .ok part) as parts) :
    (gather f as).result = .ok parts.flatten := by
  induction h with
  | nil => rfl
  | cons hpart _ ih =>
      exact andThen_result_eq_ok.mpr ⟨_, hpart, andThen_result_eq_ok.mpr ⟨_, ih, rfl⟩⟩

/-- Several analyses fail with the first of them that fails. -/
theorem exists_first_of_gather {f : α → Logged (List β)} {as : List α} {e : Failure}
    (h : (gather f as).result = .error e) :
    ∃ (i : Nat) (a : α), as[i]? = some a ∧ (f a).result = .error e ∧
      ∀ (j : Nat) (b : α), j < i → as[j]? = some b → ∃ part, (f b).result = .ok part := by
  induction as with
  | nil => cases h
  | cons a as ih =>
      rcases andThen_result_eq_error.mp h with hfail | ⟨found, hfound, h⟩
      · exact ⟨0, a, rfl, hfail, fun j b hj => absurd hj (Nat.not_lt_zero j)⟩
      · rcases andThen_result_eq_error.mp h with hfail | ⟨more, hmore, h⟩
        · obtain ⟨i, b, hb, hfail, hbefore⟩ := ih hfail
          refine ⟨i + 1, b, hb, hfail, ?_⟩
          intro j c hj hc
          cases j with
          | zero =>
              cases hc
              exact ⟨found, hfound⟩
          | succ j => exact hbefore j c (Nat.lt_of_succ_lt_succ hj) hc
        · cases h

/-- The lists of several results, joined, or the first error among them. -/
def joined : List (Except Failure (List β)) → Except Failure (List β)
  | [] => .ok []
  | .error e :: _ => .error e
  | .ok found :: rest => (joined rest).map (found ++ ·)

/-- How several analyses end only depends on how each of them ends. -/
theorem gather_result (f : α → Logged (List β)) (as : List α) :
    (gather f as).result = joined (as.map fun a => (f a).result) := by
  induction as with
  | nil => rfl
  | cons a as ih =>
      rw [gather, andThen, List.map_cons]
      cases (f a).result with
      | error e => rfl
      | ok found =>
          rw [joined, ← ih]
          dsimp only [andThen]
          cases (gather f as).result <;> rfl

/-- A result without anything in it can be left out. -/
theorem joined_eraseIdx {results : List (Except Failure (List β))} {i : Nat}
    (h : results[i]? = some (.ok [])) : joined (results.eraseIdx i) = joined results := by
  induction results generalizing i with
  | nil => rfl
  | cons r rest ih =>
      cases i with
      | zero =>
          cases h
          rw [List.eraseIdx_cons_zero, joined]
          cases joined rest <;> rfl
      | succ i =>
          rw [List.eraseIdx_cons_succ]
          cases r with
          | error e => rfl
          | ok found => rw [joined, joined, ih (by simpa using h)]

theorem joined_map {γ : Type} (g : β → γ) (results : List (Except Failure (List β))) :
    (joined results).map (List.map g) = joined (results.map (Except.map (List.map g))) := by
  induction results with
  | nil => rfl
  | cons r rest ih =>
      cases r with
      | error e => rfl
      | ok found =>
          rw [List.map_cons]
          change ((joined rest).map (found ++ ·)).map (List.map g) =
            (joined (rest.map (Except.map (List.map g)))).map (found.map g ++ ·)
          rw [← ih]
          cases joined rest with
          | error e => rfl
          | ok more => exact congrArg Except.ok List.map_append

end LocaleCatalogue.Logged
