import LocaleCatalogue.Catalogue.Failure
import LocaleCatalogue.Catalogue.Remark

/-!
# Analyses with remarks

An analysis makes remarks and ends with a value or a failure. The remarks made before a failure are
kept.
-/

namespace LocaleCatalogue

/-- The remarks of an analysis and how it ends. -/
structure Logged (α : Type) where
  remarks : List Remark
  result : Except Failure α

namespace Logged

variable {α β : Type}

/-- An analysis that ends with a value at once. -/
def done (a : α) : Logged α := ⟨[], .ok a⟩

/-- An analysis that fails at once. -/
def fail (f : Failure) : Logged α := ⟨[], .error f⟩

/-- One remark. -/
def say (r : Remark) : Logged Unit := ⟨[r], .ok ()⟩

/-- One analysis after another. -/
def andThen (x : Logged α) (f : α → Logged β) : Logged β :=
  match x.result with
  | .ok a => ⟨x.remarks ++ (f a).remarks, (f a).result⟩
  | .error e => ⟨x.remarks, .error e⟩

instance : Monad Logged where
  pure := done
  bind := andThen

/-- An analysis without remarks. -/
def ofExcept (r : Except Failure α) : Logged α := ⟨[], r⟩

@[simp] theorem pure_eq (a : α) : (pure a : Logged α) = done a := rfl

@[simp] theorem bind_eq (x : Logged α) (f : α → Logged β) : (x >>= f) = x.andThen f := rfl

@[simp] theorem done_andThen (a : α) (f : α → Logged β) : (done a).andThen f = f a := rfl

@[simp] theorem fail_andThen (e : Failure) (f : α → Logged β) : (fail e).andThen f = fail e := rfl

/-- The lists of several analyses, one after another, joined. -/
def gather (f : α → Logged (List β)) : List α → Logged (List β)
  | [] => done []
  | a :: as => (f a).andThen fun found => (gather f as).andThen fun more => done (found ++ more)

end Logged

end LocaleCatalogue
