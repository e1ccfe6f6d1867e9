import LocaleCatalogue.Proofs.Catalogue.Visit
import LocaleCatalogue.Proofs.Files.Shapes

/-!
# Spreads that are followed alike

What a spread contributes is decided by the target that is found for it and by the visit to that
target. So in two file systems a spread is passed over in both or in none, and contributes alike, if
the targets stand at the same place and the visits to them are alike. In file systems of one shape
the targets do, because a spread is followed by looking at names, and not at what files hold.
-/

namespace LocaleCatalogue

open Syntax (Node)

variable {fs fs' : Files} {origin path name : Text} {root root' : Node} {K : Key → Key → Prop}

theorem spread_alike_of_targets
    (htargets : Logged.Alike (Option.Rel Files.SameTarget) (spreadTarget? fs path name root)
      (spreadTarget? fs' path name root'))
    {enter : List Place → fs.Found → Text → Logged (Option (List Key))}
    {enter' : List Place → fs'.Found → Text → Logged (Option (List Key))}
    {above : List Place} {file : fs.Found} {file' : fs'.Found} (hplace : Files.SamePlace file file')
    (henter : ∀ (target : Target fs) (target' : Target fs'), Files.SameTarget target target' →
      Enters fs (file.place :: above) target.path.toText target.file.place →
      fs'.realPlace target.path.toText = .ok target'.file.place →
      (spreadTarget? fs path name root).result = .ok (some target) →
      Logged.Alike (Option.Rel (List.Forall₂ K)) (enter (file.place :: above) target.file target.path.toText)
        (enter' (file.place :: above) target'.file target.path.toText)) :
    Logged.Alike (List.Forall₂ K) (contributionBy enter origin above file path root (.spread (some name)))
      (contributionBy enter' origin above file' path root' (.spread (some name))) := by
  refine .andThen htargets.ended ?_
  rintro target? target?' ⟨htarget, hended, hended'⟩
  cases htarget with
  | none => exact .done .nil
  | @some target target' htarget =>
      have hbusy : (file'.place :: above).contains target'.file.place =
          (file.place :: above).contains target.file.place := by
        rw [hplace, htarget.2]
      dsimp only
      rw [hbusy, hplace, htarget.1]
      split
      · exact .said (.done .nil)
      · next hidle =>
          have hvisit : Enters fs (file.place :: above) target.path.toText target.file.place :=
            ⟨(place_of_spreadTarget? hended).2, by simpa using hidle⟩
          have hvisit' := (place_of_spreadTarget? hended').2
          rw [htarget.1] at hvisit'
          refine .andThen (henter target target' htarget hvisit hvisit' hended) ?_
          rintro found found' (hkeys | _)
          · exact .done hkeys
          · exact .done .nil

theorem spread_alike (hshape : fs.SameShape fs')
    (himport : Syntax.defaultImport? root' name = Syntax.defaultImport? root name)
    {enter : List Place → fs.Found → Text → Logged (Option (List Key))}
    {enter' : List Place → fs'.Found → Text → Logged (Option (List Key))}
    {above : List Place} {file : fs.Found} {file' : fs'.Found} (hplace : Files.SamePlace file file')
    (henter : ∀ (target : Target fs) (target' : Target fs'), Files.SameTarget target target' →
      Enters fs (file.place :: above) target.path.toText target.file.place →
      Logged.Alike (Option.Rel (List.Forall₂ K)) (enter (file.place :: above) target.file target.path.toText)
        (enter' (file.place :: above) target'.file target.path.toText)) :
    Logged.Alike (List.Forall₂ K) (contributionBy enter origin above file path root (.spread (some name)))
      (contributionBy enter' origin above file' path root' (.spread (some name))) :=
  spread_alike_of_targets (hshape.spreadTarget? himport) hplace
    fun target target' htarget henters _ _ => henter target target' htarget henters

end LocaleCatalogue
