import LocaleCatalogue.Proofs.Catalogue.Listing
import LocaleCatalogue.Proofs.Catalogue.Sources
import LocaleCatalogue.Proofs.Catalogue.Visit

/-!
# Extraction inlines the spreads

The keys that come out of a file are listed by the simple walks that begin in it. Each walk
contributes the keys of its last file once, at the position of its spreads, and nothing else comes
out. A file that several walks lead to is therefore listed once for each of them, and a spread that
would close a circle adds nothing.
-/

namespace LocaleCatalogue

open Syntax (Node Property)

variable {fs : Files} {origin path : Text} {above : List Place} {file : fs.Found}

theorem Key.declared_eq {name : Text} {location : Location} (hpath : path = [] → origin = []) :
    Key.declared name location origin path = ⟨name, location, origin, path⟩ := by
  rw [Key.declared]
  cases path with
  | nil => simp [hpath rfl]
  | cons c cs => rfl

/-- A file that exports no object has no keys, neither its own nor others. -/
theorem not_keyApart_of_exported_eq_none {place : Place} (henter : Enters fs above path place)
    (hnone : fs.exported path = none) (address : List Nat) (key : Key) :
    ¬ KeyApart fs origin above path address key := by
  cases address with
  | nil => exact not_keyApart_nil
  | cons i address =>
      rw [keyApart_cons henter]
      rintro (⟨-, _, _, _, ⟨e, he, -⟩, -⟩ | ⟨_, ⟨e, _, _, he, -⟩, -⟩)
      · rw [hnone] at he
        cases he
      · rw [hnone] at he
        cases he

/-- No walk apart from a place begins there. -/
theorem not_keyApart_of_mem {place : Place} (hplace : fs.realPlace path = .ok place)
    (hbusy : place ∈ above) (address : List Nat) (key : Key) :
    ¬ KeyApart fs origin above path address key := by
  rintro ⟨hwalk, -, -⟩
  exact hwalk.apart path List.mem_cons_self place hbusy hplace

section Property

variable {e : Export} {i : Nat} {property : Property} {r : Except Syntax.Fault Property}

theorem declares_iff (he : fs.exported path = some e)
    (hproperty : e.property? i = some (.ok property))
    {other : Property} : Declares fs path i other ↔ other = property := by
  constructor
  · rintro ⟨e', he', hother⟩
    cases he.symm.trans he'
    cases hproperty.symm.trans hother
    rfl
  · rintro rfl
    exact ⟨e, he, hproperty⟩

theorem lt_of_property? (hproperty : e.property? i = some r) : i < e.nodes.length := by
  rw [Export.property?, Option.map_eq_some_iff] at hproperty
  obtain ⟨node, hnode, -⟩ := hproperty
  exact (List.getElem?_eq_some_iff.mp hnode).1

/-- An address begins with the position of a property. -/
theorem keyApart_lt (henter : Enters fs above path file.place)
    (he : fs.exported path = some e) {address : List Nat} {key : Key}
    (hkey : KeyApart fs origin above path (i :: address) key) : i < e.nodes.length := by
  rcases (keyApart_cons henter).mp hkey with
    ⟨-, _, _, _, ⟨e', he', hproperty⟩, -⟩ | ⟨_, ⟨e', _, _, he', hproperty, -⟩, -⟩
  · cases he.symm.trans he'
    exact lt_of_property? hproperty
  · cases he.symm.trans he'
    exact lt_of_property? hproperty

/-- A property that is no spread stands for its own key, if it has one, and for nothing else. -/
theorem keyApart_cons_of_not_spread (henter : Enters fs above path file.place)
    (he : fs.exported path = some e)
    (hproperty : e.property? i = some (.ok property))
    (hspread : ∀ name, property ≠ .spread (some name))
    {address : List Nat} {key : Key} :
    KeyApart fs origin above path (i :: address) key ↔
      address = [] ∧ ∃ name location, property.key? = some (name, location) ∧
        key = ⟨name, location, origin, path⟩ := by
  rw [keyApart_cons henter]
  constructor
  · rintro (⟨rfl, other, name, location, hdeclares, hkey, rfl⟩ |
      ⟨_, ⟨e', name, _, he', hother, -⟩, -⟩)
    · rw [declares_iff he hproperty] at hdeclares
      subst hdeclares
      exact ⟨rfl, name, location, hkey, rfl⟩
    · cases he.symm.trans he'
      cases hproperty.symm.trans hother
      exact absurd rfl (hspread name)
  · rintro ⟨rfl, name, location, hkey, rfl⟩
    exact Or.inl ⟨rfl, property, name, location, (declares_iff he hproperty).mpr rfl, hkey, rfl⟩

/-- A spread stands for the keys of its target, if it has one, and for nothing else. -/
theorem keyApart_cons_of_spread (henter : Enters fs above path file.place)
    (he : fs.exported path = some e) {name : Text}
    (hproperty : e.property? i = some (.ok (.spread (some name)))) {target? : Option (Target fs)}
    (htarget : (spreadTarget? fs path name e.root).result = .ok target?)
    {address : List Nat} {key : Key} :
    KeyApart fs origin above path (i :: address) key ↔
      ∃ target, target? = some target ∧
        KeyApart fs origin (file.place :: above) target.path.toText address key := by
  rw [keyApart_cons henter]
  constructor
  · rintro (⟨-, other, name, location, hdeclares, hkey, -⟩ |
      ⟨_, ⟨e', name', found, he', hother, hfound, rfl⟩, hrest⟩)
    · rw [declares_iff he hproperty] at hdeclares
      subst hdeclares
      cases hkey
    · cases he.symm.trans he'
      cases hproperty.symm.trans hother
      cases htarget.symm.trans hfound
      exact ⟨found, rfl, hrest⟩
  · rintro ⟨target, rfl, hrest⟩
    exact Or.inr ⟨_, ⟨e, name, target, he, hproperty, htarget, rfl⟩, hrest⟩

/-- A property with a key lists the key. -/
theorem listed_of_key (henter : Enters fs above path file.place)
    (he : fs.exported path = some e) (hproperty : e.property? i = some (.ok property))
    {name : Text} {location : Location} (hkey : property.key? = some (name, location)) :
    Listed (fun address key => KeyApart fs origin above path (i :: address) key)
      [⟨name, location, origin, path⟩] := by
  have hspread : ∀ name, property ≠ .spread (some name) := by
    rintro name rfl
    cases hkey
  apply (Listed.single _).congr
  intro address key
  rw [keyApart_cons_of_not_spread henter he hproperty hspread]
  simp [hkey]

/-- A property without a key lists nothing, unless it spreads a name. -/
theorem listed_of_no_key (henter : Enters fs above path file.place)
    (he : fs.exported path = some e) (hproperty : e.property? i = some (.ok property))
    (hspread : ∀ name, property ≠ .spread (some name)) (hkey : property.key? = none) :
    Listed (fun address key => KeyApart fs origin above path (i :: address) key) [] := by
  apply Listed.empty
  intro address key
  rw [keyApart_cons_of_not_spread henter he hproperty hspread]
  simp [hkey]

/-- The keys that a visit finds in the files that a file may still lead to are listed by the walks
from there. -/
def ListedBehind (fs : Files) (origin : Text) (above : List Place) (file : fs.Found) : Prop :=
  ∀ target : Target fs, Enters fs (file.place :: above) target.path.toText target.file.place →
    (target.path.toText = [] → origin = []) → ∀ keys,
      (visit fs origin (file.place :: above) target.file target.path.toText).result =
          .ok (some keys) →
        Listed (KeyApart fs origin (file.place :: above) target.path.toText) keys

/-- The keys that a spread contributes are listed by their addresses behind its position. -/
theorem spread_listed (henter : Enters fs above path file.place)
    (he : fs.exported path = some e) {name : Text}
    (hproperty : e.property? i = some (.ok (.spread (some name))))
    (ih : ListedBehind fs origin above file)
    {part : List Key}
    (h : (contribution fs origin above file path e.root (.spread (some name))).result = .ok part) :
    Listed (fun address key => KeyApart fs origin above path (i :: address) key) part := by
  obtain ⟨target?, htarget, h⟩ := Logged.andThen_result_eq_ok.mp h
  have hspread : ∀ address key, KeyApart fs origin above path (i :: address) key ↔
      ∃ target, target? = some target ∧
        KeyApart fs origin (file.place :: above) target.path.toText address key :=
    fun _ _ => keyApart_cons_of_spread henter he hproperty htarget
  cases target? with
  | none =>
      cases h
      exact .empty fun address key => by simp [hspread]
  | some target =>
      have hbehind : ∀ address key, KeyApart fs origin above path (i :: address) key ↔
          KeyApart fs origin (file.place :: above) target.path.toText address key := by
        intro address key
        rw [hspread]
        simp
      obtain ⟨hplain, htargetPlace⟩ := place_of_spreadTarget? htarget
      dsimp only at h
      by_cases hbusy : target.file.place ∈ file.place :: above
      · rw [if_pos (by simpa using hbusy)] at h
        cases h
        apply Listed.empty
        intro address key
        rw [hbehind]
        exact not_keyApart_of_mem htargetPlace hbusy address key
      · rw [if_neg (by simpa using hbusy)] at h
        obtain ⟨found, hfound, h⟩ := Logged.andThen_result_eq_ok.mp h
        cases h
        have henter' : Enters fs (file.place :: above) target.path.toText target.file.place :=
          ⟨htargetPlace, hbusy⟩
        cases found with
        | none =>
            have hnone := exported_eq_none_of_visit htargetPlace hfound
            apply Listed.empty
            intro address key
            rw [hbehind]
            exact not_keyApart_of_exported_eq_none henter' hnone address key
        | some keys =>
            have hpath' : target.path.toText = [] → origin = [] := fun hempty =>
              absurd hempty (Path.toText_ne_nil hplain)
            apply (ih target henter' hpath' keys hfound).congr
            intro address key
            exact (hbehind address key).symm

/-- The keys that a property contributes are listed by their addresses behind its position. -/
theorem contribution_listed (henter : Enters fs above path file.place)
    (hpath : path = [] → origin = []) (he : fs.exported path = some e)
    (hproperty : e.property? i = some (.ok property))
    (hnamed : ∀ name location, property = .identifier name location → name ≠ [])
    (ih : ListedBehind fs origin above file)
    {part : List Key}
    (h : (contribution fs origin above file path e.root property).result = .ok part) :
    Listed (fun address key => KeyApart fs origin above path (i :: address) key) part := by
  cases property with
  | identifier name location =>
      cases h
      have hne := hnamed name location rfl
      rw [if_neg (by simpa using hne), Key.declared_eq hpath]
      exact listed_of_key henter he hproperty rfl
  | string value location =>
      cases h
      by_cases hempty : value = []
      · subst hempty
        exact listed_of_no_key henter he hproperty (by simp) rfl
      · rw [if_neg (by simpa using hempty), Key.declared_eq hpath]
        exact listed_of_key henter he hproperty (by simp [Property.key?, hempty])
  | opaqueKind kind =>
      cases h
      exact listed_of_no_key henter he hproperty (by simp) rfl
  | spread name? =>
      cases name? with
      | none =>
          cases h
          exact listed_of_no_key henter he hproperty (by simp) rfl
      | some name => exact spread_listed henter he hproperty ih h

end Property

/-- The keys that a visit finds are listed by the walks that it can still take. -/
theorem visit_listed (henter : Enters fs above path file.place) (hpath : path = [] → origin = [])
    {keys : List Key} (h : (visit fs origin above file path).result = .ok (some keys)) :
    Listed (KeyApart fs origin above path) keys := by
  refine visit_induction (motive := fun above file path => (path = [] → origin = []) → ∀ keys,
    (visit fs origin above file path).result = .ok (some keys) →
      Listed (KeyApart fs origin above path) keys) ?_ henter hpath keys h
  intro above file path henter ih hpath keys h
  obtain ⟨e, he, hkeys⟩ := (visit_result_eq_some henter.place_eq).mp h
  obtain ⟨parts, rfl, hlength, hparts⟩ := Logged.exists_parts_of_gather hkeys
  -- Every property lists its part behind its position, so the file lists the parts one after
  -- another.
  refine Listed.of_parts (fun _ => not_keyApart_nil) (fun i part hpart => ?_)
    (fun i address key hkey => hlength ▸ keyApart_lt henter he hkey)
  have hi : i < e.nodes.length := hlength ▸ (List.getElem?_eq_some_iff.mp hpart).1
  have hnode := List.getElem?_eq_getElem hi
  have hpart := hparts i _ part hnode hpart
  obtain ⟨property, hproperty, heq⟩ := exists_property_of_nodeContribution hnode hpart
  rw [heq] at hpart
  refine contribution_listed henter hpath he hproperty ?_ ih hpart
  rintro name location rfl
  exact name_ne_nil_of_declares ⟨e, he, hproperty⟩

/-- Extraction inlines the spreads: the keys that come out are the keys at the ends of the simple
walks from the file, each once for its walk, in the order of the walks, and nothing else. -/
theorem extract_listed (fs : Files) (path : Text) {keys : List Key}
    (h : (extract fs path).result = .ok (some keys)) : Listed (KeyAt fs path) keys := by
  rcases extract_cases fs path with ⟨file, hplace, hvisit⟩ | ⟨failure, -, hfail⟩
  · rw [hvisit] at h
    exact (visit_listed ⟨hplace, List.not_mem_nil⟩ id h).congr fun _ _ => keyApart_nil_above
  · rw [hfail] at h
    cases h

/-- Files that spread each other in circles, one of them also under the name of a link. -/
def circles : Files where
  working := ["w"]
  entries := [
    (["w"], .directory),
    (["w", "a.ts"], .file (Utf8.encode ("import b from './b'\nimport c from './c'\n".toList
      ++ "export default \x7b x: 1, ...b, '': 2, ...c, [z]: 3 \x7d\n".toList))),
    (["w", "b.ts"], .file (Utf8.encode ("import d from './d'\nimport a from './a'\n".toList
      ++ "export default \x7b ...d, 'p': 1, ...a \x7d\n".toList))),
    (["w", "c.ts"], .file (Utf8.encode ("import d from './real.ts'\n".toList
      ++ "export default \x7b ...d, q \x7d\n".toList))),
    (["w", "d.ts"], .link "real.ts"),
    (["w", "real.ts"], .file (Utf8.encode ("import c from './c'\nimport d from './d'\n".toList
      ++ "export default \x7b r: 1, ...c, ...d \x7d\n".toList)))]

theorem extract_listed_circles :
    Listed (KeyAt circles "a.ts") [
      ⟨"x", ⟨3, 17, 3, 18⟩, "a.ts", "a.ts"⟩, ⟨"r", ⟨3, 17, 3, 18⟩, "a.ts", "d.ts"⟩,
      ⟨"q", ⟨2, 23, 2, 24⟩, "a.ts", "c.ts"⟩, ⟨"p", ⟨3, 23, 3, 26⟩, "a.ts", "b.ts"⟩,
      ⟨"r", ⟨3, 17, 3, 18⟩, "a.ts", "real.ts"⟩, ⟨"q", ⟨2, 23, 2, 24⟩, "a.ts", "c.ts"⟩] :=
  extract_listed circles "a.ts" (by decide +kernel)

end LocaleCatalogue
