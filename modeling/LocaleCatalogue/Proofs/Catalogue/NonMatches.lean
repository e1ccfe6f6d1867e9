import LocaleCatalogue.Proofs.Catalogue.Inlining

/-!
# What does not match

An extraction passes over what does not match: a file that exports no object, a property that yields no
key and a spread that leads to no file or back into a file in progress. Each of these stands at an
address, like the keys do: at the end of a simple walk if it is a file, and at a position behind such a
walk if it is a property. Nothing here visits anything.
-/

namespace LocaleCatalogue

open Syntax (Node Property)

/-- Why a file or one of its properties does not match. -/
inductive NonMatch.Cause where
  | noExport
  | declaration
  | notAnObject (kind : String)
  | unknownShape (kind : String)
  | unnamedSpread
  | unbound (name : Text)
  | missing (name specifier : Text)
  | reentry (name target : Text)
deriving DecidableEq

/-- Something that does not match, in the file at a path. -/
structure NonMatch where
  path : Text
  cause : NonMatch.Cause
deriving DecidableEq

variable (fs : Files)

/-- The program of the file at `path` has no object for a reason of its own: it exports nothing by
default, a declaration, or another expression. -/
inductive FileLacks (path : Text) : NonMatch.Cause → Prop
  | noExport {root : Node} {source : Bytes} :
      fs.program path = .ok (root, source) → Syntax.defaultExport? root = none →
      FileLacks path .noExport
  | declaration {root statement : Node} {source : Bytes} :
      fs.program path = .ok (root, source) → Syntax.defaultExport? root = some statement →
      Syntax.exportedExpression? statement = none → FileLacks path .declaration
  | notAnObject {root statement expression : Node} {source : Bytes} :
      fs.program path = .ok (root, source) → Syntax.defaultExport? root = some statement →
      Syntax.exportedExpression? statement = some expression → expression.unwrapped.kind ≠ "object" →
      FileLacks path (.notAnObject expression.unwrapped.kind)

/-- The file at `path` spreads a name at position `i`. -/
def SpreadsName (path : Text) (e : Export) (i : Nat) (name : Text) : Prop :=
  fs.exported path = some e ∧ e.property? i = some (.ok (.spread (some name)))

/-- The property at position `i` of the file at `path` adds nothing for a reason of its own, where
`busy` files are in progress: it has no known shape, spreads something other than a name, or spreads a
name that is not bound, that leads to no file or that leads to a busy one. -/
inductive PropertyLacks (busy : Text → Prop) (path : Text) (i : Nat) : NonMatch.Cause → Prop
  | unknownShape {kind : String} :
      Declares fs path i (.opaqueKind kind) → PropertyLacks busy path i (.unknownShape kind)
  | unnamedSpread : Declares fs path i (.spread none) → PropertyLacks busy path i .unnamedSpread
  | unbound {e : Export} {name : Text} :
      SpreadsName fs path e i name → Syntax.defaultImport? e.root name = .ok none →
      PropertyLacks busy path i (.unbound name)
  | missing {e : Export} {name specifier : Text} :
      SpreadsName fs path e i name → Syntax.defaultImport? e.root name = .ok (some specifier) →
      fs.firstRegular? (candidatePaths (specifierBase path specifier)) = .ok none →
      PropertyLacks busy path i (.missing name specifier)
  | reentry {e : Export} {name : Text} {target : Target fs} :
      SpreadsName fs path e i name → (spreadTarget? fs path name e.root).result = .ok (some target) →
      busy target.path.toText → PropertyLacks busy path i (.reentry name target.path.toText)

/-- A path leads to one of the given places or to the place of one of the given files. -/
def Busy (above : List Place) (passed : List Text) (target : Text) : Prop :=
  ∃ place, fs.realPlace target = .ok place ∧
    (place ∈ above ∨ .ok place ∈ passed.map fs.realPlace)

/-- The non-match at an address seen from the file at `path`. The walk keeps away from the given
places, and these are in progress like the files of the walk. -/
inductive NonMatchApart (above : List Place) (path : Text) : List Nat → NonMatch → Prop
  | file {spreads : List Nat} {stops : List Text} {cause : NonMatch.Cause} :
      WalkApart fs above path spreads stops → FileLacks fs (stops.getLastD path) cause →
      NonMatchApart above path spreads ⟨stops.getLastD path, cause⟩
  | property {spreads : List Nat} {stops : List Text} {i : Nat} {cause : NonMatch.Cause} :
      WalkApart fs above path spreads stops →
      PropertyLacks fs (Busy fs above (path :: stops)) (stops.getLastD path) i cause →
      NonMatchApart above path (spreads ++ [i]) ⟨stops.getLastD path, cause⟩

/-- The non-match at an address seen from the file at `origin`, when no file is in progress yet. -/
def NonMatchAt (origin : Text) : List Nat → NonMatch → Prop := NonMatchApart fs [] origin

variable {fs}
variable {path : Text} {place : Place} {above : List Place} {i : Nat} {n : NonMatch}
  {cause : NonMatch.Cause}

theorem PropertyLacks.imp {busy busy' : Text → Prop} (h : PropertyLacks fs busy path i cause)
    (hbusy : ∀ target, busy target → busy' target) : PropertyLacks fs busy' path i cause := by
  cases h with
  | unknownShape hdeclares => exact .unknownShape hdeclares
  | unnamedSpread hdeclares => exact .unnamedSpread hdeclares
  | unbound hspreads himport => exact .unbound hspreads himport
  | missing hspreads himport hfirst => exact .missing hspreads himport hfirst
  | reentry hspreads htarget h => exact .reentry hspreads htarget (hbusy _ h)

/-- On a walk that leaves a file, the file is one more that is in progress. -/
theorem busy_along (henter : Enters fs above path place) {target : Text} {rest : List Text}
    {other : Text} :
    Busy fs above (path :: target :: rest) other ↔ Busy fs (place :: above) (target :: rest) other := by
  refine exists_congr fun q => and_congr_right fun _ => ?_
  rw [List.map_cons, List.mem_cons, List.mem_cons, henter.place_eq, Except.ok.injEq]
  tauto

theorem busy_here (henter : Enters fs above path place) {other : Text} :
    Busy fs above [path] other ↔ ∃ q, fs.realPlace other = .ok q ∧ q ∈ place :: above := by
  refine exists_congr fun q => and_congr_right fun _ => ?_
  rw [List.map_singleton, List.mem_singleton, List.mem_cons, henter.place_eq, Except.ok.injEq]
  tauto

/-- A file with an object does not lack one. -/
theorem FileLacks.exported_eq_none (h : FileLacks fs path cause) : fs.exported path = none := by
  rw [Files.exported]
  cases h with
  | noExport hprogram hdefault =>
      rw [hprogram]
      simp only [exportedObject?, hdefault]
      rfl
  | declaration hprogram hdefault hexpression =>
      rw [hprogram]
      simp only [exportedObject?, hdefault, hexpression]
      rfl
  | notAnObject hprogram hdefault hexpression hkind =>
      rw [hprogram]
      simp only [exportedObject?, hdefault, hexpression, Option.map_some, if_neg hkind]
      rfl

theorem PropertyLacks.exists_exported {busy : Text → Prop} (h : PropertyLacks fs busy path i cause) :
    ∃ e r, fs.exported path = some e ∧ e.property? i = some r := by
  cases h with
  | unknownShape hdeclares | unnamedSpread hdeclares =>
      obtain ⟨e, he, hproperty⟩ := hdeclares
      exact ⟨e, _, he, hproperty⟩
  | unbound hspreads _ | missing hspreads _ _ | reentry hspreads _ _ =>
      exact ⟨_, _, hspreads.1, hspreads.2⟩

/-- Right at a file stands what the file lacks. -/
theorem nonMatchApart_nil (henter : Enters fs above path place) :
    NonMatchApart fs above path [] n ↔ n.path = path ∧ FileLacks fs path n.cause := by
  constructor
  · intro h
    generalize haddress : ([] : List Nat) = address at h
    cases h with
    | file hwalk hlacks =>
        subst haddress
        cases hwalk.walk
        exact ⟨rfl, hlacks⟩
    | property => simp at haddress
  · rintro ⟨hpath, hlacks⟩
    obtain ⟨_, cause⟩ := n
    obtain rfl := hpath
    exact .file (walkApart_here henter) hlacks

/-- Behind a position stands what the property there lacks, or what stands in the file that is spread
there. -/
theorem nonMatchApart_cons (henter : Enters fs above path place) {address : List Nat} :
    NonMatchApart fs above path (i :: address) n ↔
      (address = [] ∧ n.path = path ∧
        PropertyLacks fs (fun target => ∃ q, fs.realPlace target = .ok q ∧ q ∈ place :: above) path i
          n.cause) ∨
      ∃ target, Spreads fs path i target ∧ NonMatchApart fs (place :: above) target address n := by
  constructor
  · intro h
    generalize haddress : i :: address = full at h
    cases h with
    | @file spreads stops cause hwalk hlacks =>
        subst haddress
        obtain ⟨target, rest, rfl, hspread, hrest⟩ := (walkApart_along henter).mp hwalk
        rw [List.getLastD_cons] at hlacks ⊢
        exact Or.inr ⟨target, hspread, .file hrest hlacks⟩
    | @property spreads stops j cause hwalk hlacks =>
        cases spreads with
        | nil =>
            cases haddress
            cases hwalk.walk
            exact Or.inl ⟨rfl, rfl, hlacks.imp fun _ => (busy_here henter).mp⟩
        | cons head spreads =>
            cases haddress
            obtain ⟨target, rest, rfl, hspread, hrest⟩ := (walkApart_along henter).mp hwalk
            rw [List.getLastD_cons] at hlacks ⊢
            exact Or.inr ⟨target, hspread, .property hrest (hlacks.imp fun _ => (busy_along henter).mp)⟩
  · rintro (⟨rfl, hpath, hlacks⟩ | ⟨target, hspread, hrest⟩)
    · obtain ⟨_, cause⟩ := n
      obtain rfl := hpath
      exact .property (walkApart_here henter) (hlacks.imp fun _ => (busy_here henter).mpr)
    · cases hrest with
      | @file spreads stops cause hwalk hlacks =>
          rw [← List.getLastD_cons (a := path)] at hlacks ⊢
          exact .file ((walkApart_along henter).mpr ⟨target, stops, rfl, hspread, hwalk⟩) hlacks
      | @property spreads stops j cause hwalk hlacks =>
          rw [← List.cons_append]
          rw [← List.getLastD_cons (a := path)] at hlacks ⊢
          exact .property ((walkApart_along henter).mpr ⟨target, stops, rfl, hspread, hwalk⟩)
            (hlacks.imp fun _ => (busy_along henter).mpr)

end LocaleCatalogue
