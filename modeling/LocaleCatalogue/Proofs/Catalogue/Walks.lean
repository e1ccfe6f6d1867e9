import LocaleCatalogue.Catalogue.Extraction

/-!
# Walks along spreads

A file that exports an object declares the properties of the object, and a spread among them may
lead to another file. A walk goes from file to file along spreads. It is written down as the
positions of the spreads among the properties of their objects, so the order of walks is the
dictionary order of these lists. A simple walk never meets the same real file twice, by whatever
path it is reached.

Nothing here visits anything: files are known by the paths that lead to them.
-/

namespace LocaleCatalogue

namespace Files

variable (fs : Files)

/-- The place that the file at a path really stands at. -/
def realPlace (path : Text) : Except Fault Place := fs.locate (Path.ofText path)

/-- The syntax tree of the file at a path with the octets that its places count, or why there is
none. -/
def program (path : Text) : Except Failure (Syntax.Node × Bytes) :=
  match fs.found (Path.ofText path) with
  | .ok file => readTree path file
  | .error (.obstacle cause) => .error (.access path (.obstacle (Path.ofText path) cause))
  | .error fault => .error (.lookup (Path.ofText path) fault)

end Files

/-- The object that a file exports by default, inside the program of the file. -/
structure Export where
  root : Syntax.Node
  source : Bytes
  object : Syntax.Node

namespace Export

/-- The nodes of the properties, in order. -/
def nodes (e : Export) : List Syntax.Node := Syntax.objectProperties e.object

/-- The property at a position, if there is one. -/
def property? (e : Export) (i : Nat) : Option (Except Syntax.Fault Syntax.Property) :=
  e.nodes[i]?.map fun node => Syntax.Property.ofNode node e.source

end Export

/-- The object that the file at a path exports by default, if it does. -/
def Files.exported (fs : Files) (path : Text) : Option Export :=
  match fs.program path with
  | .error _ => none
  | .ok (root, source) =>
    match (exportedObject? path root).result with
    | .ok (some object) => some ⟨root, source, object⟩
    | _ => none

variable (fs : Files)

/-- The file at `path` declares `property` at position `i`. -/
def Declares (path : Text) (i : Nat) (property : Syntax.Property) : Prop :=
  ∃ e, fs.exported path = some e ∧ e.property? i = some (.ok property)

/-- The file at `path` spreads a name at position `i` that stands for the file at `target`. -/
def Spreads (path : Text) (i : Nat) (target : Text) : Prop :=
  ∃ e name found, fs.exported path = some e ∧ e.property? i = some (.ok (.spread (some name))) ∧
    (spreadTarget? fs path name e.root).result = .ok (some found) ∧ found.path.toText = target

/-- A walk from the file at a path along the spreads at the given positions. The last argument lists
the paths of the files that it comes to. -/
inductive Walk : Text → List Nat → List Text → Prop
  | here {path : Text} : Walk path [] []
  | along {path target : Text} {i : Nat} {spreads : List Nat} {stops : List Text} :
      Spreads fs path i target → Walk target spreads stops →
      Walk path (i :: spreads) (target :: stops)

/-- A walk on which all files are really different. -/
structure SimpleWalk (path : Text) (spreads : List Nat) (stops : List Text) : Prop where
  walk : Walk fs path spreads stops
  distinct : ((path :: stops).map fs.realPlace).Nodup

/-- The name and location that a property gives to a key. A property under an empty string gives
none. -/
def Syntax.Property.key? : Syntax.Property → Option (Text × Location)
  | .identifier name location => some (name, location)
  | .string value location => if value = [] then none else some (value, location)
  | .spread _ => none
  | .opaqueKind _ => none

/-- The key that stands at an address seen from the file at `origin`: the address is a simple walk,
given by the positions of its spreads, and the position of the key's property in the last file of
the walk. -/
inductive KeyAt (origin : Text) : List Nat → Key → Prop
  | mk {spreads : List Nat} {stops : List Text} {i : Nat} {property : Syntax.Property} {name : Text}
      {location : Location} :
      SimpleWalk fs origin spreads stops →
      Declares fs (stops.getLastD origin) i property →
      property.key? = some (name, location) →
      KeyAt origin (spreads ++ [i]) ⟨name, location, origin, stops.getLastD origin⟩

/-! ## Walks apart from files in progress

What a walk can still do depends on the files that it has already met. So walks and keys are also
taken relative to places that they keep away from; the first step of a walk adds a place to them.
-/

/-- A simple walk that keeps away from the given places. -/
structure WalkApart (above : List Place) (path : Text) (spreads : List Nat)
    (stops : List Text) : Prop
    extends SimpleWalk fs path spreads stops where
  apart : ∀ stop ∈ path :: stops, ∀ place ∈ above, fs.realPlace stop ≠ .ok place

/-- A key at an address seen from the file at `path`, which is reached on the way from `origin`. The
walk keeps away from the given places. -/
inductive KeyApart (origin : Text) (above : List Place) (path : Text) : List Nat → Key → Prop
  | mk {spreads : List Nat} {stops : List Text} {i : Nat} {property : Syntax.Property} {name : Text}
      {location : Location} :
      WalkApart fs above path spreads stops →
      Declares fs (stops.getLastD path) i property →
      property.key? = some (name, location) →
      KeyApart origin above path (spreads ++ [i]) ⟨name, location, origin, stops.getLastD path⟩

/-- A file may be entered apart from the given places: the path leads to its place, which is none of
them. -/
structure Enters (above : List Place) (path : Text) (place : Place) : Prop where
  place_eq : fs.realPlace path = .ok place
  idle : place ∉ above

variable {fs}
variable {origin path : Text} {place : Place} {above : List Place} {i : Nat}

theorem walkApart_nil_above {spreads : List Nat} {stops : List Text} :
    WalkApart fs [] path spreads stops ↔ SimpleWalk fs path spreads stops :=
  ⟨fun h => h.toSimpleWalk, fun h => ⟨h, by simp⟩⟩

theorem keyApart_nil_above {address : List Nat} {key : Key} :
    KeyApart fs origin [] origin address key ↔ KeyAt fs origin address key := by
  constructor
  · rintro ⟨hwalk, hdeclares, hkey⟩
    exact .mk hwalk.toSimpleWalk hdeclares hkey
  · rintro ⟨hwalk, hdeclares, hkey⟩
    exact .mk (walkApart_nil_above.mpr hwalk) hdeclares hkey

/-- The walk that stays where it is. -/
theorem walkApart_here (henter : Enters fs above path place) :
    WalkApart fs above path [] [] where
  walk := .here
  distinct := by simp
  apart := by
    intro stop hstop other hother
    rw [List.mem_singleton.mp hstop, henter.place_eq]
    rintro ⟨⟩
    exact henter.idle hother

/-- A walk that goes on is a spread and a walk that also keeps away from the file that it leaves. -/
theorem walkApart_along (henter : Enters fs above path place)
    {spreads : List Nat} {stops : List Text} :
    WalkApart fs above path (i :: spreads) stops ↔
      ∃ target rest, stops = target :: rest ∧ Spreads fs path i target ∧
        WalkApart fs (place :: above) target spreads rest := by
  constructor
  · rintro ⟨⟨hwalk, hdistinct⟩, hapart⟩
    cases hwalk with
    | along hspread hrest =>
        rename_i target rest
        -- That the other stops differ from the first file is what the walk behind it keeps away
        -- from.
        rw [List.map_cons, List.nodup_cons] at hdistinct
        refine ⟨target, rest, rfl, hspread, ⟨hrest, hdistinct.2⟩, ?_⟩
        intro stop hstop other hother
        rcases List.mem_cons.mp hother with rfl | hother
        · intro heq
          exact hdistinct.1 (henter.place_eq ▸ heq ▸ List.mem_map_of_mem hstop)
        · exact hapart stop (List.mem_cons_of_mem path hstop) other hother
  · rintro ⟨target, rest, rfl, hspread, ⟨hrest, hdistinct⟩, hapart⟩
    refine ⟨⟨.along hspread hrest, ?_⟩, ?_⟩
    · rw [List.map_cons, List.nodup_cons]
      refine ⟨?_, hdistinct⟩
      rw [henter.place_eq]
      intro hmem
      obtain ⟨stop, hstop, heq⟩ := List.mem_map.mp hmem
      exact hapart stop hstop place List.mem_cons_self heq
    · intro stop hstop other hother
      rcases List.mem_cons.mp hstop with rfl | hstop
      · rw [henter.place_eq]
        rintro ⟨⟩
        exact henter.idle hother
      · exact hapart stop hstop other (List.mem_cons_of_mem place hother)

theorem not_keyApart_nil {key : Key} : ¬ KeyApart fs origin above path [] key := by
  generalize haddress : ([] : List Nat) = address
  rintro ⟨⟩
  simp at haddress

/-- A key at an address that begins with a position is declared there, or it is a key of the file
that is spread there. -/
theorem keyApart_cons (henter : Enters fs above path place)
    {address : List Nat} {key : Key} :
    KeyApart fs origin above path (i :: address) key ↔
      (address = [] ∧ ∃ property name location, Declares fs path i property ∧
        property.key? = some (name, location) ∧ key = ⟨name, location, origin, path⟩) ∨
      ∃ target, Spreads fs path i target ∧
        KeyApart fs origin (place :: above) target address key := by
  constructor
  · intro h
    generalize haddress : i :: address = full at h
    obtain @⟨spreads, stops, j, property, name, location, hwalk, hdeclares, hkey⟩ := h
    cases spreads with
    | nil =>
        cases haddress
        cases hwalk.walk
        exact Or.inl ⟨rfl, property, name, location, hdeclares, hkey, rfl⟩
    | cons head spreads =>
        cases haddress
        obtain ⟨target, rest, rfl, hspread, hrest⟩ := (walkApart_along henter).mp hwalk
        rw [List.getLastD_cons] at hdeclares ⊢
        exact Or.inr ⟨target, hspread, .mk hrest hdeclares hkey⟩
  · rintro (⟨rfl, property, name, location, hdeclares, hkey, rfl⟩ | ⟨target, hspread, hrest⟩)
    · exact .mk (walkApart_here henter) hdeclares hkey
    · obtain @⟨spreads, stops, j, property, name, location, hwalk, hdeclares, hkey⟩ := hrest
      rw [← List.cons_append, ← List.getLastD_cons (a := path)]
      rw [← List.getLastD_cons (a := path)] at hdeclares
      exact .mk ((walkApart_along henter).mpr ⟨target, stops, rfl, hspread, hwalk⟩) hdeclares hkey

end LocaleCatalogue
