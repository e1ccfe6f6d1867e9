import LocaleCatalogue.Proofs.Catalogue.Inlining
import LocaleCatalogue.Proofs.Catalogue.Nesting
import LocaleCatalogue.Proofs.Script.Sequence

/-!
# Direct keys in order

A visit contributes the keys of its own properties and, in their midst, those of the files that it
spreads. The own ones are told by their source path, because no file is entered again while it is
visited. Their tokens follow each other in the text, so the spans are not empty, do not overlap and
come in the order of the text, whatever stands between them.
-/

namespace LocaleCatalogue

open Script (Tree endingAt)
open Syntax (Node Property)

/-! ## Tokens of properties -/

/-- The name and location that the property at a node gives to a key. -/
def Syntax.keyOf? (source : Bytes) (n : Node) : Option (Text × Location) :=
  (Property.ofNode n source).toOption.bind Property.key?

namespace Syntax

variable {text : List Char}

/-- The token of a property stands inside it and is not empty. -/
theorem span_of_token {t : Tree} (ht : t.Sound text) (hstop : t.stop ≤ text.length) {token : Node}
    (hwithin : token.Within (t.place (.ofChars text))) {location : Location}
    (hlocation : location = token.location (Utf8.encode text))
    (hkind : token.kind ∈ Script.nameKinds ∨ token.kind = "string") :
    endingAt text t.start ≤ location.start ∧ location.start < location.stop ∧
      location.stop ≤ endingAt text t.stop := by
  obtain ⟨u, hu, hafter, hbefore, rfl⟩ := exists_tree_of_within ht hwithin
  have hspelled := (Tree.sound_iff.mp hu).1
  rw [Script.place_kind] at hkind
  have hlt : u.start < u.stop := hkind.elim hspelled.name hspelled.lt_of_string
  have hustop := hbefore.trans hstop
  obtain ⟨hstart, hend⟩ := Script.ends_place hspelled.ordered hustop
  rw [hlocation, hstart, hend]
  exact ⟨Script.endingAt_le hafter (hlt.le.trans hustop), Script.endingAt_lt hlt hustop,
    Script.endingAt_le hbefore hstop⟩

/-- So does the token of a key inside the property that declares the key. -/
theorem span_of_keyOf? {t : Tree} (ht : t.Sound text) (hstop : t.stop ≤ text.length)
    {found : Text × Location}
    (h : keyOf? (Utf8.encode text) (t.place (.ofChars text)) = some found) :
    endingAt text t.start ≤ found.2.start ∧ found.2.start < found.2.stop ∧
      found.2.stop ≤ endingAt text t.stop := by
  obtain ⟨property, hproperty, hkey⟩ := Option.bind_eq_some_iff.mp h
  have hread : Property.ofNode (t.place (.ofChars text)) (Utf8.encode text) = .ok property := by
    cases hread : Property.ofNode (t.place (.ofChars text)) (Utf8.encode text) with
    | error fault =>
        rw [hread] at hproperty
        cases hproperty
    | ok other =>
        rw [hread] at hproperty
        cases hproperty
        rfl
  rcases Property.exists_token hread with ⟨token, hwithin, htoken⟩ | ⟨name, rfl⟩ | ⟨kind, rfl⟩
  · cases htoken with
    | identifier hkind _ =>
        cases hkey
        exact span_of_token ht hstop hwithin rfl (Or.inl hkind)
    | string hkind _ =>
        rw [Property.key?] at hkey
        split at hkey
        · cases hkey
        · cases hkey
          exact span_of_token ht hstop hwithin rfl (Or.inr hkind)
  · cases hkey
  · cases hkey

variable {object : Node}

/-- The properties of an object stand for sound trees that follow each other. -/
theorem exists_trees_of_properties (h : object.Stands text) :
    ∃ ts : List Tree, objectProperties object = ts.map (Tree.place (.ofChars text)) ∧
      (∀ t ∈ ts, t.Sound text ∧ t.stop ≤ text.length) ∧
      ts.Pairwise fun t u => t.stop ≤ u.start := by
  obtain ⟨t, hsound, hstop, rfl⟩ := h
  have hparts := (Tree.sound_iff.mp hsound).2
  refine ⟨(t.parts.filter (·.named)).filter (·.kind ≠ "comment"), ?_, ?_, ?_⟩
  · simp [objectProperties, Node.namedChildren, List.filter_map, Function.comp_def]
  · intro u hu
    obtain ⟨hu', -, hbefore⟩ := hparts.of_mem (List.mem_filter.mp (List.mem_filter.mp hu).1).1
    exact ⟨hu', hbefore.trans hstop⟩
  · exact (hparts.pairwise.filter _).filter _

/-- The keys of the properties of an object have spans that are not empty. -/
theorem span_lt_of_mem (h : object.Stands text) {found : Text × Location}
    (hfound : found ∈ (objectProperties object).filterMap (keyOf? (Utf8.encode text))) :
    found.2.start < found.2.stop := by
  obtain ⟨ts, hproperties, hsound, -⟩ := exists_trees_of_properties h
  rw [hproperties] at hfound
  obtain ⟨n, hn, hkey⟩ := List.mem_filterMap.mp hfound
  obtain ⟨t, ht, rfl⟩ := List.mem_map.mp hn
  obtain ⟨hsound, hstop⟩ := hsound t ht
  exact (span_of_keyOf? hsound hstop hkey).2.1

/-- The keys of the properties of an object have spans that follow each other. -/
theorem spans_pairwise (h : object.Stands text) :
    ((objectProperties object).filterMap (keyOf? (Utf8.encode text))).Pairwise
      fun found found' => found.2.stop ≤ found'.2.start := by
  obtain ⟨ts, hproperties, hsound, hpairwise⟩ := exists_trees_of_properties h
  rw [hproperties, List.pairwise_filterMap, List.pairwise_map]
  refine hpairwise.imp_of_mem ?_
  intro t u ht hu hbefore found hfound found' hfound'
  obtain ⟨htsound, htstop⟩ := hsound t ht
  obtain ⟨husound, hustop⟩ := hsound u hu
  calc found.2.stop
      ≤ endingAt text t.stop := (span_of_keyOf? htsound htstop hfound).2.2
    _ ≤ endingAt text u.start := Script.endingAt_le hbefore (husound.le.trans hustop)
    _ ≤ found'.2.start := (span_of_keyOf? husound hustop hfound').1

end Syntax

/-! ## The keys of a visit itself -/

variable {fs : Files} {start origin path : Text} {above : List Place} {file : fs.Found}

/-- The keys that an object declares itself, when it is extracted on the way from the file at
`origin` by the given path. -/
def Export.ownKeys (e : Export) (origin path : Text) : List Key :=
  e.nodes.filterMap fun n => (Syntax.keyOf? e.source n).map fun found =>
    ⟨found.1, found.2, origin, path⟩

/-- A key that keeps away from a place has its source elsewhere. -/
theorem sourcePath_of_keyApart {address : List Nat} {key : Key} {place : Place}
    (h : KeyApart fs origin above path address key) (hplace : place ∈ above) :
    fs.realPlace key.sourcePath ≠ .ok place := by
  obtain ⟨hwalk, -, -⟩ := h
  exact hwalk.apart _ (List.getLastD_mem_cons ..) place hplace

/-- Of what a property contributes, its own key is what has its source in the file. -/
theorem contribution_direct (henter : Enters fs above path file.place)
    (hpath : path = [] → origin = []) {e : Export} (he : fs.exported path = some e) {i : Nat}
    {property : Property} (hproperty : e.property? i = some (.ok property)) {part : List Key}
    (h : (contribution fs origin above file path e.root property).result = .ok part) :
    part.filter (·.sourcePath = path) =
      (property.key?.map fun found => (⟨found.1, found.2, origin, path⟩ : Key)).toList := by
  cases property with
  | identifier name location =>
      cases h
      have hne := name_ne_nil_of_declares ⟨e, he, hproperty⟩
      rw [if_neg (by simpa using hne), Key.declared_eq hpath]
      simp [Property.key?]
  | string value location =>
      cases h
      by_cases hempty : value = []
      · rw [if_pos (by simpa using hempty), Property.key?, if_pos hempty]
        rfl
      · rw [if_neg (by simpa using hempty), Key.declared_eq hpath, Property.key?, if_neg hempty]
        simp
  | opaqueKind kind =>
      cases h
      rfl
  | spread name? =>
      cases name? with
      | none =>
          cases h
          rfl
      | some name =>
          -- The keys of the files behind a spread keep away from the file that is visited.
          have hlisted := spread_listed henter he hproperty
            (fun target henter' hpath' keys hkeys => visit_listed henter' hpath' hkeys) h
          obtain ⟨target?, htarget, -⟩ := Logged.andThen_result_eq_ok.mp h
          refine List.filter_eq_nil_iff.mpr fun key hkey hsource => ?_
          obtain ⟨address, haddress⟩ := hlisted.mem_iff.mp hkey
          obtain ⟨target, -, hbehind⟩ :=
            (keyApart_cons_of_spread henter he hproperty htarget).mp haddress
          have hother := sourcePath_of_keyApart hbehind List.mem_cons_self
          rw [of_decide_eq_true hsource] at hother
          exact hother henter.place_eq

/-- What a visit finds with its source in the file are the keys that the object declares itself. -/
theorem visit_direct (henter : Enters fs above path file.place) (hpath : path = [] → origin = [])
    {keys : List Key} (h : (visit fs origin above file path).result = .ok (some keys)) :
    ∃ e, fs.exported path = some e ∧
      keys.filter (·.sourcePath = path) = e.ownKeys origin path := by
  obtain ⟨e, he, hkeys⟩ := (visit_result_eq_some henter.place_eq).mp h
  obtain ⟨parts, rfl, hlength, hparts⟩ := Logged.exists_parts_of_gather hkeys
  refine ⟨e, he, ?_⟩
  rw [List.filter_flatten, Export.ownKeys, List.filterMap_eq_flatMap_toList, List.flatMap]
  congr 1
  apply List.ext_getElem
  · rw [List.length_map, List.length_map, hlength]
  intro i hi hi'
  rw [List.getElem_map, List.getElem_map]
  rw [List.length_map] at hi hi'
  have hnode := List.getElem?_eq_getElem hi'
  have hpart := hparts i _ _ hnode (List.getElem?_eq_getElem hi)
  obtain ⟨property, hproperty, heq⟩ := exists_property_of_nodeContribution hnode hpart
  rw [heq] at hpart
  rw [contribution_direct henter hpath he hproperty hpart]
  rw [Export.property?_of_node hnode, Option.some.injEq] at hproperty
  rw [Syntax.keyOf?, hproperty]
  rfl

/-- The file of the last visit in progress is entered by it. -/
theorem Chain.enters {last : Visiting fs} {others : List (Visiting fs)}
    (h : Chain fs start (last :: others)) :
    Enters fs (others.map (·.file.place)) last.path last.file.place where
  place_eq := h.realPlace_eq List.mem_cons_self
  idle := (List.nodup_cons.mp h.nodup_places).1

/-- Only the path that was asked for can be empty. -/
theorem Chain.eq_nil_of_path {last : Visiting fs} {others : List (Visiting fs)}
    (h : Chain fs start (last :: others)) (hpath : last.path = []) : start = [] := by
  cases h with
  | first _ => exact hpath
  | deeper _ _ _ htarget _ =>
      exact absurd hpath (Path.toText_ne_nil (place_of_spreadTarget? htarget).1)

/-- The direct keys of a visit, which are those with the visited file as their source, are the keys
that its object declares itself. Their spans are not empty and follow each other in the order of
lines and columns, whatever stands between them. This holds of every visit that an extraction makes,
the first one as well as those behind spreads. -/
theorem direct_keys_in_order {last : Visiting fs} {others : List (Visiting fs)}
    (hchain : Chain fs start (last :: others)) {keys : List Key}
    (h : (visit fs start (others.map (·.file.place)) last.file last.path).result =
      .ok (some keys)) :
    let direct := keys.filter (·.sourcePath = last.path)
    (∃ e, fs.exported last.path = some e ∧ direct = e.ownKeys start last.path) ∧
    (∀ key ∈ direct, key.location.start < key.location.stop) ∧
    direct.Pairwise fun key later => key.location.stop ≤ later.location.start := by
  intro direct
  obtain ⟨e, he, hdirect⟩ := visit_direct hchain.enters hchain.eq_nil_of_path h
  obtain ⟨text, -, hsource, hstands⟩ := exists_text_of_exported he
  have hkeys : direct = (e.nodes.filterMap (Syntax.keyOf? (Utf8.encode text))).map
      fun found => ⟨found.1, found.2, start, last.path⟩ := by
    rw [List.map_filterMap, ← hsource]
    exact hdirect
  refine ⟨⟨e, he, hdirect⟩, ?_, ?_⟩
  · intro key hkey
    rw [hkeys] at hkey
    obtain ⟨found, hfound, rfl⟩ := List.mem_map.mp hkey
    exact Syntax.span_lt_of_mem hstands hfound
  · rw [hkeys, List.pairwise_map]
    exact Syntax.spans_pairwise hstands

/-- Wide characters, a key that goes over two lines, comments, and a spread and a method between
keys. -/
def mixture : Files where
  working := ["w"]
  entries := [
    (["w"], .directory),
    (["w", "a.ts"], .file (Utf8.encode ("import b from './b'\n".toList
      ++ "export default \x7b /* \u00FC */ '\u20AC': 1, ...b, 'o\\\nk': 2, m() \x7b\x7d, ".toList
      ++ "// c\n  \u03B1 \x7d\n".toList))),
    (["w", "b.ts"], .file (Utf8.encode "export default \x7b y \x7d\n".toList))]

theorem direct_keys_in_order_mixture :
    ∃ (first : Visiting mixture) (keys : List Key), Chain mixture "a.ts" [first] ∧
      (visit mixture "a.ts" [] first.file "a.ts").result = .ok (some keys) ∧
      keys.map Key.name = ["\u20AC", "y", "ok", "\u03B1"] ∧
      let direct := keys.filter (·.sourcePath = ("a.ts" : Text))
      direct.map Key.location = [⟨2, 25, 2, 28⟩, ⟨2, 39, 3, 2⟩, ⟨4, 2, 4, 3⟩] ∧
      direct.Pairwise fun key later => key.location.stop ≤ later.location.start := by
  have hplace : mixture.realPlace "a.ts" = .ok ["w", "a.ts"] := by decide +kernel
  have hregular : (["w", "a.ts"] : Place) ∈ mixture.regularPlaces := by decide +kernel
  obtain ⟨content, hcontent⟩ := Files.mem_regularPlaces_iff.mp hregular
  have hfound : mixture.found (Path.ofText "a.ts") = .ok ⟨["w", "a.ts"], content, hcontent⟩ :=
    Files.found_eq_ok_iff.mpr hplace
  have hextract : (extract mixture "a.ts").result = .ok (some [
      ⟨"\u20AC", ⟨2, 25, 2, 28⟩, "a.ts", "a.ts"⟩, ⟨"y", ⟨1, 17, 1, 18⟩, "a.ts", "b.ts"⟩,
      ⟨"ok", ⟨2, 39, 3, 2⟩, "a.ts", "a.ts"⟩, ⟨"\u03B1", ⟨4, 2, 4, 3⟩, "a.ts", "a.ts"⟩]) := by
    decide +kernel
  rw [extract, hfound] at hextract
  have hchain : Chain mixture "a.ts" [⟨_, "a.ts"⟩] := .first hfound
  obtain ⟨-, -, hpairwise⟩ := direct_keys_in_order hchain hextract
  exact ⟨_, _, hchain, hextract, rfl, by decide, hpairwise⟩

end LocaleCatalogue
