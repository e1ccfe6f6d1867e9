import Mathlib.Data.List.Nodup
import LocaleCatalogue.Proofs.Script.Lines

/-!
# Names that programs import as the default

In a program that binds every name once, the default import of a name is the specifier of the
declaration that binds it as its default. No other binding counts, whether it is renamed, named like the
default or the whole module.
-/

namespace LocaleCatalogue.Syntax

open Script (Cursor Dialect Interleaved Piece Tree outlineOf_printed parse parseChars)
open Written (Import Line Name Specifier imported printed)

variable {dialect : Dialect} {lines : List Line}

/-- The default import of a name is the first one that binds it, and the program has no error. -/
theorem defaultImport?_of_interleaved (h : Interleaved dialect lines) (name : Text) :
    (parse dialect (Utf8.encode (printed lines))).flagged = false ∧
      defaultImport? (parse dialect (Utf8.encode (printed lines))) name =
        .ok (((imported lines).find? fun i => i.bindings.default?.map (·.value) = some name).map
          (·.specifier.value)) := by
  obtain ⟨pieces, houtline, hall⟩ := outlineOf_printed h
  have hparse : parse dialect (Utf8.encode (printed lines)) = parseChars dialect (printed lines) := by
    rw [parse, Utf8.decode_encode]
  have haccepted : (parseChars dialect (printed lines)).flagged = false := by
    rw [Script.parseChars_flagged, houtline]
    rfl
  rw [hparse]
  refine ⟨haccepted, ?_⟩
  rw [← Script.defaultImportAmong_of_yields hall, defaultImport?, Node.namedChildren,
    Script.parseChars_children haccepted, houtline, List.filter_map]
  simp [Function.comp_def]

/-- The names of the imports of a program, one after another. -/
def boundNames (lines : List Line) : List Text :=
  (imported lines).flatMap fun i => i.names.map (·.value)

/-- Only one import binds a name. -/
theorem eq_of_bound (hdistinct : (boundNames lines).Nodup) {i j : Import} (hi : i ∈ imported lines)
    (hj : j ∈ imported lines) {m n : Name} (hm : m ∈ i.names) (hn : n ∈ j.names)
    (hvalue : m.value = n.value) : i = j := by
  by_contra hne
  have hpairwise := (List.nodup_flatMap.mp hdistinct).2
  have : Std.Symm (Function.onFun List.Disjoint fun i : Import => i.names.map (·.value)) :=
    ⟨fun _ _ h _ ha hb => h hb ha⟩
  have hdisjoint := hpairwise.forall hi hj hne
  exact hdisjoint (List.mem_map_of_mem hm) (hvalue ▸ List.mem_map_of_mem hn)

/-- In a program whose imports bind every name once, with other statements between them, a name has
the specifier of the declaration that binds it as its default, and a name that is bound otherwise, or
not at all, has none. -/
theorem defaultImport?_printed (hstands : Interleaved dialect lines)
    (hdistinct : (boundNames lines).Nodup) :
    let root := parse dialect (Utf8.encode (printed lines))
    root.flagged = false ∧
      (∀ i ∈ imported lines, ∀ n ∈ i.bindings.default?,
        defaultImport? root n.value = .ok (some i.specifier.value)) ∧
      (∀ i ∈ imported lines, ∀ n ∈ i.bindings.otherNames, defaultImport? root n.value = .ok none) ∧
      ∀ name ∉ boundNames lines, defaultImport? root name = .ok none := by
  have hlookup := defaultImport?_of_interleaved hstands
  have hdefault : ∀ {i : Import} {n : Name}, n ∈ i.bindings.default? → n ∈ i.names := by
    intro i n hn
    exact List.mem_append_left _ (Option.mem_toList.mpr hn)
  refine ⟨(hlookup []).1, fun i hi n hn => ?_, fun i hi n hn => ?_, fun name hname => ?_⟩
  · have hbinds : i.bindings.default?.map (·.value) = some n.value := by rw [hn]; rfl
    rw [(hlookup n.value).2]
    cases hfind : (imported lines).find? fun i => i.bindings.default?.map (·.value) = some n.value with
    | none => exact absurd hbinds (by simpa using List.find?_eq_none.mp hfind i hi)
    | some j =>
        obtain ⟨m, hm, hvalue⟩ := Option.map_eq_some_iff.mp (by simpa using List.find?_some hfind)
        rw [eq_of_bound hdistinct hi (List.mem_of_find?_eq_some hfind) (hdefault hn) (hdefault hm)
          hvalue.symm]
        rfl
  · rw [(hlookup n.value).2, List.find?_eq_none.mpr]
    · rfl
    · intro j hj hbinds
      obtain ⟨m, hm, hvalue⟩ := Option.map_eq_some_iff.mp (by simpa using hbinds)
      obtain rfl := eq_of_bound hdistinct hj hi (hdefault hm) (List.mem_append_right _ hn) hvalue
      -- The declaration would bind the name twice.
      have htwice := (List.nodup_flatMap.mp hdistinct).1 j hj
      rw [Import.names, List.map_append, List.nodup_append] at htwice
      exact htwice.2.2 _ (List.mem_map_of_mem (Option.mem_toList.mpr hm)) _ (List.mem_map_of_mem hn) hvalue
  · rw [(hlookup name).2, List.find?_eq_none.mpr]
    · rfl
    · intro i hi hbinds
      obtain ⟨m, hm, rfl⟩ := Option.map_eq_some_iff.mp (by simpa using hbinds)
      exact hname (List.mem_flatMap.mpr ⟨i, hi, List.mem_map_of_mem (hdefault hm)⟩)

/-! ## A program with imports of several kinds -/

/-- Names for the bindings of the program. -/
def sharedName : Name := ⟨⟨"shared", by decide, by decide⟩, by decide⟩

def labelName : Name := ⟨⟨"label", by decide, by decide⟩, by decide⟩

def kindName : Name := ⟨⟨"Kind", by decide, by decide⟩, by decide⟩

def toolsName : Name := ⟨⟨"tools", by decide, by decide⟩, by decide⟩

/-- The specifier `./é`, its last letter written as an escape. -/
def escapedSpecifier : Specifier where
  quote := '\x27'
  signs := [.stroke (.bare '.' rfl), .stroke (.bare '/' rfl),
    .stroke (.coded .two [('e', 14), ('9', 9)] 'é' (by decide) rfl rfl)]
  quoted := by decide
  precedes := .cons_cons trivial (.cons_cons trivial (.singleton _))
  keeps := .cons_cons nofun (.cons_cons nofun (.singleton _))

/-- The specifier `k`, as it is. -/
def bareSpecifier : Specifier where
  quote := '\x22'
  signs := [.stroke (.bare 'k' rfl)]
  quoted := by decide
  precedes := .singleton _
  keeps := .singleton _

/-- A default binding beside a renamed default, a default for types and a whole module, with other
statements between them. -/
def mixedLines : List Line := [
  .imports ⟨.some false (.both sharedName (.braces [.renamed ⟨"default", by decide, by decide⟩ labelName])),
    escapedSpecifier, false⟩,
  .other "const x = 1".toList,
  .imports ⟨.some true (.alone kindName), bareSpecifier, true⟩,
  .other "export \x7b x as y \x7d;".toList,
  .imports ⟨.some false (.beside (.whole toolsName)), bareSpecifier, false⟩]

/-- What a parser reads can be found out by running it. -/
theorem exists_reads_of_run {p : Script.Parser Piece} {c d : Cursor}
    (h : (p c).any (fun s => decide (s.next = d ∧
      ∀ t ∈ s.value.comments ++ [s.value.tree], t.ImportsNothing)) = true) :
    ∃ piece, p.Reads c piece d ∧ ∀ t ∈ piece.comments ++ [piece.tree], t.ImportsNothing := by
  obtain ⟨s, hs, hd⟩ := (Option.any_eq_true _ _).mp h
  obtain ⟨rfl, hnothing⟩ := of_decide_eq_true hd
  exact ⟨s.value, Script.Parser.reads_of_eq_some hs, hnothing⟩

theorem interleaved_mixedLines : Interleaved .typescript mixedLines := by
  refine ⟨fun before cs after hsplit => ?_, fun before i cs after hsplit hclosed => ?_⟩
  -- The other statements are the second and the fourth line.
  · rcases before with _ | ⟨_, _ | ⟨_, _ | ⟨_, _ | ⟨_, _ | ⟨_, _⟩⟩⟩⟩⟩
    · cases hsplit
    · cases hsplit
      exact ⟨by decide, exists_reads_of_run (by decide +kernel)⟩
    · cases hsplit
    · cases hsplit
      exact ⟨by decide, exists_reads_of_run (by decide +kernel)⟩
    · cases hsplit
    · simp [mixedLines] at hsplit
  -- Only the first import has no semicolon and another statement behind it.
  · rcases before with _ | ⟨_, _ | ⟨_, _ | ⟨_, _ | ⟨_, _ | ⟨_, _⟩⟩⟩⟩⟩
    · cases hsplit
      exact ⟨by decide +kernel, Script.reads_pieces_nil (Option.isNone_iff_eq_none.mp (by decide +kernel))⟩
    · cases hsplit
    · cases hsplit
      cases hclosed
    · cases hsplit
    · cases hsplit
    · simp [mixedLines] at hsplit

theorem defaultImport?_printed_mixedLines :
    let root := parse .typescript (Utf8.encode (printed mixedLines))
    root.flagged = false ∧
      defaultImport? root (Text.ofString "shared") = .ok (some (Text.ofString "./é")) ∧
      defaultImport? root (Text.ofString "Kind") = .ok (some (Text.ofString "k")) ∧
      defaultImport? root (Text.ofString "label") = .ok none ∧
      defaultImport? root (Text.ofString "tools") = .ok none ∧
      defaultImport? root (Text.ofString "default") = .ok none := by
  obtain ⟨haccepted, hdefault, hother, hunbound⟩ :=
    defaultImport?_printed interleaved_mixedLines (by decide +kernel)
  refine ⟨haccepted, hdefault _ List.mem_cons_self sharedName rfl,
    hdefault _ (List.mem_cons_of_mem _ List.mem_cons_self) kindName rfl,
    hother _ List.mem_cons_self labelName List.mem_cons_self,
    hother _ (List.mem_cons_of_mem _ (List.mem_cons_of_mem _ List.mem_cons_self)) toolsName
      List.mem_cons_self, hunbound _ (by decide +kernel)⟩

end LocaleCatalogue.Syntax
