import LocaleCatalogue.Proofs.Script.Strokes
import LocaleCatalogue.Proofs.Syntax.Standing

/-!
# What string literals stand for

A string literal is decoded escape by escape, and the same strokes stand for the same characters
wherever the literal stands in a program. The value is what the strokes stand for, with one
exception: a line separator right behind a broken line that ends in a carriage return is taken into
the escape of the broken line, and is lost with it.
-/

namespace LocaleCatalogue.Syntax

open Script (IsLiteral Tree parseChars quotes)
open Written (KeepsSeparators Stroke heard literal)

variable {text : List Char} {n : Node} {quote : Char} {strokes : List (Stroke quote)}

/-- Every string of a program stands for a sound tree, also where the program is not accepted. -/
theorem stands_of_string {dialect : Script.Dialect} (hn : n.Within (parseChars dialect text))
    (hkind : n.kind = "string") : n.Stands text := by
  rcases Script.within_cases hn with rfl | ⟨c, hc, hbelow⟩
  · have hroot : (parseChars dialect text).kind = "program" := rfl
    rw [hroot] at hkind
    exact absurd hkind (by decide)
  · rw [parseChars, Script.programNode, Script.placeAll_eq_map] at hc
    rcases List.mem_append.mp hc with hc | hc
    · obtain ⟨t, ht, rfl⟩ := List.mem_map.mp hc
      obtain ⟨hsound, -, hstop⟩ := (Script.arranged_outlineOf dialect text).of_mem ht
      exact Node.Stands.of_within ⟨t, hsound, hstop, rfl⟩ hbelow
    · -- Behind the last statement stands at most an erroneous node, and nothing is below it.
      split at hc
      · cases hc
      · obtain rfl := List.mem_singleton.mp hc
        rcases Script.within_cases hbelow with rfl | ⟨c, hc, -⟩
        · exact absurd hkind (by simp [Script.errorNode])
        · cases hc

/-- A literal by itself is a string token, and its value is what is heard of its strokes. -/
theorem isLiteral_of_strokes (hquote : quote ∈ quotes)
    (hprecedes : strokes.IsChain Stroke.Precedes) :
    IsLiteral (literal strokes) (Text.ofChars (heard false strokes)) := by
  have hpasses : (Script.Cursor.start (literal strokes)).Passes (literal strokes)
      ⟨(literal strokes).length, []⟩ :=
    ⟨(List.append_nil _).symm, (Nat.zero_add _).symm⟩
  have hstart : (Script.Cursor.start (literal strokes)).rest =
      quote :: (strokes.flatMap Stroke.text ++ [quote]) := rfl
  obtain ⟨t, hread, hstring⟩ := Script.reads_literal hquote (Script.Cursor.start_at _)
    (Script.reads_trivia_quote hquote hstart) hprecedes hpasses
  exact ⟨t, hread, hstring.value_eq⟩

/-- The value of a string node is in its spelling. -/
theorem value_of_isLiteral (hn : n.Stands text) (hkind : n.kind = "string") {cs : List Char}
    (hspelled : n.readText = .ok (Text.ofChars cs)) {value : Text} (h : IsLiteral cs value) :
    Literal.value n = .ok value := by
  obtain ⟨t, hsound, hstop, rfl⟩ := hn
  rw [Script.place_kind] at hkind
  have hspelling : t.spelling text = cs := by
    rw [Script.readText_place] at hspelled
    exact List.map_injective_iff.mpr (fun _ _ => CodePoint.ofChar_injective)
      (Except.ok.inj hspelled)
  obtain ⟨alone, hread, hparts⟩ :=
    Script.reads_string_alone (Tree.sound_iff.mp hsound).1 hkind
  obtain ⟨other, hother, hvalue⟩ := h
  rw [hspelling] at hread
  obtain ⟨hsame, -⟩ := hread.unique hother
  cases hsame
  rw [← Script.value_alone hsound hparts, hspelling, hvalue]

/-- The value of a string literal is what is heard of its strokes, in either quotes and at any place
of any program. That is what the strokes stand for, exactly if no line separator is lost behind a
broken line. -/
theorem literal_means_strokes (hquote : quote ∈ quotes)
    (hprecedes : strokes.IsChain Stroke.Precedes) :
    IsLiteral (literal strokes) (Text.ofChars (heard false strokes)) ∧
    (∀ (dialect : Script.Dialect) (text : List Char) (node : Node),
      node.Within (parseChars dialect text) → node.kind = "string" →
      node.readText = .ok (Text.ofChars (literal strokes)) →
      Literal.value node = .ok (Text.ofChars (heard false strokes))) ∧
    (heard false strokes = strokes.flatMap Stroke.value ↔ KeepsSeparators strokes) := by
  have hliteral := isLiteral_of_strokes hquote hprecedes
  refine ⟨hliteral, fun dialect text node hwithin hkind hspelled => ?_, ?_⟩
  · exact value_of_isLiteral (stands_of_string hwithin hkind) hkind hspelled hliteral
  · exact Written.heard_eq_value_iff.trans (by simp)

example : heard false
    [(.broken ['\r'] (by decide) : Stroke '\x27'), .bare '\u2028' (by decide)] = [] := by decide

/-- A literal with strokes of every kind. -/
def sampler : List (Stroke '\x27') := [
  .bare '\u00FC' (by decide), .control 'n' '\n' (by decide), .null,
  .coded .two [('4', 4), ('a', 10)] 'J' (by decide) rfl rfl,
  .coded .four [('2', 2), ('0', 0), ('A', 10), ('c', 12)] '\u20AC' (by decide) rfl rfl,
  .coded .braced [('0', 0), ('0', 0), ('1', 1), ('F', 15), ('6', 6), ('0', 0), ('0', 0)] '😀'
    (by decide) (Nat.succ_ne_zero _) rfl,
  .itself '\x27' (by decide), .itself '?' (by decide), .bare '\u2028' (by decide),
  .broken ['\r', '\n'] (by decide), .broken ['\r'] (by decide), .bare 'z' (by decide)]

theorem literal_means_strokes_sampler :
    let text := "export default \x7b ".toList ++ literal sampler ++ ": 1 \x7d".toList
    let value := Text.ofChars "\u00FC\n\x00J\u20AC😀'?\u2028z".toList
    KeepsSeparators sampler ∧ IsLiteral (literal sampler) value ∧
      ∃ node : Node, node.Within (parseChars .typescript text) ∧ node.kind = "string" ∧
        node.readText = .ok (Text.ofChars (literal sampler)) ∧ Literal.value node = .ok value := by
  intro text value
  have hkeeps : KeepsSeparators sampler := by
    rw [KeepsSeparators]
    decide +kernel
  obtain ⟨hliteral, hnodes, hheard⟩ :=
    @literal_means_strokes '\x27' sampler (by decide) (by decide +kernel)
  have hvalue : Text.ofChars (heard false sampler) = value := by
    rw [hheard.mpr hkeeps]
    decide +kernel
  rw [hvalue] at hliteral hnodes
  obtain ⟨node, hnode, hread⟩ : ∃ node, (do
      let statement ← (parseChars .typescript text).children.head?
      let object ← statement.childByField "value"
      let property ← object.namedChildren.head?
      property.childByField "key") = some node ∧ (node.kind, node.readText) =
        ("string", .ok (Text.ofChars (literal sampler))) :=
    Option.map_eq_some_iff.mp (by decide +kernel)
  simp only [Option.bind_eq_bind, Option.bind_eq_some_iff] at hnode
  obtain ⟨statement, hstatement, object, hobject, property, hproperty, hkey⟩ := hnode
  have hwithin : node.Within (parseChars .typescript text) :=
    .child (mem_children_of_childByField hkey) <|
    .child (mem_children_of_mem_namedChildren (List.mem_of_head? hproperty)) <|
    .child (mem_children_of_childByField hobject) <|
    .child (List.mem_of_head? hstatement) .self
  obtain ⟨hkind, hspelled⟩ := Prod.ext_iff.mp hread
  exact ⟨hkeeps, hliteral, node, hwithin, hkind, hspelled,
    hnodes .typescript text node hwithin hkind hspelled⟩

end LocaleCatalogue.Syntax
