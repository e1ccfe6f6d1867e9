import Mathlib.Data.List.Induction
import LocaleCatalogue.Proofs.Syntax.Placed
import LocaleCatalogue.Proofs.Text.Lines
import LocaleCatalogue.Proofs.Text.Utf8
import LocaleCatalogue.Syntax.Literal

/-!
# Where trees stand in their source

The marks of a source count octets, because the octets are what a tree is placed in; locations count
characters. Both begin to count anew after every line feed. So the column of a location is the
length of the line that the source ends in when it is cut off at the mark, and cutting a source at
the location of a tree gives the characters of the tree.
-/

namespace LocaleCatalogue.Script

open Syntax (Node)

/-- The place after characters that begin at `m`. -/
def Mark.past (m : Mark) (cs : List Char) : Mark := cs.foldl Mark.after m

theorem Mark.past_concat (m : Mark) (cs : List Char) (c : Char) :
    m.past (cs ++ [c]) = (m.past cs).after c := by
  rw [Mark.past, List.foldl_append]
  rfl

theorem Mark.along_getElem? (m : Mark) (cs : List Char) {i : Nat} (hi : i ≤ cs.length) :
    (m.along cs)[i]? = some (m.past (cs.take i)) := by
  induction cs generalizing m i with
  | nil =>
      obtain rfl := Nat.le_zero.mp hi
      rfl
  | cons c cs ih =>
      cases i with
      | zero => rfl
      | succ i =>
          rw [Mark.along, List.getElem?_cons_succ, ih (m.after c) (Nat.le_of_succ_le_succ hi)]
          rfl

theorem Source.mark_ofChars {text : List Char} {i : Nat} (hi : i ≤ text.length) :
    (Source.ofChars text).mark i = Mark.first.past (text.take i) := by
  rw [Source.mark, Source.ofChars, Array.getD_eq_getD_getElem?, List.getElem?_toArray,
    Mark.along_getElem? _ _ hi, Option.getD_some]

theorem Source.stretch_ofChars (text : List Char) (start stop : Nat) :
    (Source.ofChars text).stretch start stop =
      Utf8.encode ((text.drop start).take (stop - start)) := by
  rw [Source.stretch, Source.ofChars, List.extract_toArray, List.toList_toArray,
    List.extract_eq_take_drop]

theorem CodePoint.ofChar_eq_lineFeed {c : Char} : CodePoint.ofChar c = 0x0A ↔ c = '\n' :=
  ⟨fun h => CodePoint.ofChar_injective (b := '\n') h, fun h => h ▸ rfl⟩

theorem Mark.first_past_byte (cs : List Char) :
    (Mark.first.past cs).byte = (Utf8.encode cs).length := by
  induction cs using List.reverseRecOn with
  | nil => rfl
  | append_singleton cs c ih =>
      rw [Mark.past_concat, Mark.after, ih, Utf8.encode_append, List.length_append,
        Utf8.encode_cons, Utf8.encode_nil, List.append_nil]
      rfl

theorem Mark.first_past_row (cs : List Char) :
    (Mark.first.past cs).point.row = (Text.ofChars cs).endRow := by
  induction cs using List.reverseRecOn with
  | nil => rfl
  | append_singleton cs c ih =>
      have hsnoc : Text.ofChars (cs ++ [c]) = Text.ofChars cs ++ [CodePoint.ofChar c] :=
        Text.ofChars_append cs [c]
      rw [Mark.past_concat, Mark.after, hsnoc, Text.endRow_concat]
      by_cases hc : c = '\n'
      · rw [if_pos hc, if_pos (CodePoint.ofChar_eq_lineFeed.mpr hc), ← ih]
      · rw [if_neg hc, if_neg (mt CodePoint.ofChar_eq_lineFeed.mp hc), ← ih]

/-- The column of a mark counts the octets of the line before it. -/
theorem Mark.first_past_column (cs : List Char) :
    ∃ before line, cs = before ++ line ∧ (Text.ofChars cs).lastLine = Text.ofChars line ∧
      (Mark.first.past cs).point.column = (Utf8.encode line).length := by
  induction cs using List.reverseRecOn with
  | nil => exact ⟨[], [], rfl, rfl, rfl⟩
  | append_singleton cs c ih =>
      obtain ⟨before, line, hcs, hline, hcolumn⟩ := ih
      have hsnoc : Text.ofChars (cs ++ [c]) = Text.ofChars cs ++ [CodePoint.ofChar c] :=
        Text.ofChars_append cs [c]
      rw [Mark.past_concat, Mark.after, hsnoc, Text.lastLine_concat]
      by_cases hc : c = '\n'
      · rw [if_pos hc, if_pos (CodePoint.ofChar_eq_lineFeed.mpr hc)]
        exact ⟨cs ++ [c], [], (List.append_nil _).symm, rfl, rfl⟩
      · rw [if_neg hc, if_neg (mt CodePoint.ofChar_eq_lineFeed.mp hc)]
        refine ⟨before, line ++ [c], ?_, ?_, ?_⟩
        · rw [hcs, List.append_assoc]
        · rw [hline, Text.ofChars_append]
          rfl
        · rw [Utf8.encode_append, List.length_append, Utf8.encode_cons, Utf8.encode_nil,
            List.append_nil, hcolumn]
          rfl

theorem slice_natCast (octets : Bytes) (start stop : Nat) (hstop : stop ≤ octets.length)
    (hstart : start ≤ stop) : octets.slice start stop = (octets.take stop).drop start := by
  have hnonneg : ∀ k : Nat, ¬ (k : Int) < 0 := fun k => Int.not_lt.mpr (Int.natCast_nonneg k)
  simp only [Bytes.slice, hnonneg, if_false, Int.toNat_natCast]
  rw [Nat.min_eq_right hstop, Nat.min_eq_right (Nat.le_trans hstart hstop)]

/-- Octets from the beginning of a line on, given as a distance back from a place. -/
theorem slice_back (before line after : Bytes) :
    Bytes.slice (before ++ line ++ after) (((before ++ line).length : Int) - (line.length : Int))
      (before ++ line).length = line := by
  have hstart : ((before ++ line).length : Int) - (line.length : Int) = before.length := by
    rw [List.length_append]
    omega
  rw [hstart, slice_natCast _ _ _ (by simp) (by simp), List.take_left, List.drop_left]

/-- The column of a location is the length of the line that the source ends in at the mark. -/
theorem charColumn_mark {text : List Char} {i : Nat} (hi : i ≤ text.length) :
    charColumn (Utf8.encode text) ((Source.ofChars text).mark i).byte
      ((Source.ofChars text).mark i).point.column =
        (Text.ofChars (text.take i)).lastLine.length := by
  -- Going back by the octets of the column leads to the beginning of the line.
  obtain ⟨before, line, htake, hline, hcolumn⟩ := Mark.first_past_column (text.take i)
  have hsplit : Utf8.encode text =
      Utf8.encode before ++ Utf8.encode line ++ Utf8.encode (text.drop i) := by
    rw [← Utf8.encode_append, ← Utf8.encode_append, ← htake, List.take_append_drop]
  rw [Source.mark_ofChars hi, Mark.first_past_byte, hcolumn, hline, htake, Utf8.encode_append,
    charColumn, hsplit, slice_back, Utf8.decodeLossy_encode, Text.ofChars, List.length_map]

/-- The row of a mark is the number of lines that end before it. -/
theorem row_mark {text : List Char} {i : Nat} (hi : i ≤ text.length) :
    ((Source.ofChars text).mark i).point.row = (Text.ofChars (text.take i)).endRow := by
  rw [Source.mark_ofChars hi, Mark.first_past_row]

/-- The characters of a tree. -/
def Tree.spelling (text : List Char) (t : Tree) : List Char :=
  (text.drop t.start).take (t.stop - t.start)

theorem Tree.length_spelling {text : List Char} {t : Tree} (hstop : t.stop ≤ text.length) :
    (t.spelling text).length = t.stop - t.start := by
  rw [Tree.spelling, List.length_take, List.length_drop]
  omega

theorem Tree.split_spelling {text : List Char} {t : Tree} (hordered : t.start ≤ t.stop) :
    text.take t.stop = text.take t.start ++ t.spelling text := by
  rw [Tree.spelling, ← List.take_add, Nat.add_sub_cancel' hordered]

/-- The text of a node is what its tree spells. -/
theorem readText_place (text : List Char) (t : Tree) :
    (t.place (.ofChars text)).readText = .ok (Text.ofChars (t.spelling text)) := by
  rw [Node.readText, Node.decodedText, place_text, Source.stretch_ofChars]
  dsimp only
  rw [Utf8.decode_encode]
  rfl

/-- A node stands from the end of what is before its tree to the end of its tree. -/
theorem location_place {text : List Char} {t : Tree} (hordered : t.start ≤ t.stop)
    (hstop : t.stop ≤ text.length) :
    (t.place (.ofChars text)).location (Utf8.encode text) =
      ⟨(Text.ofChars (text.take t.start)).endRow + 1,
        (Text.ofChars (text.take t.start)).lastLine.length,
        (Text.ofChars (text.take t.stop)).endRow + 1,
        (Text.ofChars (text.take t.stop)).lastLine.length⟩ := by
  have hstart := Nat.le_trans hordered hstop
  rw [Node.location]
  simp only [place_start, place_stop, place_startByte, place_stopByte, charColumn_mark hstart,
    charColumn_mark hstop, row_mark hstart, row_mark hstop]

/-- Cutting a source at the location of a node gives what its tree spells. -/
theorem cut_location_place {text : List Char} {t : Tree} (hordered : t.start ≤ t.stop)
    (hstop : t.stop ≤ text.length) :
    ((t.place (.ofChars text)).location (Utf8.encode text)).cut (Text.ofChars text) =
      Text.ofChars (t.spelling text) := by
  have hsplit : Text.ofChars text =
      Text.ofChars (text.take t.start) ++ Text.ofChars (t.spelling text) ++
        Text.ofChars (text.drop t.stop) := by
    rw [← Text.ofChars_append, ← Text.ofChars_append, ← Tree.split_spelling hordered,
      List.take_append_drop]
  have hbefore : Text.ofChars (text.take t.stop) =
      Text.ofChars (text.take t.start) ++ Text.ofChars (t.spelling text) := by
    rw [← Text.ofChars_append, ← Tree.split_spelling hordered]
  rw [location_place hordered hstop, Location.cut]
  simp only [Int.add_sub_cancel, Int.toNat_natCast]
  rw [hbefore, hsplit]
  exact Text.cut_append _ _ _

end LocaleCatalogue.Script
