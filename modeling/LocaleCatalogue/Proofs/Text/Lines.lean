import Mathlib.Data.List.Induction
import Mathlib.Data.Prod.Lex
import LocaleCatalogue.Proofs.Text.Pieces
import LocaleCatalogue.Syntax.Location

/-!
# Lines and stretches of them

A place in a text is given by a row and a column. Only a line feed begins a row. Cutting a text
between two places splits it into lines, drops the lines outside, and shortens the first and the
last line that remain. What is cut out between the ends of two beginnings of the text is what the
longer one has more.

Places are compared in dictionary order, first by the line and then by the column. A text that goes
on ends later: a line feed begins a new line, and any other character makes the line longer. So the
order of places is the order in which a text is read.
-/

namespace LocaleCatalogue

namespace Text

/-- The lines of a text, without the line feeds between them. -/
def lines (t : Text) : List Text := splitOn 0x0A t

/-- The line that a text ends in. -/
def lastLine (t : Text) : Text := t.lines.getLastD []

/-- How many lines end within a text. -/
def endRow (t : Text) : Nat := t.lines.dropLast.length

/-- The part of a text from one place up to another one. Rows and columns count from zero. -/
def cut (startRow startColumn stopRow stopColumn : Nat) (t : Text) : Text :=
  let before := (t.lines.take (stopRow + 1)).modify stopRow (·.take stopColumn)
  join [0x0A] ((before.drop startRow).modifyHead (·.drop startColumn))

theorem lines_ne_nil (t : Text) : t.lines ≠ [] := splitOn_ne_nil 0x0A t

theorem dropLast_lines_concat (t : Text) : t.lines.dropLast ++ [t.lastLine] = t.lines := by
  rw [lastLine, List.getLastD_eq_getLast?, List.getLast?_eq_some_getLast (lines_ne_nil t),
    Option.getD_some, List.dropLast_concat_getLast]

theorem lines_append (s t : Text) :
    (s ++ t).lines = s.lines.dropLast ++ t.lines.modifyHead (s.lastLine ++ ·) :=
  splitOn_append 0x0A s t

theorem lines_concat (t : Text) (c : CodePoint) :
    (t ++ [c]).lines =
      if c = 0x0A then t.lines ++ [[]] else t.lines.dropLast ++ [t.lastLine ++ [c]] := by
  rw [lines_append]
  by_cases hc : c = 0x0A
  · rw [if_pos hc, hc]
    change _ ++ [t.lastLine ++ [], []] = _
    rw [List.append_nil, ← List.singleton_append (x := t.lastLine), ← List.append_assoc,
      dropLast_lines_concat]
  · rw [if_neg hc]
    simp [lines, splitOn, hc]

theorem lastLine_concat (t : Text) (c : CodePoint) :
    (t ++ [c]).lastLine = if c = 0x0A then [] else t.lastLine ++ [c] := by
  rw [lastLine, lines_concat]
  split <;> simp

theorem endRow_concat (t : Text) (c : CodePoint) :
    (t ++ [c]).endRow = if c = 0x0A then t.endRow + 1 else t.endRow := by
  rw [endRow, lines_concat]
  split
  · rw [List.dropLast_concat, ← dropLast_lines_concat, List.length_append]
    rfl
  · rw [List.dropLast_concat]
    rfl

/-- The lines up to the end of a beginning of a text are those of the beginning. -/
theorem take_lines_append (s t : Text) :
    ((s ++ t).lines.take (s.endRow + 1)).modify s.endRow (·.take s.lastLine.length) = s.lines := by
  obtain ⟨first, rest, ht⟩ := List.exists_cons_of_ne_nil (lines_ne_nil t)
  rw [lines_append, ht, List.modifyHead_cons, endRow, List.take_length_add_append,
    List.take_succ_cons, List.take_zero, List.modify_eq_take_drop, List.take_left, List.drop_left,
    List.modifyHead_cons, List.take_left, dropLast_lines_concat]

/-- The lines from the end of a beginning of a text on are those of the remainder. -/
theorem drop_lines_append (s t : Text) :
    ((s ++ t).lines.drop s.endRow).modifyHead (·.drop s.lastLine.length) = t.lines := by
  obtain ⟨first, rest, ht⟩ := List.exists_cons_of_ne_nil (lines_ne_nil t)
  rw [lines_append, ht, List.modifyHead_cons, endRow, List.drop_left, List.modifyHead_cons,
    List.drop_left]

/-- What is cut out between the ends of two beginnings of a text is what lies between them. -/
theorem cut_append (before token after : Text) :
    cut before.endRow before.lastLine.length (before ++ token).endRow
        (before ++ token).lastLine.length
      (before ++ token ++ after) = token := by
  rw [cut, take_lines_append, drop_lines_append]
  exact join_splitOn 0x0A token

/-! ## The order of places -/

/-- Where a text ends. -/
def ending (t : Text) : Int ×ₗ Int := toLex ((t.endRow : Int) + 1, (t.lastLine.length : Int))

theorem ending_lt_concat (t : Text) (c : CodePoint) : t.ending < ending (t ++ [c]) := by
  rw [ending, ending, endRow_concat, lastLine_concat, Prod.Lex.toLex_lt_toLex]
  by_cases hc : c = 0x0A
  · left
    rw [if_pos hc]
    dsimp only
    omega
  · right
    rw [if_neg hc, if_neg hc, List.length_append]
    exact ⟨rfl, Int.ofNat_lt.mpr (Nat.lt_succ_self _)⟩

/-- What a text goes on with moves its end. -/
theorem ending_lt_append (t : Text) {more : Text} (hmore : more ≠ []) :
    t.ending < ending (t ++ more) := by
  induction more using List.reverseRecOn with
  | nil => exact absurd rfl hmore
  | append_singleton more c ih =>
      rw [← List.append_assoc]
      by_cases hnil : more = []
      · rw [hnil, List.append_nil]
        exact ending_lt_concat t c
      · exact (ih hnil).trans (ending_lt_concat (t ++ more) c)

end Text

/-- The part of a text that a location spans. -/
def Location.cut (l : Location) (t : Text) : Text :=
  t.cut (l.startLine - 1).toNat l.startColumn.toNat (l.stopLine - 1).toNat l.stopColumn.toNat

/-- Where a location begins. -/
def Location.start (l : Location) : Int ×ₗ Int := toLex (l.startLine, l.startColumn)

/-- Where a location ends. -/
def Location.stop (l : Location) : Int ×ₗ Int := toLex (l.stopLine, l.stopColumn)

end LocaleCatalogue
