import LocaleCatalogue.Report.Markup
import LocaleCatalogue.Report.Width

/-!
# Breaking lines

A line that is wider than the room for it is broken between words, and blanks at the end of a line
take no room. A word that is wider than a whole line is either broken where the line ends or cut off
there. Tabs reach to the next multiple of eight cells.
-/

namespace LocaleCatalogue

/-- What happens to words that are wider than a line. -/
inductive Overflow where
  | fold
  | ellipsis
deriving DecidableEq, Repr

namespace Wrap

/-- The cells between tab stops. -/
def tabStop : Nat := 8

/-- The sign for what is cut off. -/
def ellipsis : CodePoint := 0x2026

/-- A line with spaces in the place of tabs; `column` cells stand before it. -/
def expandTabsFrom : (column : Nat) → (before : Text) → Text → Text
  | _, before, [] => before.reverse
  | column, before, c :: rest =>
    if c = 0x09 then
      let here := column + Width.ofText before.reverse
      let filled := List.replicate (tabStop - here % tabStop) 0x20
      before.reverse ++ filled ++ expandTabsFrom (here + filled.length) [] rest
    else expandTabsFrom column (c :: before) rest

/-- A line with spaces in the place of tabs. -/
def expandTabs (line : Text) : Text := expandTabsFrom 0 [] line

/-- The words of a line, each with the white space after it; the first one also has the white space
before it. White space alone is no word. -/
def wordsFrom : (fuel : Nat) → Text → List Text
  | 0, _ => []
  | fuel + 1, line =>
    let lead := line.takeWhile Markup.isSpace
    let rest := line.drop lead.length
    let body := rest.takeWhile fun c => !Markup.isSpace c
    let tail := (rest.drop body.length).takeWhile Markup.isSpace
    if body.isEmpty then []
    else (lead ++ body ++ tail) :: wordsFrom fuel (rest.drop (body.length + tail.length))

/-- The words of a line. -/
def words (line : Text) : List Text := wordsFrom (line.length + 1) line

/-- A word cut into pieces that fit into a line. -/
def chop (room : Nat) : (piece : Text) → (cells : Nat) → Text → List Text
  | piece, _, [] => [piece.reverse]
  | piece, cells, c :: rest =>
    let more := Width.ofCodePoint c
    if room < cells + more then piece.reverse :: chop room [c] more rest
    else chop room (c :: piece) (cells + more) rest

/-- Lines put together from words: the finished lines, the last one first, and the line in progress
with its cells. -/
structure Lines where
  finished : List Text
  current : Text
  cells : Nat

/-- The lines after one more word. A word that is only cut off later counts no cells where it begins
a line. -/
def Lines.add (overflow : Overflow) (room : Nat) (lines : Lines) (word : Text) : Lines :=
  let needed := Width.ofText (Text.trimRight Markup.isSpace word)
  if lines.cells + needed ≤ room then
    { lines with current := lines.current ++ word, cells := lines.cells + Width.ofText word }
  else if room < needed && overflow = .fold then
    let pieces := chop room [] 0 word
    let closed := if lines.current.isEmpty then lines.finished else lines.current :: lines.finished
    let last := pieces.getLastD []
    ⟨pieces.dropLast.reverse ++ closed, last, Width.ofText last⟩
  else if lines.cells = 0 then { lines with current := lines.current ++ word }
  else ⟨lines.current :: lines.finished, word, Width.ofText word⟩

/-- A line without the white space at its end that does not fit. -/
def withoutExcess (room : Nat) (line : Text) : Text :=
  let blanks := (line.reverse.takeWhile Markup.isSpace).length
  line.take (line.length - min blanks (line.length - room))

/-- The beginning of a line that fits into cells. A wide code point that only fits by half leaves a
space. -/
def crop : (room : Nat) → Text → Text
  | _, [] => []
  | room, c :: rest =>
    let cells := Width.ofCodePoint c
    if cells ≤ room then c :: crop (room - cells) rest else List.replicate room 0x20

/-- A line cut off where the room ends. -/
def truncate (overflow : Overflow) (room : Nat) (line : Text) : Text :=
  if Width.ofText line ≤ room then line
  else
    match overflow with
    | .fold => crop room line
    | .ellipsis => crop (room - 1) line ++ [ellipsis]

/-- A line without tabs broken into lines that fit. -/
def wrapLine (overflow : Overflow) (room : Nat) (line : Text) : List Text :=
  match words line with
  | [] => [truncate overflow room (withoutExcess room line)]
  | found =>
    let lines := found.foldl (Lines.add overflow room) ⟨[], [], 0⟩
    (lines.current :: lines.finished).reverse.map fun l => truncate overflow room (withoutExcess room l)

/-- A text broken into lines that fit. -/
def wrap (overflow : Overflow) (room : Nat) (t : Text) : List Text :=
  (Text.splitOn 0x0A t).flatMap fun line => wrapLine overflow room (expandTabs line)

end Wrap

end LocaleCatalogue
