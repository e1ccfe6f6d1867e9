import LocaleCatalogue.Path.Basic

/-!
# Wildcard patterns

A pattern is a list of pieces that match a text piece by piece: a star any run of code points,
slashes included, a question mark any one, a bracket one of a set. The readings of broken brackets
are fixed here: an unclosed bracket is an ordinary character, ranges that run backwards are left
out, a set without members matches nothing, and its negation anything.
-/

namespace LocaleCatalogue

/-- A piece of a pattern. -/
inductive Wild where
  | star
  | any
  | never
  | exactly (c : CodePoint)
  | among (negated : Bool) (members : List CodePoint) (ranges : List (CodePoint × CodePoint))
deriving DecidableEq, Repr

namespace Wild

/-- Whether a piece matches one code point. -/
def admits : Wild → CodePoint → Bool
  | .star, _ => true
  | .any, _ => true
  | .never, _ => false
  | .exactly d, c => c = d
  | .among negated members ranges, c =>
    negated != (members.contains c || ranges.any fun (a, b) => a.val ≤ c.val && c.val ≤ b.val)

/-- Whether some ending of the text is accepted. -/
def someEnding (accept : Text → Bool) : Text → Bool
  | [] => accept []
  | c :: cs => accept (c :: cs) || someEnding accept cs

/-- Whether pieces match a whole text. -/
def matchAll : List Wild → Text → Bool
  | [], t => t.isEmpty
  | .star :: rest, t => someEnding (matchAll rest) t
  | piece :: rest, t =>
    match t with
    | [] => false
    | c :: cs => piece.admits c && matchAll rest cs

/-- Splits the inside of a bracket at the hyphens that make ranges. A hyphen only makes a range with
at least one code point before it since the last range; `before` holds what is collected so far,
reversed, and `due` how many code points must pass first. -/
def rangeChunks : (due : Nat) → (before : Text) → Text → List Text
  | _, before, [] => [before.reverse]
  | due, before, c :: cs =>
    if c = 0x2D && due = 0 then before.reverse :: rangeChunks 2 [] cs
    else rangeChunks (due - 1) (c :: before) cs

/-- Puts a hyphen at the end of the last chunk when nothing follows it. -/
def closeChunks : List Text → List Text
  | [] => []
  | [chunk, []] => [chunk ++ [0x2D]]
  | chunk :: rest => chunk :: closeChunks rest

/-- Joins neighbours whose range would run backwards, without the ends of that range. -/
def dropBackward : List Text → List Text
  | [] => []
  | chunk :: rest =>
    match dropBackward rest with
    | [] => [chunk]
    | next :: more =>
      match chunk.getLast?, next with
      | some a, b :: tail =>
        if b.val < a.val then (chunk.dropLast ++ tail) :: more else chunk :: next :: more
      | _, _ => chunk :: next :: more

/-- The ranges between neighbouring chunks. -/
def rangesOf : List Text → List (CodePoint × CodePoint)
  | chunk :: next :: rest =>
    match chunk.getLast?, next.head? with
    | some a, some b => (a, b) :: rangesOf (next :: rest)
    | _, _ => rangesOf (next :: rest)
  | _ => []

/-- The chunks of a bracket's inside. -/
def chunksOf (inside : Text) : List Text :=
  if List.elem 0x2D inside then
    dropBackward (closeChunks (rangeChunks (if inside.head? = some 0x21 then 2 else 1) [] inside))
  else [inside]

/-- The piece that a bracket with the given inside stands for. -/
def ofInside (inside : Text) : Wild :=
  match chunksOf inside with
  | [] => .never
  | [[]] => .never
  | [[0x21]] => .any
  | (0x21 :: first) :: rest => .among true (first ++ rest.flatten) (rangesOf (first :: rest))
  | chunks => .among false chunks.flatten (rangesOf chunks)

/-- The inside of a bracket and what follows it. A closing bracket that comes first, or first after
an exclamation mark, belongs to the inside. -/
def bracket? (t : Text) : Option (Text × Text) :=
  let lead : Nat :=
    match t with
    | 0x21 :: 0x5D :: _ => 2
    | 0x21 :: _ => 1
    | 0x5D :: _ => 1
    | _ => 0
  let tail := t.drop lead
  let inside := tail.takeWhile (· ≠ 0x5D)
  if inside.length < tail.length then some (t.take lead ++ inside, tail.drop (inside.length + 1)) else none

/-- The pieces of a pattern. The first argument counts code points that a bracket has already used.
-/
def read : Nat → Text → List Wild
  | _, [] => []
  | used + 1, _ :: rest => read used rest
  | 0, c :: rest =>
    if c = 0x2A then .star :: read 0 rest
    else if c = 0x3F then .any :: read 0 rest
    else if c = 0x5B then
      match bracket? rest with
      | some (inside, after) => ofInside inside :: read (rest.length - after.length) rest
      | none => .exactly c :: read 0 rest
    else .exactly c :: read 0 rest

end Wild

/-- Whether a text matches a wildcard pattern as a whole. -/
def Text.matchesPattern (t pattern : Text) : Bool := Wild.matchAll (Wild.read 0 pattern) t

/-- Whether a name of a path pattern holds a wildcard. -/
def Text.isWildcard (t : Text) : Bool := t.any fun c => c = 0x2A || c = 0x3F || c = 0x5B

end LocaleCatalogue
