import LocaleCatalogue.Path.Basic

/-!
# Spellings of paths

Operations on the spelling of a path rather than on its names: the spelling of the directory,
joining two spellings, and removing dots and double dots without asking the file system.
-/

namespace LocaleCatalogue.Spelling

/-- The spelling up to the last slash, without slashes at its end unless it is nothing but slashes.
-/
def directory (spelling : Text) : Text :=
  let head := (spelling.reverse.dropWhile (· ≠ Path.slash)).reverse
  if head.all (· = Path.slash) then head else Text.trimRight (· = Path.slash) head

/-- The second spelling seen from the first; an anchored one replaces it. -/
def join (base spelling : Text) : Text :=
  if spelling.head? = some Path.slash || base.isEmpty then spelling
  else if base.getLast? = some Path.slash then base ++ spelling
  else base ++ Path.slash :: spelling

/-- One more name after names already reduced, the last one first. A double dot takes back a name,
stays where there is none, and is dropped at the root. -/
def reduceStep (anchored : Bool) (reversed : List Text) (name : Text) : List Text :=
  if name.isEmpty || name = Path.here then reversed
  else if name ≠ Path.above then name :: reversed
  else
    match reversed with
    | [] => if anchored then [] else [name]
    | last :: rest => if last = Path.above then name :: reversed else rest

/-- A spelling without empty names, dots and reducible double dots. -/
def normalise (spelling : Text) : Text :=
  let anchor := Path.anchorOf spelling
  let names := ((Text.splitOn Path.slash spelling).foldl (reduceStep (anchor ≠ .relative)) []).reverse
  let joined := anchor.text ++ Text.join [Path.slash] names
  if joined.isEmpty then Path.here else joined

end LocaleCatalogue.Spelling
