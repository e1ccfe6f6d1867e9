import LocaleCatalogue.Text.Basic

/-!
# Signatures

Records may be given by position: a signature names the fields that are needed and those that may
follow. A wrong number of values is reported with the names of the fields that are missing, or with
how many there may be; the record itself counts as one of them.
-/

namespace LocaleCatalogue

/-- The fields of a record that is given by position. -/
structure Signature where
  record : String
  needed : List String
  further : List String

namespace Signature

/-- Names in a sentence. -/
def enumerate : List String → String
  | [] => ""
  | [a] => a
  | [a, b] => a ++ " and " ++ b
  | names => ", ".intercalate names.dropLast ++ ", and " ++ names.getLastD ""

/-- What is said about a number of values that does not fit, or nothing if it fits. -/
def misfit? (s : Signature) (count : Nat) : Option String :=
  let least := s.needed.length
  let most := least + s.further.length
  if count < least then
    let missing := s.needed.drop count
    let arguments := if missing.length = 1 then "argument" else "arguments"
    some (s!"{s.record}.__init__() missing {missing.length} required positional {arguments}: "
      ++ enumerate (missing.map fun name => "'" ++ name ++ "'"))
  else if most < count then
    let range := if least = most then toString (most + 1) else s!"from {least + 1} to {most + 1}"
    let arguments := if most = 0 then "argument" else "arguments"
    let verb := if count = 0 then "was" else "were"
    some s!"{s.record}.__init__() takes {range} positional {arguments} but {count + 1} {verb} given"
  else none

/-- The signature of a location. -/
def location : Signature := ⟨"SourceLocation", ["start_line", "start_column", "end_line", "end_column"], []⟩

end Signature

end LocaleCatalogue
