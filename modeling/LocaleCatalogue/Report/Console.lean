import LocaleCatalogue.Text.Basic

/-!
# The console

What the program prints passes a console, which interprets markup in it: tags in brackets, and names
of emoji between colons. The program only hands texts over and never looks at what becomes of them, so
a console is a value that it works with. What a terminal does to show a style is not part of what is
shown.
-/

namespace LocaleCatalogue

/-- A column of a table: its head, and whether its cells stand at the right. -/
structure Column where
  head : Text
  right : Bool
deriving DecidableEq, Repr

/-- A console: what it shows of a text with markup, of such a text without breaking its lines, and of
a table with such texts in its cells. It shows nothing of what it cannot print. -/
structure Console where
  print : Text → Option Text
  printUnbroken : Text → Option Text
  printTable : List Column → List (List Text) → Option Text

end LocaleCatalogue
