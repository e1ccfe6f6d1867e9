import LocaleCatalogue.Data.Value
import LocaleCatalogue.Syntax.Location

/-!
# Keys and locales

A key records one translation key with the span of its token and two files: the file that was asked
for and the file that holds the token. The two differ only for keys that came in through a spread. A
locale holds the keys of one file, in order and with repetitions, under its language tag.
-/

namespace LocaleCatalogue

/-- A translation key. -/
structure Key where
  name : Text
  location : Location
  filePath : Text
  sourcePath : Text
deriving DecidableEq, Repr

/-- The keys of one file. -/
structure Locale where
  language : Text
  keys : List Key
  filePath : Text
deriving DecidableEq, Repr

/-- A key whose token lies in the given file, or in the file that was asked for if that is left
open. -/
def Key.declared (name : Text) (location : Location) (filePath sourcePath : Text) : Key :=
  ⟨name, location, filePath, if sourcePath.isEmpty then filePath else sourcePath⟩

/-- All keys with a name, in order. -/
def Locale.find (l : Locale) (name : Text) : List Key := l.keys.filter (·.name = name)

/-- A location as a table. -/
def Location.toValue (l : Location) : Value := .table [
  ("start_line", .int l.startLine), ("start_column", .int l.startColumn),
  ("end_line", .int l.stopLine), ("end_column", .int l.stopColumn)]

/-- A key as a table. -/
def Key.toValue (k : Key) : Value := .table [
  ("key", .text k.name), ("location", k.location.toValue),
  ("file_path", .text k.filePath), ("source_path", .text k.sourcePath)]

/-- A locale as a table. -/
def Locale.toValue (l : Locale) : Value := .table [
  ("lang", .text l.language), ("file_path", .text l.filePath),
  ("locale_keys", .list (l.keys.map Key.toValue))]

end LocaleCatalogue
