import LocaleCatalogue.Decimal.Shortest
import LocaleCatalogue.Text.Integer

/-!
# Values of settings

Settings come from files, the environment and the command line, and may hold any value until they
are checked. A value is shown plainly inside a message, and in quotes when it is part of a list or
table.
-/

namespace LocaleCatalogue

/-- A day of the calendar. -/
structure Day where
  year : Nat
  month : Nat
  day : Nat
deriving DecidableEq, Repr

/-- A time of day. -/
structure Clock where
  hour : Nat
  minute : Nat
  second : Nat
  micros : Nat
deriving DecidableEq, Repr

/-- A date, a time of day, or both, perhaps with an offset in minutes. -/
inductive Moment where
  | date (day : Day)
  | time (clock : Clock)
  | dateTime (day : Day) (clock : Clock) (offset : Option Int)
deriving DecidableEq, Repr

/-- A value of a setting. -/
inductive Value where
  | null
  | bool (b : Bool)
  | int (n : Int)
  | float (x : Float)
  | text (t : Text)
  | list (items : List Value)
  | table (entries : List (Text × Value))
  | moment (m : Moment)

namespace Moment

/-- A number with zeros before it up to a width. -/
def padded (width n : Nat) : String :=
  let digits := Nat.toDigits 10 n
  String.ofList (List.replicate (width - digits.length) '0' ++ digits)

/-- Year, month and day with hyphens. -/
def showDay (d : Day) : String := padded 4 d.year ++ "-" ++ padded 2 d.month ++ "-" ++ padded 2 d.day

/-- Hour, minute and second with colons, and the microseconds if there are any. -/
def showClock (c : Clock) : String :=
  padded 2 c.hour ++ ":" ++ padded 2 c.minute ++ ":" ++ padded 2 c.second
    ++ (if c.micros = 0 then "" else "." ++ padded 6 c.micros)

/-- An offset as signed hours and minutes. -/
def showOffset (minutes : Int) : String :=
  (if minutes < 0 then "-" else "+") ++ padded 2 (minutes.natAbs / 60) ++ ":"
    ++ padded 2 (minutes.natAbs % 60)

/-- A moment as it is shown plainly. -/
def show_ : Moment → String
  | .date d => showDay d
  | .time c => showClock c
  | .dateTime d c offset =>
    showDay d ++ " " ++ showClock c ++ (match offset with
      | some minutes => showOffset minutes
      | none => "")

/-- The name of a kind of moment. -/
def kindName : Moment → String
  | .date _ => "date"
  | .time _ => "time"
  | .dateTime .. => "datetime"

/-- Seconds and microseconds as further fields, without zeros at the end. -/
def smallFields (c : Clock) : List Nat :=
  if c.micros ≠ 0 then [c.second, c.micros] else if c.second ≠ 0 then [c.second] else []

/-- An offset as a constructor call: days are counted down so that the seconds are not negative. -/
def quoteOffset (minutes : Int) : String :=
  if minutes = 0 then "datetime.timezone.utc"
  else
    let seconds := (minutes * 60) % 86400
    let days := (minutes * 60 - seconds) / 86400
    let fields := (if days = 0 then [] else [s!"days={days}"])
      ++ (if seconds = 0 then [] else [s!"seconds={seconds}"])
    "datetime.timezone(datetime.timedelta(" ++ ", ".intercalate fields ++ "))"

/-- A moment as it is shown inside a list or table. -/
def quote (m : Moment) : String :=
  let fields (ns : List Nat) : List String := ns.map toString
  let call (arguments : List String) : String :=
    "datetime." ++ m.kindName ++ "(" ++ ", ".intercalate arguments ++ ")"
  match m with
  | .date d => call (fields [d.year, d.month, d.day])
  | .time c => call (fields ([c.hour, c.minute] ++ smallFields c))
  | .dateTime d c offset =>
    call (fields ([d.year, d.month, d.day, c.hour, c.minute] ++ smallFields c)
      ++ (match offset with
        | some minutes => ["tzinfo=" ++ quoteOffset minutes]
        | none => []))

end Moment

namespace Value

/-- The name of a value's type in messages. -/
def typeName : Value → String
  | .null => "NoneType"
  | .bool _ => "bool"
  | .int _ => "int"
  | .float _ => "float"
  | .text _ => "str"
  | .list _ => "list"
  | .table _ => "dict"
  | .moment m => "datetime." ++ m.kindName

mutual

/-- A value as it is shown inside a list or table. -/
def quote : Value → Text
  | .null => Text.ofString "None"
  | .bool b => Text.ofString (if b then "True" else "False")
  | .int n => Text.ofInt n
  | .float x => Text.ofString (Decimal.ofFloat x)
  | .text t => Quoted.encode t
  | .list items => Text.ofString "[" ++ Text.join (Text.ofString ", ") (quoteAll items) ++ Text.ofString "]"
  | .table entries =>
    Text.ofString "\x7b" ++ Text.join (Text.ofString ", ") (quoteEntries entries)
      ++ Text.ofString "\x7d"
  | .moment m => Text.ofString m.quote

/-- The items of a list, each shown. -/
def quoteAll : List Value → List Text
  | [] => []
  | v :: vs => v.quote :: quoteAll vs

/-- The entries of a table, each shown with its name. -/
def quoteEntries : List (Text × Value) → List Text
  | [] => []
  | (k, v) :: rest => (Quoted.encode k ++ Text.ofString ": " ++ v.quote) :: quoteEntries rest

end

mutual

/-- Whether a value can be shown: an integer with too many digits cannot, wherever it stands. -/
def isShowable : Value → Bool
  | .int n => n.natAbs < 10 ^ Integer.digitLimit
  | .list items => allShowable items
  | .table entries => entriesShowable entries
  | _ => true

/-- Whether all items of a list can be shown. -/
def allShowable : List Value → Bool
  | [] => true
  | v :: vs => v.isShowable && allShowable vs

/-- Whether all entries of a table can be shown. -/
def entriesShowable : List (Text × Value) → Bool
  | [] => true
  | (_, v) :: rest => v.isShowable && entriesShowable rest

end

/-- A value as it is shown plainly: text as it is, a moment in its usual form. -/
def shown : Value → Text
  | .text t => t
  | .moment m => Text.ofString m.show_
  | v => v.quote

/-- Values that count as unset where a switch is expected. -/
def isFalsy : Value → Bool
  | .null => true
  | .bool b => !b
  | .int n => n = 0
  | .float x => x == 0
  | .text t => t.isEmpty
  | .list items => items.isEmpty
  | .table entries => entries.isEmpty
  | .moment _ => false

end Value

/-- The value under a name in a table, the first one if there are several. -/
def Entries.find? (entries : List (Text × Value)) (name : Text) : Option Value :=
  (entries.find? fun (k, _) => k = name).map Prod.snd

/-- A table with the value under a name replaced in its place, or added at the end. -/
def Entries.put (entries : List (Text × Value)) (name : Text) (v : Value) : List (Text × Value) :=
  match entries with
  | [] => [(name, v)]
  | (k, w) :: rest => if k = name then (k, v) :: rest else (k, w) :: Entries.put rest name v

end LocaleCatalogue
