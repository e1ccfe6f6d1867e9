import LocaleCatalogue.Data.Value

/-!
# Progress

Events tell a listener that work on a list has begun and that one of its items is done. The payload
of an event may be any value; a recorder keeps all of them, a progress display only counts. An event
that begins new work adds a bar to the display, and finished items count towards the bar added last.
-/

namespace LocaleCatalogue

/-- The kinds of events. -/
inductive EventKind where
  | start
  | parsed
deriving DecidableEq, Repr

/-- The name of a kind. -/
def EventKind.name : EventKind → String
  | .start => "start"
  | .parsed => "parsed"

/-- The kind with a name. -/
def EventKind.named? (v : Value) : Option EventKind :=
  match v with
  | .text t => [EventKind.start, .parsed].find? fun k => Text.ofString k.name = t
  | _ => none

/-- Something that happened, with what it is about. -/
structure Event where
  kind : EventKind
  payload : Value

/-- Why an event cannot be counted. -/
inductive EventFault where
  | unknownKind (v : Value)
  | uncountable (v : Value)

/-- What is said about an event that cannot be counted. -/
def EventFault.message : EventFault → Text
  | .unknownKind v => v.quote ++ " is not a valid LocaleParseEvent"
  | .uncountable v => Text.ofString s!"object of type '{v.typeName}' has no len()"

/-- An event from the name of its kind. -/
def Event.ofNamed (kind payload : Value) : Except EventFault Event :=
  match EventKind.named? kind with
  | some k => .ok ⟨k, payload⟩
  | none => .error (.unknownKind kind)

/-- The payloads of the events of one kind, in order. -/
def payloads (events : List Event) (kind : EventKind) : List Value :=
  (events.filter fun e => e.kind = kind).map Event.payload

/-- How many items a value holds. -/
def Value.itemCount? : Value → Option Nat
  | .text t => some t.length
  | .list items => some items.length
  | .table entries => some entries.length
  | _ => none

/-- A bar of a progress display. -/
structure Bar where
  description : Text
  total : Nat
  completed : Nat
deriving DecidableEq, Repr

/-- The label of a new bar. -/
def barLabel : Text := Text.ofString "Parsing locale files"

/-- A bar with one more item done. -/
def Bar.advanced (bar : Bar) : Bar := { bar with completed := bar.completed + 1 }

/-- A progress display: its bars, and which of them finished items count towards. -/
structure Display where
  bars : List Bar
  current : Option Nat
deriving DecidableEq, Repr

namespace Display

/-- The display before any event. -/
def blank : Display := ⟨[], none⟩

/-- A new bar behind the others, which becomes the current one. -/
def addBar (d : Display) (total : Nat) : Display :=
  ⟨d.bars ++ [⟨barLabel, total, 0⟩], some d.bars.length⟩

/-- One more item done in the current bar, if there is one. -/
def advance (d : Display) : Display :=
  match d.current with
  | some i => { d with bars := d.bars.modify i Bar.advanced }
  | none => d

/-- The display after an event. -/
def after (d : Display) (event : Event) : Except EventFault Display :=
  match event.kind with
  | .start =>
    match event.payload.itemCount? with
    | some n => .ok (d.addBar n)
    | none => .error (.uncountable event.payload)
  | .parsed => .ok d.advance

/-- The display after several events. -/
def ofEvents (events : List Event) : Except EventFault Display := events.foldlM after blank

end Display

/-- The items of a value that can be gone through; the value itself if it cannot. -/
def Value.items : Value → Except Value (List Value)
  | .text t => .ok (t.map fun c => .text [c])
  | .list vs => .ok vs
  | .table entries => .ok (entries.map fun (k, _) => .text k)
  | v => .error v

/-- The items of the items of a value, in order; or the first value that has none. -/
def Value.flattened (v : Value) : Except Value (List Value) := do
  let groups ← v.items
  let parts ← groups.mapM Value.items
  return parts.flatten

end LocaleCatalogue
