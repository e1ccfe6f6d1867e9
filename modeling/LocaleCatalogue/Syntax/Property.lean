import LocaleCatalogue.Syntax.Literal
import LocaleCatalogue.Syntax.Location

/-!
# Properties of object literals

A property is keyed by an identifier or by a string, spreads another object, or is opaque: computed
and numeric keys, methods and accessors never yield a key.
-/

namespace LocaleCatalogue.Syntax

/-- What a property of an object literal contributes. -/
inductive Property where
  | identifier (name : Text) (location : Location)
  | string (value : Text) (location : Location)
  | spread (name : Option Text)
  | opaqueKind (kind : String)
deriving DecidableEq, Repr

/-- The properties of an object literal, in order. -/
def objectProperties (object : Node) : List Node :=
  object.namedChildren.filter (·.kind ≠ "comment")

/-- The key of a property with a value. -/
def Property.ofKey (key : Node) (source : Bytes) : Except Fault Property :=
  if key.kind = "property_identifier" then
    match key.readText with
    | .ok name => .ok (.identifier name (key.location source))
    | .error e => .error e
  else if key.kind = "string" then
    match Literal.value key with
    | .ok value => .ok (.string value (key.location source))
    | .error e => .error e
  else .ok (.opaqueKind key.kind)

/-- What a property node contributes. A spread has a name only if a bare name comes first in it. -/
def Property.ofNode (n : Node) (source : Bytes) : Except Fault Property :=
  if n.kind = "shorthand_property_identifier" then
    match n.readText with
    | .ok name => .ok (.identifier name (n.location source))
    | .error e => .error e
  else if n.kind = "pair" then
    match n.childByField "key" with
    | none => .ok (.opaqueKind n.kind)
    | some key => Property.ofKey key source
  else if n.kind = "spread_element" then
    match n.namedChildren with
    | argument :: _ =>
      if argument.kind = "identifier" then
        match argument.readText with
        | .ok name => .ok (.spread (some name))
        | .error e => .error e
      else .ok (.spread none)
    | [] => .ok (.spread none)
  else .ok (.opaqueKind n.kind)

end LocaleCatalogue.Syntax
