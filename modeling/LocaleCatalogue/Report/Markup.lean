import LocaleCatalogue.Report.Emoji
import LocaleCatalogue.Text.Integer

/-!
# Console markup

Text for the console may hold tags in brackets, which set a style and are not shown, and names of
emoji between colons. A backslash before a tag takes its meaning away. A closing tag without an
opening one makes the text unprintable. Styles themselves are not modelled: only what remains of the
text is. So the names of a style are compared letter by letter, and what a tag says behind an equals
sign is not looked at.
-/

namespace LocaleCatalogue.Markup

/-- A backslash. -/
def backslash : CodePoint := 0x5C

/-- An opening bracket. -/
def opening : CodePoint := 0x5B

/-- A closing bracket. -/
def closing : CodePoint := 0x5D

/-- A stretch of text with markup. -/
inductive Segment where
  | plain (t : Text)
  | tag (inside : Text)
deriving DecidableEq, Repr

/-- Code points that may begin a tag. -/
def beginsTag (c : CodePoint) : Bool :=
  (0x61 ≤ c.val && c.val ≤ 0x7A) || c = 0x23 || c = 0x2F || c = 0x40

/-- The inside of a tag, from the text after its opening bracket. -/
def inside? (t : Text) : Option Text :=
  match t with
  | [] => none
  | c :: _ =>
    let inside := t.takeWhile fun d => d ≠ closing && d ≠ opening
    if beginsTag c && (t.drop inside.length).head? = some closing then some inside else none

/-- A tag at the beginning of a text, with the number of backslashes before it. -/
def tagAt? (t : Text) : Option (Nat × Text) :=
  let slashes := (t.takeWhile (· = backslash)).length
  match t.drop slashes with
  | c :: rest => if c = opening then (inside? rest).map fun inside => (slashes, inside) else none
  | [] => none

/-- A stretch of plain text, kept in reverse, unless it is empty. -/
def flush (reversed : Text) : List Segment := if reversed.isEmpty then [] else [.plain reversed.reverse]

/-- What a tag with backslashes before it stands for: pairs of backslashes are one each, and an odd
one makes the tag plain. -/
def ofTag (slashes : Nat) (inside : Text) : List Segment :=
  (if 2 ≤ slashes then [.plain (List.replicate (slashes / 2) backslash)] else [])
    ++ [if slashes % 2 = 1 then .plain (opening :: inside ++ [closing]) else .tag inside]

/-- The segments of a text. `used` counts code points that a tag has taken already. -/
def segmentsFrom : (used : Nat) → (reversed : Text) → Text → List Segment
  | _, reversed, [] => flush reversed
  | used + 1, reversed, _ :: rest => segmentsFrom used reversed rest
  | 0, reversed, c :: rest =>
    match tagAt? (c :: rest) with
    | some (slashes, inside) =>
      flush reversed ++ ofTag slashes inside ++ segmentsFrom (slashes + inside.length + 1) [] rest
    | none => segmentsFrom 0 (c :: reversed) rest

/-- The segments of a text. -/
def segments (t : Text) : List Segment := segmentsFrom 0 [] t

/-- White space of any kind. -/
def isSpace (c : CodePoint) : Bool :=
  Integer.isNarrowSpace c || Integer.isWideSpace c || (0x1C ≤ c.val && c.val ≤ 0x1F)

/-- The selectors that may follow a name after a hyphen. -/
def variants : List (Text × CodePoint) := [
  (Text.ofString "-emoji", 0xFE0F), (Text.ofString "-text", 0xFE0E)]

/-- The emoji for what stands between two colons. -/
def emojiFor? (body : Text) : Option Text :=
  match variants.find? fun v => v.1.isSuffixOf body with
  | some (ending, selector) =>
    (Emoji.named? ((body.take (body.length - ending.length)).map Emoji.lower)).map (· ++ [selector])
  | none => Emoji.named? (body.map Emoji.lower)

/-- A text with emoji in the place of their names. `used` counts code points that are taken already.
-/
def withEmojiFrom : (used : Nat) → Text → Text
  | _, [] => []
  | used + 1, _ :: rest => withEmojiFrom used rest
  | 0, c :: rest =>
    if c = 0x3A then
      let body := rest.takeWhile fun d => d ≠ 0x3A && !isSpace d
      if (rest.drop body.length).head? = some 0x3A then
        (emojiFor? body).getD (c :: body ++ [c]) ++ withEmojiFrom (body.length + 1) rest
      else c :: withEmojiFrom 0 rest
    else c :: withEmojiFrom 0 rest

/-- A text with emoji in the place of their names. -/
def withEmoji (t : Text) : Text := withEmojiFrom 0 t

/-- A plain stretch without the backslashes before brackets. -/
def withoutSlashes : Text → Text
  | [] => []
  | c :: rest =>
    match rest with
    | d :: _ => if c = backslash && d = opening then withoutSlashes rest else c :: withoutSlashes rest
    | [] => [c]

/-- Control characters that are never printed. -/
def isDropped (c : CodePoint) : Bool := c.val = 7 || c.val = 8 || (0x0B ≤ c.val && c.val ≤ 0x0D)

/-- The other names of styles. -/
def aliases : List (Text × Text) :=
  [("b", "bold"), ("d", "dim"), ("i", "italic"), ("u", "underline"), ("r", "reverse"), ("c", "conceal"),
    ("s", "strike"), ("uu", "underline2"), ("o", "overline")].map fun (short, long) =>
      (Text.ofString short, Text.ofString long)

/-- A style under its usual name. -/
def styleName (name : Text) : Text :=
  let plain := Text.asciiLower (Text.trim isSpace name)
  match aliases.find? fun e => e.1 = plain with
  | some (_, long) => long
  | none => plain

/-- The name in a tag, before an equals sign. -/
def tagName (inside : Text) : Text := inside.takeWhile (· ≠ 0x3D)

/-- The open styles without the last one of a name, or nothing if there is none. -/
def close? (name : Text) : List Text → Option (List Text)
  | [] => none
  | style :: rest => if style = name then some rest else (close? name rest).map (style :: ·)

/-- The open styles after a tag, or nothing if it closes none of them. -/
def afterTag? (styles : List Text) (inside : Text) : Option (List Text) :=
  match tagName inside with
  | 0x2F :: name =>
    if (Text.trim isSpace name).isEmpty then
      match styles with
      | [] => none
      | _ :: rest => some rest
    else close? (styleName name) styles
  | name => some (styleName name :: styles)

/-- What is shown of segments, given the open styles; nothing if a tag closes no style. -/
def renderSegments : (styles : List Text) → List Segment → Option Text
  | _, [] => some []
  | styles, .plain t :: rest => (renderSegments styles rest).map (withEmoji (withoutSlashes t) ++ ·)
  | styles, .tag inside :: rest =>
    match afterTag? styles inside with
    | none => none
    | some styles => renderSegments styles rest

/-- What is shown of a text with markup; nothing if a tag closes no style. -/
def render (t : Text) : Option Text :=
  if t.contains opening then
    (renderSegments [] (segments t)).map fun shown => shown.filter fun c => !isDropped c
  else some ((withEmoji t).filter fun c => !isDropped c)

end LocaleCatalogue.Markup
