import Mathlib.Data.Bool.AllAny
import LocaleCatalogue.Catalogue.Extraction
import LocaleCatalogue.Proofs.Text.Lines

/-!
# JSON objects as they are written

A JSON value down to its characters: how each string and number is spelled and which blanks stand
between the tokens. Every value of these types has a text, and every JSON text whose strings escape
only what has to be escaped is the text of one of them. Unifying the line ends of a text changes
nothing but the blanks between its tokens, because a line end in a string is always escaped.
-/

namespace LocaleCatalogue.Written

/-! ## Tokens -/

/-- The characters that may stand between the tokens of JSON. -/
def spaces : List Char := [' ', '\t', '\n', '\r']

/-- The blanks between two tokens; there may be none. -/
structure Gap where
  text : List Char
  blank : ∀ c ∈ text, c ∈ spaces

/-- The characters that a string holds only behind a backslash: the quote, the backslash and the
control characters. -/
def isReserved (c : Char) : Bool := c = '\x22' || c = '\\' || c.toNat < 0x20

/-- The letters that may follow a backslash, with the characters that they stand for. -/
def shorthands : List (Char × Char) :=
  [('\x22', '\x22'), ('\\', '\\'), ('b', '\x08'), ('f', '\x0C'), ('n', '\n'), ('r', '\r'),
    ('t', '\t')]

/-- The hexadecimal digits with their values. -/
def hexDigits : List (Char × Nat) :=
  [('0', 0), ('1', 1), ('2', 2), ('3', 3), ('4', 4), ('5', 5), ('6', 6), ('7', 7), ('8', 8),
    ('9', 9), ('a', 10), ('b', 11), ('c', 12), ('d', 13), ('e', 14), ('f', 15),
    ('A', 10), ('B', 11), ('C', 12), ('D', 13), ('E', 14), ('F', 15)]

/-- The number that hexadecimal digits spell. -/
def hexValue (digits : List (Char × Nat)) : Nat := digits.foldl (fun n d => n * 16 + d.2) 0

/-- One character of a string, written as itself or as an escape. -/
inductive Letter where
  | plain (c : Char) (free : isReserved c = false)
  | short (letter c : Char) (known : (letter, c) ∈ shorthands)
  | coded (digits : List (Char × Nat)) (c : Char) (known : ∀ d ∈ digits, d ∈ hexDigits)
      (four : digits.length = 4) (spells : hexValue digits = c.toNat)
      (reserved : isReserved c = true)

/-- The characters that a letter is written with. -/
def Letter.text : Letter → List Char
  | .plain c _ => [c]
  | .short letter _ _ => ['\\', letter]
  | .coded digits _ _ _ _ _ => '\\' :: 'u' :: digits.map Prod.fst

/-- The character that a letter stands for. -/
def Letter.value : Letter → Char
  | .plain c _ => c
  | .short _ c _ => c
  | .coded _ c _ _ _ _ => c

/-- Letters in double quotes. -/
def quoted (letters : List Letter) : List Char :=
  '\x22' :: letters.flatMap Letter.text ++ ['\x22']

/-- The decimal digits. -/
def decimalDigits : List Char := ['0', '1', '2', '3', '4', '5', '6', '7', '8', '9']

/-- One decimal digit or more. -/
structure Digits where
  first : Char
  more : List Char
  digits : ∀ c ∈ first :: more, c ∈ decimalDigits

/-- The characters of digits. -/
def Digits.text (d : Digits) : List Char := d.first :: d.more

/-- The power of ten at the end of a number. -/
structure Exponent where
  letter : Char
  sign : List Char
  digits : Digits
  known : letter = 'e' ∨ letter = 'E'
  signed : sign = [] ∨ sign = ['+'] ∨ sign = ['-']

/-- The characters of an exponent. -/
def Exponent.text (e : Exponent) : List Char := e.letter :: e.sign ++ e.digits.text

/-- A number without its sign. Only zero itself begins with a zero. -/
structure Magnitude where
  whole : Digits
  fraction : Option Digits
  exponent : Option Exponent
  plain : whole.first = '0' → whole.more = []

/-- The characters of a magnitude. -/
def Magnitude.text (m : Magnitude) : List Char :=
  m.whole.text ++ (m.fraction.elim [] fun d => '.' :: d.text) ++ m.exponent.elim [] Exponent.text

/-- The names of values. -/
inductive Constant where
  | null
  | true
  | false

/-- The word for a constant. -/
def Constant.word : Constant → String
  | .null => "null"
  | .true => "true"
  | .false => "false"

/-! ## Values -/

mutual

/-- A value. -/
inductive Value where
  | constant (name : Constant)
  | number (negative : Bool) (magnitude : Magnitude)
  | string (letters : List Letter)
  | emptyArray (gap : Gap)
  | array (items : Items)
  | object (o : Object)

/-- The items of an array, each with the blanks around it. -/
inductive Items where
  | last (before : Gap) (value : Value) (after : Gap)
  | more (before : Gap) (value : Value) (after : Gap) (rest : Items)

/-- An object. -/
inductive Object where
  | empty (gap : Gap)
  | filled (members : Members)

/-- The members of an object. -/
inductive Members where
  | last (m : Member)
  | more (m : Member) (rest : Members)

/-- A name and its value, with the blanks around the tokens. -/
inductive Member where
  | mk (before : Gap) (name : List Letter) (beforeColon afterColon : Gap) (value : Value)
      (after : Gap)

end

mutual

/-- The characters of a value. -/
def Value.text : Value → List Char
  | .constant name => name.word.toList
  | .number negative magnitude => (if negative then ['-'] else []) ++ magnitude.text
  | .string letters => quoted letters
  | .emptyArray gap => '[' :: gap.text ++ [']']
  | .array items => '[' :: items.text ++ [']']
  | .object o => o.text

/-- The characters between the brackets of an array. -/
def Items.text : Items → List Char
  | .last before value after => before.text ++ value.text ++ after.text
  | .more before value after rest => before.text ++ value.text ++ after.text ++ ',' :: rest.text

/-- The characters of an object. -/
def Object.text : Object → List Char
  | .empty gap => '\x7b' :: gap.text ++ ['\x7d']
  | .filled members => '\x7b' :: members.text ++ ['\x7d']

/-- The characters between the braces of an object. -/
def Members.text : Members → List Char
  | .last m => m.text
  | .more m rest => m.text ++ ',' :: rest.text

/-- The characters of a member. -/
def Member.text : Member → List Char
  | ⟨before, name, beforeColon, afterColon, value, after⟩ =>
    before.text ++ quoted name ++ beforeColon.text ++ ':' :: afterColon.text ++ value.text
      ++ after.text

end

/-! ## Names -/

/-- The token of a name in a text: the characters before it and its letters. -/
structure Token where
  before : List Char
  letters : List Letter

/-- The characters that a token stands for. -/
def Token.name (t : Token) : List Char := t.letters.map Letter.value

/-- Where a token stands in its text: from the end of what is before it to its own end. -/
def Token.location (t : Token) : Location where
  startLine := (Text.ofChars t.before).endRow + 1
  startColumn := (Text.ofChars t.before).lastLine.length
  stopLine := (Text.ofChars (t.before ++ quoted t.letters)).endRow + 1
  stopColumn := (Text.ofChars (t.before ++ quoted t.letters)).lastLine.length

/-- The token of a member's name, when the member stands after the given characters. -/
def Member.token (before : List Char) : Member → Token
  | ⟨gap, name, _, _, _, _⟩ => ⟨before ++ gap.text, name⟩

/-- The tokens of the names of members. -/
def Members.tokens (before : List Char) : Members → List Token
  | .last m => [m.token before]
  | .more m rest => m.token before :: rest.tokens (before ++ m.text ++ [','])

/-- The tokens of the names in an object, without those in the objects inside it. -/
def Object.tokens (before : List Char) : Object → List Token
  | .empty _ => []
  | .filled members => members.tokens (before ++ ['\x7b'])

/-- A module that does nothing but export an object by default. -/
structure ObjectModule where
  before : Gap
  object : Object
  after : Gap

/-- The characters before the blanks and the object. -/
def exportWords : List Char := "export default".toList

/-- The characters of a module. -/
def ObjectModule.text (m : ObjectModule) : List Char :=
  exportWords ++ m.before.text ++ m.object.text ++ m.after.text

/-- The tokens of the names in the exported object. -/
def ObjectModule.tokens (m : ObjectModule) : List Token :=
  m.object.tokens (exportWords ++ m.before.text)

/-! ## Tokens in their text -/

/-- The text goes through the token: it has the token's characters behind what is before it. -/
def Token.In (t : Token) (text : List Char) : Prop :=
  ∃ after, text = t.before ++ quoted t.letters ++ after

theorem Token.In.append {t : Token} {text : List Char} (h : t.In text) (rest : List Char) :
    t.In (text ++ rest) := by
  obtain ⟨after, rfl⟩ := h
  exact ⟨after ++ rest, List.append_assoc _ _ _⟩

/-- Cutting a text at the location of a token in it gives the characters of the token. -/
theorem Token.In.cut {t : Token} {text : List Char} (h : t.In text) :
    t.location.cut (Text.ofChars text) = Text.ofChars (quoted t.letters) := by
  obtain ⟨after, rfl⟩ := h
  simp only [Location.cut, Token.location, Int.add_sub_cancel, Int.toNat_natCast,
    Text.ofChars_append]
  exact Text.cut_append _ _ _

theorem Member.token_in (m : Member) (before : List Char) :
    (m.token before).In (before ++ m.text) := by
  obtain ⟨gap, name, beforeColon, afterColon, value, after⟩ := m
  refine ⟨beforeColon.text ++ ':' :: afterColon.text ++ value.text ++ after.text, ?_⟩
  simp only [Member.text, Member.token, List.append_assoc, List.cons_append]

theorem Members.token_in (members : Members) {before : List Char} {t : Token}
    (h : t ∈ members.tokens before) : t.In (before ++ members.text) := by
  match members with
  | .last m =>
      obtain rfl := List.mem_singleton.mp h
      exact m.token_in before
  | .more m rest =>
      have hsplit : before ++ (Members.more m rest).text =
          before ++ m.text ++ [','] ++ rest.text := by
        simp only [Members.text, List.append_assoc, List.singleton_append]
      rw [Members.tokens, List.mem_cons] at h
      rw [hsplit]
      rcases h with rfl | h
      · rw [List.append_assoc]
        exact (m.token_in before).append _
      · exact rest.token_in h

/-- The tokens of an object are in its text. -/
theorem Object.token_in (o : Object) {before : List Char} {t : Token} (h : t ∈ o.tokens before) :
    t.In (before ++ o.text) := by
  cases o with
  | empty gap => cases h
  | filled members =>
      have hsplit : before ++ (Object.filled members).text =
          before ++ ['\x7b'] ++ members.text ++ ['\x7d'] := by
        simp only [Object.text, List.append_assoc, List.cons_append, List.nil_append]
      rw [hsplit]
      exact (members.token_in h).append _

theorem ObjectModule.token_in {m : ObjectModule} {t : Token} (h : t ∈ m.tokens) : t.In m.text :=
  (m.object.token_in h).append m.after.text

/-! ## Line ends -/

theorem unifyNewlines_cons {c : Char} (hc : c ≠ '\r') (cs : List Char) :
    unifyNewlines (c :: cs) = c :: unifyNewlines cs := by
  rw [unifyNewlines, if_neg hc]
  exact fun _ h => absurd h hc

theorem unifyNewlines_append_of_not_mem {cs : List Char} (hcs : '\r' ∉ cs) (ds : List Char) :
    unifyNewlines (cs ++ ds) = cs ++ unifyNewlines ds := by
  induction cs with
  | nil => rfl
  | cons c cs ih =>
      rw [List.mem_cons, not_or] at hcs
      rw [List.cons_append, unifyNewlines_cons (Ne.symm hcs.1), ih hcs.2, List.cons_append]

/-- Line ends are unified on both sides of a place that is not inside one. -/
theorem unifyNewlines_append (cs : List Char) {ds : List Char} (hds : ds.head? ≠ some '\n') :
    unifyNewlines (cs ++ ds) = unifyNewlines cs ++ unifyNewlines ds := by
  induction cs using unifyNewlines.induct with
  | case1 => rfl
  | case2 cs ih =>
      rw [List.cons_append, List.cons_append, unifyNewlines, unifyNewlines, ih, List.cons_append]
  | case3 c cs hother ih =>
      rw [List.cons_append, unifyNewlines, unifyNewlines, ih, List.cons_append]
      · exact hother
      · -- A line feed behind a carriage return could only be the first character on the other side.
        rintro rest rfl heq
        cases cs with
        | nil => exact hds (by rw [List.nil_append] at heq; rw [heq]; rfl)
        | cons d cs =>
            obtain ⟨rfl, -⟩ := List.cons.inj heq
            exact hother cs rfl rfl

theorem mem_of_mem_unifyNewlines {c : Char} {cs : List Char} (h : c ∈ unifyNewlines cs) :
    c = '\n' ∨ c ∈ cs := by
  induction cs using unifyNewlines.induct with
  | case1 => cases h
  | case2 cs ih =>
      rw [unifyNewlines, List.mem_cons] at h
      rcases h with rfl | h
      · exact Or.inl rfl
      · exact (ih h).imp_right fun h => List.mem_cons_of_mem _ (List.mem_cons_of_mem _ h)
  | case3 d cs hother ih =>
      rw [unifyNewlines, List.mem_cons] at h
      · rcases h with rfl | h
        · split
          · exact Or.inl rfl
          · exact Or.inr List.mem_cons_self
        · exact (ih h).imp_right (List.mem_cons_of_mem _)
      · exact hother

/-- The blanks with unified line ends. -/
def Gap.unified (gap : Gap) : Gap where
  text := unifyNewlines gap.text
  blank := by
    intro c hc
    rcases mem_of_mem_unifyNewlines hc with rfl | hc
    · decide
    · exact gap.blank c hc

mutual

/-- The value with unified line ends. -/
def Value.unified : Value → Value
  | .constant name => .constant name
  | .number negative magnitude => .number negative magnitude
  | .string letters => .string letters
  | .emptyArray gap => .emptyArray gap.unified
  | .array items => .array items.unified
  | .object o => .object o.unified

/-- The items with unified line ends. -/
def Items.unified : Items → Items
  | .last before value after => .last before.unified value.unified after.unified
  | .more before value after rest =>
    .more before.unified value.unified after.unified rest.unified

/-- The object with unified line ends. -/
def Object.unified : Object → Object
  | .empty gap => .empty gap.unified
  | .filled members => .filled members.unified

/-- The members with unified line ends. -/
def Members.unified : Members → Members
  | .last m => .last m.unified
  | .more m rest => .more m.unified rest.unified

/-- The member with unified line ends. -/
def Member.unified : Member → Member
  | ⟨before, name, beforeColon, afterColon, value, after⟩ =>
    ⟨before.unified, name, beforeColon.unified, afterColon.unified, value.unified, after.unified⟩

end

/-- The token with unified line ends before it. -/
def Token.unified (t : Token) : Token := ⟨unifyNewlines t.before, t.letters⟩

theorem Letter.ne_return_of_mem {c : Char} {letter : Letter} (h : c ∈ letter.text) : c ≠ '\r' := by
  rintro rfl
  cases letter with
  | plain c free =>
      obtain rfl := List.mem_singleton.mp h
      exact absurd free (by decide)
  | short letter c known =>
      have hletters : ∀ s ∈ shorthands, '\r' ∉ ['\\', s.1] := by decide
      exact hletters _ known h
  | coded digits c known four spells reserved =>
      have hdigits : ∀ d ∈ hexDigits, d.1 ≠ '\r' := by decide
      rw [Letter.text, List.mem_cons, List.mem_cons, List.mem_map] at h
      rcases h with h | h | ⟨d, hd, h⟩
      · exact absurd h (by decide)
      · exact absurd h (by decide)
      · exact hdigits d (known d hd) h

theorem return_not_mem_quoted (letters : List Letter) : '\r' ∉ quoted letters := by
  simp only [quoted, List.cons_append, List.mem_cons, List.mem_append, List.mem_flatMap,
    List.not_mem_nil, or_false]
  rintro (h | ⟨letter, -, h⟩ | h)
  · exact absurd h (by decide)
  · exact Letter.ne_return_of_mem h rfl
  · exact absurd h (by decide)

/-- The characters that numbers are written with. -/
def numeric : List Char := decimalDigits ++ ['.', 'e', 'E', '+', '-']

theorem Digits.mem_numeric (d : Digits) : ∀ c ∈ d.text, c ∈ numeric :=
  fun c hc => List.mem_append_left _ (d.digits c hc)

theorem Exponent.mem_numeric (e : Exponent) : ∀ c ∈ e.text, c ∈ numeric := by
  intro c hc
  rw [Exponent.text, List.cons_append, List.mem_cons, List.mem_append] at hc
  rcases hc with rfl | hc | hc
  · rcases e.known with h | h <;> rw [h] <;> decide
  · rcases e.signed with h | h | h <;> rw [h] at hc
    · cases hc
    · rw [List.mem_singleton.mp hc]
      decide
    · rw [List.mem_singleton.mp hc]
      decide
  · exact e.digits.mem_numeric c hc

theorem Magnitude.mem_numeric (m : Magnitude) : ∀ c ∈ m.text, c ∈ numeric := by
  intro c hc
  rw [Magnitude.text, List.mem_append, List.mem_append] at hc
  rcases hc with (hc | hc) | hc
  · exact m.whole.mem_numeric c hc
  · cases hfraction : m.fraction with
    | none => simp [hfraction] at hc
    | some d =>
        rw [hfraction, Option.elim_some, List.mem_cons] at hc
        rcases hc with rfl | hc
        · decide
        · exact d.mem_numeric c hc
  · cases hexponent : m.exponent with
    | none => simp [hexponent] at hc
    | some e =>
        rw [hexponent, Option.elim_some] at hc
        exact e.mem_numeric c hc

theorem unifyNewlines_gap (gap : Gap) {rest : List Char} (hrest : rest.head? ≠ some '\n') :
    unifyNewlines (gap.text ++ rest) = gap.unified.text ++ unifyNewlines rest :=
  unifyNewlines_append gap.text hrest

/-- The characters that values begin with. -/
def beginnings : List Char := decimalDigits ++ ['-', 'n', 't', 'f', '\x22', '[', '\x7b']

theorem Magnitude.exists_head (m : Magnitude) :
    ∃ y ∈ decimalDigits, ∃ ys, m.text = y :: ys :=
  ⟨m.whole.first, m.whole.digits _ List.mem_cons_self, _, rfl⟩

theorem Object.exists_head (o : Object) : ∃ ys, o.text = '\x7b' :: ys := by
  cases o <;> exact ⟨_, rfl⟩

theorem ObjectModule.exists_head (m : ObjectModule) : ∃ ys, m.text = 'e' :: ys := by
  have hwords : exportWords = 'e' :: "xport default".toList := by decide
  rw [ObjectModule.text, hwords]
  exact ⟨_, rfl⟩

/-- A value is not empty, and its first character says that it is one. -/
theorem Value.exists_head (v : Value) : ∃ y ∈ beginnings, ∃ ys, v.text = y :: ys := by
  cases v with
  | constant name => cases name <;> exact ⟨_, by decide, _, rfl⟩
  | number negative magnitude =>
      cases negative with
      | false =>
          obtain ⟨y, hy, ys, htext⟩ := magnitude.exists_head
          exact ⟨y, List.mem_append_left _ hy, ys, htext⟩
      | true => exact ⟨'-', by decide, _, rfl⟩
  | string letters => exact ⟨_, by decide, _, rfl⟩
  | emptyArray gap => exact ⟨_, by decide, _, rfl⟩
  | array items => exact ⟨_, by decide, _, rfl⟩
  | object o =>
      obtain ⟨ys, htext⟩ := o.exists_head
      exact ⟨_, by decide, ys, htext⟩

theorem Value.head_ne_lineFeed (v : Value) (rest : List Char) :
    (v.text ++ rest).head? ≠ some '\n' := by
  obtain ⟨y, hy, ys, htext⟩ := v.exists_head
  rw [htext, List.cons_append, List.head?_cons]
  rintro ⟨⟩
  exact absurd hy (by decide)

mutual

/-- Line ends in front of a value and behind it are not in it. -/
theorem Value.unify_append (v : Value) (rest : List Char) :
    unifyNewlines (v.text ++ rest) = v.unified.text ++ unifyNewlines rest := by
  cases v with
  | constant name =>
      have hname : '\r' ∉ name.word.toList := by cases name <;> decide
      exact unifyNewlines_append_of_not_mem hname rest
  | number negative magnitude =>
      refine unifyNewlines_append_of_not_mem (fun h => ?_) rest
      rw [Value.text, List.mem_append] at h
      rcases h with h | h
      · split at h
        · exact absurd h (by decide)
        · cases h
      · exact absurd (magnitude.mem_numeric _ h) (by decide)
  | string letters => exact unifyNewlines_append_of_not_mem (return_not_mem_quoted letters) rest
  | emptyArray gap =>
      simp only [Value.text, Value.unified, List.cons_append, List.append_assoc, List.nil_append]
      rw [unifyNewlines_cons (by decide), unifyNewlines_gap gap (by simp),
        unifyNewlines_cons (by decide)]
  | array items =>
      simp only [Value.text, Value.unified, List.cons_append, List.append_assoc, List.nil_append]
      rw [unifyNewlines_cons (by decide), items.unify_append (by simp),
        unifyNewlines_cons (by decide)]
  | object o => exact o.unify_append rest

theorem Items.unify_append (items : Items) {rest : List Char} (hrest : rest.head? ≠ some '\n') :
    unifyNewlines (items.text ++ rest) = items.unified.text ++ unifyNewlines rest := by
  cases items with
  | last before value after =>
      simp only [Items.text, Items.unified, List.append_assoc]
      rw [unifyNewlines_gap before (value.head_ne_lineFeed _), value.unify_append,
        unifyNewlines_gap after hrest]
  | more before value after more =>
      simp only [Items.text, Items.unified, List.append_assoc, List.cons_append]
      rw [unifyNewlines_gap before (value.head_ne_lineFeed _), value.unify_append,
        unifyNewlines_gap after (by simp), unifyNewlines_cons (by decide),
        more.unify_append hrest]

/-- Line ends in front of an object and behind it are not in it. -/
theorem Object.unify_append (o : Object) (rest : List Char) :
    unifyNewlines (o.text ++ rest) = o.unified.text ++ unifyNewlines rest := by
  cases o with
  | empty gap =>
      simp only [Object.text, Object.unified, List.cons_append, List.append_assoc, List.nil_append]
      rw [unifyNewlines_cons (by decide), unifyNewlines_gap gap (by simp),
        unifyNewlines_cons (by decide)]
  | filled members =>
      simp only [Object.text, Object.unified, List.cons_append, List.append_assoc, List.nil_append]
      rw [unifyNewlines_cons (by decide), members.unify_append (by simp),
        unifyNewlines_cons (by decide)]

theorem Members.unify_append (members : Members) {rest : List Char}
    (hrest : rest.head? ≠ some '\n') :
    unifyNewlines (members.text ++ rest) = members.unified.text ++ unifyNewlines rest := by
  cases members with
  | last m => exact m.unify_append hrest
  | more m more =>
      simp only [Members.text, Members.unified, List.append_assoc, List.cons_append]
      rw [m.unify_append (by simp), unifyNewlines_cons (by decide), more.unify_append hrest]

theorem Member.unify_append (m : Member) {rest : List Char} (hrest : rest.head? ≠ some '\n') :
    unifyNewlines (m.text ++ rest) = m.unified.text ++ unifyNewlines rest := by
  obtain ⟨before, name, beforeColon, afterColon, value, after⟩ := m
  simp only [Member.text, Member.unified, List.append_assoc, List.cons_append]
  rw [unifyNewlines_gap before (by simp [quoted]),
    unifyNewlines_append_of_not_mem (return_not_mem_quoted name),
    unifyNewlines_gap beforeColon (by simp), unifyNewlines_cons (by decide),
    unifyNewlines_gap afterColon (value.head_ne_lineFeed _), value.unify_append,
    unifyNewlines_gap after hrest]

end

/-- Whatever follows the characters, their line ends stay their own. -/
def Detached (cs : List Char) : Prop :=
  ∀ ds, unifyNewlines (cs ++ ds) = unifyNewlines cs ++ unifyNewlines ds

theorem Member.unify_token (m : Member) {before : List Char} (hbefore : Detached before) :
    m.unified.token (unifyNewlines before) = (m.token before).unified := by
  obtain ⟨gap, name, beforeColon, afterColon, value, after⟩ := m
  rw [Member.unified, Member.token, Member.token, Token.unified, hbefore]
  rfl

theorem Members.unify_tokens (members : Members) {before : List Char} (hbefore : Detached before) :
    members.unified.tokens (unifyNewlines before) =
      (members.tokens before).map Token.unified := by
  match members with
  | .last m =>
      rw [Members.unified, Members.tokens, Members.tokens, m.unify_token hbefore, List.map_singleton]
  | .more m rest =>
      have hmember : ∀ ds, unifyNewlines (before ++ m.text ++ [','] ++ ds) =
          unifyNewlines before ++ m.unified.text ++ [','] ++ unifyNewlines ds := by
        intro ds
        simp only [List.append_assoc, List.singleton_append]
        rw [hbefore, m.unify_append (by simp), unifyNewlines_cons (by decide)]
      have hend := hmember []
      rw [List.append_nil, unifyNewlines, List.append_nil] at hend
      have hdetached : Detached (before ++ m.text ++ [',']) := by
        intro ds
        rw [hmember, hend]
      rw [Members.unified, Members.tokens, Members.tokens, m.unify_token hbefore, ← hend,
        rest.unify_tokens hdetached, List.map_cons]

/-- The tokens of an object with unified line ends are those of the object. -/
theorem Object.unify_tokens (o : Object) (before : List Char) :
    o.unified.tokens (unifyNewlines before) = (o.tokens before).map Token.unified := by
  cases o with
  | empty gap => rfl
  | filled members =>
      have hbrace : ∀ ds, unifyNewlines (before ++ ['\x7b'] ++ ds) =
          unifyNewlines before ++ ['\x7b'] ++ unifyNewlines ds := by
        intro ds
        rw [List.append_assoc, List.append_assoc, List.singleton_append, List.singleton_append,
          unifyNewlines_append before (by simp), unifyNewlines_cons (by decide)]
      have hend := hbrace []
      rw [List.append_nil, unifyNewlines, List.append_nil] at hend
      have hdetached : Detached (before ++ ['\x7b']) := by
        intro ds
        rw [hbrace, hend]
      rw [Object.unified, Object.tokens, Object.tokens, ← hend, members.unify_tokens hdetached]

/-- The module with unified line ends. -/
def ObjectModule.unified (m : ObjectModule) : ObjectModule :=
  ⟨m.before.unified, m.object.unified, m.after.unified⟩

theorem ObjectModule.unify_text (m : ObjectModule) : unifyNewlines m.text = m.unified.text := by
  obtain ⟨ys, htext⟩ := m.object.exists_head
  simp only [ObjectModule.text, ObjectModule.unified, List.append_assoc]
  rw [unifyNewlines_append_of_not_mem (by decide), unifyNewlines_gap m.before (by simp [htext]),
    m.object.unify_append]
  rfl

theorem ObjectModule.unify_tokens (m : ObjectModule) :
    m.unified.tokens = m.tokens.map Token.unified := by
  have hwords : unifyNewlines (exportWords ++ m.before.text) =
      exportWords ++ m.before.unified.text :=
    unifyNewlines_append_of_not_mem (by decide) m.before.text
  rw [ObjectModule.tokens, ObjectModule.tokens, ObjectModule.unified, ← hwords,
    m.object.unify_tokens]

end LocaleCatalogue.Written
