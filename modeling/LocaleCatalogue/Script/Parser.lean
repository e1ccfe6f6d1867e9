/-!
# Parsing steps that only move forward

A parser reads from a cursor and either refuses or answers with a value and a later cursor. The
answer carries the proof that the new cursor is reached from the old one by reading characters, so
every parser built from the ones here is monotone by construction and loops over it end. There is no
error value: a refusal only says that the text does not continue in the expected way.
-/

namespace LocaleCatalogue.Script

/-- The characters still to read, and how many have been read. -/
structure Cursor where
  offset : Nat
  rest : List Char
deriving DecidableEq

namespace Cursor

/-- The cursor before the first character of a text. -/
def start (text : List Char) : Cursor := ⟨0, text⟩

/-- `b` comes after `a`: some characters lie between them. -/
def Reaches (a b : Cursor) : Prop :=
  ∃ between : List Char, a.rest = between ++ b.rest ∧ b.offset = a.offset + between.length

theorem Reaches.refl (a : Cursor) : a.Reaches a := ⟨[], rfl, rfl⟩

theorem Reaches.trans {a b c : Cursor} (hab : a.Reaches b) (hbc : b.Reaches c) : a.Reaches c := by
  obtain ⟨s, hs, hsLength⟩ := hab
  obtain ⟨t, ht, htLength⟩ := hbc
  refine ⟨s ++ t, ?_, ?_⟩
  · rw [hs, ht, List.append_assoc]
  · rw [htLength, hsLength, List.length_append, Nat.add_assoc]

theorem Reaches.offset_le {a b : Cursor} (h : a.Reaches b) : a.offset ≤ b.offset := by
  obtain ⟨s, -, hLength⟩ := h
  omega

theorem Reaches.rest_shorter {a b : Cursor} (h : a.Reaches b) (moved : a.offset < b.offset) :
    b.rest.length < a.rest.length := by
  obtain ⟨s, hs, hLength⟩ := h
  have := congrArg List.length hs
  rw [List.length_append] at this
  omega

end Cursor

/-- What remains after exactly `n` characters, if there are that many. -/
def dropExactly? : Nat → List Char → Option (List Char)
  | 0, text => some text
  | _ + 1, [] => none
  | n + 1, _ :: text => dropExactly? n text

theorem dropExactly?_eq_some {n : Nat} {text rest : List Char} (h : dropExactly? n text = some rest) :
    text = text.take n ++ rest ∧ (text.take n).length = n := by
  induction n generalizing text with
  | zero =>
      cases h
      simp
  | succ n ih =>
      cases text with
      | nil => cases h
      | cons c text =>
          obtain ⟨hAppend, hLength⟩ := ih h
          refine ⟨?_, ?_⟩
          · rw [List.take_succ_cons, List.cons_append, ← hAppend]
          · rw [List.take_succ_cons, List.length_cons, hLength]

/-- The outcome of reading from `c`: a value and the cursor after it. -/
structure Step (α : Type) (c : Cursor) where
  value : α
  next : Cursor
  reaches : c.Reaches next

/-- Reads a value from a cursor, or refuses. -/
def Parser (α : Type) : Type := (c : Cursor) → Option (Step α c)

namespace Parser

variable {α β : Type}

/-- Reads nothing. -/
protected def pure (a : α) : Parser α := fun c => some ⟨a, c, .refl c⟩

/-- Reads one thing, then what its value asks for. -/
protected def bind (p : Parser α) (f : α → Parser β) : Parser β := fun c =>
  match p c with
  | none => none
  | some s =>
    match f s.value s.next with
    | none => none
    | some t => some ⟨t.value, t.next, s.reaches.trans t.reaches⟩

instance : Monad Parser where
  pure := Parser.pure
  bind := Parser.bind

/-- Refuses every text. -/
def refuse : Parser α := fun _ => none

/-- Reads with the second parser what the first refuses. -/
protected def orElse (p : Parser α) (q : Unit → Parser α) : Parser α := fun c =>
  match p c with
  | none => q () c
  | some s => some s

instance : OrElse (Parser α) := ⟨Parser.orElse⟩

/-- Reads with the first parser, and with the second one instead where the value read leaves a
doubt. -/
def reconsider (p : Parser α) (doubt : α → Parser Bool) (q : Parser α) : Parser α := fun c =>
  match p c with
  | none => none
  | some s =>
    match doubt s.value s.next with
    | some ⟨true, _, _⟩ => q c
    | _ => some s

/-- Refuses unless the condition holds. -/
def guard (condition : Bool) : Parser Unit := if condition then Parser.pure () else refuse

/-- The characters still to read; reads nothing. -/
def upcoming : Parser (List Char) := fun c => some ⟨c.rest, c, .refl c⟩

/-- How many characters have been read; reads nothing. -/
def offset : Parser Nat := fun c => some ⟨c.offset, c, .refl c⟩

/-- Reads exactly `n` characters. -/
def skip (n : Nat) : Parser Unit := fun c =>
  match h : dropExactly? n c.rest with
  | none => none
  | some rest =>
    some ⟨(), ⟨c.offset + n, rest⟩, ⟨c.rest.take n, (dropExactly?_eq_some h).1, by
      rw [(dropExactly?_eq_some h).2]⟩⟩

/-- Reads as many characters as a measure of the upcoming ones says. -/
def measured (measure : List Char → Option Nat) : Parser Unit := do
  match measure (← upcoming) with
  | none => refuse
  | some n => skip n

/-- What a parser would read here, without reading it. -/
def lookahead (p : Parser α) : Parser (Option α) := fun c =>
  some ⟨(p c).map Step.value, c, .refl c⟩

/-- Whether a parser would accept here, without reading. -/
def ahead (p : Parser α) : Parser Bool := fun c => some ⟨(p c).isSome, c, .refl c⟩

/-- Reads a value if it is there. -/
def optional (p : Parser α) : Parser (Option α) := fun c =>
  match p c with
  | none => some ⟨none, c, .refl c⟩
  | some s => some ⟨some s.value, s.next, s.reaches⟩

/-- Reads values until the parser refuses or reads nothing. -/
def many (p : Parser α) : Parser (List α) := fun c => some (go c)
where
  /-- The values from one cursor on. -/
  go (c : Cursor) : Step (List α) c :=
    match p c with
    | none => ⟨[], c, .refl c⟩
    | some s =>
      if moved : c.offset < s.next.offset then
        have := s.reaches.rest_shorter moved
        let t := go s.next
        ⟨s.value :: t.value, t.next, s.reaches.trans t.reaches⟩
      else ⟨[], c, .refl c⟩
  termination_by c.rest.length

/-- Extends a value by what the parser reads, until it refuses or reads nothing. -/
def extend (p : α → Parser α) (a : α) : Parser α := fun c => some (go a c)
where
  /-- The extensions of `a` from one cursor on. -/
  go (a : α) (c : Cursor) : Step α c :=
    match p a c with
    | none => ⟨a, c, .refl c⟩
    | some s =>
      if moved : c.offset < s.next.offset then
        have := s.reaches.rest_shorter moved
        let t := go s.value s.next
        ⟨t.value, t.next, s.reaches.trans t.reaches⟩
      else ⟨a, c, .refl c⟩
  termination_by c.rest.length

/-- The parser accepts from `c`, with value `a` and next cursor `d`. -/
def Reads (p : Parser α) (c : Cursor) (a : α) (d : Cursor) : Prop :=
  ∃ h : c.Reaches d, p c = some ⟨a, d, h⟩

end Parser

end LocaleCatalogue.Script
