import LocaleCatalogue.Data.Json.Writing
import LocaleCatalogue.Proofs.Json.Standard
import LocaleCatalogue.Proofs.Text.Decimal
import LocaleCatalogue.Proofs.Text.Hexadecimal
import LocaleCatalogue.Proofs.Text.Pieces

/-!
# What the writer of JSON prints denotes

The text printed for a value is in ASCII and denotes the value. Strings are the reason why that is not
for every value: a high surrogate and a low one behind it are printed as two escapes, and these stand
for one code point.
-/

namespace LocaleCatalogue.Json

open Written (Gap Digits decimalDigits hexDigits hexValue isReserved)

/-- A text that is some characters in ASCII with a property. -/
def Prints (t : Text) (property : List Char → Prop) : Prop :=
  ∃ cs, t = Text.ofChars cs ∧ (∀ c ∈ cs, c.toNat < 0x80) ∧ property cs

section Prints

variable {s t : Text} {p q r : List Char → Prop}

theorem Prints.append (hs : Prints s p) (ht : Prints t q) (h : ∀ a b, p a → q b → r (a ++ b)) :
    Prints (s ++ t) r := by
  obtain ⟨a, rfl, hascii, hp⟩ := hs
  obtain ⟨b, rfl, hascii', hq⟩ := ht
  refine ⟨a ++ b, (Text.ofChars_append a b).symm, ?_, h a b hp hq⟩
  intro c hc
  rcases List.mem_append.mp hc with hc | hc
  · exact hascii c hc
  · exact hascii' c hc

theorem Prints.imp (hs : Prints s p) (h : ∀ cs, p cs → q cs) : Prints s q := by
  obtain ⟨cs, hcs, hascii, hp⟩ := hs
  exact ⟨cs, hcs, hascii, h cs hp⟩

theorem prints_chars (cs : List Char) (hascii : ∀ c ∈ cs, c.toNat < 0x80) (h : p cs) :
    Prints (Text.ofChars cs) p := ⟨cs, rfl, hascii, h⟩

end Prints

/-! ## Strings -/

/-- A surrogate at the beginning of a text is one at the beginning of its signs. -/
theorem Spells.low_head {signs : List Sign} {t : Text} (h : Spells signs t) {next : Sign}
    (hnext : next ∈ signs.head?) (hlow : next.value.IsLow) : next.value ∈ t.head? := by
  cases h with
  | nil => cases hnext
  | single rest alone =>
      obtain rfl := Option.some.inj hnext
      rfl
  | pair rest halves =>
      obtain rfl := Option.some.inj hnext
      exact absurd hlow halves.1.not_isLow

/-- One more sign in front stands for one more code point, unless it makes a pair with the next. -/
theorem Spells.cons {s : Sign} {signs : List Sign} {t : Text} (h : Spells signs t)
    (hjoin : ∀ next ∈ t.head?, ¬ (s.value.IsHigh ∧ next.IsLow)) : Spells (s :: signs) (s.value :: t) :=
  .single h fun next hnext hpair => hjoin next.value (h.low_head hnext hpair.2) hpair

theorem prints_unitEscape {n : Nat} (hn : n < 0x10000) {p : List Char → Prop}
    (h : ∀ digits : List (Char × Nat), (∀ d ∈ digits, d ∈ hexDigits) → digits.length = 4 →
      hexValue digits = n → p ('\\' :: 'u' :: digits.map Prod.fst)) : Prints (unitEscape n) p := by
  obtain ⟨digits, known, four, spells, htext⟩ := Quoted.exists_hex (by decide : 0 < 4) hn
  have hdigits : ∀ d ∈ hexDigits, d.1.toNat < 0x80 := by decide
  refine ⟨_, ?_, ?_, h digits known four spells⟩
  · rw [unitEscape, htext]
    rfl
  · simp only [List.mem_cons, List.mem_map]
    rintro c (rfl | rfl | ⟨d, hd, rfl⟩)
    · decide
    · decide
    · exact hdigits d (known d hd)

/-- The characters of signs that put a code point in front of what other signs spell. -/
def Puts (c : CodePoint) (cs : List Char) : Prop :=
  ∃ signs : List Sign, cs = signs.flatMap Sign.text ∧ ∀ {rest : List Sign} {t : Text}, Spells rest t →
    (∀ next ∈ t.head?, ¬ (c.IsHigh ∧ next.IsLow)) → Spells (signs ++ rest) (c :: t)

theorem puts_sign (s : Sign) : Puts s.value s.text :=
  ⟨[s], by simp, fun hrest hjoin => hrest.cons hjoin⟩

theorem prints_short {letter c : Char} (known : (letter, c) ∈ letters) :
    Prints [0x5C, CodePoint.ofChar letter] (Puts (CodePoint.ofChar c)) := by
  have hascii : ∀ l ∈ letters, l.1.toNat < 0x80 := by decide
  refine ⟨['\\', letter], rfl, ?_, puts_sign (.short letter c known)⟩
  simp only [List.mem_cons, List.not_mem_nil, or_false]
  rintro _ (rfl | rfl)
  · decide
  · exact hascii _ known

theorem prints_plain {c : CodePoint} (hquote : c ≠ 0x22) (hslash : c ≠ 0x5C) (hlow : 0x20 ≤ c.val)
    (hhigh : c.val ≤ 0x7E) : Prints [c] (Puts c) := by
  obtain ⟨d, rfl⟩ := CodePoint.exists_char (c := c) (fun h => by have := h.1; omega)
    (fun h => by have := h.1; omega)
  have hvalue : (CodePoint.ofChar d).val = d.toNat := rfl
  have hfree : isReserved d = false := by
    have hquote : d ≠ '\x22' := by
      rintro rfl
      exact hquote rfl
    have hslash : d ≠ '\\' := by
      rintro rfl
      exact hslash rfl
    simp only [isReserved, Bool.or_eq_false_iff, decide_eq_false_iff_not]
    exact ⟨⟨hquote, hslash⟩, by omega⟩
  refine ⟨[d], rfl, ?_, puts_sign (.plain d hfree)⟩
  intro c hc
  obtain rfl := List.mem_singleton.mp hc
  omega

/-- A code point beyond the first plane is printed as the two halves of its pair. -/
theorem prints_pair {c : CodePoint} (hc : 0x10000 ≤ c.val) :
    Prints (unitEscape (0xD800 + (c.val - 0x10000) / 0x400)
      ++ unitEscape (0xDC00 + (c.val - 0x10000) % 0x400)) (Puts c) := by
  have hlt := c.isLt
  have hdiv : (c.val - 0x10000) / 0x400 < 0x400 := by omega
  have hmod : (c.val - 0x10000) % 0x400 < 0x400 := Nat.mod_lt _ (by decide)
  let high : CodePoint := ⟨0xD800 + (c.val - 0x10000) / 0x400, by omega⟩
  let low : CodePoint := ⟨0xDC00 + (c.val - 0x10000) % 0x400, by omega⟩
  have halves : CodePoint.IsPair high low c := by
    have hjoin := Nat.div_add_mod' (c.val - 0x10000) 0x400
    refine ⟨⟨?_, ?_⟩, ⟨?_, ?_⟩, ?_⟩ <;> simp only [high, low] <;> omega
  have hunit : ∀ unit : CodePoint, unit.val < 0x10000 → Prints (unitEscape unit.val) fun cs =>
      ∃ s : Sign, cs = s.text ∧ s.value = unit := fun unit hunit =>
    prints_unitEscape hunit fun digits known four spells =>
      ⟨.unit digits unit known four spells, rfl, rfl⟩
  refine (hunit high (by simp only [high]; omega)).append (hunit low (by simp only [low]; omega)) ?_
  rintro _ _ ⟨first, rfl, hfirst⟩ ⟨second, rfl, hsecond⟩
  exact ⟨[first, second], by simp, fun hrest _ => .pair hrest (by rwa [hfirst, hsecond])⟩

/-- A code point is printed as signs that stand for it. -/
theorem prints_escape (c : CodePoint) : Prints (escape c) (Puts c) := by
  unfold escape
  split
  next hmark =>
    simp only [Bool.or_eq_true, decide_eq_true_eq] at hmark
    rcases hmark with rfl | rfl
    · exact @prints_short '\x22' '\x22' (by decide)
    · exact @prints_short '\\' '\\' (by decide)
  next hmark =>
  split
  next h => exact h ▸ @prints_short 'b' '\x08' (by decide)
  split
  next h => exact h ▸ @prints_short 't' '\t' (by decide)
  split
  next h => exact h ▸ @prints_short 'n' '\n' (by decide)
  split
  next h => exact h ▸ @prints_short 'f' '\x0C' (by decide)
  split
  next h => exact h ▸ @prints_short 'r' '\r' (by decide)
  split
  next hplain =>
    simp only [Bool.and_eq_true, decide_eq_true_eq] at hplain
    simp only [Bool.or_eq_true, decide_eq_true_eq, not_or] at hmark
    exact prints_plain hmark.1 hmark.2 hplain.1 hplain.2
  split
  next hsmall =>
    exact prints_unitEscape hsmall fun digits known four spells =>
      puts_sign (.unit digits c known four spells)
  next hlarge => exact prints_pair (by omega)

/-- A text in which no two code points are halves of a pair is printed as a string that spells it. -/
theorem prints_string {t : Text} (h : t.Unpaired) :
    Prints (string t) fun cs => ∃ signs, cs = quotedSigns signs ∧ Spells signs t := by
  have hsigns : Prints (t.flatMap escape) fun cs =>
      ∃ signs : List Sign, cs = signs.flatMap Sign.text ∧ Spells signs t := by
    induction t with
    | nil => exact ⟨[], rfl, by simp, [], rfl, .nil⟩
    | cons c t ih =>
        obtain ⟨hjoin, hrest⟩ := List.isChain_cons.mp h
        refine (prints_escape c).append (ih hrest) ?_
        rintro _ _ ⟨first, rfl, hputs⟩ ⟨signs, rfl, hspells⟩
        exact ⟨first ++ signs, List.flatMap_append.symm, hputs hspells hjoin⟩
  have hquote : ∀ p : List Char → Prop, p ['\x22'] → Prints [0x22] p := fun p hp =>
    prints_chars ['\x22'] (by simp) hp
  have hopened := (hquote (· = ['\x22']) rfl).append hsigns
    (r := fun cs => ∃ signs : List Sign, cs = '\x22' :: signs.flatMap Sign.text ∧ Spells signs t) (by
      rintro _ _ rfl ⟨signs, rfl, hspells⟩
      exact ⟨signs, rfl, hspells⟩)
  refine hopened.append (hquote (· = ['\x22']) rfl) ?_
  rintro _ _ ⟨signs, rfl, hspells⟩ rfl
  exact ⟨signs, rfl, hspells⟩

/-! ## Numbers -/

/-- A natural number is printed in digits that spell it, without a needless zero in front. -/
theorem prints_natural (n : Nat) : Prints (Text.ofNat n) fun cs => ∃ d : Digits, cs = d.text ∧
    valueOf d = n ∧ (d.first = '0' → d.more = []) ∧ (0 < n → d.first ≠ '0') := by
  have hdigit : ∀ c : Char, c.isDigit = true → c ∈ decimalDigits := by
    intro c hc
    obtain ⟨hlow, hhigh⟩ : 0x30 ≤ c.toNat ∧ c.toNat ≤ 0x39 := Char.isDigit_iff_toNat.mp hc
    have hchar : ∀ k : Fin 10, Char.ofNat (0x30 + k) ∈ decimalDigits := by decide
    have hmem := hchar ⟨c.toNat - 0x30, by omega⟩
    rwa [Fin.val_mk, Nat.add_sub_cancel' hlow, Char.ofNat_toNat] at hmem
  obtain ⟨first, more, htext⟩ := List.exists_cons_of_ne_nil (Nat.toDigits_ne_nil (n := n) (b := 10))
  have hmem : ∀ c ∈ first :: more, c ∈ decimalDigits := by
    intro c hc
    rw [← htext] at hc
    exact hdigit c (Nat.isDigit_of_mem_toDigits (by decide) (by decide) hc)
  have hascii : ∀ c ∈ decimalDigits, c.toNat < 0x80 := List.all_iff_forall_prop.mp (by decide)
  have hvalue := Nat.ofDigitChars_toDigits (b := 10) (n := n) (by decide) (by decide)
  rw [htext] at hvalue
  have hzero : 0 < n → first ≠ '0' := by
    rintro hn rfl
    exact Text.head?_toDigits hn (by rw [htext]; rfl)
  refine ⟨first :: more, ?_, fun c hc => hascii c (hmem c hc), ⟨first, more, hmem⟩, rfl, hvalue, ?_,
    hzero⟩
  · rw [Text.ofNat_eq_map, htext]
    rfl
  · intro hfirst
    obtain rfl : n = 0 := Nat.eq_zero_of_not_pos fun hn => hzero hn hfirst
    exact (List.cons.inj htext).2.symm

/-! ## Values -/

/-- The values that can be read back from what is printed for them. -/
inductive Faithful : Value → Prop where
  | null : Faithful .null
  | bool (b : Bool) : Faithful (.bool b)
  | int (n : Int) : Faithful (.int n)
  | text {t : Text} (unpaired : t.Unpaired) : Faithful (.text t)
  | list {vs : List Value} (items : ∀ v ∈ vs, Faithful v) : Faithful (.list vs)
  | table {entries : List (Text × Value)} (names : ∀ e ∈ entries, e.1.Unpaired)
      (once : (entries.map Prod.fst).Nodup) (values : ∀ e ∈ entries, Faithful e.2) :
      Faithful (.table entries)

theorem mem_spaces_of_mem_nil : ∀ c ∈ ([] : List Char), c ∈ Written.spaces := nofun

/-- No blank at all. -/
def noGap : Gap := ⟨[], mem_spaces_of_mem_nil⟩

/-- A single space. -/
def space : Gap := ⟨[' '], List.all_iff_forall_prop.mp (by decide)⟩

theorem prints_lineEnd (level : Nat) :
    Prints (lineEnd level) fun cs => ∃ gap : Gap, cs = gap.text := by
  have hspaces : ∀ c ∈ '\n' :: List.replicate (2 * level) ' ', c = '\n' ∨ c = ' ' := fun c hc =>
    (List.mem_cons.mp hc).imp_right List.eq_of_mem_replicate
  refine ⟨'\n' :: List.replicate (2 * level) ' ', ?_, ?_, ⟨_, ?_⟩, rfl⟩
  · rw [lineEnd, Text.ofChars, List.map_cons, List.map_replicate]
    rfl
  · intro c hc
    rcases hspaces c hc with rfl | rfl <;> decide
  · intro c hc
    rcases hspaces c hc with rfl | rfl <;> decide

/-- Rows between line ends and behind commas, where one row and all rows denote what they say. -/
theorem prints_rows {α : Type} {one : List Char → α → Prop} {all : List Char → List α → Prop}
    (hlast : ∀ (before after : Gap) {cs : List Char} {a : α}, one cs a →
      all (before.text ++ cs ++ after.text) [a])
    (hmore : ∀ (before : Gap) {cs more : List Char} {a : α} {as : List α}, one cs a → all more as →
      all (before.text ++ cs ++ ',' :: more) (a :: as))
    {level : Nat} {written : List Text} {as : List α}
    (h : List.Forall₂ (fun t a => Prints t (one · a)) written as) (hne : written ≠ []) :
    Prints (lineEnd (level + 1) ++ Text.join (0x2C :: lineEnd (level + 1)) written ++ lineEnd level)
      (all · as) := by
  induction h with
  | nil => exact absurd rfl hne
  | @cons t a written as row rest ih =>
      have hopened := (prints_lineEnd (level + 1)).append row
        (r := fun cs => ∃ (before : Gap) (ds : List Char), cs = before.text ++ ds ∧ one ds a) (by
          rintro _ ds ⟨before, rfl⟩ hrow
          exact ⟨before, ds, rfl, hrow⟩)
      cases written with
      | nil =>
          obtain rfl := List.forall₂_nil_left_iff.mp rest
          refine hopened.append (prints_lineEnd level) ?_
          rintro _ _ ⟨before, ds, rfl, hrow⟩ ⟨after, rfl⟩
          exact hlast before after hrow
      | cons next written =>
          have hcomma : Prints [0x2C] (· = [',']) := prints_chars [','] (by simp) rfl
          have hrest := hcomma.append (ih (by simp)) (r := fun cs => ∃ ds, cs = ',' :: ds ∧ all ds as) (by
            rintro _ ds rfl hrows
            exact ⟨ds, rfl, hrows⟩)
          have hrows := hopened.append hrest (r := (all · (a :: as))) (by
            rintro _ _ ⟨before, ds, rfl, hrow⟩ ⟨more, rfl, hrows⟩
            exact hmore before hrow hrows)
          simpa [Text.join, List.append_assoc] using hrows

/-- Rows between an opening and a closing character. -/
theorem prints_enclose {p q : List Char → Prop} {opening closing : Char}
    (hopening : opening.toNat < 0x80) (hclosing : closing.toNat < 0x80) {level : Nat}
    {written : List Text} (hempty : written = [] → q [opening, closing])
    (hrows : written ≠ [] → Prints (lineEnd (level + 1)
      ++ Text.join (0x2C :: lineEnd (level + 1)) written ++ lineEnd level) p)
    (h : ∀ cs, p cs → q (opening :: cs ++ [closing])) :
    Prints (enclose level (CodePoint.ofChar opening) (CodePoint.ofChar closing) written) q := by
  cases written with
  | nil => exact prints_chars [opening, closing] (by simp [hopening, hclosing]) (hempty rfl)
  | cons t written =>
      have hopened : Prints [CodePoint.ofChar opening] (· = [opening]) :=
        prints_chars [opening] (by simpa using hopening) rfl
      have hclosed : Prints [CodePoint.ofChar closing] (· = [closing]) :=
        prints_chars [closing] (by simpa using hclosing) rfl
      have hinner := (hrows (by simp)).append hclosed
        (r := fun cs => ∃ ds, cs = ds ++ [closing] ∧ p ds) (by
          rintro ds _ hds rfl
          exact ⟨ds, rfl, hds⟩)
      have hall := hopened.append hinner (r := q) (by
        rintro _ _ rfl ⟨ds, rfl, hds⟩
        exact h ds hds)
      simpa [enclose, List.append_assoc] using hall

theorem prints_word {word : String} {v : Value} (known : (word, v) ∈ constants) :
    Prints (Text.ofString word) (Denotes · v) := by
  have hascii : ∀ e ∈ constants, ∀ c ∈ e.1.toList, c.toNat < 0x80 := by
    simp only [constants, List.mem_cons, List.not_mem_nil, or_false]
    rintro _ (rfl | rfl | rfl) <;> exact List.all_iff_forall_prop.mp (by decide)
  exact prints_chars word.toList (hascii _ known) (.constant known)

theorem prints_int (n : Int) : Prints (Text.ofInt n) (Denotes · (.int n)) := by
  cases n with
  | ofNat n =>
      refine (prints_natural n).imp ?_
      rintro _ ⟨d, rfl, rfl, hplain, -⟩
      exact .natural d hplain
  | negSucc n =>
      have hminus : Prints (Text.ofString "-") (· = ['-']) := prints_chars ['-'] (List.all_iff_forall_prop.mp (by decide)) rfl
      refine hminus.append (prints_natural (n + 1)) ?_
      rintro _ _ rfl ⟨d, rfl, hvalue, -, hplain⟩
      have hdenotes := Denotes.negative d (hplain (Nat.succ_pos n))
      rwa [hvalue] at hdenotes

/-- The characters of a name and its value without blanks around them. -/
def NamesValue (cs : List Char) (e : Text × Value) : Prop :=
  ∃ (signs : List Sign) (ds : List Char), cs = quotedSigns signs ++ ':' :: ' ' :: ds ∧
    Spells signs e.1 ∧ Denotes ds e.2

theorem NamesValue.member {cs : List Char} {e : Text × Value} (h : NamesValue cs e)
    (before after : Gap) : DenotesMember (before.text ++ cs ++ after.text) e := by
  obtain ⟨signs, ds, rfl, hspells, hvalue⟩ := h
  have hmember := DenotesMember.mk before hspells noGap space hvalue after
  simpa [noGap, space] using hmember

theorem prints_member {name : Text} {v : Value} {t : Text} (hname : name.Unpaired)
    (hvalue : Prints t (Denotes · v)) :
    Prints (string name ++ Text.ofString ": " ++ t) (NamesValue · (name, v)) := by
  have hcolon : Prints (Text.ofString ": ") (· = [':', ' ']) :=
    prints_chars [':', ' '] (List.all_iff_forall_prop.mp (by decide)) rfl
  have hbefore := (prints_string hname).append hcolon
    (r := fun cs => ∃ signs, cs = quotedSigns signs ++ [':', ' '] ∧ Spells signs name) (by
      rintro _ _ ⟨signs, rfl, hspells⟩ rfl
      exact ⟨signs, rfl, hspells⟩)
  refine hbefore.append hvalue ?_
  rintro _ ds ⟨signs, rfl, hspells⟩ hdenotes
  exact ⟨signs, ds, by simp, hspells, hdenotes⟩

/-- What is printed for a value is in ASCII and denotes the value, at every level of indentation. -/
theorem prints_writeAt {v : Value} (h : Faithful v) (level : Nat) :
    Prints (writeAt level v) (Denotes · v) := by
  induction h generalizing level with
  | null => exact prints_word (by simp [constants])
  | bool b => cases b <;> exact prints_word (by simp [constants])
  | int n => exact prints_int n
  | text unpaired =>
      refine (prints_string unpaired).imp ?_
      rintro _ ⟨signs, rfl, hspells⟩
      exact .text hspells
  | @list vs items ih =>
      have hrows : List.Forall₂ (fun t v => Prints t (Denotes · v)) (writeItems (level + 1) vs) vs := by
        clear items
        induction vs with
        | nil => exact .nil
        | cons v vs ihvs =>
            exact .cons (ih v List.mem_cons_self (level + 1))
              (ihvs fun w hw => ih w (List.mem_cons_of_mem v hw))
      refine @prints_enclose (DenoteItems · vs) _ '[' ']' (by decide) (by decide) _ _ ?_ ?_ ?_
      · intro hempty
        rw [hempty, List.forall₂_nil_left_iff] at hrows
        exact hrows ▸ Denotes.emptyList noGap
      · exact prints_rows (fun before after _ _ hitem => .last before hitem after)
          (fun before cs more v vs hitem hitems => by
            simpa [noGap] using DenoteItems.more before hitem noGap hitems) hrows
      · exact fun cs hitems => .list hitems
  | @table entries names once values ih =>
      have hrows : List.Forall₂ (fun t e => Prints t (NamesValue · e))
          (writeMembers (level + 1) entries) entries := by
        clear once values
        induction entries with
        | nil => exact .nil
        | cons e entries ihentries =>
            exact .cons (prints_member (names e List.mem_cons_self) (ih e List.mem_cons_self (level + 1)))
              (ihentries (fun d hd => names d (List.mem_cons_of_mem e hd))
                fun d hd => ih d (List.mem_cons_of_mem e hd))
      refine @prints_enclose (DenoteMembers · entries) _ '\x7b' '\x7d' (by decide) (by decide) _ _ ?_ ?_ ?_
      · intro hempty
        rw [hempty, List.forall₂_nil_left_iff] at hrows
        exact hrows ▸ Denotes.emptyTable noGap
      · exact prints_rows (fun before after _ _ hrow => .last (hrow.member before after))
          (fun before cs more e entries hrow hmembers => by
            simpa [noGap] using DenoteMembers.more (hrow.member before noGap) hmembers) hrows
      · exact fun cs hmembers => .table hmembers once

/-- What is printed for a value is in ASCII and denotes the value. -/
theorem prints_write {v : Value} (h : Faithful v) : Prints (write v) (Denotes · v) :=
  prints_writeAt h 0

end LocaleCatalogue.Json
