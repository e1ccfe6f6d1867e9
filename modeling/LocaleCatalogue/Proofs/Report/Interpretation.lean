import Mathlib.Data.List.Infix
import LocaleCatalogue.Report.Console

/-!
# How a console interprets markup

What is assumed of a console, and nothing else about it. Ordinary text is shown as it is, with blanks
in the place of tabs. The name of an emoji between colons is shown as its sign. A tag that opens a style
is not shown, and neither is the one that closes it; a tag that closes a style where none is open makes
the text unprintable. Texts with other brackets, backslashes or controls are left open.
-/

namespace LocaleCatalogue.Console

/-- A code point that stands for itself: a tab, or one that is no control, no half of a pair, no opening
bracket and no backslash. -/
def IsOrdinary (c : CodePoint) : Prop :=
  c = 0x09 ∨ 0x20 ≤ c.val ∧ ¬ (0x7F ≤ c.val ∧ c.val ≤ 0x9F) ∧ c.isSurrogate = false ∧
    c ≠ 0x5B ∧ c ≠ 0x5C

instance (c : CodePoint) : Decidable (IsOrdinary c) := inferInstanceAs (Decidable (_ ∨ _))

/-- A sign that is seen. -/
def IsVisible (c : CodePoint) : Prop := 0x21 ≤ c.val ∧ c.val ≤ 0x7E

/-- A small letter. -/
def isSmall (c : CodePoint) : Bool := 0x61 ≤ c.val && c.val ≤ 0x7A

/-- The name of a style: small letters and blanks, a letter first. -/
def isStyle (style : Text) : Bool :=
  style.head?.any isSmall && style.all fun c => isSmall c || c = 0x20

/-- The tag that opens a style. -/
def openingTag (style : Text) : Text := 0x5B :: (style ++ [0x5D])

/-- The tag that closes a style. -/
def closingTag (style : Text) : Text := 0x5B :: 0x2F :: (style ++ [0x5D])

section

variable (emoji : Text → Option Text)

/-- Ordinary text in which no name of an emoji stands between two colons. -/
structure Inert (t : Text) : Prop where
  ordinary : ∀ c ∈ t, IsOrdinary c
  unnamed : ∀ body : Text, 0x3A ∉ body → 0x3A :: body ++ [0x3A] <:+: t → emoji body = none

/-- What text without tags is read as. -/
inductive Reads : Text → Text → Prop
  | inert {t : Text} : Inert emoji t → Reads t t
  | named {before name sign rest shown : Text} :
      (∀ c ∈ before, IsOrdinary c ∧ c ≠ 0x3A) → (∀ c ∈ name, IsOrdinary c ∧ c ≠ 0x3A) →
      emoji name = some sign → (∀ c ∈ sign, 0x20 ≤ c.val) → Reads rest shown →
      Reads (before ++ 0x3A :: (name ++ 0x3A :: rest)) (before ++ (sign ++ shown))

/-- What is shown of a text with markup where some styles are open; nothing if it is unprintable. -/
inductive Shows : (styles : List Text) → Text → Option Text → Prop
  | done {styles : List Text} {t shown : Text} : Reads emoji t shown → Shows styles t (some shown)
  | opened {styles : List Text} {t shown style rest : Text} {more : Option Text} :
      Reads emoji t shown → isStyle style = true → Shows (style :: styles) rest more →
      Shows styles (t ++ (openingTag style ++ rest)) (more.map (shown ++ ·))
  | closed {styles : List Text} {t shown style rest : Text} {more : Option Text} :
      Reads emoji t shown → isStyle style = true → Shows styles rest more →
      Shows (style :: styles) (t ++ (closingTag style ++ rest)) (more.map (shown ++ ·))
  | unopened {t shown style rest : Text} :
      Reads emoji t shown → isStyle style = true → Shows [] (t ++ (closingTag style ++ rest)) none

end

/-- Blanks in the place of tabs, at least one for each. -/
inductive Expands : Text → Text → Prop
  | nil : Expands [] []
  | tab {t line : Text} (blanks : Nat) :
      Expands t line → Expands (0x09 :: t) (List.replicate (blanks + 1) 0x20 ++ line)
  | other {c : CodePoint} {t line : Text} : c ≠ 0x09 → Expands t line → Expands (c :: t) (c :: line)

/-- A console interprets markup, with these signs for the names of emoji. Blanks at the end of a line
are left open. -/
structure Interprets (console : Console) (emoji : Text → Option Text) : Prop where
  shows : ∀ t shown, Shows emoji [] t (some shown) → (∃ c, shown.getLast? = some c ∧ IsVisible c) →
    ∃ line, Expands shown line ∧ console.printUnbroken t = some (line ++ [0x0A])
  refuses : ∀ t, Shows emoji [] t none → console.printUnbroken t = none

variable {emoji : Text → Option Text} {t shown before after line : Text} {c : CodePoint}

/-! ### Ordinary text -/

/-- What is seen is ordinary, save an opening bracket and a backslash. -/
theorem IsVisible.isOrdinary (h : IsVisible c) (hopening : c ≠ 0x5B) (hbackslash : c ≠ 0x5C) : IsOrdinary c := by
  obtain ⟨hlow, hhigh⟩ := h
  refine .inr ⟨by omega, by omega, ?_, hopening, hbackslash⟩
  simp only [CodePoint.isSurrogate, Bool.and_eq_false_iff, decide_eq_false_iff_not]
  omega

/-- Ordinary text without colons names no emoji. -/
theorem inert_of_ordinary (h : ∀ c ∈ t, IsOrdinary c) (hcolon : 0x3A ∉ t) : Inert emoji t where
  ordinary := h
  unnamed _ _ hin := absurd (hin.mem List.mem_cons_self) hcolon

theorem IsOrdinary.not_opening (h : IsOrdinary c) : c ≠ 0x5B ∧ c ≠ 0x5C := by
  rcases h with rfl | ⟨-, -, -, hopening, hbackslash⟩
  · decide
  · exact ⟨hopening, hbackslash⟩

/-! ### Controls -/

/-- Nothing that is shown is a control, save a tab. -/
theorem IsOrdinary.tab_or_le (h : IsOrdinary c) : c = 0x09 ∨ 0x20 ≤ c.val := h.imp_right And.left

theorem Reads.not_opening (h : Reads emoji t shown) (hc : c ∈ t) : c ≠ 0x5B ∧ c ≠ 0x5C := by
  induction h with
  | inert hinert => exact (hinert.ordinary c hc).not_opening
  | named hbefore hname _ _ _ ih =>
      simp only [List.mem_append, List.mem_cons] at hc
      rcases hc with hc | rfl | hc | rfl | hc
      · exact (hbefore c hc).1.not_opening
      · decide
      · exact (hname c hc).1.not_opening
      · decide
      · exact ih hc

theorem Reads.tab_or_le (h : Reads emoji t shown) (hc : c ∈ shown) : c = 0x09 ∨ 0x20 ≤ c.val := by
  induction h with
  | inert hinert => exact (hinert.ordinary c hc).tab_or_le
  | named hbefore _ _ hsign _ ih =>
      rcases List.mem_append.mp hc with hc | hc
      · exact (hbefore c hc).1.tab_or_le
      · exact (List.mem_append.mp hc).elim (fun hc => .inr (hsign c hc)) ih

theorem Shows.tab_or_le {styles : List Text} {more : Option Text} (h : Shows emoji styles t more)
    (hshown : more = some shown) (hc : c ∈ shown) : c = 0x09 ∨ 0x20 ≤ c.val := by
  induction h generalizing shown with
  | done hreads => exact hreads.tab_or_le (Option.some_inj.mp hshown ▸ hc)
  | opened hreads _ _ ih | closed hreads _ _ ih =>
      obtain ⟨rest, hrest, rfl⟩ := Option.map_eq_some_iff.mp hshown
      exact (List.mem_append.mp hc).elim hreads.tab_or_le (ih hrest)
  | unopened _ _ => cases hshown

/-! ### Tabs -/

theorem Inert.of_infix {s : Text} (h : Inert emoji t) (hs : s <:+: t) : Inert emoji s where
  ordinary c hc := h.ordinary c (hs.mem hc)
  unnamed body hbody hin := h.unnamed body hbody (hin.trans hs)

theorem Inert.cons_tab (h : Inert emoji t) : Inert emoji (0x09 :: t) where
  ordinary := List.forall_mem_cons.mpr ⟨.inl rfl, h.ordinary⟩
  unnamed body hbody hin := by
    rcases List.infix_cons_iff.mp hin with hfirst | hin
    · exact absurd (List.cons_prefix_cons.mp hfirst).1 (by decide)
    · exact h.unnamed body hbody hin

theorem Reads.cons_tab (h : Reads emoji t shown) : Reads emoji (0x09 :: t) (0x09 :: shown) := by
  cases h with
  | inert hinert => exact .inert hinert.cons_tab
  | named hbefore hname hemoji hsign hrest =>
      have htab : IsOrdinary 0x09 ∧ (0x09 : CodePoint) ≠ 0x3A := ⟨.inl rfl, by decide⟩
      exact .named (List.forall_mem_cons.mpr ⟨htab, hbefore⟩) hname hemoji hsign hrest

/-- A tab before a text belongs to its first stretch. -/
theorem Shows.cons_tab {shown : Option Text} (h : Shows emoji [] t shown) :
    Shows emoji [] (0x09 :: t) (shown.map (0x09 :: ·)) := by
  cases h with
  | done hreads => exact .done hreads.cons_tab
  | @opened _ t shown style rest more hreads hstyle hrest =>
      have hopened := Shows.opened hreads.cons_tab hstyle hrest
      rwa [Option.map_map]
  | unopened hreads hstyle => exact .unopened hreads.cons_tab hstyle

/-- A tab between texts without tabs comes to some blanks. -/
theorem Expands.eq_of_tab (h : Expands (before ++ 0x09 :: after) line) (hbefore : 0x09 ∉ before)
    (hafter : 0x09 ∉ after) :
    ∃ blanks : Nat, line = before ++ (List.replicate (blanks + 1) 0x20 ++ after) := by
  have hsame {t line : Text} (ht : 0x09 ∉ t) (h : Expands t line) : line = t := by
    induction h with
    | nil => rfl
    | tab blanks _ _ => exact absurd List.mem_cons_self ht
    | other _ _ ih => rw [ih fun hmem => ht (List.mem_cons_of_mem _ hmem)]
  induction before generalizing line with
  | nil =>
      cases h with
      | tab blanks hrest => exact ⟨blanks, by rw [hsame hafter hrest, List.nil_append]⟩
      | other hne _ => exact absurd rfl hne
  | cons c before ih =>
      rw [List.mem_cons, not_or] at hbefore
      rw [List.cons_append] at h
      cases h with
      | tab _ _ => exact absurd rfl hbefore.1
      | other _ hrest =>
          obtain ⟨blanks, rfl⟩ := ih hrest hbefore.2
          exact ⟨blanks, rfl⟩

/-! ### Ends of texts -/

/-- The end of a text stays its end, unless it is a tab. -/
theorem Expands.getLast?_eq (h : Expands t line) (hlast : t.getLast? = some c) (hc : c ≠ 0x09) :
    line.getLast? = some c := by
  induction h with
  | nil => exact hlast
  | @tab t _ _ _ ih =>
      cases t with
      | nil => exact absurd (Option.some_inj.mp hlast).symm hc
      | cons _ _ =>
          rw [List.getLast?_cons_cons] at hlast
          rw [List.getLast?_append, ih hlast, Option.some_or]
  | @other _ t _ _ hrest ih =>
      cases t with
      | nil =>
          cases hrest
          exact hlast
      | cons _ _ =>
          rw [List.getLast?_cons_cons] at hlast
          rw [List.getLast?_cons, ih hlast, Option.getD_some]

/-- The end of a text stays its end, unless it may end a name. -/
theorem Reads.getLast?_eq (h : Reads emoji t shown) (hlast : t.getLast? = some c) (hc : c ≠ 0x3A) :
    shown.getLast? = some c := by
  induction h with
  | inert _ => exact hlast
  | @named before name sign rest shown _ _ _ _ _ ih =>
      have hsplit : before ++ 0x3A :: (name ++ 0x3A :: rest) = (before ++ 0x3A :: (name ++ [0x3A])) ++ rest := by
        simp
      have hrest : rest ≠ [] := by
        rintro rfl
        rw [hsplit, List.append_nil, List.getLast?_append_of_ne_nil _ (List.cons_ne_nil _ _),
          ← List.cons_append, List.getLast?_concat] at hlast
        exact hc (Option.some_inj.mp hlast).symm
      rw [hsplit, List.getLast?_append_of_ne_nil _ hrest] at hlast
      have hshown := ih hlast
      have hne : shown ≠ [] := by
        rintro rfl
        cases hshown
      rwa [← List.append_assoc, List.getLast?_append_of_ne_nil _ hne]

/-- The end of a text with markup stays its end, unless it may end a name or a tag. -/
theorem Shows.getLast?_eq {styles : List Text} {shown : Option Text} (h : Shows emoji styles t shown)
    (hlast : t.getLast? = some c) (hcolon : c ≠ 0x3A) (hbracket : c ≠ 0x5D) :
    ∀ s ∈ shown, s.getLast? = some c := by
  have hbehind {t tag rest : Text} (hlast : (t ++ (tag ++ [0x5D] ++ rest)).getLast? = some c) :
      rest.getLast? = some c := by
    have hrest : rest ≠ [] := by
      rintro rfl
      rw [List.append_nil, ← List.append_assoc, List.getLast?_concat] at hlast
      exact hbracket (Option.some_inj.mp hlast).symm
    rwa [← List.append_assoc, List.getLast?_append_of_ne_nil _ hrest] at hlast
  have hmore {before : Text} {more : Option Text} (ih : ∀ s ∈ more, s.getLast? = some c) :
      ∀ s ∈ more.map (before ++ ·), s.getLast? = some c := by
    intro s hs
    obtain ⟨rest, hrest, rfl⟩ := Option.map_eq_some_iff.mp hs
    have hend := ih rest hrest
    have hne : rest ≠ [] := by
      rintro rfl
      cases hend
    rwa [List.getLast?_append_of_ne_nil _ hne]
  induction h with
  | done hreads =>
      rintro s hs
      cases Option.mem_some.mp hs
      exact hreads.getLast?_eq hlast hcolon
  | @opened _ t _ style rest _ _ _ _ ih => exact hmore (ih (@hbehind t (0x5B :: style) rest hlast))
  | @closed _ t _ style rest _ _ _ _ ih =>
      exact hmore (ih (@hbehind t (0x5B :: 0x2F :: style) rest hlast))
  | unopened _ _ => exact nofun

end LocaleCatalogue.Console
