import Mathlib.Data.List.Infix
import Mathlib.Data.List.TakeWhile
import LocaleCatalogue.Proofs.Report.Interpretation
import LocaleCatalogue.Proofs.Text.Pieces
import LocaleCatalogue.Report.Terminal

/-!
# Terminals interpret markup

A terminal of any width does what is assumed of a console. Emoji are looked for within each stretch
between tags, the tags open and close styles as in a stack, and what is shown ends in something visible,
so that no blank is taken away at its end.
-/

namespace LocaleCatalogue

namespace Markup

open Console

variable {t before rest reversed shown style : Text}

/-- What is seen is no white space. -/
theorem isSpace_of_visible {c : CodePoint} (h : IsVisible c) : isSpace c = false := by
  obtain ⟨hlow, hhigh⟩ := h
  simp only [isSpace, Integer.isNarrowSpace, Integer.isWideSpace, Bool.or_eq_false_iff,
    Bool.and_eq_false_iff, decide_eq_false_iff_not]
  omega

/-! ### Names of emoji -/

/-- The sign for a name between colons; no name has white space in it. -/
def sign? (body : Text) : Option Text := if body.any isSpace then none else emojiFor? body

theorem sign?_eq_some_iff {body sign : Text} :
    sign? body = some sign ↔ (∀ d ∈ body, isSpace d = false) ∧ emojiFor? body = some sign := by
  rw [sign?]
  split
  · next hspace => simpa using fun hbody => absurd hspace (by simpa using hbody)
  · next hspace => simpa using fun _ => by simpa using hspace

theorem withEmojiFrom_eq_drop (used : Nat) (t : Text) :
    withEmojiFrom used t = withEmojiFrom 0 (t.drop used) := by
  induction used generalizing t with
  | zero => simp
  | succ used ih =>
      cases t with
      | nil => simp [withEmojiFrom]
      | cons c rest => rw [withEmojiFrom, ih, List.drop_succ_cons]

theorem withEmojiFrom_append (h : 0x3A ∉ before) (rest : Text) :
    withEmojiFrom 0 (before ++ rest) = before ++ withEmojiFrom 0 rest := by
  induction before with
  | nil => rfl
  | cons c before ih =>
      rw [List.mem_cons, not_or] at h
      rw [List.cons_append, withEmojiFrom, if_neg (Ne.symm h.1), ih h.2, List.cons_append]

/-- A pair of colons is passed over together with what stands between them. -/
theorem withEmojiFrom_pair {body : Text} (hbody : ∀ d ∈ body, d ≠ 0x3A ∧ isSpace d = false)
    (rest : Text) :
    withEmojiFrom 0 (0x3A :: (body ++ 0x3A :: rest)) =
      (emojiFor? body).getD (0x3A :: body ++ [0x3A]) ++ withEmojiFrom 0 rest := by
  have htake : (body ++ 0x3A :: rest).takeWhile (fun d => d ≠ 0x3A && !isSpace d) = body := by
    rw [List.takeWhile_append_of_pos fun d hd => by simp [hbody d hd],
      List.takeWhile_cons_of_neg (by simp), List.append_nil]
  rw [withEmojiFrom, if_pos rfl]
  dsimp only
  rw [htake, List.drop_left, List.head?_cons, if_pos rfl, withEmojiFrom_eq_drop, ← List.drop_drop,
    List.drop_left, List.drop_one, List.tail_cons]

/-- A text that names no emoji stays. The induction is on the length, since a pair of colons is passed
over at once. -/
theorem withEmoji_of_inert (h : Inert sign? t) : withEmoji t = t := by
  rw [withEmoji]
  induction hlength : t.length using Nat.strong_induction_on generalizing t with
  | _ n ih =>
      cases t with
      | nil => rfl
      | cons c rest =>
          have shorter : ∀ s : Text, s <:+ rest → withEmojiFrom 0 s = s := fun s hs =>
            ih s.length (by have := hs.length_le; simp at hlength; omega)
              (h.of_infix (hs.trans (List.suffix_cons c rest)).isInfix) rfl
          by_cases hc : c = 0x3A
          · subst hc
            set body := rest.takeWhile fun d => d ≠ 0x3A && !isSpace d with hbody
            have hplain : ∀ d ∈ body, d ≠ 0x3A ∧ isSpace d = false := fun d hd => by
              simpa only [Bool.and_eq_true, decide_eq_true_eq, Bool.not_eq_true'] using
                List.mem_takeWhile_imp hd
            by_cases hclosed : (rest.drop body.length).head? = some 0x3A
            · obtain ⟨after, hafter⟩ := List.head?_eq_some_iff.mp hclosed
              have hrest : body ++ 0x3A :: after = rest :=
                hafter ▸ List.prefix_iff_eq_append.mp (List.takeWhile_prefix _)
              have hsign : sign? body = none :=
                h.unnamed body (fun hd => (hplain _ hd).1 rfl) ⟨[], after, by rw [← hrest]; simp⟩
              have hnone : emojiFor? body = none :=
                Option.eq_none_iff_forall_ne_some.mpr fun sign hsome => by
                  rw [sign?_eq_some_iff.mpr ⟨fun d hd => (hplain d hd).2, hsome⟩] at hsign
                  cases hsign
              rw [← hrest, withEmojiFrom_pair hplain, hnone, shorter after ⟨body ++ [0x3A], by simp [hrest]⟩]
              simp
            · rw [withEmojiFrom, if_pos rfl]
              dsimp only
              rw [if_neg hclosed, shorter rest List.suffix_rfl]
          · rw [withEmojiFrom, if_neg hc, shorter rest List.suffix_rfl]

/-- Signs take the place of names in text without tags. -/
theorem withEmoji_of_reads (h : Reads sign? t shown) : withEmoji t = shown := by
  induction h with
  | inert hinert => exact withEmoji_of_inert hinert
  | @named before name sign rest shown hbefore hname hsign _ _ ih =>
      obtain ⟨hspaces, hemoji⟩ := sign?_eq_some_iff.mp hsign
      rw [withEmoji, withEmojiFrom_append fun hc => (hbefore _ hc).2 rfl,
        withEmojiFrom_pair fun d hd => ⟨(hname d hd).2, hspaces d hd⟩, hemoji, Option.getD_some, ← ih,
        withEmoji]

/-! ### Tags -/

theorem withoutSlashes_eq_self (h : opening ∉ t) : withoutSlashes t = t := by
  induction t with
  | nil => rfl
  | cons c rest ih =>
      rw [List.mem_cons, not_or] at h
      cases rest with
      | nil => rfl
      | cons d after =>
          have hd : d ≠ opening := fun heq => h.2 (heq ▸ List.mem_cons_self)
          rw [withoutSlashes]
          simp only [hd, decide_false, Bool.and_false, Bool.false_eq_true, if_false, ih h.2]

/-- No tag begins in text without brackets and backslashes, whatever follows it. -/
theorem segmentsFrom_append (h : ∀ c ∈ t, c ≠ opening ∧ c ≠ backslash) :
    segmentsFrom 0 reversed (t ++ rest) = segmentsFrom 0 (t.reverse ++ reversed) rest := by
  induction t generalizing reversed with
  | nil => rfl
  | cons c t ih =>
      obtain ⟨⟨hopening, hbackslash⟩, ht⟩ := List.forall_mem_cons.mp h
      have hnone : tagAt? (c :: (t ++ rest)) = none := by simp [tagAt?, hopening, hbackslash]
      rw [List.cons_append, segmentsFrom, hnone, List.reverse_cons, List.append_assoc]
      exact ih ht

theorem segmentsFrom_eq_drop (used : Nat) (reversed t : Text) :
    segmentsFrom used reversed t = segmentsFrom 0 reversed (t.drop used) := by
  induction used generalizing t with
  | zero => simp
  | succ used ih =>
      cases t with
      | nil => simp [segmentsFrom]
      | cons c rest => rw [segmentsFrom, ih, List.drop_succ_cons]

/-- A tag ends the stretch before it. -/
theorem segmentsFrom_tag {c : CodePoint} {after : Text} (hbegins : beginsTag c)
    (hplain : ∀ d ∈ c :: after, d ≠ closing ∧ d ≠ opening) :
    segmentsFrom 0 reversed (opening :: (c :: after ++ closing :: rest)) =
      flush reversed ++ .tag (c :: after) :: segmentsFrom 0 [] rest := by
  have htake : (c :: after ++ closing :: rest).takeWhile (fun d => d ≠ closing && d ≠ opening) = c :: after := by
    rw [List.takeWhile_append_of_pos fun d hd => by simpa using hplain d hd,
      List.takeWhile_cons_of_neg (by simp), List.append_nil]
  have hinside : inside? (c :: after ++ closing :: rest) = some (c :: after) := by
    rw [List.cons_append] at htake ⊢
    rw [inside?, htake, hbegins, ← List.cons_append, List.drop_left]
    rfl
  have htag : tagAt? (opening :: (c :: after ++ closing :: rest)) = some (0, c :: after) := by
    have hslash : opening ≠ backslash := by decide
    simp only [tagAt?, List.takeWhile_cons, hslash, decide_false, Bool.false_eq_true, if_false,
      List.length_nil, List.drop_zero, if_true, hinside, Option.map_some]
  rw [segmentsFrom, htag]
  simp only [Nat.zero_add]
  rw [segmentsFrom_eq_drop, ← List.drop_drop, List.drop_left, List.append_assoc]
  rfl

theorem renderSegments_flush (styles : List Text) (segments : List Segment) :
    renderSegments styles (flush reversed ++ segments) =
      (renderSegments styles segments).map (withEmoji (withoutSlashes reversed.reverse) ++ ·) := by
  rw [flush]
  split
  · next hempty =>
      rw [List.isEmpty_iff.mp hempty]
      simp [withoutSlashes, withEmoji, withEmojiFrom]
  · rfl

/-- What is shown of a stretch without tags and of what follows it. -/
theorem renderSegments_append {styles : List Text} {segments : List Segment} (h : Reads sign? t shown) :
    renderSegments styles (flush (t.reverse ++ []) ++ segments) =
      (renderSegments styles segments).map (shown ++ ·) := by
  have hopening : opening ∉ t := fun hc => (h.not_opening hc).1 rfl
  rw [renderSegments_flush, List.append_nil, List.reverse_reverse, withoutSlashes_eq_self hopening,
    withEmoji_of_reads h]

/-! ### Styles -/

theorem isStyle_cons {c : CodePoint} {after : Text} :
    isStyle (c :: after) ↔ isSmall c ∧ ∀ d ∈ c :: after, isSmall d ∨ d = 0x20 := by
  rw [isStyle, List.head?_cons, Option.any_some, Bool.and_eq_true, List.all_eq_true]
  simp only [Bool.or_eq_true, decide_eq_true_eq]

theorem isSmall_iff {c : CodePoint} : isSmall c ↔ 0x61 ≤ c.val ∧ c.val ≤ 0x7A := by
  rw [isSmall, Bool.and_eq_true, decide_eq_true_eq, decide_eq_true_eq]

/-- The signs of a style have no meaning of their own within a tag. -/
theorem ne_of_style {c d : CodePoint} (hc : isSmall c ∨ c = 0x20) (hd : ¬ (isSmall d ∨ d = 0x20)) : c ≠ d :=
  fun heq => hd (heq ▸ hc)

theorem tagName_eq_self (h : ∀ c ∈ t, c ≠ 0x3D) : tagName t = t :=
  List.takeWhile_eq_self_iff.mpr fun c hc => by simpa using h c hc

theorem afterTag?_opened {styles : List Text} (h : isStyle style) :
    afterTag? styles style = some (styleName style :: styles) := by
  cases style with
  | nil => cases h
  | cons c after =>
      obtain ⟨hc, hall⟩ := isStyle_cons.mp h
      have hslash : c ≠ 0x2F := ne_of_style (.inl hc) (by decide)
      rw [afterTag?.eq_def, tagName_eq_self fun d hd => ne_of_style (hall d hd) (by decide)]
      split
      · next heq => exact absurd (List.cons.inj heq).1 hslash
      · rfl

theorem afterTag?_closed {styles : List Text} (h : isStyle style) :
    afterTag? styles (0x2F :: style) = close? (styleName style) styles := by
  cases style with
  | nil => cases h
  | cons c after =>
      obtain ⟨hc, hall⟩ := isStyle_cons.mp h
      have hname : tagName (0x2F :: c :: after) = 0x2F :: c :: after :=
        tagName_eq_self (List.forall_mem_cons.mpr
          ⟨by decide, fun d hd => ne_of_style (hall d hd) (by decide)⟩)
      have hspace : isSpace c = false := by
        obtain ⟨hlow, hhigh⟩ := isSmall_iff.mp hc
        exact isSpace_of_visible ⟨by omega, by omega⟩
      have htrim : (Text.trim isSpace (c :: after)).isEmpty = false := by
        rw [Text.trim, List.dropWhile_cons_of_neg (by simp [hspace]), Text.trimRight,
          List.isEmpty_reverse, List.isEmpty_eq_false_iff]
        intro hnil
        have hmem := List.dropWhile_eq_nil_iff.mp hnil c (by simp)
        exact absurd hmem (by simp [hspace])
      simp only [afterTag?, hname, htrim, Bool.false_eq_true, if_false]

/-- What is shown of a stretch up to a tag, and behind the tag. -/
theorem renderSegments_tag {styles : List Text} {c : CodePoint} {after : Text} (h : Reads sign? t shown)
    (hbegins : beginsTag c) (hplain : ∀ d ∈ c :: after, d ≠ closing ∧ d ≠ opening) :
    renderSegments styles (segments (t ++ opening :: (c :: after ++ closing :: rest))) =
      ((afterTag? styles (c :: after)).bind (renderSegments · (segments rest))).map (shown ++ ·) := by
  rw [segments, segmentsFrom_append fun d hd => h.not_opening hd, segmentsFrom_tag hbegins hplain,
    renderSegments_append h, renderSegments]
  cases afterTag? styles (c :: after) <;> rfl

/-- No bracket stands in the name of a style. -/
theorem not_bracket_of_mem_style {d : CodePoint} (h : isStyle style) (hd : d ∈ style) :
    d ≠ closing ∧ d ≠ opening := by
  cases style with
  | nil => cases h
  | cons c after =>
      have hd := (isStyle_cons.mp h).2 d hd
      exact ⟨ne_of_style hd (by decide), ne_of_style hd (by decide)⟩

theorem renderSegments_opening {styles : List Text} (h : Reads sign? t shown) (hstyle : isStyle style) :
    renderSegments styles (segments (t ++ (openingTag style ++ rest))) =
      (renderSegments (styleName style :: styles) (segments rest)).map (shown ++ ·) := by
  cases style with
  | nil => cases hstyle
  | cons c after =>
      have htag : openingTag (c :: after) ++ rest = opening :: (c :: after ++ closing :: rest) := by
        simp [openingTag, opening, closing]
      have hbegins : beginsTag c := by
        simp [beginsTag, isSmall_iff.mp (isStyle_cons.mp hstyle).1]
      rw [htag, renderSegments_tag h hbegins fun d hd => not_bracket_of_mem_style hstyle hd,
        afterTag?_opened hstyle, Option.bind_some]

theorem renderSegments_closing {styles : List Text} (h : Reads sign? t shown) (hstyle : isStyle style) :
    renderSegments styles (segments (t ++ (closingTag style ++ rest))) =
      ((close? (styleName style) styles).bind (renderSegments · (segments rest))).map (shown ++ ·) := by
  have htag : closingTag style ++ rest = opening :: (0x2F :: style ++ closing :: rest) := by
    simp [closingTag, opening, closing]
  rw [htag, renderSegments_tag h (by decide)
    (List.forall_mem_cons.mpr ⟨by decide, fun d hd => not_bracket_of_mem_style hstyle hd⟩),
    afterTag?_closed hstyle]

/-- What is shown of a text is what becomes of its segments. -/
theorem renderSegments_of_shows {styles : List Text} {more : Option Text} (h : Shows sign? styles t more) :
    renderSegments (styles.map styleName) (segments t) = more := by
  induction h with
  | @done _ t shown hreads =>
      have hsegments := @segmentsFrom_append t [] [] fun c hc => hreads.not_opening hc
      rw [List.append_nil, segmentsFrom, ← List.append_nil (flush _)] at hsegments
      rw [segments, hsegments, renderSegments_append hreads, renderSegments, Option.map_some, List.append_nil]
  | opened hreads hstyle _ ih =>
      rw [renderSegments_opening hreads hstyle, ← ih]
      rfl
  | closed hreads hstyle _ ih =>
      rw [renderSegments_closing hreads hstyle, List.map_cons, close?, if_pos rfl, Option.bind_some, ih]
  | unopened hreads hstyle =>
      rw [renderSegments_closing hreads hstyle]
      rfl

theorem render_of_shows {more : Option Text} (h : Shows sign? [] t more) : render t = more := by
  have hkept {shown : Text} (hshown : more = some shown) : shown.filter (fun c => !isDropped c) = shown := by
    refine List.filter_eq_self.mpr fun c hc => ?_
    rcases h.tab_or_le hshown hc with rfl | hle
    · rfl
    · simp only [isDropped, Bool.not_eq_true', Bool.or_eq_false_iff, Bool.and_eq_false_iff,
        decide_eq_false_iff_not]
      omega
  rw [render]
  split
  · have hrender := renderSegments_of_shows h
    rw [List.map_nil] at hrender
    rw [hrender]
    cases more with
    | none => rfl
    | some shown => rw [Option.map_some, hkept rfl]
  · next hcontains =>
      cases h with
      | done hreads => rw [withEmoji_of_reads hreads, hkept rfl]
      | opened _ _ _ => exact absurd (by simp [openingTag, opening]) hcontains
      | unopened _ _ => exact absurd (by simp [closingTag, opening]) hcontains

end Markup

/-! ### Lines -/

namespace Wrap

variable {line : Text}

/-- A line that ends in something visible keeps its end. -/
theorem withoutExcess_eq_self {c : CodePoint} (room : Nat) (hlast : line.getLast? = some c)
    (hc : Markup.isSpace c = false) : withoutExcess room line = line := by
  have hblanks : line.reverse.takeWhile Markup.isSpace = [] := by
    obtain ⟨before, hline⟩ := List.head?_eq_some_iff.mp ((List.head?_reverse).trans hlast)
    rw [hline, List.takeWhile_cons_of_neg (by simp [hc])]
  simp [withoutExcess, hblanks]

/-- Tabs become blanks. The code points since the last tab are in front of what is still to come. -/
theorem exists_expandTabsFrom (column : Nat) (before t : Text) :
    ∃ line, expandTabsFrom column before t = before.reverse ++ line ∧ Console.Expands t line := by
  induction t generalizing column before with
  | nil => exact ⟨[], by rw [expandTabsFrom, List.append_nil], .nil⟩
  | cons c t ih =>
      rw [expandTabsFrom]
      split
      · next hc =>
          subst hc
          dsimp only
          set here := column + Width.ofText before.reverse
          have hroom : here % tabStop < tabStop := Nat.mod_lt _ (by decide)
          obtain ⟨blanks, hblanks⟩ := Nat.exists_eq_add_of_lt hroom
          have hfilled : tabStop - here % tabStop = blanks + 1 := by omega
          obtain ⟨line, hline, hexpands⟩ := ih (here + (blanks + 1)) []
          refine ⟨List.replicate (blanks + 1) 0x20 ++ line, ?_, .tab blanks hexpands⟩
          rw [hfilled, List.length_replicate, hline, List.reverse_nil, List.nil_append, List.append_assoc]
      · next hc =>
          obtain ⟨line, hline, hexpands⟩ := ih column (c :: before)
          refine ⟨c :: line, ?_, .other hc hexpands⟩
          rw [hline, List.reverse_cons, List.append_assoc, List.singleton_append]

end Wrap

open Console in
/-- A terminal of any width interprets markup. -/
theorem interprets_terminal (width : Nat) : (terminal width).Interprets Markup.sign? where
  shows t shown hshows hlast := by
    obtain ⟨c, hlast, hvisible⟩ := hlast
    obtain ⟨line, hline, hexpands⟩ := Wrap.exists_expandTabsFrom 0 [] shown
    have hspace := Markup.isSpace_of_visible hvisible
    have htab : c ≠ 0x09 := fun hc => absurd hspace (hc ▸ by decide)
    have hbreak : 0x0A ∉ shown := fun hmem => absurd (hshows.tab_or_le rfl hmem) (by decide)
    refine ⟨line, hexpands, ?_⟩
    have hlines : Text.splitOn 0x0A shown = [shown] := Text.splitOn_of_notMem hbreak
    have hkept := Wrap.withoutExcess_eq_self width (hexpands.getLast?_eq hlast htab) hspace
    rw [List.reverse_nil, List.nil_append] at hline
    simp only [terminal, Markup.render_of_shows hshows, Option.map_some, Terminal.unbroken, hlines,
      List.map_singleton, Wrap.expandTabs, hline, hkept, Terminal.endLines, List.flatMap_singleton]
  refuses t hshows := by
    simp only [terminal, Markup.render_of_shows hshows, Option.map_none]

end LocaleCatalogue
