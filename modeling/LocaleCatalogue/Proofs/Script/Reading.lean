import LocaleCatalogue.Script.Parser

/-!
# What parsers read

A combination of parsers reads exactly what its parts read one after another. The lemmas take a
reading of the combination apart; nothing is said here about what the values mean.
-/

namespace LocaleCatalogue.Script

/-- The cursor stands in a text, before the character at its offset. -/
structure Cursor.At (c : Cursor) (text : List Char) : Prop where
  rest_eq : c.rest = text.drop c.offset
  offset_le : c.offset ≤ text.length

theorem Cursor.start_at (text : List Char) : (Cursor.start text).At text :=
  ⟨rfl, Nat.zero_le _⟩

theorem Cursor.Reaches.at {text : List Char} {c d : Cursor} (h : c.Reaches d) (hc : c.At text) :
    d.At text := by
  obtain ⟨between, hrest, hoffset⟩ := h
  have hdrop : text.drop c.offset = between ++ d.rest := hc.rest_eq ▸ hrest
  have hlength := congrArg List.length hdrop
  rw [List.length_drop, List.length_append] at hlength
  have hle := hc.offset_le
  refine ⟨?_, by omega⟩
  rw [hoffset, ← List.drop_drop, hdrop, List.drop_left]

namespace Parser

variable {α β : Type} {p q : Parser α} {c d : Cursor} {a : α}

theorem Reads.reaches (h : p.Reads c a d) : c.Reaches d := h.1

theorem Reads.offset_le (h : p.Reads c a d) : c.offset ≤ d.offset := h.reaches.offset_le

theorem Reads.at {text : List Char} (h : p.Reads c a d) (hc : c.At text) : d.At text :=
  h.reaches.at hc

theorem reads_of_eq_some {s : Step α c} (h : p c = some s) : p.Reads c s.value s.next :=
  ⟨s.reaches, h⟩

/-- A parser reads at most one thing from a cursor. -/
theorem Reads.unique {a' : α} {d' : Cursor} (h : p.Reads c a d) (h' : p.Reads c a' d') :
    a = a' ∧ d = d' := by
  obtain ⟨_, h⟩ := h
  obtain ⟨_, h'⟩ := h'
  cases h.symm.trans h'
  exact ⟨rfl, rfl⟩

/-- A parser refuses exactly if there is nothing that it reads. -/
theorem eq_none_iff : p c = none ↔ ∀ a d, ¬ p.Reads c a d := by
  constructor
  · rintro h a d ⟨_, hread⟩
    cases h.symm.trans hread
  · intro h
    cases hp : p c with
    | none => rfl
    | some s => exact absurd (reads_of_eq_some hp) (h s.value s.next)

/-- A parser that never refuses reads its answer. -/
theorem reads_total {f : (c : Cursor) → Step α c} :
    Reads (fun c => some (f c)) c a d ↔ (f c).value = a ∧ (f c).next = d := by
  constructor
  · rintro ⟨_, h⟩
    rw [Option.some.inj h]
    exact ⟨rfl, rfl⟩
  · rintro ⟨rfl, rfl⟩
    exact reads_of_eq_some rfl

@[simp] theorem reads_pure {b : α} : Reads (pure b) c a d ↔ b = a ∧ c = d :=
  @reads_total α c d a fun c => ⟨b, c, .refl c⟩

@[simp] theorem reads_bind {f : α → Parser β} {b : β} :
    Reads (p >>= f) c b d ↔ ∃ a e, p.Reads c a e ∧ (f a).Reads e b d := by
  constructor
  · rintro ⟨hreaches, h⟩
    change Parser.bind p f c = _ at h
    unfold Parser.bind at h
    split at h
    · cases h
    next s hs =>
      split at h
      · cases h
      next t ht =>
        cases h
        exact ⟨s.value, s.next, reads_of_eq_some hs, reads_of_eq_some ht⟩
  · rintro ⟨a, e, ⟨hp, hs⟩, ⟨hf, ht⟩⟩
    refine ⟨hp.trans hf, ?_⟩
    change Parser.bind p f c = _
    unfold Parser.bind
    rw [hs]
    dsimp only
    rw [ht]

@[simp] theorem reads_orElse :
    Reads (p <|> q) c a d ↔ p.Reads c a d ∨ p c = none ∧ q.Reads c a d := by
  constructor
  · rintro ⟨hreaches, h⟩
    change Parser.orElse p (fun _ => q) c = _ at h
    unfold Parser.orElse at h
    split at h
    next hp => exact Or.inr ⟨hp, hreaches, h⟩
    next s hs =>
      cases h
      exact Or.inl ⟨hreaches, hs⟩
  · rintro (⟨hreaches, h⟩ | ⟨hp, hreaches, h⟩)
    · refine ⟨hreaches, ?_⟩
      change Parser.orElse p (fun _ => q) c = _
      unfold Parser.orElse
      rw [h]
    · refine ⟨hreaches, ?_⟩
      change Parser.orElse p (fun _ => q) c = _
      unfold Parser.orElse
      rw [hp]
      exact h

@[simp] theorem not_reads_refuse : ¬ (refuse : Parser α).Reads c a d := by
  rintro ⟨_, h⟩
  cases h

@[simp] theorem reads_upcoming {cs : List Char} : upcoming.Reads c cs d ↔ c.rest = cs ∧ c = d :=
  @reads_total (List Char) c d cs fun c => ⟨c.rest, c, .refl c⟩

@[simp] theorem reads_offset {n : Nat} : offset.Reads c n d ↔ c.offset = n ∧ c = d :=
  @reads_total Nat c d n fun c => ⟨c.offset, c, .refl c⟩

theorem dropExactly?_append (cs rest : List Char) :
    dropExactly? cs.length (cs ++ rest) = some rest := by
  induction cs with
  | nil => rfl
  | cons c cs ih => exact ih

@[simp] theorem reads_skip {n : Nat} {u : Unit} :
    (skip n).Reads c u d ↔
      ∃ cs, cs.length = n ∧ c.rest = cs ++ d.rest ∧ d.offset = c.offset + n := by
  constructor
  · rintro ⟨_, h⟩
    unfold skip at h
    split at h
    · cases h
    next rest hrest =>
      cases h
      obtain ⟨hsplit, hlength⟩ := dropExactly?_eq_some hrest
      exact ⟨_, hlength, hsplit, rfl⟩
  · rintro ⟨cs, rfl, hrest, hoffset⟩
    obtain ⟨offset, rest⟩ := c
    obtain ⟨next, after⟩ := d
    dsimp only at hrest hoffset
    subst hrest hoffset
    refine ⟨⟨cs, rfl, rfl⟩, ?_⟩
    unfold skip
    split
    next h =>
      dsimp only at h
      rw [dropExactly?_append] at h
      cases h
    next rest h =>
      dsimp only at h
      rw [dropExactly?_append] at h
      cases h
      rfl

theorem reads_measured {measure : List Char → Option Nat} {u : Unit} :
    (measured measure).Reads c u d ↔ ∃ n, measure c.rest = some n ∧ (skip n).Reads c u d := by
  unfold measured
  rw [reads_bind]
  constructor
  · rintro ⟨cs, e, hupcoming, h⟩
    obtain ⟨rfl, rfl⟩ := reads_upcoming.mp hupcoming
    split at h
    · exact absurd h not_reads_refuse
    next n hn => exact ⟨n, hn, h⟩
  · rintro ⟨n, hn, h⟩
    refine ⟨c.rest, c, reads_upcoming.mpr ⟨rfl, rfl⟩, ?_⟩
    rw [hn]
    exact h

theorem measured_eq_none {measure : List Char → Option Nat} (h : measure c.rest = none) :
    measured measure c = none := by
  refine eq_none_iff.mpr fun u d hread => ?_
  obtain ⟨n, hn, -⟩ := reads_measured.mp hread
  cases h.symm.trans hn

theorem reads_guard {condition : Bool} {u : Unit} :
    (guard condition).Reads c u d ↔ condition = true ∧ c = d := by
  cases condition with
  | false => simp [guard]
  | true => exact reads_pure.trans ⟨fun h => ⟨rfl, h.2⟩, fun h => ⟨rfl, h.2⟩⟩

theorem bind_eq_none {f : α → Parser β} :
    (p >>= f) c = none ↔ ∀ a e, p.Reads c a e → f a e = none := by
  simp only [eq_none_iff, reads_bind]
  constructor
  · rintro h a e hread b d hrest
    exact h b d ⟨a, e, hread, hrest⟩
  · rintro h b d ⟨a, e, hread, hrest⟩
    exact h a e hread b d hrest

theorem bind_eq_none_of_left {f : α → Parser β} (h : p c = none) : (p >>= f) c = none :=
  bind_eq_none.mpr fun a e hread => absurd hread (eq_none_iff.mp h a e)

/-- What reads nothing only tells how to go on. -/
theorem bind_of_still {f : α → Parser β} (h : p.Reads c a c) : (p >>= f) c = f a c := by
  obtain ⟨_, h⟩ := h
  change Parser.bind p f c = _
  rw [Parser.bind, h]
  dsimp only
  cases f a c <;> rfl

theorem reads_bind_of_still {f : α → Parser β} {b : β} (h : p.Reads c a c) :
    (p >>= f).Reads c b d ↔ (f a).Reads c b d := by
  rw [Reads, Reads, bind_of_still h]

theorem reads_discard (h : p.Reads c a d) : (discard p).Reads c () d :=
  (reads_bind (f := fun _ => pure ())).mpr ⟨a, d, h, reads_pure.mpr ⟨rfl, rfl⟩⟩

theorem orElse_eq_none : (p <|> q) c = none ↔ p c = none ∧ q c = none := by
  constructor
  · intro h
    have hp : p c = none := eq_none_iff.mpr fun a d hread =>
      eq_none_iff.mp h a d (reads_orElse.mpr (Or.inl hread))
    exact ⟨hp, eq_none_iff.mpr fun a d hread =>
      eq_none_iff.mp h a d (reads_orElse.mpr (Or.inr ⟨hp, hread⟩))⟩
  · rintro ⟨hp, hq⟩
    refine eq_none_iff.mpr fun a d hread => ?_
    rcases reads_orElse.mp hread with hread | ⟨-, hread⟩
    · exact eq_none_iff.mp hp a d hread
    · exact eq_none_iff.mp hq a d hread

/-- Looking ahead tells what would be read, and reads nothing. -/
theorem reads_lookahead {found : Option α} :
    (lookahead p).Reads c found d ↔
      (∃ a e, found = some a ∧ p.Reads c a e ∧ c = d) ∨ (p c = none ∧ found = none ∧ c = d) := by
  refine (@reads_total (Option α) c d found fun c => ⟨(p c).map Step.value, c, .refl c⟩).trans ?_
  dsimp only
  cases hp : p c with
  | none => simp [eq_none_iff.mp hp, eq_comm]
  | some s =>
      constructor
      · rintro ⟨rfl, rfl⟩
        exact Or.inl ⟨s.value, s.next, rfl, reads_of_eq_some hp, rfl⟩
      · rintro (⟨a, e, rfl, hread, rfl⟩ | ⟨hnone, -⟩)
        · obtain ⟨rfl, -⟩ := (reads_of_eq_some hp).unique hread
          exact ⟨rfl, rfl⟩
        · cases hnone

theorem reads_ahead {found : Bool} :
    (ahead p).Reads c found d ↔ found = (p c).isSome ∧ c = d :=
  (@reads_total Bool c d found fun c => ⟨(p c).isSome, c, .refl c⟩).trans
    (and_congr_left fun _ => eq_comm)

@[simp] theorem reads_optional {found : Option α} :
    (optional p).Reads c found d ↔
      (∃ a, found = some a ∧ p.Reads c a d) ∨ (p c = none ∧ found = none ∧ c = d) := by
  unfold Reads optional
  constructor
  · rintro ⟨hreaches, h⟩
    split at h
    next hp =>
      cases h
      exact Or.inr ⟨hp, rfl, rfl⟩
    next s hs =>
      cases h
      exact Or.inl ⟨s.value, rfl, s.reaches, hs⟩
  · rintro (⟨a, rfl, hreaches, h⟩ | ⟨hp, rfl, rfl⟩)
    · exact ⟨hreaches, by rw [h]⟩
    · exact ⟨.refl c, by rw [hp]⟩

theorem bind_pure_eq_none {f : α → β} : (p >>= fun a => pure (f a)) c = none ↔ p c = none := by
  rw [bind_eq_none, eq_none_iff]
  refine forall_congr' fun a => forall_congr' fun e => imp_congr_right fun _ => ?_
  exact iff_of_false (fun h => Option.some_ne_none _ h) id

/-! ## Loops

A loop goes on while its parser moves forward. That is all that is said about how far a loop comes:
either its parser stops at a cursor, or it moves on from there.
-/

/-- The parser refuses here or reads nothing. -/
def Stops (p : Parser α) (c : Cursor) : Prop := ∀ a d, p.Reads c a d → d.offset ≤ c.offset

theorem stops_of_refuses (h : ∀ a d, ¬ p.Reads c a d) : p.Stops c :=
  fun a d hread => absurd hread (h a d)

theorem stops_of_eq_none (h : p c = none) : p.Stops c := stops_of_refuses (eq_none_iff.mp h)

theorem stops_or_moves (p : Parser α) (c : Cursor) :
    p.Stops c ∨ ∃ a d, p.Reads c a d ∧ c.offset < d.offset := by
  by_cases h : ∃ a d, p.Reads c a d ∧ c.offset < d.offset
  · exact Or.inr h
  · exact Or.inl fun a d hread => Nat.not_lt.mp fun hmoved => h ⟨a, d, hread, hmoved⟩

theorem reads_many_of_stops {as : List α} (h : p.Stops c) :
    (many p).Reads c as d ↔ as = [] ∧ c = d := by
  unfold many
  rw [reads_total, many.go]
  cases hp : p c with
  | none => exact and_congr_left fun _ => eq_comm
  | some s =>
      have hstill := h _ _ (reads_of_eq_some hp)
      dsimp only
      rw [dif_neg (Nat.not_lt.mpr hstill)]
      exact and_congr_left fun _ => eq_comm

/-- What is refused is repeated no times. -/
theorem reads_many_nil (h : p c = none) : (many p).Reads c [] c :=
  (reads_many_of_stops (stops_of_eq_none h)).mpr ⟨rfl, rfl⟩

theorem reads_many_of_moves {as : List α} {e : Cursor} (h : p.Reads c a e)
    (hmoved : c.offset < e.offset) :
    (many p).Reads c as d ↔ ∃ rest, as = a :: rest ∧ (many p).Reads e rest d := by
  obtain ⟨_, hp⟩ := h
  unfold many
  simp only [reads_total]
  rw [many.go, hp]
  dsimp only
  rw [dif_pos hmoved]
  constructor
  · rintro ⟨rfl, rfl⟩
    exact ⟨_, rfl, rfl, rfl⟩
  · rintro ⟨_, rfl, rfl, rfl⟩
    exact ⟨rfl, rfl⟩

/-- What holds at the end of a repetition, where its parser stops, and is kept by a reading in front
of others, holds of the repetition. -/
theorem Reads.many_induction {motive : Cursor → List α → Prop} {as : List α}
    (h : (many p).Reads c as d) (hnil : p.Stops d → motive d [])
    (hcons : ∀ {c a e rest}, p.Reads c a e → c.offset < e.offset → (many p).Reads e rest d →
      motive e rest → motive c (a :: rest)) : motive c as := by
  induction as generalizing c with
  | nil =>
      rcases stops_or_moves p c with hstops | ⟨a, e, hread, hmoved⟩
      · obtain ⟨-, rfl⟩ := (reads_many_of_stops hstops).mp h
        exact hnil hstops
      · obtain ⟨_, hnone, -⟩ := (reads_many_of_moves hread hmoved).mp h
        cases hnone
  | cons a as ih =>
      rcases stops_or_moves p c with hstops | ⟨a', e, hread, hmoved⟩
      · obtain ⟨hnone, -⟩ := (reads_many_of_stops hstops).mp h
        cases hnone
      · obtain ⟨_, hfirst, hrest⟩ := (reads_many_of_moves hread hmoved).mp h
        cases hfirst
        exact hcons hread hmoved hrest (ih hrest)

/-- Each reading of a repetition begins somewhere behind the beginning of the repetition. -/
theorem exists_reads_of_mem_many {as : List α} (h : (many p).Reads c as d) :
    ∀ a ∈ as, ∃ e f, c.Reaches e ∧ p.Reads e a f := by
  refine h.many_induction (motive := fun c as => ∀ a ∈ as, ∃ e f, c.Reaches e ∧ p.Reads e a f) ?_ ?_
  · simp
  · intro c a e as hfirst _ _ ih
    refine List.forall_mem_cons.mpr ⟨⟨c, e, .refl c, hfirst⟩, fun a' ha' => ?_⟩
    obtain ⟨e', f, hreaches, hread⟩ := ih a' ha'
    exact ⟨e', f, hfirst.reaches.trans hreaches, hread⟩

/-- Where a repetition ends, its parser stops. -/
theorem Reads.many_stops {as : List α} (h : (many p).Reads c as d) : p.Stops d :=
  h.many_induction (motive := fun _ _ => p.Stops d) id fun _ _ _ hstops => hstops

section Extension

variable {f : α → Parser α} {b : α}

theorem reads_extend_of_stops (h : (f a).Stops c) : (extend f a).Reads c b d ↔ b = a ∧ c = d := by
  unfold extend
  rw [reads_total, extend.go]
  cases hf : f a c with
  | none => exact and_congr_left fun _ => eq_comm
  | some s =>
      have hstill := h _ _ (reads_of_eq_some hf)
      dsimp only
      rw [dif_neg (Nat.not_lt.mpr hstill)]
      exact and_congr_left fun _ => eq_comm

theorem reads_extend_of_moves {a' : α} {e : Cursor} (h : (f a).Reads c a' e)
    (hmoved : c.offset < e.offset) : (extend f a).Reads c b d ↔ (extend f a').Reads e b d := by
  obtain ⟨_, hf⟩ := h
  unfold extend
  rw [reads_total, reads_total, extend.go, hf]
  dsimp only
  rw [dif_pos hmoved]

/-- What every step keeps, an extension keeps. -/
theorem Reads.extend_induction {motive : α → Cursor → Prop}
    (hstep : ∀ {a c a' e}, motive a c → (f a).Reads c a' e → motive a' e)
    (hfirst : motive a c) (h : (extend f a).Reads c b d) : motive b d := by
  -- The induction is on what is left to read: a step that moves leaves less of it.
  induction hlength : c.rest.length using Nat.strongRecOn generalizing a c with
  | _ length ih =>
      rcases stops_or_moves (f a) c with hstops | ⟨a', e, hread, hmoved⟩
      · obtain ⟨rfl, rfl⟩ := (reads_extend_of_stops hstops).mp h
        exact hfirst
      · have hrest := (reads_extend_of_moves hread hmoved).mp h
        exact ih _ (hlength ▸ hread.reaches.rest_shorter hmoved) (hstep hfirst hread) hrest rfl

end Extension

theorem reads_of_reconsider {doubt : α → Parser Bool} (h : (reconsider p doubt q).Reads c a d) :
    p.Reads c a d ∨ q.Reads c a d := by
  obtain ⟨hreaches, h⟩ := h
  unfold reconsider at h
  split at h
  · cases h
  next s hs =>
    split at h
    · exact Or.inr ⟨hreaches, h⟩
    · cases h
      exact Or.inl ⟨hreaches, hs⟩

end Parser

end LocaleCatalogue.Script
