import LocaleCatalogue.Proofs.Script.Reading
import LocaleCatalogue.Script.Token

/-!
# Trees laid out in a text

Trees are laid out between two offsets if they follow each other there, none of them ends before it
begins, and the parts of each are laid out inside it. Names and strings promise more: a name is not
empty, and a string is what the string parser reads at its place.

A parser lays pieces if, wherever it reads, the pieces that it answers with are laid out in what it
read. Parsers are composed from parsers, and the rules below follow the composition. They are stated
with the pieces that came before, because a construct puts its own tree around the pieces that it
begins with.
-/

namespace LocaleCatalogue.Script

/-- Kinds of trees that stand for a name. -/
def nameKinds : List String :=
  ["identifier", "property_identifier", "shorthand_property_identifier"]

/-- What a tree promises about its characters. -/
structure Tree.Spelled (text : List Char) (t : Tree) : Prop where
  ordered : t.start ≤ t.stop
  name : t.kind ∈ nameKinds → t.start < t.stop
  string : t.kind = "string" →
    stringToken.Reads ⟨t.start, text.drop t.start⟩ ⟨[], { t with role := none }⟩
      ⟨t.stop, text.drop t.stop⟩

mutual

/-- A tree keeps the promise of its kind, and its parts are laid out inside it. -/
def Tree.Sound (text : List Char) : Tree → Prop
  | ⟨kind, named, role, start, stop, parts⟩ =>
    Tree.Spelled text ⟨kind, named, role, start, stop, parts⟩ ∧ Arranged text start parts stop

/-- Sound trees follow each other between two offsets. -/
def Arranged (text : List Char) (start : Nat) : List Tree → Nat → Prop
  | [], stop => start ≤ stop
  | t :: ts, stop => start ≤ t.start ∧ t.Sound text ∧ Arranged text t.stop ts stop

end

variable {text : List Char} {start middle stop : Nat}

theorem Tree.sound_iff {t : Tree} :
    t.Sound text ↔ t.Spelled text ∧ Arranged text t.start t.parts t.stop := by
  cases t
  exact Iff.rfl

@[simp] theorem arranged_nil : Arranged text start [] stop ↔ start ≤ stop := Iff.rfl

@[simp] theorem arranged_cons {t : Tree} {ts : List Tree} :
    Arranged text start (t :: ts) stop ↔
      start ≤ t.start ∧ t.Sound text ∧ Arranged text t.stop ts stop :=
  Iff.rfl

theorem arranged_append {ts us : List Tree} :
    Arranged text start (ts ++ us) stop ↔
      ∃ middle, Arranged text start ts middle ∧ Arranged text middle us stop := by
  induction ts generalizing start with
  | nil =>
      constructor
      · intro h
        exact ⟨start, Nat.le_refl start, h⟩
      · rintro ⟨middle, hle, h⟩
        cases us with
        | nil => exact Nat.le_trans hle h
        | cons u us => exact ⟨Nat.le_trans hle h.1, h.2⟩
  | cons t ts ih =>
      rw [List.cons_append, arranged_cons, ih]
      constructor
      · rintro ⟨hstart, hsound, middle, hts, hus⟩
        exact ⟨middle, ⟨hstart, hsound, hts⟩, hus⟩
      · rintro ⟨middle, ⟨hstart, hsound, hts⟩, hus⟩
        exact ⟨hstart, hsound, middle, hts, hus⟩

/-- A sound tree does not end before it begins. -/
theorem Tree.Sound.le {t : Tree} (h : t.Sound text) : t.start ≤ t.stop :=
  (Tree.sound_iff.mp h).1.ordered

theorem Arranged.le {ts : List Tree} (h : Arranged text start ts stop) : start ≤ stop := by
  induction ts generalizing start with
  | nil => exact h
  | cons t ts ih => exact Nat.le_trans h.1 (Nat.le_trans h.2.1.le (ih h.2.2))

theorem Arranged.extend {ts : List Tree} {stop' : Nat} (h : Arranged text start ts stop)
    (hstop : stop ≤ stop') : Arranged text start ts stop' := by
  rw [← List.append_nil ts, arranged_append]
  exact ⟨stop, h, hstop⟩

theorem Arranged.extend_start {ts : List Tree} {start' : Nat} (h : Arranged text start ts stop)
    (hstart : start' ≤ start) : Arranged text start' ts stop :=
  @arranged_append text start' stop [] ts |>.mpr ⟨start, hstart, h⟩

/-- Each of the trees laid out between two offsets is sound and lies between them. -/
theorem Arranged.of_mem {ts : List Tree} {t : Tree}
    (h : Arranged text start ts stop) (ht : t ∈ ts) :
    t.Sound text ∧ start ≤ t.start ∧ t.stop ≤ stop := by
  obtain ⟨before, after, rfl⟩ := List.append_of_mem ht
  obtain ⟨middle, hbefore, hstart, hsound, hafter⟩ := arranged_append.mp h
  exact ⟨hsound, Nat.le_trans hbefore.le hstart, hafter.le⟩

/-- Trees that end in a given one are laid out up to its end. -/
theorem Arranged.to_last {ts : List Tree} {t : Tree} (h : Arranged text start (ts ++ [t]) stop) :
    Arranged text start (ts ++ [t]) t.stop := by
  obtain ⟨middle, hts, ht⟩ := arranged_append.mp h
  exact arranged_append.mpr ⟨middle, hts, ht.1, ht.2.1, Nat.le_refl t.stop⟩

/-! ## Pieces -/

/-- The comments of a piece and its tree. -/
def Piece.trees (p : Piece) : List Tree := p.comments ++ [p.tree]

/-- Pieces are laid out between two offsets. -/
def Laid (text : List Char) (start : Nat) (pieces : List Piece) (stop : Nat) : Prop :=
  Arranged text start (pieces.flatMap Piece.trees) stop

theorem laid_append {ps qs : List Piece} :
    Laid text start (ps ++ qs) stop ↔
      ∃ middle, Laid text start ps middle ∧ Laid text middle qs stop := by
  rw [Laid, List.flatMap_append, arranged_append]
  rfl

theorem laid_cons {p : Piece} {ps : List Piece} :
    Laid text start (p :: ps) stop ↔
      ∃ middle, Laid text start [p] middle ∧ Laid text middle ps stop :=
  @laid_append text start stop [p] ps

/-- A role in the parent changes nothing about a tree. -/
theorem sound_under {t : Tree} {role : Option String} :
    Tree.Sound text { t with role } ↔ t.Sound text := by
  rw [Tree.sound_iff, Tree.sound_iff]
  exact and_congr
    ⟨fun h => ⟨h.ordered, h.name, h.string⟩, fun h => ⟨h.ordered, h.name, h.string⟩⟩ Iff.rfl

theorem laid_under {p : Piece} {ps : List Piece} {role : String} :
    Laid text start (p.under role :: ps) stop ↔ Laid text start (p :: ps) stop := by
  simp only [Laid, List.flatMap_cons, Piece.trees, Piece.under, arranged_append, arranged_cons,
    sound_under]

theorem laid_singleton {p : Piece} :
    Laid text start [p] stop ↔
      ∃ middle, Arranged text start p.comments middle ∧ middle ≤ p.tree.start ∧ p.tree.Sound text ∧
        p.tree.stop ≤ stop := by
  rw [Laid, List.flatMap_singleton, Piece.trees, arranged_append]
  rfl

/-- Kinds of trees that promise nothing beyond their extent. -/
def isComposite (kind : String) : Bool := !nameKinds.contains kind && kind ≠ "string"

theorem Tree.spelled_of_isComposite {t : Tree} (hkind : isComposite t.kind = true)
    (hle : t.start ≤ t.stop) :
    t.Spelled text := by
  rw [isComposite, Bool.and_eq_true, Bool.not_eq_true', decide_eq_true_iff] at hkind
  refine ⟨hle, fun hname => ?_, fun hstring => absurd hstring hkind.2⟩
  rw [List.contains_eq_mem, decide_eq_false_iff_not] at hkind
  exact absurd hname hkind.1

/-- Pieces are laid out up to the end of the last of them. -/
theorem Laid.to_last {ps : List Piece} {p : Piece} (h : Laid text start (ps ++ [p]) stop) :
    Laid text start (ps ++ [p]) p.tree.stop ∧ p.tree.stop ≤ stop := by
  have hflat :
      (ps ++ [p]).flatMap Piece.trees = ps.flatMap Piece.trees ++ p.comments ++ [p.tree] := by
    rw [List.flatMap_append, List.flatMap_singleton, Piece.trees, List.append_assoc]
  rw [Laid, hflat] at h ⊢
  exact ⟨h.to_last, (h.of_mem (List.mem_append_right _ List.mem_cons_self)).2.2⟩

/-- The tree around laid pieces is laid where they are. -/
theorem Laid.around {kind : String} {first : Piece} {others : List Piece}
    (hspelled :
      (Piece.around kind first others).tree.start ≤ (Piece.around kind first others).tree.stop →
        (Piece.around kind first others).tree.Spelled text)
    (h : Laid text start (first :: others) stop) :
    Laid text start [.around kind first others] stop := by
  -- The tree ends with its last part, which may be before the place where the parser stands.
  have hlast : Laid text start (first :: others) (others.getLastD first).tree.stop ∧
      (others.getLastD first).tree.stop ≤ stop := by
    rcases List.eq_nil_or_concat others with rfl | ⟨between, last, rfl⟩
    · exact @Laid.to_last text start stop [] first h
    · rw [List.concat_eq_append] at h ⊢
      rw [List.getLastD_concat]
      exact @Laid.to_last text start stop (first :: between) last h
  obtain ⟨hlaid, hle⟩ := hlast
  rw [Laid, List.flatMap_cons, Piece.trees, List.append_assoc, arranged_append] at hlaid
  obtain ⟨middle, hcomments, hfirst, hsound, hothers⟩ := hlaid
  have hparts : Arranged text first.tree.start (first.tree :: others.flatMap Piece.trees)
      (others.getLastD first).tree.stop := ⟨Nat.le_refl _, hsound, hothers⟩
  exact laid_singleton.mpr
    ⟨middle, hcomments, hfirst, Tree.sound_iff.mpr ⟨hspelled hparts.le, hparts⟩, hle⟩

namespace Parser

variable {α β : Type} {before : List Piece}

/-- Wherever the parser reads on after laid pieces, it leaves pieces laid out. -/
def Lays (before : List Piece) (p : Parser α) (after : α → List Piece) : Prop :=
  ∀ ⦃text : List Char⦄ ⦃start : Nat⦄ ⦃c d : Cursor⦄ ⦃a : α⦄, c.At text →
    Laid text start before c.offset → p.Reads c a d → Laid text start (after a) d.offset

/-- Wherever the parser reads, it lays its piece. -/
abbrev LaysOne (p : Parser Piece) : Prop := Lays [] p ([·])

/-- Wherever the parser reads, it lays its pieces. -/
abbrev LaysAll (p : Parser (List Piece)) : Prop := Lays [] p id

section Rules

variable {p q : Parser α} {after : α → List Piece}

theorem lays_of_reads
    (h : ∀ ⦃text : List Char⦄ ⦃c d : Cursor⦄ ⦃a : α⦄, c.At text → p.Reads c a d →
      Laid text c.offset (after a) d.offset) : Lays [] p after := by
  intro text start c d a hc hbefore hread
  exact laid_append.mpr ⟨c.offset, hbefore, h hc hread⟩

theorem Lays.reads (h : Lays [] p after) {text : List Char} {c d : Cursor} {a : α} (hc : c.At text)
    (hread : p.Reads c a d) : Laid text c.offset (after a) d.offset :=
  h hc (Nat.le_refl c.offset) hread

/-- What a parser lays, it lays behind other pieces. -/
theorem Lays.behind (h : Lays [] p after) (before : List Piece) :
    Lays before p fun a => before ++ after a := by
  intro text start c d a hc hbefore hread
  exact laid_append.mpr ⟨c.offset, hbefore, h.reads hc hread⟩

theorem Lays.bind {f : α → Parser β} {last : β → List Piece} (hp : Lays before p after)
    (hf : ∀ a, (∃ c d, p.Reads c a d) → Lays (after a) (f a) last) :
    Lays before (p >>= f) last := by
  intro text start c d b hc hbefore hread
  obtain ⟨a, e, hfirst, hrest⟩ := reads_bind.mp hread
  exact hf a ⟨c, e, hfirst⟩ (hfirst.at hc) (hp hc hbefore hfirst) hrest

/-- Reads pieces first and something after them. -/
theorem Lays.read {f : α → Parser β} {last : β → List Piece} (hp : Lays [] p after)
    (hf : ∀ a, Lays (before ++ after a) (f a) last) : Lays before (p >>= f) last :=
  (hp.behind before).bind fun a _ => hf a

/-- Reads something that leaves no piece first. -/
theorem Lays.skip {f : α → Parser β} {last : β → List Piece} (hf : ∀ a, Lays before (f a) last) :
    Lays before (p >>= f) last := by
  refine Lays.bind (?_ : Lays before p fun _ => before) fun a _ => hf a
  intro text start c d a hc hbefore hread
  exact Arranged.extend hbefore hread.offset_le

theorem lays_pure {a : α}
    (h : ∀ ⦃text : List Char⦄ ⦃start stop : Nat⦄, Laid text start before stop →
      Laid text start (after a) stop) : Lays before (pure a) after := by
  intro text start c d b hc hbefore hread
  obtain ⟨rfl, rfl⟩ := reads_pure.mp hread
  exact h hbefore

/-- Answers with the pieces that came before. -/
theorem lays_done {a : α} (h : after a = before) : Lays before (pure a) after := by
  apply lays_pure
  intro text start stop hbefore
  rwa [h]

theorem lays_refuse : Lays before refuse after := by
  intro text start c d a hc hbefore hread
  exact absurd hread not_reads_refuse

theorem Lays.orElse (hp : Lays before p after) (hq : Lays before q after) :
    Lays before (p <|> q) after := by
  intro text start c d a hc hbefore hread
  rcases reads_orElse.mp hread with h | ⟨-, h⟩
  · exact hp hc hbefore h
  · exact hq hc hbefore h

theorem Lays.reconsider {doubt : α → Parser Bool} (hp : Lays before p after)
    (hq : Lays before q after) : Lays before (reconsider p doubt q) after := by
  intro text start c d a hc hbefore hread
  rcases reads_of_reconsider hread with h | h
  · exact hp hc hbefore h
  · exact hq hc hbefore h

theorem Lays.many (hp : Lays [] p after) : Lays [] (many p) fun as => as.flatMap after := by
  apply lays_of_reads
  intro text c d as hc hread
  refine hread.many_induction (motive := fun c as => c.At text →
    Laid text c.offset (as.flatMap after) d.offset) ?_ ?_ hc
  · intro _ _
    exact Nat.le_refl d.offset
  · intro c a e rest hfirst _ _ hrest hc
    rw [List.flatMap_cons]
    exact laid_append.mpr ⟨e.offset, hp.reads hc hfirst, hrest (hfirst.at hc)⟩

theorem lays_extend {f : Piece → Parser Piece} {first : Piece} (hf : ∀ e, Lays [e] (f e) ([·])) :
    Lays [first] (extend f first) ([·]) := by
  intro text start c d b hc hbefore hread
  refine (hread.extend_induction (motive := fun a c => c.At text ∧ Laid text start [a] c.offset)
    ?_ ⟨hc, hbefore⟩).2
  rintro a c a' e ⟨hc, hlaid⟩ hstep
  exact ⟨hstep.at hc, hf a hc hlaid hstep⟩

end Rules

theorem laysAll_pieces {p : Parser Piece} (hp : LaysOne p) : LaysAll (pieces p) := by
  apply lays_of_reads
  intro text c d found hc hread
  obtain ⟨found, e, hfound, hrest⟩ := reads_bind.mp hread
  rcases reads_optional.mp hfound with ⟨a, rfl, ha⟩ | ⟨-, rfl, rfl⟩
  · obtain ⟨rfl, rfl⟩ := reads_pure.mp hrest
    exact hp.reads hc ha
  · obtain ⟨rfl, rfl⟩ := reads_pure.mp hrest
    exact Nat.le_refl _

theorem laysAll_optional {p : Parser (List Piece)} (hp : LaysAll p) :
    Lays [] (optional p) fun found => found.getD [] := by
  apply lays_of_reads
  intro text c d found hc hread
  rcases reads_optional.mp hread with ⟨ps, rfl, hps⟩ | ⟨-, rfl, rfl⟩
  · exact hp.reads hc hps
  · exact Nat.le_refl _

/-- The piece is also laid under a role. -/
theorem LaysOne.under {p : Parser Piece} (hp : LaysOne p) (role : String) :
    Lays [] p fun piece => [piece.under role] :=
  lays_of_reads fun _ _ _ _ hc hread => laid_under.mpr (hp.reads hc hread)

theorem lays_around {kind : String} {first : Piece} {others : List Piece}
    (hkind : isComposite kind = true) :
    Lays (first :: others) (pure (Piece.around kind first others)) ([·]) :=
  lays_pure fun _ _ _ h => h.around (Tree.spelled_of_isComposite hkind)

end Parser

end LocaleCatalogue.Script
