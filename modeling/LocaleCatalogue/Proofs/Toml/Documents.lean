import LocaleCatalogue.Proofs.Toml.Reading

/-!
# Documents are read into proper tables

Values, entries and the members of inline tables call each other with less fuel, so what they give is
shown for one rung of fuel after the other. Statements change the draft of a document one by one. In
the end a document is read into a proper table, or it is malformed, or it holds a decimal integer
with more digits than are read.
-/

namespace LocaleCatalogue.Toml

variable {cs rest : List Char}

/-! ### Names and gaps -/

theorem yields_keyPart (cs : List Char) : Yields (fun _ => True) cs (keyPart cs) := by
  unfold keyPart
  split
  next found hfound => exact (yields_lineString hfound).map fun _ _ => trivial
  next =>
    dsimp only
    split
    next => exact .malformed
    next => exact .ok trivial (List.drop_suffix _ _)

theorem yields_key (fuel : Nat) (cs : List Char) : Yields (fun _ => True) cs (key fuel cs) := by
  induction fuel generalizing cs with
  | zero => exact .malformed
  | succ fuel ih =>
      have hpart := yields_keyPart cs
      rw [key]
      split
      next heq =>
        rw [heq] at hpart
        exact hpart.of_error
      next name behind heq =>
        rw [heq] at hpart
        have hblanks := (skipBlanks_suffix behind).trans hpart.of_ok.2
        split
        next more hmore =>
          rw [hmore] at hblanks
          have hrest := (skipBlanks_suffix more).trans ((List.suffix_cons '.' more).trans hblanks)
          exact ((ih _).map fun _ _ => trivial).behind hrest
        next => exact .ok trivial hblanks

theorem skipComment_cases (cs : List Char) :
    (∃ rest, skipComment cs = .ok rest ∧ rest <:+ cs) ∨ skipComment cs = .error .malformed := by
  unfold skipComment
  split
  next rest =>
    split
    next => exact Or.inr rfl
    next => exact Or.inl ⟨_, rfl, (List.dropWhile_suffix _).trans (List.suffix_cons '#' rest)⟩
  next => exact Or.inl ⟨cs, rfl, List.suffix_rfl⟩

theorem skipGaps_cases (fuel : Nat) (cs : List Char) :
    (∃ rest, skipGaps fuel cs = .ok rest ∧ rest <:+ cs) ∨ skipGaps fuel cs = .error .malformed := by
  induction fuel generalizing cs with
  | zero => exact Or.inl ⟨cs, rfl, List.suffix_rfl⟩
  | succ fuel ih =>
      have hgaps : cs.dropWhile isGap <:+ cs := List.dropWhile_suffix _
      rw [skipGaps]
      split
      next rest hrest =>
        rw [hrest] at hgaps
        rcases skipComment_cases ('#' :: rest) with ⟨after, hafter, hsuffix⟩ | hbad
        · rw [hafter]
          rcases ih after with ⟨last, hlast, hbehind⟩ | hbad
          · exact Or.inl ⟨last, hlast, hbehind.trans (hsuffix.trans hgaps)⟩
          · exact Or.inr hbad
        · rw [hbad]
          exact Or.inr rfl
      next => exact Or.inl ⟨_, rfl, hgaps⟩

/-! ### Values -/

theorem yields_scalar {r : Read Value} (h : scalar? cs = some r) : Yields Value.Proper cs r := by
  unfold scalar? at h
  split at h
  next found hfound =>
    obtain rfl := Option.some_inj.mp h
    exact (yields_string hfound).map (f := fun t => Value.text (Text.ofChars t)) fun _ _ => .scalar rfl
  next =>
    split at h
    next =>
      obtain rfl := Option.some_inj.mp h
      exact .ok (.scalar rfl) (List.drop_suffix _ _)
    next =>
      split at h
      next =>
        obtain rfl := Option.some_inj.mp h
        exact .ok (.scalar rfl) (List.drop_suffix _ _)
      next =>
        split at h
        next hfound =>
          obtain rfl := Option.some_inj.mp h
          exact yields_moment hfound
        next =>
          split at h
          next hfound =>
            obtain rfl := Option.some_inj.mp h
            exact yields_number hfound
          next =>
            obtain ⟨⟨v, after⟩, hspecial, rfl⟩ := Option.map_eq_some_iff.mp h
            obtain ⟨hproper, hsuffix⟩ := special?_spec hspecial
            exact .ok hproper hsuffix

/-- What the readers of values give on one rung of fuel. -/
structure Rung (fuel : Nat) : Prop where
  value : ∀ cs, Yields Value.Proper cs (value fuel cs)
  items : ∀ cs, Yields (fun vs => ∀ v ∈ vs, v.Proper) cs (items fuel cs)
  entry : ∀ cs, Yields (fun e => e.2.Proper) cs (entry fuel cs)
  members : ∀ marks table cs, ProperTable table → Yields ProperTable cs (members fuel marks table cs)

namespace Rung

variable {fuel : Nat}

theorem zero : Rung 0 where
  value _ := .malformed
  items _ := .malformed
  entry _ := .malformed
  members _ _ _ _ := .malformed

theorem value_succ (h : Rung fuel) (cs : List Char) : Yields Value.Proper cs (Toml.value (fuel + 1) cs) := by
  rw [Toml.value.eq_def]
  dsimp only
  split
  next rest =>
    exact ((h.items rest).map fun _ hitems => .list hitems).behind (List.suffix_cons '[' rest)
  next rest =>
    have hblanks := (skipBlanks_suffix rest).trans (List.suffix_cons '\x7b' rest)
    split
    next after hafter =>
      rw [hafter] at hblanks
      exact .ok ProperTable.empty.value ((List.suffix_cons _ after).trans hblanks)
    next =>
      exact ((h.members [] [] _ .empty).map fun _ htable => htable.value).behind hblanks
  next =>
    cases hscalar : scalar? cs with
    | none => exact .malformed
    | some r => exact yields_scalar hscalar

theorem items_succ (h : Rung fuel) (cs : List Char) :
    Yields (fun vs => ∀ v ∈ vs, v.Proper) cs (Toml.items (fuel + 1) cs) := by
  rw [Toml.items]
  rcases skipGaps_cases cs.length cs with ⟨inside, hinside, hsuffix⟩ | hbad
  · rw [hinside]
    split
    next heq => cases heq
    next after heq =>
      cases heq
      exact .ok (fun _ hv => absurd hv List.not_mem_nil) ((List.suffix_cons _ after).trans hsuffix)
    next _ heq =>
      cases heq
      have hvalue := (h.value inside).behind hsuffix
      split
      next hfault =>
        rw [hfault] at hvalue
        exact hvalue.of_error
      next v rest hread =>
        rw [hread] at hvalue
        obtain ⟨hproper, hrest⟩ := hvalue.of_ok
        rcases skipGaps_cases rest.length rest with ⟨behind, hbehind, hgaps⟩ | hbad
        · rw [hbehind]
          have hbehind := hgaps.trans hrest
          split
          next heq => cases heq
          next after heq =>
            cases heq
            refine .ok (fun w hw => ?_) ((List.suffix_cons _ after).trans hbehind)
            rw [List.mem_singleton.mp hw]
            exact hproper
          next more heq =>
            cases heq
            refine ((h.items more).map fun vs hvs => ?_).behind ((List.suffix_cons _ more).trans hbehind)
            exact List.forall_mem_cons.mpr ⟨hproper, hvs⟩
          next => exact .malformed
        · rw [hbad]
          exact .malformed
  · rw [hbad]
    exact .malformed

theorem entry_succ (h : Rung fuel) (cs : List Char) :
    Yields (fun e => e.2.Proper) cs (Toml.entry (fuel + 1) cs) := by
  have hkey := yields_key (cs.length + 1) cs
  rw [Toml.entry]
  split
  next hfault =>
    rw [hfault] at hkey
    exact hkey.of_error
  next path rest hread =>
    rw [hread] at hkey
    have hrest := (skipBlanks_suffix rest).trans ((List.suffix_cons '=' rest).trans hkey.of_ok.2)
    exact ((h.value _).map (f := fun v => (path, v)) fun _ hproper => hproper).behind hrest
  next => exact .malformed

theorem members_succ (h : Rung fuel) (marks : List Mark) (table : Table) (cs : List Char)
    (htable : ProperTable table) : Yields ProperTable cs (Toml.members (fuel + 1) marks table cs) := by
  have hentry := h.entry cs
  rw [Toml.members]
  split
  next hfault =>
    rw [hfault] at hentry
    exact hentry.of_error
  next path v rest hread =>
    rw [hread] at hentry
    obtain ⟨hproper, hrest⟩ := hentry.of_ok
    split
    next => exact .malformed
    next =>
      split
      next => exact .malformed
      next table' hinsert =>
        have htable' := properTable_insertAt htable hproper hinsert
        have hblanks := (skipBlanks_suffix rest).trans hrest
        split
        next after hafter =>
          rw [hafter] at hblanks
          exact .ok htable' ((List.suffix_cons _ after).trans hblanks)
        next more hmore =>
          rw [hmore] at hblanks
          exact (h.members _ _ _ htable').behind
            ((skipBlanks_suffix more).trans ((List.suffix_cons ',' more).trans hblanks))
        next => exact .malformed

end Rung

theorem rung (fuel : Nat) : Rung fuel := by
  induction fuel with
  | zero => exact .zero
  | succ fuel ih => exact ⟨ih.value_succ, ih.items_succ, ih.entry_succ, ih.members_succ⟩

/-! ### Statements -/

/-- Drafts of proper tables. -/
abbrev ProperDraft (d : Draft) : Prop := ProperTable d.table

variable {d : Draft}

/-- A step of a draft that may be refused, with what stands behind the text of the step. -/
theorem yields_step {step : Option Draft} (hstep : ∀ d', step = some d' → ProperDraft d')
    (hrest : rest <:+ cs) : Yields ProperDraft cs ((orMalformed step).map fun d => (d, rest)) := by
  cases step with
  | none => exact .malformed
  | some d' => exact .ok (hstep d' rfl) hrest

theorem yields_headerStep (hd : ProperDraft d) (cs : List Char) :
    Yields ProperDraft cs (headerStep d cs) := by
  unfold headerStep
  split
  -- one more table of an array
  next behind =>
    have hkey := ((yields_key (behind.length + 1) (skipBlanks behind)).behind
      (skipBlanks_suffix behind)).behind (List.suffix_cons '[' behind)
    split
    next hfault =>
      rw [hfault] at hkey
      exact hkey.of_error
    next path after hread =>
      rw [hread] at hkey
      refine yields_step (fun d' happend => Draft.properTable_append ?_ happend)
        ((List.suffix_append [']', ']'] after).trans hkey.of_ok.2)
      exact hd
    next => exact .malformed
  -- a table of its own
  next =>
    have hkey := (yields_key (cs.length + 1) (skipBlanks cs)).behind (skipBlanks_suffix cs)
    split
    next hfault =>
      rw [hfault] at hkey
      exact hkey.of_error
    next path after hread =>
      rw [hread] at hkey
      refine yields_step (fun d' hopen => Draft.properTable_open ?_ hopen)
        ((List.suffix_cons ']' after).trans hkey.of_ok.2)
      exact hd
    next => exact .malformed

theorem yields_statement (hd : ProperDraft d) (cs : List Char) :
    Yields ProperDraft cs (statement d cs) := by
  unfold statement
  split
  next => exact .ok hd List.suffix_rfl
  next behind => exact (yields_headerStep hd behind).behind (List.suffix_cons '[' behind)
  next c behind _ =>
    split
    next => exact .ok hd List.suffix_rfl
    next =>
      have hentry := (rung (2 * (c :: behind).length + 2)).entry (c :: behind)
      split
      next hfault =>
        rw [hfault] at hentry
        exact hentry.of_error
      next path v after hread =>
        rw [hread] at hentry
        obtain ⟨hproper, hafter⟩ := hentry.of_ok
        exact yields_step (fun d' hadd => Draft.properTable_add hd hproper hadd) hafter

/-- How a document is read: into a proper table, or not at all for a fault that its text accounts for.
-/
inductive ReadsInto (cs : List Char) : Except Fault Table → Prop
  | table {table : Table} : ProperTable table → ReadsInto cs (.ok table)
  | malformed : ReadsInto cs (.error .malformed)
  | integer {digits : Nat} : HasLongInteger cs → ReadsInto cs (.error (.integer (.tooLong digits)))

theorem ReadsInto.behind {ds : List Char} {r : Except Fault Table} (h : ReadsInto ds r) (hds : ds <:+ cs) :
    ReadsInto cs r := by
  cases h with
  | table htable => exact .table htable
  | malformed => exact .malformed
  | integer hlong => exact .integer (hlong.behind hds)

theorem readsInto_lines (fuel : Nat) (hd : ProperDraft d) (cs : List Char) :
    ReadsInto cs (lines fuel d cs) := by
  induction fuel generalizing d cs with
  | zero => exact .table hd
  | succ fuel ih =>
      -- the rest of the document is an ending of it, so a long integer there stands in all of it
      have hstatement := (yields_statement hd (skipBlanks cs)).behind (skipBlanks_suffix cs)
      rw [lines]
      generalize statement d (skipBlanks cs) = stepped at hstatement
      cases hstatement with
      | malformed => exact .malformed
      | integer hlong => exact .integer hlong
      | @ok d' rest hd' hrest =>
          dsimp only
          have hblanks := (skipBlanks_suffix rest).trans hrest
          rcases skipComment_cases (skipBlanks rest) with ⟨behind, hbehind, hcomment⟩ | hbad
          · rw [hbehind]
            have hbehind := hcomment.trans hblanks
            split
            next heq => cases heq
            next => exact .table hd'
            next more heq =>
              cases heq
              exact (ih hd' more).behind ((List.suffix_cons _ more).trans hbehind)
            next => exact .malformed
          · rw [hbad]
            exact .malformed

/-! ### Line ends -/

theorem prefix_of_prefix_unifyLineEnds {run : List Char} (hrun : '\n' ∉ run)
    (h : run <+: unifyLineEnds cs) : run <+: cs := by
  fun_induction unifyLineEnds cs generalizing run with
  | case1 => exact h
  | case2 rest ih =>
      cases run with
      | nil => exact List.nil_prefix
      | cons c run =>
          obtain rfl := (List.cons_prefix_cons.mp h).1
          exact absurd List.mem_cons_self hrun
  | case3 c rest _ ih =>
      cases run with
      | nil => exact List.nil_prefix
      | cons d run =>
          obtain ⟨rfl, hprefix⟩ := List.cons_prefix_cons.mp h
          exact List.cons_prefix_cons.mpr ⟨rfl, ih (fun hmem => hrun (List.mem_cons_of_mem _ hmem)) hprefix⟩

/-- What stands on one line of a text stands in the text, whatever its lines end in. -/
theorem infix_of_infix_unifyLineEnds {run : List Char} (hrun : '\n' ∉ run)
    (h : run <:+: unifyLineEnds cs) : run <:+: cs := by
  fun_induction unifyLineEnds cs with
  | case1 => exact h
  | case2 rest ih =>
      rcases List.infix_cons_iff.mp h with hprefix | hinfix
      · -- no run begins at the line feed that a pair became
        cases run with
        | nil => exact List.nil_infix
        | cons c run =>
            obtain rfl := (List.cons_prefix_cons.mp hprefix).1
            exact absurd List.mem_cons_self hrun
      · exact (ih hinfix).trans (List.suffix_append ['\r', '\n'] rest).isInfix
  | case3 c rest hne ih =>
      rcases List.infix_cons_iff.mp h with hprefix | hinfix
      · have hwhole : run <+: unifyLineEnds (c :: rest) := by
          rw [unifyLineEnds]
          · exact hprefix
          · exact hne
        exact (prefix_of_prefix_unifyLineEnds hrun hwhole).isInfix
      · exact (ih hinfix).trans (List.suffix_cons c rest).isInfix

theorem HasLongInteger.of_unifyLineEnds (h : HasLongInteger (unifyLineEnds cs)) : HasLongInteger cs := by
  obtain ⟨run, hrun, hlong⟩ := h
  refine ⟨run, infix_of_infix_unifyLineEnds (fun hmem => ?_) hrun, hlong⟩
  rcases hlong.1 _ hmem with hdigit | hsep
  · exact absurd hdigit (by decide)
  · exact absurd hsep (by decide)

/-- A document is read into a proper table, is malformed, or holds an integer with more digits than are
read. -/
theorem readsInto_read (text : List Char) : ReadsInto text (read text) := by
  have hlines := readsInto_lines ((unifyLineEnds text).length + 1) (d := ⟨[], [], [], []⟩)
    ProperTable.empty (unifyLineEnds text)
  unfold read
  dsimp only
  generalize lines _ _ _ = r at hlines ⊢
  cases hlines with
  | table htable => exact .table htable
  | malformed => exact .malformed
  | integer hlong => exact .integer hlong.of_unifyLineEnds

theorem properTable_of_read {text : List Char} {table : Table} (h : read text = .ok table) :
    ProperTable table := by
  have hread := readsInto_read text
  rw [h] at hread
  cases hread with
  | table htable => exact htable

end LocaleCatalogue.Toml
