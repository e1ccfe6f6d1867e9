import LocaleCatalogue.Script.Lexeme

/-!
# Lexemes end where they end

The length of a lexeme depends on its own characters and at most on the next one. So what follows
further behind can be exchanged without changing what is read.
-/

namespace LocaleCatalogue.Script.Lexeme

/-- A measure that looks at most one character further than the lexeme that it measures. -/
def Local (measure : List Char → Option Nat) : Prop :=
  ∀ (lexeme : List Char) (next : Char) (rest rest' : List Char),
    measure (lexeme ++ next :: rest) = some lexeme.length →
      measure (lexeme ++ next :: rest') = some lexeme.length

theorem run_local {p : Char → Bool} {lexeme : List Char} {next : Char} {rest : List Char}
    (h : run p (lexeme ++ next :: rest) = lexeme.length) (rest' : List Char) :
    run p (lexeme ++ next :: rest') = lexeme.length := by
  induction lexeme with
  | nil =>
      rw [List.nil_append, run] at h ⊢
      split at h
      · simp at h
      next hnext => rw [if_neg hnext]; rfl
  | cons c lexeme ih =>
      rw [List.cons_append, run] at h ⊢
      split at h
      next hc =>
        rw [if_pos hc, ih (by simpa using h)]
        rfl
      · simp at h

theorem local_of_run {p : Char → Bool} : Local fun cs =>
    match run p cs with
    | 0 => none
    | n => some n := by
  intro lexeme next rest rest' h
  have hrun : run p (lexeme ++ next :: rest) = lexeme.length := by
    dsimp only at h
    split at h
    · cases h
    · exact Option.some.inj h
  dsimp only at h ⊢
  rw [run_local hrun rest']
  rw [hrun] at h
  exact h

theorem local_fragment (quote : Char) : Local (fragment quote) := local_of_run

theorem fragment_pos {quote : Char} {cs : List Char} {n : Nat} (h : fragment quote cs = some n) :
    0 < n := by
  unfold fragment at h
  split at h
  · cases h
  next hne =>
    cases h
    exact Nat.pos_of_ne_zero hne

theorem blockRest_pos {cs : List Char} {n : Nat} (h : comment.blockRest cs = some n) : 2 ≤ n := by
  induction cs using comment.blockRest.induct generalizing n with
  | case1 => cases h
  | case2 rest =>
      cases h
      exact Nat.le_refl 2
  | case3 c cs hother ih =>
      rw [comment.blockRest] at h
      · obtain ⟨m, hm, rfl⟩ := Option.map_eq_some_iff.mp h
        exact Nat.le_succ_of_le (ih hm)
      · exact hother

theorem blockRest_cons {c d : Char} {cs : List Char} (hclosing : ¬ (c = '*' ∧ d = '/')) :
    comment.blockRest (c :: d :: cs) = (comment.blockRest (d :: cs)).map (· + 1) := by
  rw [comment.blockRest]
  rintro rest rfl heq
  exact hclosing ⟨rfl, (List.cons.inj heq).1⟩

theorem blockRest_local {lexeme rest : List Char}
    (h : comment.blockRest (lexeme ++ rest) = some lexeme.length) (rest' : List Char) :
    comment.blockRest (lexeme ++ rest') = some lexeme.length := by
  induction lexeme with
  | nil => exact absurd (blockRest_pos h) (by decide)
  | cons c lexeme ih =>
      cases lexeme with
      | nil => exact absurd (blockRest_pos h) (by simp)
      | cons d lexeme =>
          -- The comment ends at these two characters, or its end is found behind the first of them.
          by_cases hclosing : c = '*' ∧ d = '/'
          · obtain ⟨rfl, rfl⟩ := hclosing
            exact h
          · rw [List.cons_append, List.cons_append, blockRest_cons hclosing] at h ⊢
            obtain ⟨n, hn, hlength⟩ := Option.map_eq_some_iff.mp h
            rw [List.length_cons, Nat.add_right_cancel_iff] at hlength
            subst hlength
            rw [← List.cons_append, ih hn]
            rfl

theorem comment_pos {cs : List Char} {n : Nat} (h : comment cs = some n) : 2 ≤ n := by
  unfold comment at h
  split at h
  · cases h
    exact Nat.le_add_left 2 _
  · obtain ⟨m, -, rfl⟩ := Option.map_eq_some_iff.mp h
    exact Nat.le_add_left 2 m
  · cases h

/-- A lexeme of at least two characters begins with two. -/
theorem exists_two {lexeme : List Char} (h : 2 ≤ lexeme.length) :
    ∃ c d ds, lexeme = c :: d :: ds := by
  match lexeme, h with
  | c :: d :: ds, _ => exact ⟨c, d, ds, rfl⟩

theorem local_comment : Local comment := by
  intro lexeme next rest rest' h
  obtain ⟨c, d, ds, rfl⟩ := exists_two (comment_pos h)
  rw [List.cons_append, List.cons_append] at h ⊢
  unfold comment at h
  split at h
  next heq =>
    cases heq
    have hrun := run_local (Nat.add_right_cancel (Option.some.inj h)) rest'
    exact congrArg (fun n => some (n + 2)) hrun
  next heq =>
    cases heq
    obtain ⟨n, hn, hlength⟩ := Option.map_eq_some_iff.mp h
    rw [Nat.add_right_cancel hlength] at hn
    exact congrArg (Option.map (· + 2)) (blockRest_local hn _)
  · cases h

theorem hexDigits_local {n : Nat} {lexeme rest : List Char}
    (h : hexDigits n (lexeme ++ rest) = some lexeme.length) (rest' : List Char) :
    hexDigits n (lexeme ++ rest') = some lexeme.length := by
  unfold hexDigits at h ⊢
  split at h
  next hdigits =>
    obtain rfl := Option.some.inj h
    rw [List.take_left] at hdigits ⊢
    rw [if_pos hdigits]
  · cases h

theorem bracedHex_local {lexeme rest : List Char}
    (h : bracedHex (lexeme ++ rest) = some lexeme.length) (rest' : List Char) :
    bracedHex (lexeme ++ rest') = some lexeme.length := by
  rcases List.eq_nil_or_concat lexeme with rfl | ⟨digits, brace, rfl⟩
  · unfold bracedHex at h
    dsimp only at h
    split at h
    · cases h
    · cases h
  · rw [List.concat_eq_append, List.append_assoc, List.length_append] at h ⊢
    unfold bracedHex at h ⊢
    dsimp only [List.singleton_append, List.length_singleton] at h ⊢
    split at h
    next hbrace =>
      have hrun := Nat.add_right_cancel (Option.some.inj h)
      rw [hrun] at hbrace
      rw [run_local hrun rest']
      simp only [List.getElem?_append_right (Nat.le_refl _), Nat.sub_self,
        List.getElem?_cons_zero] at hbrace ⊢
      rw [if_pos hbrace]
    · cases h

theorem hexDigits_eq_some {n m : Nat} {cs : List Char} (h : hexDigits n cs = some m) : m = n := by
  unfold hexDigits at h
  split at h
  · exact (Option.some.inj h).symm
  · cases h

theorem unicodeEscape_pos {cs : List Char} {n : Nat} (h : unicodeEscape cs = some n) : 2 < n := by
  unfold unicodeEscape at h
  split at h
  · obtain ⟨m, -, rfl⟩ := Option.map_eq_some_iff.mp h
    exact Nat.le_add_left 3 m
  · obtain ⟨m, hm, rfl⟩ := Option.map_eq_some_iff.mp h
    rw [hexDigits_eq_some hm]
    decide
  · cases h

theorem unicodeEscape_cons {d : Char} {cs : List Char} (hd : d ≠ '\x7b') :
    unicodeEscape ('\\' :: 'u' :: d :: cs) = (hexDigits 4 (d :: cs)).map (· + 2) := by
  unfold unicodeEscape
  split
  next heq =>
    cases heq
    exact absurd rfl hd
  next heq =>
    cases heq
    rfl
  next hnone => exact absurd rfl (hnone (d :: cs))

theorem unicodeEscape_local {lexeme rest : List Char}
    (h : unicodeEscape ('\\' :: 'u' :: (lexeme ++ rest)) = some (lexeme.length + 2))
    (rest' : List Char) :
    unicodeEscape ('\\' :: 'u' :: (lexeme ++ rest')) = some (lexeme.length + 2) := by
  cases lexeme with
  | nil => exact absurd (unicodeEscape_pos h) (by simp)
  | cons d lexeme =>
      rw [List.cons_append] at h ⊢
      by_cases hbrace : d = '\x7b'
      · subst hbrace
        obtain ⟨n, hn, hlength⟩ := Option.map_eq_some_iff.mp h
        obtain rfl : n = lexeme.length := by
          rw [List.length_cons] at hlength
          omega
        exact congrArg (Option.map (· + 3)) (bracedHex_local hn rest')
      · rw [unicodeEscape_cons hbrace] at h ⊢
        obtain ⟨n, hn, hlength⟩ := Option.map_eq_some_iff.mp h
        rw [Nat.add_right_cancel hlength, ← List.cons_append] at hn
        exact congrArg (Option.map (· + 2)) (hexDigits_local hn rest')

/-- The characters that take a line end behind them into their escape. -/
def pairing : List Char := ['\r', '?']

/-- The line ends that are taken into an escape. -/
def secondLineEnds : List Char := ['\n', '\u2028', '\u2029']

theorem escape_pair {d e : Char} (hd : d ∈ pairing) (he : e ∈ secondLineEnds) (rest : List Char) :
    escape ('\\' :: d :: e :: rest) = some 3 := by
  simp only [pairing, List.mem_cons, List.not_mem_nil, or_false] at hd
  simp only [secondLineEnds, List.mem_cons, List.not_mem_nil, or_false] at he
  rcases hd with rfl | rfl
  · rcases he with rfl | rfl | rfl <;> rfl
  · rcases he with rfl | rfl | rfl <;> rfl

/-- An escape that is neither in hexadecimal nor holds a line end behind its first character. -/
theorem escape_other {d : Char} {cs : List Char} (hx : d ≠ 'x') (hu : d ≠ 'u')
    (hpair : d ∈ pairing → ∀ e es, cs = e :: es → e ∉ secondLineEnds) :
    escape ('\\' :: d :: cs) =
      if d = '\x00' then none
      else if '0' ≤ d && d ≤ '7' then some (2 + min 2 (run (fun d => '0' ≤ d && d ≤ '7') cs))
      else some 2 := by
  by_cases hd : d ∈ pairing ∧ ∃ e es, cs = e :: es ∧ e ∈ secondLineEnds
  · obtain ⟨hd, e, es, rfl, he⟩ := hd
    exact absurd he (hpair hd e es rfl)
  · unfold escape
    split
    next heq =>
      cases heq
      exact absurd rfl hx
    next heq =>
      cases heq
      exact absurd rfl hu
    iterate 6
      next heq =>
        cases heq
        exact absurd ⟨by decide, _, _, rfl, by decide⟩ hd
    next heq =>
      cases heq
      rfl
    next hnone => exact absurd rfl (hnone d cs)

theorem escape_head {c : Char} {cs : List Char} {n : Nat} (h : escape (c :: cs) = some n) :
    c = '\\' := by
  unfold escape at h
  split at h
  iterate 9
    next heq => exact (List.cons.inj heq).1
  · cases h

theorem escape_pos {cs : List Char} {n : Nat} (h : escape cs = some n) : 2 ≤ n := by
  unfold escape at h
  split at h
  · obtain ⟨m, -, rfl⟩ := Option.map_eq_some_iff.mp h
    exact Nat.le_add_left 2 m
  · exact Nat.le_of_lt (unicodeEscape_pos h)
  iterate 6
    · cases h
      decide
  · split at h
    · cases h
    split at h
    · cases h
      exact Nat.le_add_right 2 _
    · cases h
      exact Nat.le_refl 2
  · cases h

/-- What lies within a run passes the test of the run. -/
theorem forall_of_le_run {p : Char → Bool} {cs rest : List Char}
    (h : cs.length ≤ run p (cs ++ rest)) : ∀ y ∈ cs, p y = true := by
  induction cs with
  | nil => simp
  | cons y cs ih =>
      rw [List.cons_append, run] at h
      split at h
      next hy => exact List.forall_mem_cons.mpr ⟨hy, ih (Nat.le_of_succ_le_succ h)⟩
      · cases h

theorem le_run_local {p : Char → Bool} {lexeme rest : List Char}
    (h : lexeme.length ≤ run p (lexeme ++ rest)) (rest' : List Char) :
    lexeme.length ≤ run p (lexeme ++ rest') := by
  induction lexeme with
  | nil => exact Nat.zero_le _
  | cons c lexeme ih =>
      rw [List.cons_append, run] at h ⊢
      split at h
      next hc =>
        rw [if_pos hc]
        exact Nat.succ_le_succ (ih (Nat.le_of_succ_le_succ h))
      · exact absurd h (by simp)

theorem octal_local {p : Char → Bool} {lexeme : List Char} {next : Char} {rest : List Char}
    (h : min 2 (run p (lexeme ++ next :: rest)) = lexeme.length) (rest' : List Char) :
    min 2 (run p (lexeme ++ next :: rest')) = lexeme.length := by
  by_cases hrun : run p (lexeme ++ next :: rest) = lexeme.length
  · rw [run_local hrun rest']
    omega
  · have hle : lexeme.length ≤ run p (lexeme ++ next :: rest) := by omega
    have hle' := le_run_local hle (next :: rest')
    omega

theorem escape_other_local {d : Char} {ds : List Char} {next : Char} {rest rest' : List Char}
    (h : escape ('\\' :: d :: (ds ++ next :: rest)) = some (ds.length + 2)) (hx : d ≠ 'x')
    (hu : d ≠ 'u')
    (hpair : d ∈ pairing → ∀ e es tail, ds ++ next :: tail = e :: es → e ∉ secondLineEnds) :
    escape ('\\' :: d :: (ds ++ next :: rest')) = some (ds.length + 2) := by
  rw [escape_other hx hu fun hd e es => hpair hd e es rest] at h
  rw [escape_other hx hu fun hd e es => hpair hd e es rest']
  split at h
  · cases h
  next hnul =>
    rw [if_neg hnul]
    split at h
    next hoctal =>
      have hlength :
          min 2 (run (fun d => '0' ≤ d && d ≤ '7') (ds ++ next :: rest)) = ds.length := by
        have htotal := Option.some.inj h
        omega
      rw [if_pos hoctal, octal_local hlength rest', Nat.add_comm]
    next hplain =>
      rw [if_neg hplain]
      exact h

theorem local_escape : Local escape := by
  intro lexeme next rest rest' h
  obtain ⟨c, d, ds, rfl⟩ := exists_two (escape_pos h)
  rw [List.cons_append, List.cons_append] at h ⊢
  obtain rfl := escape_head h
  by_cases hx : d = 'x'
  · subst hx
    obtain ⟨n, hn, hlength⟩ := Option.map_eq_some_iff.mp h
    rw [Nat.add_right_cancel hlength] at hn
    exact congrArg (Option.map (· + 2)) (hexDigits_local hn _)
  by_cases hu : d = 'u'
  · subst hu
    exact unicodeEscape_local h _
  by_cases hd : d ∈ pairing
  · -- The character behind it decides how long the escape is. It is either in the lexeme or the next
    -- one, so here the next character matters.
    cases ds with
    | nil =>
        by_cases hend : next ∈ secondLineEnds
        · cases (escape_pair hd hend rest).symm.trans h
        · apply escape_other_local h hx hu
          intro _ e es tail heq
          rwa [← (List.cons.inj heq).1]
    | cons e ds =>
        by_cases hend : e ∈ secondLineEnds
        · rw [List.cons_append, escape_pair hd hend] at h ⊢
          exact h
        · apply escape_other_local h hx hu
          intro _ e' es tail heq
          rwa [← (List.cons.inj heq).1]
  · exact escape_other_local h hx hu fun hpair => absurd hpair hd

end LocaleCatalogue.Script.Lexeme
