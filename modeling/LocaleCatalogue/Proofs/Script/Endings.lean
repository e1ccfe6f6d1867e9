import LocaleCatalogue.Proofs.Script.Spacing
import LocaleCatalogue.Script.Program

/-!
# Where expressions end

An operand may go on in many ways: by accesses and calls, by operators, by a type, by a condition.
None of them begins with a comma or with a closing bracket or brace, and where an automatic
semicolon stands none is tried. So at these places an operand is an expression by itself.
-/

namespace LocaleCatalogue.Script

open LocaleCatalogue.Script.Parser

variable {g : Grammar} {ending : Ending} {c d e : Cursor} {p : Piece}

/-- The characters behind which an item or member is complete. -/
def closers : List Char := [',', ']', '\x7d']

/-- Behind the blanks the text ends, or something that an expression is part of goes on. -/
def Stopped (cs : List Char) : Prop := ∀ y ∈ cs.head?, y ∈ closers

theorem Stopped.noWord {cs : List Char} (h : Stopped cs) : Lexeme.word cs = none := by
  have hclosers : ∀ y ∈ closers, Lexeme.isWordPart y = false ∧ y ≠ '\\' :=
    List.all_iff_forall_prop.mp (by decide)
  exact Lexeme.word_eq_none fun y hy => hclosers y (h y hy)

theorem Stopped.solid {cs : List Char} (h : Stopped cs) : Solid cs := by
  have hclosers : ∀ y ∈ closers, Lexeme.isBlank y = false ∧ y ≠ '/' :=
    List.all_iff_forall_prop.mp (by decide)
  exact fun y hy => hclosers y (h y hy)

theorem Stopped.differs {cs : List Char} (h : Stopped cs) {s : String}
    (hs : s.toList.head?.any (· ∉ closers) = true) : Differs s cs := by
  obtain ⟨x, hs, hx⟩ := (Option.any_eq_true _ _).mp hs
  exact ⟨x, hs, fun hmem => of_decide_eq_true hx (h x hmem)⟩

/-- Neither a number nor a private name begins here. -/
theorem Stopped.lexemes {cs : List Char} (h : Stopped cs) :
    Lexeme.number cs = none ∧ Lexeme.privateName cs = none := by
  cases cs with
  | nil => exact ⟨rfl, rfl⟩
  | cons y ys =>
      have hy := h y rfl
      simp only [closers, List.mem_cons, List.not_mem_nil, or_false] at hy
      rcases hy with rfl | rfl | rfl <;> exact ⟨rfl, rfl⟩

/-! ## Which operand comes next -/

/-- The signs that decide alone what a value is. -/
def openers : List Char := ['(', '\x7b', '[', '\x22', '\x27', '\x60', '/', '#', '@', '.']

/-- A value that begins with none of these signs is a number or begins with a word. -/
theorem reads_primary_plain {y : Char} {ys : List Char} (h : trivia.Reads c [] e)
    (hrest : e.rest = y :: ys) (hy : y ∉ openers) :
    (primary g ending).Reads c p d ↔ (if y.isDigit = true then numberToken else do
      match ← nextWord with
      | some w => wordExpression g ending w
      | none => refuse).Reads c p d := by
  have hnot : ∀ {z : Char} {zs : List Char}, z ∈ openers → e.rest ≠ z :: zs := by
    rintro z zs hz heq
    obtain ⟨rfl, -⟩ := List.cons.inj (hrest.symm.trans heq)
    exact hy hz
  rw [primary, reads_bind_of_still (reads_nextChars h)]
  split
  case h_11 z zs _ _ _ _ _ _ _ _ _ _ heq =>
    obtain ⟨rfl, -⟩ := List.cons.inj (hrest.symm.trans heq)
    rfl
  case h_12 heq => cases hrest.symm.trans heq
  -- The other cases name the sign that they begin with.
  all_goals
    next heq => exact absurd heq (hnot (by decide))

/-- The signs that an operator before its operand begins with. -/
def prefixSigns : List Char := ['!', '~', '+', '-', '<']

/-- The words that do something with the operand behind them. -/
def prefixWords : List String := ["typeof", "void", "delete", "await", "yield"]

theorem no_prefix_of_none : ∀ v ∈ prefixWords, (none : Option String) ≠ some v :=
  fun _ _ h => nomatch h

/-- Where no operator begins, an operand is a value with its accesses. -/
theorem reads_unary_plain {w : Option String} (h : trivia.Reads c [] e)
    (hsigns : ∀ y ∈ e.rest.head?, y ∉ prefixSigns) (hword : nextWord.Reads c w c)
    (hw : ∀ v ∈ prefixWords, w ≠ some v) :
    (unary g ending).Reads c p d ↔ (counted g ending).Reads c p d := by
  have hnot : ∀ {z : Char} {zs : List Char}, z ∈ prefixSigns → e.rest ≠ z :: zs := by
    rintro z zs hz heq
    exact hsigns z (by rw [heq]; rfl) hz
  rw [unary, reads_bind_of_still (reads_nextChars h)]
  split
  case h_8 =>
    rw [reads_bind_of_still hword]
    split
    · exact absurd rfl (hw _ (by decide))
    · exact absurd rfl (hw _ (by decide))
    · exact absurd rfl (hw _ (by decide))
    · exact absurd rfl (hw _ (by decide))
    · rfl
  -- The other cases name the sign that they begin with.
  all_goals
    next heq => exact absurd heq (hnot (by decide))

/-! ## Nothing goes on -/

theorem foldr_eq_none {α : Type} {choices : List α} {q : α → Parser Piece} {last : Parser Piece}
    (hchoices : ∀ a ∈ choices, q a c = none) (hlast : last c = none) :
    choices.foldr (fun a other => q a <|> other) last c = none := by
  induction choices with
  | nil => exact hlast
  | cons a choices ih =>
      exact orElse_eq_none.mpr ⟨hchoices a List.mem_cons_self,
        ih fun b hb => hchoices b (List.mem_cons_of_mem a hb)⟩

section Refusals

variable (h : trivia.Reads c [] e) (hrest : Stopped e.rest)

include h hrest

theorem symbol_eq_none_of_stopped {s : String} (hs : s.toList.head?.any (· ∉ closers) = true) :
    symbol s c = none :=
  symbol_eq_none h (hrest.differs hs)

theorem symbolUnless_eq_none_of_stopped {s : String} {continued : List Char}
    (hs : s.toList.head?.any (· ∉ closers) = true) : symbolUnless s continued c = none :=
  symbolUnless_eq_none h (hrest.differs hs)

theorem memberSuffix_eq_none : memberSuffix g p c = none := by
  refine Parser.eq_none_iff.mpr fun a d hread => ?_
  rw [memberSuffix, reads_bind_of_still (reads_nextChars h)] at hread
  split at hread
  · exact not_reads_refuse hread
  next heq => exact absurd (hrest '.' (by rw [heq]; rfl)) (by decide)
  next heq => exact absurd (hrest '[' (by rw [heq]; rfl)) (by decide)
  · exact not_reads_refuse hread
  next heq => exact absurd (hrest '!' (by rw [heq]; rfl)) (by decide)
  · exact not_reads_refuse hread

theorem optionalSuffix_eq_none : optionalSuffix g p c = none :=
  bind_eq_none_of_left (symbolUnless_eq_none_of_stopped h hrest (by decide))

theorem callSuffix_eq_none : callSuffix g p c = none := by
  refine Parser.eq_none_iff.mpr fun a d hread => ?_
  rw [callSuffix, reads_bind_of_still (reads_nextChars h)] at hread
  split at hread
  next heq => exact absurd (hrest '(' (by rw [heq]; rfl)) (by decide)
  next heq => exact absurd (hrest '\x60' (by rw [heq]; rfl)) (by decide)
  next heq => exact absurd (hrest '<' (by rw [heq]; rfl)) (by decide)
  · exact not_reads_refuse hread

theorem stepSign_eq_none : stepSign c = none :=
  orElse_eq_none.mpr ⟨symbol_eq_none_of_stopped h hrest (by decide),
    symbol_eq_none_of_stopped h hrest (by decide)⟩

theorem asserted_eq_none : asserted g ending p c = none :=
  orElse_eq_none.mpr ⟨bind_eq_none_of_left (keyword_eq_none h hrest.noWord),
    bind_eq_none_of_left (keyword_eq_none h hrest.noWord)⟩

theorem instantiation_eq_none : instantiation g p c = none := by
  have hagain := reads_trivia_of_solid hrest.solid
  exact bind_eq_none_of_left (whole_eq_none h (bind_eq_none_of_left (bind_eq_none_of_left
    (symbol_eq_none_of_stopped hagain hrest (by decide)))))

theorem binaryOperator_eq_none : binaryOperator c = none := by
  have hsigns : ∀ operator ∈ binaryOperators,
      operator.1.toList.head?.any (· ∉ closers) = true := by decide
  refine foldr_eq_none (fun operator hoperator => ?_) (orElse_eq_none.mpr
    ⟨keyword_eq_none h hrest.noWord, keyword_eq_none h hrest.noWord⟩)
  exact symbolUnless_eq_none_of_stopped h hrest (hsigns operator hoperator)

theorem combiningOperator_eq_none : combiningOperator c = none := by
  refine foldr_eq_none (fun s hs => symbol_eq_none_of_stopped h hrest ?_) rfl
  revert s
  decide

theorem continued_eq_none : continued g ending p c = none := by
  refine orElse_eq_none.mpr ⟨?_, orElse_eq_none.mpr ⟨?_, ?_⟩⟩
  · refine bind_eq_none.mpr fun _ d hguard => ?_
    obtain ⟨-, rfl⟩ := reads_guard.mp hguard
    exact bind_eq_none_of_left (symbolUnless_eq_none_of_stopped h hrest (by decide))
  · refine bind_eq_none.mpr fun _ d hguard => ?_
    obtain ⟨-, rfl⟩ := reads_guard.mp hguard
    exact bind_eq_none_of_left (combiningOperator_eq_none h hrest)
  · exact bind_eq_none_of_left
      (bind_eq_none_of_left (symbolUnless_eq_none_of_stopped h hrest (by decide)))

/-- No value begins where the text ends or something goes on. -/
theorem primary_eq_none : primary g ending c = none := by
  have hclosers : ∀ y ∈ closers, y ∉ openers ∧ y.isDigit = false :=
    List.all_iff_forall_prop.mp (by decide)
  refine Parser.eq_none_iff.mpr fun a d hread => ?_
  cases hcs : e.rest with
  | nil =>
      rw [primary, reads_bind_of_still (reads_nextChars h), hcs] at hread
      exact not_reads_refuse hread
  | cons y ys =>
      obtain ⟨hopener, hdigit⟩ := hclosers y (hrest y (by rw [hcs]; rfl))
      rw [reads_primary_plain h hcs hopener, if_neg (by simp [hdigit]),
        reads_bind_of_still (reads_nextWord_none h hrest.noWord)] at hread
      exact not_reads_refuse hread

theorem counted_eq_none : counted g ending c = none :=
  bind_eq_none_of_left (bind_eq_none_of_left (primary_eq_none h hrest))

theorem unary_eq_none : unary g ending c = none := by
  have hclosers : ∀ y ∈ closers, y ∉ prefixSigns := List.all_iff_forall_prop.mp (by decide)
  refine Parser.eq_none_iff.mpr fun a d hread => ?_
  rw [reads_unary_plain h (fun y hy => hclosers y (hrest y hy))
    (reads_nextWord_none h hrest.noWord) no_prefix_of_none] at hread
  exact Parser.eq_none_iff.mp (counted_eq_none h hrest) _ _ hread

theorem expressionText_eq_none : expressionText g ending c = none := by
  rw [expressionText, bind_of_still (reads_nextWord_none h hrest.noWord), if_neg (by simp)]
  exact bind_eq_none_of_left (bind_eq_none_of_left (unary_eq_none h hrest))

theorem stringToken_eq_none : stringToken c = none :=
  orElse_eq_none.mpr ⟨bind_eq_none_of_left (symbol_eq_none_of_stopped h hrest (by decide)),
    bind_eq_none_of_left (symbol_eq_none_of_stopped h hrest (by decide))⟩

theorem propertyName_eq_none : propertyName g c = none := by
  have hagain := reads_trivia_of_solid hrest.solid
  obtain ⟨hnumber, hprivate⟩ := hrest.lexemes
  refine orElse_eq_none.mpr ⟨wordAs_eq_none h hrest.noWord, orElse_eq_none.mpr
    ⟨stringToken_eq_none h hrest, orElse_eq_none.mpr
      ⟨whole_eq_none h (measured_eq_none hnumber), orElse_eq_none.mpr
        ⟨whole_eq_none h ?_, whole_eq_none h (measured_eq_none hprivate)⟩⟩⟩⟩
  exact bind_eq_none_of_left (bind_eq_none_of_left
    (symbol_eq_none_of_stopped hagain hrest (by decide)))

theorem memberModifier_eq_none : memberModifier c = none := by
  refine bind_eq_none_of_left (bind_eq_none_of_left (orElse_eq_none.mpr ⟨?_, ?_⟩))
  · refine bind_eq_none_of_left ?_
    rw [keywordAmong, bind_of_still (reads_nextWord_none h hrest.noWord)]
    rfl
  · exact bind_eq_none_of_left (symbol_eq_none_of_stopped h hrest (by decide))

/-- No property begins where something goes on. -/
theorem objectProperty_eq_none : objectProperty g c = none := by
  have hagain := reads_trivia_of_solid hrest.solid
  have hmodifiers : (discard (many memberModifier)).Reads e () e :=
    reads_discard (reads_many_nil (memberModifier_eq_none hagain hrest))
  refine orElse_eq_none.mpr ⟨bind_eq_none_of_left (propertyName_eq_none h hrest),
    orElse_eq_none.mpr ⟨bind_eq_none_of_left (symbol_eq_none_of_stopped h hrest (by decide)),
      orElse_eq_none.mpr ⟨whole_eq_none h ?_, wordAs_eq_none h hrest.noWord⟩⟩⟩
  rw [method, bind_of_still hmodifiers]
  exact bind_eq_none_of_left (bind_eq_none_of_left (propertyName_eq_none hagain hrest))

end Refusals

/-! ## An operand by itself -/

/-- An expression that stands before the cursor is complete: an automatic semicolon stands here, or
no statement can end here and something goes on that the expression is part of. -/
inductive Ends : Ending → Cursor → Prop
  | before {c e : Cursor} : trivia.Reads c [] e → Stopped e.rest → Ends .inside c
  | here {ending : Ending} {c : Cursor} : (endsHere ending).Reads c true c → Ends ending c

/-- Where an expression is complete, nothing is read that could continue it. -/
theorem unlessEnding_eq_none {α : Type} {q : Parser α} (hends : Ends ending c)
    (hq : ∀ {e : Cursor}, trivia.Reads c [] e → Stopped e.rest → q c = none) :
    (do if ← endsHere ending then refuse
        q) c = none := by
  cases hends with
  | before h hrest =>
      have hopen : (endsHere .inside).Reads c false c := reads_ahead.mpr ⟨rfl, rfl⟩
      rw [bind_of_still hopen]
      exact hq h hrest
  | here hclosed =>
      rw [bind_of_still hclosed]
      rfl

theorem reads_pieces_nil {q : Parser Piece} (h : q c = none) : (pieces q).Reads c [] c :=
  reads_bind.mpr ⟨none, c, reads_optional.mpr (Or.inr ⟨h, rfl, rfl⟩), reads_pure.mpr ⟨rfl, rfl⟩⟩

theorem reads_pieces_one {q : Parser Piece} (h : q.Reads c p d) : (pieces q).Reads c [p] d :=
  reads_bind.mpr ⟨some p, d, reads_optional.mpr (Or.inl ⟨p, rfl, h⟩), reads_pure.mpr ⟨rfl, rfl⟩⟩

theorem reads_counted (h : (primary g ending).Reads c p d) (hends : Ends ending d) :
    (counted g ending).Reads c p d := by
  have haccessed : (accessed g ending).Reads c p d := by
    refine reads_bind.mpr ⟨p, d, h, (reads_extend_of_stops ?_).mpr ⟨rfl, rfl⟩⟩
    exact stops_of_eq_none (unlessEnding_eq_none hends fun h hrest =>
      orElse_eq_none.mpr ⟨memberSuffix_eq_none h hrest, orElse_eq_none.mpr
        ⟨optionalSuffix_eq_none h hrest, callSuffix_eq_none h hrest⟩⟩)
  refine reads_bind.mpr ⟨p, d, haccessed, reads_bind.mpr ⟨[], d, ?_, reads_pure.mpr ⟨rfl, rfl⟩⟩⟩
  exact reads_pieces_nil (unlessEnding_eq_none hends stepSign_eq_none)

theorem reads_binary (h : (unary g ending).Reads c p d) (hends : Ends ending d) :
    (binary g ending).Reads c p d := by
  refine reads_bind.mpr ⟨p, d, h, (reads_extend_of_stops ?_).mpr ⟨rfl, rfl⟩⟩
  exact stops_of_eq_none (unlessEnding_eq_none hends fun h hrest =>
    orElse_eq_none.mpr ⟨asserted_eq_none h hrest, orElse_eq_none.mpr
      ⟨instantiation_eq_none h hrest, bind_eq_none_of_left (binaryOperator_eq_none h hrest)⟩⟩)

/-- An operand that is no pattern is an expression, if it is complete. -/
theorem reads_expressionText {w : Option String} (hword : nextWord.Reads c w c)
    (hyield : w ≠ some "yield") (h : (unary g ending).Reads c p d) (hends : Ends ending d)
    (hkind : p.tree.kind ∉ ["object_pattern", "array_pattern"]) :
    (expressionText g ending).Reads c p d := by
  rw [expressionText, reads_bind_of_still hword, if_neg hyield]
  refine reads_bind.mpr ⟨p, d, reads_binary h hends, reads_bind.mpr ⟨[], d, ?_, ?_⟩⟩
  · exact reads_pieces_nil (unlessEnding_eq_none hends continued_eq_none)
  · simp only [List.mem_cons, List.not_mem_nil, or_false, not_or] at hkind
    refine reads_bind.mpr ⟨(), d, reads_guard.mpr ⟨?_, rfl⟩, reads_pure.mpr ⟨rfl, rfl⟩⟩
    simp [hkind]

end LocaleCatalogue.Script
