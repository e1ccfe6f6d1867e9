import LocaleCatalogue.Proofs.Script.Strings
import LocaleCatalogue.Script.Expression
import LocaleCatalogue.Script.Markup

/-!
# Expressions are laid out

Every production of an expression lays its piece if the productions nested in it do. Most of them
read pieces one after another and put a tree around them.
-/

namespace LocaleCatalogue.Script

open LocaleCatalogue.Script.Parser

/-- The nested goals of a grammar lay their pieces. -/
def Grammar.Lays (g : Grammar) : Prop := ∀ goal, LaysOne (g.nested goal)

namespace Parser

theorem Lays.unlessEnding {α : Type} {before : List Piece} {p : Parser α} {after : α → List Piece}
    {ending : Ending} (hp : Lays before p after) :
    Lays before (do if ← endsHere ending then refuse
                    p) after := by
  apply Lays.skip
  intro ended
  cases ended with
  | false => exact hp
  | true => exact .bind lays_refuse fun _ _ => hp

theorem laysAll_commaSlots {item : Parser Piece} (hitem : LaysOne item) :
    LaysAll (commaSlots item) := by
  have hmore : Lays [] (many do let comma ← symbol ","; return comma :: (← pieces item)) fun ps =>
      ps.flatMap id :=
    ((laysOne_symbol (by decide)).read fun comma => (laysAll_pieces hitem).read fun more =>
      lays_done rfl).many
  refine (laysAll_pieces hitem).read fun first => hmore.read fun more => lays_pure fun _ _ _ h => ?_
  rwa [List.flatMap_id] at h

end Parser

variable {g : Grammar} {ending : Ending}

theorem laysOne_expressions (hg : g.Lays) : LaysOne (g.expressions ending) := by
  have hexpression := hg (.expression ending)
  refine hexpression.read fun first => ?_
  have hmore : Lays [] (many do
      if ← endsHere ending then Parser.refuse
      let comma ← symbol ","
      return [comma, ← g.nested (.expression ending)]) fun ps => ps.flatMap id :=
    (Lays.unlessEnding ((laysOne_symbol (by decide)).read fun comma => hexpression.read fun next =>
      lays_done rfl)).many
  refine hmore.read fun more => ?_
  split
  · exact lays_done rfl
  · rw [List.flatMap_id]
    exact lays_around (by decide)

/-! ## Names and patterns -/

theorem laysOne_equalsSign : LaysOne equalsSign := laysOne_symbolUnless (by decide)

theorem laysOne_propertyName : LaysOne (propertyName g) :=
  (laysOne_wordAs (by decide)).orElse
    (laysOne_stringToken.orElse
      (laysOne_numberToken.orElse ((laysOne_whole (by decide)).orElse (laysOne_whole (by decide)))))

theorem laysOne_destructuring : LaysOne (destructuring g) :=
  (laysOne_whole (by decide)).orElse (laysOne_whole (by decide))

theorem laysOne_binding : LaysOne (binding g) := laysOne_destructuring.orElse laysOne_name

theorem laysOne_typeArguments : LaysOne (typeArguments g) := laysOne_whole (by decide)

/-! ## Literals -/

theorem laysOne_spreadElement (hg : g.Lays) : LaysOne (spreadElement g) :=
  (laysOne_symbol (by decide)).read fun dots => (hg _).read fun spread => lays_around (by decide)

theorem laysOne_pairProperty (hg : g.Lays) : LaysOne (pairProperty g) :=
  (laysOne_propertyName.under "key").read fun key => (laysOne_symbol (by decide)).read fun colon =>
    ((hg _).under "value").read fun value => lays_around (by decide)

theorem laysOne_objectProperty (hg : g.Lays) : LaysOne (objectProperty g) :=
  (laysOne_pairProperty hg).orElse ((laysOne_spreadElement hg).orElse
    ((laysOne_whole (by decide)).orElse (laysOne_wordAs (by decide))))

theorem laysOne_objectLiteral (hg : g.Lays) : LaysOne (objectLiteral g) :=
  (laysOne_symbol (by decide)).read fun opening =>
    (laysAll_commaSlots (laysOne_objectProperty hg)).read fun properties =>
      (laysOne_symbol (by decide)).read fun closing => lays_around (by decide)

theorem laysOne_arrayLiteral : LaysOne (arrayLiteral g) := laysOne_whole (by decide)

theorem laysOne_callArguments : LaysOne (callArguments g) := laysOne_whole (by decide)

theorem laysOne_templateString : LaysOne (templateString g) := laysOne_whole (by decide)

/-! ## Operands -/

theorem laysOne_parenthesized (hg : g.Lays) : LaysOne (parenthesized g) :=
  (laysOne_symbol (by decide)).read fun opening => (laysOne_expressions hg).read fun inner =>
    (laysAll_pieces (laysOne_whole (by decide))).read fun annotation =>
      (laysOne_symbol (by decide)).read fun closing => lays_around (by decide)

theorem laysOne_arrowFunction : LaysOne (arrowFunction g ending) := laysOne_whole (by decide)

theorem laysOne_bareArrowFunction : LaysOne (bareArrowFunction g ending) :=
  laysOne_whole (by decide)

theorem laysOne_functionExpression : LaysOne (functionExpression g) := by
  refine .skip fun generator => laysOne_whole ?_
  split <;> decide

theorem laysOne_classExpression : LaysOne (classExpression g) := laysOne_whole (by decide)

theorem laysOne_newExpression (hg : g.Lays) : LaysOne (newExpression g) := by
  refine (laysOne_keyword (by decide)).read fun word => ?_
  refine Lays.bind (?_ : Lays [word] _ fun target => word :: target.2) fun target htarget => ?_
  · refine .orElse ?_ ?_
    · exact (laysOne_symbol (by decide)).read fun dot => laysOne_name.read fun name =>
        lays_done rfl
    · exact (hg _).read fun constructor =>
        (laysAll_pieces (.skip fun _ => laysOne_callArguments)).read fun arguments =>
          lays_done rfl
  · refine lays_around ?_
    obtain ⟨c, d, hread⟩ := htarget
    rcases reads_orElse.mp hread with hread | ⟨-, hread⟩
    · simp only [reads_bind, reads_pure] at hread
      obtain ⟨_, _, _, _, _, _, rfl, -⟩ := hread
      rfl
    · simp only [reads_bind, reads_pure] at hread
      obtain ⟨_, _, _, _, _, _, rfl, -⟩ := hread
      rfl

theorem laysOne_importExpression : LaysOne (importExpression g) :=
  (laysOne_keyword (by decide)).read fun word => .orElse
    ((laysOne_symbol (by decide)).read fun dot => laysOne_name.read fun property =>
      lays_around (by decide))
    (laysOne_callArguments.read fun arguments => lays_around (by decide))

theorem laysOne_wordExpression (hg : g.Lays) (w : String) :
    LaysOne (wordExpression g ending w) := by
  unfold wordExpression
  split
  · exact laysOne_functionExpression
  · exact laysOne_classExpression
  · exact (laysOne_newExpression hg).orElse laysOne_name
  · exact laysOne_importExpression
  · exact laysOne_bareArrowFunction.orElse
      (laysOne_arrowFunction.orElse (laysOne_functionExpression.orElse laysOne_name))
  · exact laysOne_wordAs (by decide)
  · exact laysOne_wordAs (by decide)
  · exact laysOne_wordAs (by decide)
  · exact laysOne_wordAs (by decide)
  · exact laysOne_wordAs (by decide)
  · exact laysOne_wordAs (by decide)
  · exact laysOne_bareArrowFunction.orElse laysOne_name

theorem laysOne_primary (hg : g.Lays) : LaysOne (primary g ending) := by
  apply Lays.skip
  intro cs
  split
  · exact laysOne_arrowFunction.orElse (laysOne_parenthesized hg)
  · exact (laysOne_objectLiteral hg).orElse laysOne_destructuring
  · exact laysOne_arrayLiteral.orElse laysOne_destructuring
  · exact laysOne_stringToken
  · exact laysOne_stringToken
  · exact laysOne_templateString
  · exact laysOne_whole (by decide)
  · exact laysOne_whole (by decide)
  · exact laysOne_classExpression
  · exact laysOne_numberToken
  · split
    · exact laysOne_numberToken
    · apply Lays.skip
      intro next
      split
      · exact laysOne_wordExpression hg _
      · exact lays_refuse
  · exact lays_refuse

/-! ## Accesses and calls

The piece read so far becomes the first part of a larger one.
-/

theorem laysOne_memberName : LaysOne memberName :=
  (laysOne_wordAs (by decide)).orElse (laysOne_whole (by decide))

theorem laysOne_subscript : LaysOne (subscript g) := laysOne_whole (by decide)

theorem lays_memberSuffix (e : Piece) : Lays [e] (memberSuffix g e) ([·]) := by
  apply Lays.skip
  intro cs
  split
  · exact lays_refuse
  · exact (laysOne_symbol (by decide)).read fun dot => laysOne_memberName.read fun member =>
      lays_around (by decide)
  · exact laysOne_subscript.read fun index => lays_around (by decide)
  · exact lays_refuse
  · exact (laysOne_symbol (by decide)).read fun mark => lays_around (by decide)
  · exact lays_refuse

theorem lays_optionalSuffix (e : Piece) : Lays [e] (optionalSuffix g e) ([·]) :=
  (laysOne_symbolUnless (by decide)).read fun chain => .orElse
    (laysOne_subscript.read fun index => lays_around (by decide)) (.orElse
      (laysOne_memberName.read fun member => lays_around (by decide))
      (.skip fun _ => laysOne_callArguments.read fun arguments => lays_around (by decide)))

theorem lays_callSuffix (e : Piece) : Lays [e] (callSuffix g e) ([·]) := by
  apply Lays.skip
  intro cs
  split
  · exact laysOne_callArguments.read fun arguments => lays_around (by decide)
  · exact laysOne_templateString.read fun template => lays_around (by decide)
  · exact laysOne_typeArguments.read fun types =>
      (laysOne_callArguments.orElse laysOne_templateString).read fun called =>
        lays_around (by decide)
  · exact lays_refuse

theorem laysOne_constructed (hg : g.Lays) : LaysOne (constructed g) := by
  refine (laysOne_primary hg).read fun first => lays_extend fun e => .skip fun cs => ?_
  split
  · exact lays_refuse
  · exact lays_memberSuffix e

theorem laysOne_accessed (hg : g.Lays) : LaysOne (accessed g ending) :=
  (laysOne_primary hg).read fun _ => lays_extend fun e => .unlessEnding
    ((lays_memberSuffix e).orElse ((lays_optionalSuffix e).orElse (lays_callSuffix e)))

theorem laysOne_stepSign : LaysOne stepSign :=
  (laysOne_symbol (by decide)).orElse (laysOne_symbol (by decide))

theorem laysOne_counted (hg : g.Lays) : LaysOne (counted g ending) := by
  refine (laysOne_accessed hg).read fun e =>
    (laysAll_pieces (.unlessEnding laysOne_stepSign)).read fun sign => ?_
  split
  · exact lays_done rfl
  · exact lays_around (by decide)

/-! ## Operators -/

theorem laysOne_applied (hg : g.Lays) {kind : String} {operator : Parser Piece}
    (hkind : isComposite kind = true) (hoperator : LaysOne operator) :
    LaysOne (applied g kind ending operator) :=
  hoperator.read fun _ => (hg _).read fun _ => lays_around hkind

theorem laysOne_angled (hg : g.Lays) : LaysOne (angled g ending) := by
  refine laysOne_arrowFunction.orElse ?_
  split
  · exact laysOne_applied hg (by decide) laysOne_typeArguments
  · exact hg _

theorem laysOne_unary (hg : g.Lays) : LaysOne (unary g ending) := by
  apply Lays.skip
  intro cs
  split
  · exact laysOne_applied hg (by decide) (laysOne_symbol (by decide))
  · exact laysOne_applied hg (by decide) (laysOne_symbol (by decide))
  · exact laysOne_applied hg (by decide) laysOne_stepSign
  · exact laysOne_applied hg (by decide) laysOne_stepSign
  · exact laysOne_applied hg (by decide) (laysOne_symbol (by decide))
  · exact laysOne_applied hg (by decide) (laysOne_symbol (by decide))
  · exact laysOne_angled hg
  · apply Lays.skip
    intro next
    split
    · exact laysOne_applied hg (by decide) (laysOne_keyword (by decide))
    · exact laysOne_applied hg (by decide) (laysOne_keyword (by decide))
    · exact laysOne_applied hg (by decide) (laysOne_keyword (by decide))
    · exact laysOne_applied hg (by decide) (laysOne_keyword (by decide))
    · exact laysOne_counted hg

theorem laysOne_foldr {α : Type} {choices : List α} {p : α → Parser Piece} {last : Parser Piece}
    (hchoices : ∀ a ∈ choices, LaysOne (p a)) (hlast : LaysOne last) :
    LaysOne (choices.foldr (fun a other => p a <|> other) last) := by
  induction choices with
  | nil => exact hlast
  | cons a choices ih =>
      exact (hchoices a List.mem_cons_self).orElse
        (ih fun b hb => hchoices b (List.mem_cons_of_mem a hb))

theorem laysOne_binaryOperator : LaysOne binaryOperator := by
  have hkinds : ∀ operator ∈ binaryOperators, isComposite operator.1 = true := by decide
  refine laysOne_foldr (fun operator hoperator => ?_) ?_
  · exact laysOne_symbolUnless (hkinds operator hoperator)
  · exact (laysOne_keyword (by decide)).orElse (laysOne_keyword (by decide))

theorem lays_instantiation (e : Piece) : Lays [e] (instantiation g e) ([·]) :=
  laysOne_typeArguments.read fun types => .skip fun _ => .skip fun _ => lays_around (by decide)

theorem lays_asserted (hg : g.Lays) (e : Piece) : Lays [e] (asserted g ending e) ([·]) :=
  .orElse
    ((laysOne_keyword (by decide)).read fun word =>
      ((laysOne_keyword (by decide)).orElse (hg _)).read fun type => lays_around (by decide))
    ((laysOne_keyword (by decide)).read fun word => (hg _).read fun type => lays_around (by decide))

theorem laysOne_binary (hg : g.Lays) : LaysOne (binary g ending) :=
  (laysOne_unary hg).read fun first => lays_extend fun e => .unlessEnding
    ((lays_asserted hg e).orElse ((lays_instantiation e).orElse
      (laysOne_binaryOperator.read fun operator => (hg _).read fun operand =>
        lays_around (by decide))))

theorem laysOne_combiningOperator : LaysOne combiningOperator := by
  refine laysOne_foldr (fun s hs => laysOne_symbol ?_) lays_refuse
  revert s
  decide

theorem laysOne_conditionMark : LaysOne conditionMark := by
  refine (laysOne_symbolUnless (by decide)).read fun mark => .skip fun cs => ?_
  split
  · exact lays_refuse
  · exact lays_refuse
  · exact lays_refuse
  · split
    · exact lays_done rfl
    · exact lays_refuse
  · exact lays_done rfl

theorem laysOne_consequent (hg : g.Lays) : LaysOne (consequent g) :=
  .reconsider (hg _) (laysOne_parenthesized hg)

theorem lays_continued (hg : g.Lays) (e : Piece) : Lays [e] (continued g ending e) ([·]) :=
  .orElse
    (.skip fun _ => laysOne_equalsSign.read fun sign => (hg _).read fun value =>
      lays_around (by decide))
    (.orElse
      (.skip fun _ => laysOne_combiningOperator.read fun operator => (hg _).read fun value =>
        lays_around (by decide))
      (laysOne_conditionMark.read fun mark => (laysOne_consequent hg).read fun yes =>
        (laysOne_symbol (by decide)).read fun colon => (hg _).read fun no =>
          lays_around (by decide)))

theorem laysOne_yieldExpression (hg : g.Lays) : LaysOne (yieldExpression g ending) :=
  (laysOne_keyword (by decide)).read fun word =>
    (laysAll_pieces (.unlessEnding (.skip fun _ => hg _))).read fun value => lays_around (by decide)

/-- A piece may become a part of a larger one, or stay. -/
theorem lays_pieces_from {e : Piece} {p : Parser Piece} (hp : Lays [e] p ([·])) :
    Lays [e] (pieces p) fun found => [found.headD e] := by
  intro text start c d found hc hbefore hread
  obtain ⟨found?, f, hoptional, hdone⟩ := reads_bind.mp hread
  rcases reads_optional.mp hoptional with ⟨larger, rfl, hlarger⟩ | ⟨-, rfl, rfl⟩
  · obtain ⟨rfl, rfl⟩ := reads_pure.mp hdone
    exact hp hc hbefore hlarger
  · obtain ⟨rfl, rfl⟩ := reads_pure.mp hdone
    exact hbefore

theorem laysOne_expressionText (hg : g.Lays) : LaysOne (expressionText g ending) := by
  apply Lays.skip
  intro next
  split
  · exact laysOne_yieldExpression hg
  · refine (laysOne_binary hg).read fun e =>
      Lays.bind (lays_pieces_from (.unlessEnding (lays_continued hg e))) fun whole _ => ?_
    split
    · exact lays_done rfl
    · exact .skip fun _ => lays_done rfl

/-- Markup is laid out as one piece. -/
theorem laysOne_markup : LaysOne (markup g) := by
  apply lays_of_reads
  intro text c d piece hc hread
  unfold markup at hread
  simp only [reads_bind, reads_offset, reads_pure] at hread
  obtain ⟨comments, e, htrivia, _, _, ⟨rfl, rfl⟩, closed, f, htext, _, _, ⟨rfl, rfl⟩, rfl, rfl⟩ :=
    hread
  refine laid_singleton.mpr ⟨e.offset, arranged_trivia htrivia, Nat.le_refl _,
    Tree.sound_leaf ?_ htext.offset_le, Nat.le_refl _⟩
  cases closed <;> decide

end LocaleCatalogue.Script
