import LocaleCatalogue.Proofs.Script.Expressions
import LocaleCatalogue.Script.Program

/-!
# Programs are laid out

Statements lay their pieces if the productions nested in them do. The productions are tied together
by their depth, so every goal lays its piece at every depth, and the outline of a text is laid out
in the text.
-/

namespace LocaleCatalogue.Script

open LocaleCatalogue.Script.Parser

variable {g : Grammar} {ending : Ending}

theorem laysOne_expressionStatement : LaysOne (expressionStatement g) := laysOne_whole (by decide)

theorem laysAll_semicolon : LaysAll (semicolon ending) :=
  .orElse (.skip fun _ => lays_done rfl)
    ((laysOne_symbol (by decide)).read fun _ => lays_done rfl)

/-! ## Declarations -/

theorem laysOne_functionDeclaration : LaysOne (functionDeclaration g) :=
  .skip fun _ => .skip fun _ => laysOne_whole (by decide)

theorem laysOne_classDeclaration : LaysOne (classDeclaration g) := laysOne_whole (by decide)

theorem laysOne_declarationOf (w : String) : LaysOne (declarationOf g w) := by
  have hvariable : LaysOne (variableDeclaration g) := laysOne_whole (by decide)
  have henum : LaysOne (enumDeclaration g) := laysOne_whole (by decide)
  have hmodule : LaysOne (moduleDeclaration g) := laysOne_whole (by decide)
  unfold declarationOf
  split
  · exact henum.orElse hvariable
  · exact hvariable
  · exact hvariable
  · exact laysOne_functionDeclaration
  · exact laysOne_functionDeclaration
  · exact laysOne_classDeclaration
  · exact laysOne_classDeclaration
  · exact laysOne_whole (by decide)
  · exact laysOne_whole (by decide)
  · exact henum
  · exact hmodule
  · exact hmodule
  · exact laysOne_whole (by decide)
  · exact lays_refuse

theorem laysOne_declaration : LaysOne (declaration g) := by
  apply Lays.skip
  intro cs
  split
  · exact laysOne_classDeclaration
  · apply Lays.skip
    intro next
    split
    · exact laysOne_declarationOf _
    · exact lays_refuse

/-! ## Statements -/

theorem laysOne_controlStatement (w : String) : LaysOne (controlStatement g w) := by
  unfold controlStatement
  split
  all_goals first
    | exact lays_refuse
    | exact laysOne_whole (by decide)

theorem laysOne_wordStatement (w : String) : LaysOne (wordStatement g w) := by
  unfold wordStatement
  split
  · exact lays_refuse
  split
  · exact laysOne_controlStatement w
  split
  · exact laysOne_declarationOf w
  apply Lays.skip
  intro named
  split
  · exact laysOne_declarationOf w
  · exact .orElse (laysOne_whole (by decide))
      ((laysOne_declarationOf w).orElse laysOne_expressionStatement)

theorem laysOne_plainStatement : LaysOne (plainStatement g) := by
  apply Lays.skip
  intro cs
  split
  · exact .orElse (laysOne_whole (by decide)) laysOne_expressionStatement
  · exact laysOne_whole (by decide)
  · exact laysOne_classDeclaration
  · apply Lays.skip
    intro next
    split
    · exact laysOne_wordStatement _
    · exact laysOne_expressionStatement

/-! ## Imports -/

theorem laysOne_namedImports : LaysOne namedImports :=
  .orElse (laysOne_whole (by decide)) (laysOne_whole (by decide))

theorem laysOne_importClause : LaysOne importClause := by
  refine .orElse (laysOne_namedImports.read fun bindings => lays_around (by decide)) ?_
  refine laysOne_name.read fun first =>
    (laysAll_pieces (laysOne_symbol (by decide))).read fun others => ?_
  split
  · exact lays_around (by decide)
  · exact laysOne_namedImports.read fun bindings => lays_around (by decide)

theorem laysAll_fromClause : LaysAll fromClause :=
  (laysOne_keyword (by decide)).read fun word =>
    (laysOne_stringToken.under "source").read fun source =>
    lays_done rfl

theorem laysAll_importAttributes : LaysAll (importAttributes g) :=
  laysAll_pieces (laysOne_whole (by decide))

theorem laysAll_bindingImport : LaysAll bindingImport :=
  laysOne_importClause.read fun _ => laysAll_fromClause.read fun _ =>
    lays_done rfl

theorem laysAll_requireImport : LaysAll requireImport :=
  (laysOne_whole (by decide)).read fun _ => lays_done rfl

theorem laysAll_bareImport : LaysAll bareImport :=
  (laysOne_stringToken.under "source").read fun _ => lays_done rfl

theorem laysAll_importContent : LaysAll importContent :=
  .orElse
    ((laysOne_keywordAmong (by decide)).read fun modifier =>
      (laysAll_bindingImport.orElse laysAll_requireImport).read fun content =>
        lays_done rfl)
    (laysAll_bindingImport.orElse (laysAll_requireImport.orElse laysAll_bareImport))

theorem laysOne_importStatement : LaysOne (importStatement g) :=
  (laysOne_keyword (by decide)).read fun word => laysAll_importContent.read fun content =>
    laysAll_importAttributes.read fun attributes => laysAll_semicolon.read fun ending =>
      lays_around (by decide)

theorem laysOne_importAlias : LaysOne importAlias := laysOne_whole (by decide)

/-! ## Exports -/

theorem laysAll_declared : Lays [] (declaration g) fun piece => [piece.under "declaration"] :=
  laysOne_declaration.under "declaration"

theorem laysAll_defaultExport (hg : g.Lays) : LaysAll (defaultExport g) :=
  (laysOne_keyword (by decide)).read fun word => .orElse
    (laysAll_declared.read fun declared => lays_done rfl)
    (.skip fun next => .skip fun _ => ((hg _).under "value").read fun value =>
      laysAll_semicolon.read fun ending => lays_done rfl)

theorem laysAll_exportClause : LaysAll (exportClause g) := by
  refine Lays.read (laysAll_pieces ?_) fun modifier => ?_
  · exact (laysOne_keyword (by decide)).read fun modifier => .skip fun _ => .skip fun _ =>
      lays_done rfl
  have hclause := fun p (q : Parser Unit) =>
    (@laysOne_whole "export_clause" true p (by decide)).orElse
      (@laysOne_whole "namespace_export" true q (by decide))
  refine (hclause _ _).read fun clause => ?_
  refine (laysAll_optional laysAll_fromClause).read fun source => .skip fun _ =>
    laysAll_importAttributes.read fun attributes => laysAll_semicolon.read fun ending =>
      lays_pure fun _ _ _ h => ?_
  simpa only [List.append_assoc, List.nil_append, List.singleton_append, id] using h

theorem laysAll_exportAssignment (hg : g.Lays) : LaysAll (exportAssignment g) :=
  laysOne_equalsSign.read fun _ => (hg _).read fun _ => laysAll_semicolon.read fun _ =>
    lays_done rfl

theorem laysAll_exportNamespace : LaysAll exportNamespace :=
  (laysOne_whole (by decide)).read fun words => laysOne_name.read fun bound =>
    laysAll_semicolon.read fun ending => lays_done rfl

theorem laysAll_exportContent (hg : g.Lays) : LaysAll (exportContent g) := by
  have hdeclared : LaysAll (do return [(← declaration g).under "declaration"]) :=
    laysAll_declared.read fun declared => lays_done rfl
  apply Lays.skip
  intro next
  split
  · exact laysAll_defaultExport hg
  · exact laysOne_importAlias.read fun imported => lays_done rfl
  · exact laysAll_exportNamespace
  · exact laysAll_exportClause.orElse hdeclared
  · exact hdeclared
  · apply Lays.skip
    intro cs
    split
    · exact laysAll_exportAssignment hg
    · exact hdeclared
    · exact laysAll_exportClause

theorem laysOne_exportStatement (hg : g.Lays) : LaysOne (exportStatement g) := by
  have hdecorator : LaysOne (whole "decorator" true (decorator g)) := laysOne_whole (by decide)
  refine hdecorator.many.read fun decorators => (laysOne_keyword (by decide)).read fun word =>
    (laysAll_exportContent hg).read fun content => ?_
  rw [List.flatMap_singleton', List.nil_append, List.append_assoc]
  split
  · exact lays_around (by decide)
  · exact lays_around (by decide)

theorem laysOne_statement (hg : g.Lays) : LaysOne (statement g) := by
  apply Lays.skip
  intro next
  split
  · exact (laysOne_exportStatement hg).orElse laysOne_plainStatement
  · exact laysOne_importStatement.orElse (laysOne_importAlias.orElse laysOne_plainStatement)
  · exact laysOne_plainStatement
  · apply Lays.skip
    intro cs
    split
    · exact (laysOne_exportStatement hg).orElse laysOne_plainStatement
    · exact laysOne_plainStatement

/-! ## Programs -/

theorem laysOne_production (hg : g.Lays) (goal : Goal) : LaysOne (production g goal) := by
  cases goal with
  | expression ending => exact laysOne_expressionText hg
  | unary ending => exact laysOne_unary hg
  | constructed => exact laysOne_constructed hg
  | property => exact laysOne_objectProperty hg
  | type ending => exact laysOne_whole (by decide)
  | typeOperand ending => exact laysOne_whole (by decide)
  | binding => exact laysOne_binding
  | markup => exact laysOne_markup
  | declaration => exact laysOne_declaration
  | statement => exact laysOne_statement hg

/-- Every goal lays its piece, however deep the goals inside it may go. -/
theorem laysOne_parseWithin (dialect : Dialect) (depth : Nat) (goal : Goal) :
    LaysOne (parseWithin dialect depth goal) := by
  induction depth generalizing goal with
  | zero => exact lays_refuse
  | succ depth ih => exact laysOne_production (g := ⟨dialect, parseWithin dialect depth⟩) ih goal

/-- The outline of a text is laid out in the text. -/
theorem arranged_outlineOf (dialect : Dialect) (text : List Char) :
    Arranged text 0 (outlineOf dialect text).parts text.length := by
  unfold outlineOf
  split
  next s hs =>
    have hread := reads_of_eq_some hs
    have hend := (hread.at (Cursor.start_at text)).offset_le
    unfold outline at hread
    obtain ⟨_, c, hinterpreter, hread⟩ := reads_bind.mp hread
    obtain ⟨statements, d, hstatements, hread⟩ := reads_bind.mp hread
    obtain ⟨trailing, e, htrailing, hread⟩ := reads_bind.mp hread
    simp only [reads_bind, reads_upcoming, reads_offset, reads_pure] at hread
    obtain ⟨_, _, ⟨rfl, rfl⟩, _, _, ⟨rfl, rfl⟩, hvalue, hnext⟩ := hread
    rw [← hvalue]
    rw [← hnext] at hend
    have hc := hinterpreter.at (Cursor.start_at text)
    have hlaid :=
      (laysOne_parseWithin dialect (4 * (text.length + 1)) .statement).many.reads hc hstatements
    rw [List.flatMap_singleton'] at hlaid
    refine arranged_append.mpr ⟨d.offset, hlaid.extend_start (Nat.zero_le _), ?_⟩
    exact (arranged_trivia htrailing).extend hend
  · exact Nat.zero_le _

end LocaleCatalogue.Script
