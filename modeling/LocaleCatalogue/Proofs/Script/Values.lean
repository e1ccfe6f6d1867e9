import Mathlib.Data.List.Forall2
import LocaleCatalogue.Proofs.Script.Endings
import LocaleCatalogue.Proofs.Script.Letters
import LocaleCatalogue.Proofs.Script.Numbers
import LocaleCatalogue.Syntax.Property

/-!
# Values of JSON are expressions

Every value of JSON is an expression of the language. Goals are met inside each other no deeper than
the value has characters, so the induction is on the depth, and what it carries from one depth to
the next is that shorter values are read. Of an object the pairs are kept, and each of them declares
the name that it begins with.
-/

namespace LocaleCatalogue.Script

open LocaleCatalogue.Script.Parser
open Written (Gap Items Member Members Token quoted)

variable {text : List Char} {g : Grammar} {ending : Ending} {c d e f : Cursor} {n : Nat}

/-! ## Lists -/

/-- Items with commas between them, each read where the one before it and its comma end. -/
inductive Slots (item : Parser Piece) : Cursor → List Piece → Cursor → Prop
  | last {c d : Cursor} {p : Piece} : item.Reads c p d → Slots item c [p] d
  | more {c d e f : Cursor} {p comma : Piece} {ps : List Piece} : item.Reads c p e →
      (symbol ",").Reads e comma f → e.offset < f.offset → Slots item f ps d →
      Slots item c (p :: comma :: ps) d

/-- Items with commas between them are read as a list, if no comma follows. -/
theorem reads_commaSlots {item : Parser Piece} {ps : List Piece} (h : Slots item c ps d)
    (hend : symbol "," d = none) : (commaSlots item).Reads c ps d := by
  have hparts : ∃ p e more, item.Reads c p e ∧
      (many do let comma ← symbol ","; return comma :: (← pieces item)).Reads e more d ∧
      ps = p :: more.flatten := by
    induction h with
    | @last c d p hitem =>
        exact ⟨p, d, [], hitem, reads_many_nil (bind_eq_none_of_left hend), rfl⟩
    | @more c d e f p comma ps hitem hcomma hmoved _ ih =>
        obtain ⟨p', e', more, hitem', hmore, rfl⟩ := ih hend
        have hstep : (do let comma ← symbol ","; return comma :: (← pieces item)).Reads e
            [comma, p'] e' :=
          reads_bind.mpr ⟨comma, f, hcomma, reads_bind.mpr
            ⟨[p'], e', reads_pieces_one hitem', reads_pure.mpr ⟨rfl, rfl⟩⟩⟩
        refine ⟨p, e, [comma, p'] :: more, hitem, ?_, rfl⟩
        exact (reads_many_of_moves hstep (Nat.lt_of_lt_of_le hmoved hitem'.offset_le)).mpr
          ⟨more, rfl, hmore⟩
  obtain ⟨p, e, more, hitem, hmore, rfl⟩ := hparts
  exact reads_bind.mpr ⟨[p], e, reads_pieces_one hitem,
    reads_bind.mpr ⟨more, d, hmore, reads_pure.mpr ⟨rfl, rfl⟩⟩⟩

/-- Nothing between brackets is a list without items. -/
theorem reads_commaSlots_nil {item : Parser Piece} (hitem : item c = none)
    (hend : symbol "," c = none) : (commaSlots item).Reads c [] c :=
  reads_bind.mpr ⟨[], c, reads_pieces_nil hitem, reads_bind.mpr
    ⟨[], c, reads_many_nil (bind_eq_none_of_left hend), reads_pure.mpr ⟨rfl, rfl⟩⟩⟩

/-! ## Values inside values -/

/-- The grammar reads values with at most `n` characters wherever they are complete, and reads no
value where none begins. -/
structure Grammar.ReadsValues (g : Grammar) (n : Nat) : Prop where
  value : ∀ {v : Written.Value} {ending : Ending} {c d e : Cursor}, v.text.length ≤ n →
    trivia.Reads c [] e → e.Passes v.text d → Separated d.rest → Ends ending d →
      ∃ t, (g.nested (.expression ending)).Reads c ⟨[], t⟩ d
  magnitude : ∀ {m : Written.Magnitude} {ending : Ending} {c d e : Cursor}, m.text.length ≤ n →
    trivia.Reads c [] e → e.Passes m.text d → Separated d.rest → Ends ending d →
      ∃ t, (g.nested (.unary ending)).Reads c ⟨[], t⟩ d
  refuses : ∀ {ending : Ending} {c e : Cursor}, trivia.Reads c [] e → Stopped e.rest →
    g.nested (.expression ending) c = none

theorem solid_cons {y : Char} {ys : List Char} (hy : Lexeme.isBlank y = false ∧ y ≠ '/')
    (h : c.rest = y :: ys) : Solid c.rest := forall_head h hy

theorem stopped_cons {y : Char} {ys : List Char} (hy : y ∈ closers) (h : c.rest = y :: ys) :
    Stopped c.rest := forall_head h hy

theorem solid_value (v : Written.Value) (rest : List Char) : Solid (v.text ++ rest) := by
  have hbeginnings : ∀ y ∈ Written.beginnings, Lexeme.isBlank y = false ∧ y ≠ '/' :=
    List.all_iff_forall_prop.mp (by decide)
  obtain ⟨y, hy, ys, htext⟩ := v.exists_head
  rw [htext]
  exact forall_head rfl (hbeginnings y hy)

/-- Behind blanks in front of a closer a value may end. -/
theorem separated_of_gap {gap : Gap} (h : c.Passes gap.text d) (hd : Stopped d.rest) :
    Separated c.rest := by
  have hclosers : ∀ y ∈ closers, y ∈ separators := List.all_iff_forall_prop.mp (by decide)
  exact forall_head_gap h (fun y hy => List.mem_append_left _ hy) fun y hy => hclosers y (hd y hy)

/-- A value with blanks around it is read, and so are the blanks, where an item or member is
complete. -/
theorem reads_spaced (hg : g.ReadsValues n) {before after : Gap} {value : Written.Value}
    (hlength : value.text.length ≤ n) (hbefore : c.Passes before.text e)
    (hvalue : e.Passes value.text f) (hafter : f.Passes after.text d) (hd : Stopped d.rest) :
    (∃ t, g.expression.Reads c ⟨[], t⟩ f) ∧ trivia.Reads c [] e ∧ trivia.Reads f [] d := by
  have hsolid : Solid e.rest := hvalue.rest_eq ▸ solid_value value f.rest
  have hgap := reads_trivia_gap hafter hd.solid
  have hstart := reads_trivia_gap hbefore hsolid
  exact ⟨hg.value hlength hstart hvalue (separated_of_gap hafter hd) (.before hgap hd), hstart, hgap⟩

/-! ## Arrays -/

/-- A value begins differently from a spread element. -/
theorem spreadElement_eq_none {v : Written.Value} (h : trivia.Reads c [] e)
    (hp : e.Passes v.text d) : spreadElement g c = none := by
  obtain ⟨y, hy, ys, htext⟩ := v.exists_head
  refine bind_eq_none_of_left (symbol_eq_none h ⟨'.', rfl, ?_⟩)
  rw [hp.rest_eq, htext]
  rintro ⟨⟩
  exact absurd hy (by decide)

/-- A comma behind blanks is read as a token. -/
theorem reads_comma (h : trivia.Reads c [] e) (hp : e.Passes [','] d) :
    ∃ comma, (symbol ",").Reads c comma d ∧ comma.comments = [] ∧ comma.tree.named = false ∧
      c.offset < d.offset := by
  refine ⟨_, reads_symbol h hp, rfl, rfl, ?_⟩
  rw [hp.offset_eq]
  exact Nat.lt_succ_of_le h.offset_le

theorem comma_eq_none {y : Char} {ys : List Char} (h : trivia.Reads c [] e) (hy : y ≠ ',')
    (hrest : e.rest = y :: ys) : symbol "," c = none :=
  symbol_eq_none h ⟨',', rfl, by rw [hrest]; rintro ⟨⟩; exact hy rfl⟩

/-- The items of an array are read up to the blanks before its bracket. -/
theorem reads_items {c : Cursor} (hg : g.ReadsValues n) (items : Items)
    (hlength : items.text.length ≤ n) (hp : c.Passes items.text d) (hd : Stopped d.rest) :
    ∃ ps f, Slots (spreadElement g <|> g.expression) c ps f ∧ trivia.Reads f [] d := by
  match items with
  | .last before value after =>
      simp only [Items.text, List.length_append] at hlength
      obtain ⟨f, hp, hafter⟩ := Cursor.passes_append.mp hp
      obtain ⟨e, hbefore, hvalue⟩ := Cursor.passes_append.mp hp
      obtain ⟨⟨t, hread⟩, hstart, hgap⟩ :=
        reads_spaced hg (by omega) hbefore hvalue hafter hd
      exact ⟨_, f, .last (reads_orElse.mpr
        (Or.inr ⟨spreadElement_eq_none hstart hvalue, hread⟩)), hgap⟩
  | .more before value after rest =>
      simp only [Items.text, List.length_append, List.length_cons] at hlength
      obtain ⟨k, hp, hmore⟩ := Cursor.passes_append.mp hp
      obtain ⟨f, hp, hafter⟩ := Cursor.passes_append.mp hp
      obtain ⟨e, hbefore, hvalue⟩ := Cursor.passes_append.mp hp
      obtain ⟨l, hcomma, hrest⟩ := Cursor.passes_cons.mp hmore
      obtain ⟨⟨t, hread⟩, hstart, hgap⟩ :=
        reads_spaced hg (by omega) hbefore hvalue hafter (stopped_cons (by decide) hcomma.rest_eq)
      obtain ⟨comma, hreadComma, -, -, hmoved⟩ := reads_comma hgap hcomma
      obtain ⟨ps, f', hslots, hend⟩ := reads_items hg rest (by omega) hrest hd
      exact ⟨_, f', .more (reads_orElse.mpr
        (Or.inr ⟨spreadElement_eq_none hstart hvalue, hread⟩)) hreadComma hmoved hslots, hend⟩

theorem reads_arrayLiteral {k : Cursor} {ps : List Piece} (h : trivia.Reads c [] e)
    (hopening : e.Passes ['['] f)
    (hitems : (commaSlots (spreadElement g <|> g.expression)).Reads f ps k)
    {l : Cursor} (hgap : trivia.Reads k [] l) (hclosing : l.Passes [']'] d) :
    (arrayLiteral g).Reads c ⟨[], leafTree "array" e.offset d.offset⟩ d := by
  have hsolid : Solid e.rest := solid_cons (by decide) hopening.rest_eq
  refine reads_whole.mpr ⟨[], e, h, ?_, rfl⟩
  refine reads_bind.mpr ⟨(), f, reads_discard (reads_symbol (reads_trivia_of_solid hsolid) hopening),
    reads_bind.mpr ⟨(), k, reads_discard hitems, ?_⟩⟩
  exact reads_bind.mpr ⟨(), d, reads_discard (reads_symbol hgap hclosing), reads_pure.mpr ⟨rfl, rfl⟩⟩

/-- An array is read as one piece. -/
theorem reads_array (hg : g.ReadsValues n) (items : Items) (hlength : items.text.length ≤ n)
    (h : trivia.Reads c [] e) (hp : e.Passes (Written.Value.array items).text d) :
    (arrayLiteral g).Reads c ⟨[], leafTree "array" e.offset d.offset⟩ d := by
  obtain ⟨f, hopening, hp⟩ := Cursor.passes_cons.mp hp
  obtain ⟨l, hitems, hclosing⟩ := Cursor.passes_append.mp hp
  have hstopped : Stopped l.rest := stopped_cons (by decide) hclosing.rest_eq
  obtain ⟨ps, k, hslots, hgap⟩ := reads_items hg items hlength hitems hstopped
  exact reads_arrayLiteral h hopening (reads_commaSlots hslots
    (comma_eq_none hgap (by decide) hclosing.rest_eq)) hgap hclosing

/-- Brackets without items are read as one piece. -/
theorem reads_emptyArray (hg : g.ReadsValues n) (gap : Gap) (h : trivia.Reads c [] e)
    (hp : e.Passes (Written.Value.emptyArray gap).text d) :
    (arrayLiteral g).Reads c ⟨[], leafTree "array" e.offset d.offset⟩ d := by
  obtain ⟨f, hopening, hp⟩ := Cursor.passes_cons.mp hp
  obtain ⟨l, hgap, hclosing⟩ := Cursor.passes_append.mp hp
  have hstopped : Stopped l.rest := stopped_cons (by decide) hclosing.rest_eq
  have hgap := reads_trivia_gap hgap hstopped.solid
  have hspread : spreadElement g f = none :=
    bind_eq_none_of_left (symbol_eq_none_of_stopped hgap hstopped (by decide))
  exact reads_arrayLiteral h hopening (reads_commaSlots_nil
    (orElse_eq_none.mpr ⟨hspread, hg.refuses hgap hstopped⟩)
    (comma_eq_none hgap (by decide) hclosing.rest_eq)) hgap hclosing

/-! ## Objects -/

/-- The tree is a pair, and what it declares is the name of the token, where the token stands. -/
structure Tree.IsPair (text : List Char) (t : Tree) (token : Token) : Prop where
  kind : t.kind = "pair"
  property : Syntax.Property.ofNode (t.place (.ofChars text)) (Utf8.encode text) =
    .ok (.string (Text.ofChars token.name) token.location)

theorem ofNode_pair {n key : Syntax.Node} {source : Bytes} {value : Text} (hkind : n.kind = "pair")
    (hfield : n.childByField "key" = some key) (hstring : key.kind = "string")
    (hvalue : Syntax.Literal.value key = .ok value) :
    Syntax.Property.ofNode n source = .ok (.string value (key.location source)) := by
  have hshorthand : "pair" ≠ "shorthand_property_identifier" := by decide
  have hidentifier : "string" ≠ "property_identifier" := by decide
  simp only [Syntax.Property.ofNode, hkind, hfield, Syntax.Property.ofKey, hstring, hvalue,
    if_neg hshorthand, if_neg hidentifier, if_true]

/-- A pair under a string declares the string where it stands. -/
theorem isPair_around {key : Tree} {letters : List Written.Letter} {colon value : Piece}
    (hc : c.At text) (hp : c.Passes (quoted letters) d)
    (hkey : key.IsString text c.offset d.offset (letters.map Written.Letter.value)) :
    Tree.IsPair text (Piece.around "pair" (Piece.under "key" ⟨[], key⟩) [colon, value]).tree
      ⟨text.take c.offset, letters⟩ := by
  refine ⟨rfl, ?_⟩
  have hkey' := hkey.under (some "key")
  have hfield : ((Piece.around "pair" (Piece.under "key" ⟨[], key⟩) [colon, value]).tree.place
      (.ofChars text)).childByField "key" =
        some (Tree.place (.ofChars text) { key with role := some "key" }) := by
    rw [Syntax.Node.childByField, place_children]
    exact List.find?_cons_of_pos (by simp [Piece.under])
  have hlocation : (Tree.place (.ofChars text) { key with role := some "key" }).location
      (Utf8.encode text) = Token.location ⟨text.take c.offset, letters⟩ := by
    have hstop := (hp.reaches.at hc).offset_le
    rw [location_place, hkey'.start_eq, hkey'.stop_eq, hp.take hc]
    · rfl
    · rw [hkey'.start_eq, hkey'.stop_eq]
      exact hp.reaches.offset_le
    · rw [hkey'.stop_eq]
      exact hstop
  rw [← hlocation]
  exact ofNode_pair (place_kind _ _) hfield ((place_kind _ _).trans hkey'.kind) hkey'.value_eq

theorem noWord_quoted {letters : List Written.Letter} (hp : c.Passes (quoted letters) d) :
    Lexeme.word c.rest = none := word_eq_none_of_cons (by decide) hp.rest_eq

theorem solid_quoted {letters : List Written.Letter} (hp : c.Passes (quoted letters) d) :
    Solid c.rest := solid_cons (by decide) hp.rest_eq

/-- A member is read as a pair, up to the blanks before the comma or brace behind it. -/
theorem reads_member (hg : g.ReadsValues n) (m : Member) (hlength : m.text.length ≤ n)
    (hc : c.At text) (hp : c.Passes m.text d) (hd : Stopped d.rest) :
    ∃ t f, (objectProperty g).Reads c ⟨[], t⟩ f ∧ trivia.Reads f [] d ∧ t.named = true ∧
      t.IsPair text (m.token (text.take c.offset)) := by
  obtain ⟨before, name, beforeColon, afterColon, value, after⟩ := m
  simp only [Member.text, List.length_append, List.length_cons] at hlength
  obtain ⟨f, hp, hafter⟩ := Cursor.passes_append.mp hp
  obtain ⟨l, hp, hvalue⟩ := Cursor.passes_append.mp hp
  obtain ⟨k, hp, hcolon⟩ := Cursor.passes_append.mp hp
  obtain ⟨i, hp, hbeforeColon⟩ := Cursor.passes_append.mp hp
  obtain ⟨e, hbefore, hname⟩ := Cursor.passes_append.mp hp
  obtain ⟨j, hcolon, hafterColon⟩ := Cursor.passes_cons.mp hcolon
  have hstart := reads_trivia_gap hbefore (solid_quoted hname)
  have he := hbefore.reaches.at hc
  obtain ⟨key, hkey, hstring⟩ := reads_quoted hc hstart hname
  obtain ⟨⟨t, hread⟩, -, hgap⟩ := reads_spaced hg (by omega) hafterColon hvalue hafter hd
  have hpropertyName : (propertyName g).Reads c ⟨[], key⟩ i :=
    reads_orElse.mpr (Or.inr ⟨wordAs_eq_none hstart (noWord_quoted hname),
      reads_orElse.mpr (Or.inl hkey)⟩)
  have hsymbol := reads_symbol (s := ":")
    (reads_trivia_gap hbeforeColon (solid_cons (by decide) hcolon.rest_eq)) hcolon
  refine ⟨_, f, reads_orElse.mpr (Or.inl (reads_bind.mpr ⟨_, i, hpropertyName, reads_bind.mpr
    ⟨_, j, hsymbol, reads_bind.mpr ⟨_, f, hread, reads_pure.mpr ⟨rfl, rfl⟩⟩⟩⟩)), hgap, rfl, ?_⟩
  have hpair := @isPair_around text e i key name ⟨[], signTree ":" k.offset j.offset⟩
    (Piece.under "value" ⟨[], t⟩) he hname hstring
  rwa [hbefore.take hc] at hpair

/-- The members of an object are read as pairs that declare the names, up to the blanks before its
brace. -/
theorem reads_members {c : Cursor} (hg : g.ReadsValues n) (members : Members)
    (hlength : members.text.length ≤ n) (hc : c.At text) (hp : c.Passes members.text d)
    (hd : Stopped d.rest) :
    ∃ ps f, Slots (objectProperty g) c ps f ∧ trivia.Reads f [] d ∧
      List.Forall₂ (Tree.IsPair text) ((ps.flatMap Piece.trees).filter (·.named))
        (members.tokens (text.take c.offset)) := by
  match members with
  | .last m =>
      obtain ⟨t, f, hread, hgap, hnamed, hpair⟩ := reads_member hg m hlength hc hp hd
      refine ⟨_, f, .last hread, hgap, ?_⟩
      rw [List.flatMap_singleton, Piece.trees, List.nil_append, List.filter_cons_of_pos hnamed]
      exact .cons hpair .nil
  | .more m rest =>
      simp only [Members.text, List.length_append, List.length_cons] at hlength
      obtain ⟨k, hmember, hp⟩ := Cursor.passes_append.mp hp
      obtain ⟨l, hcomma, hrest⟩ := Cursor.passes_cons.mp hp
      have hk := hmember.reaches.at hc
      obtain ⟨t, e, hread, hgap, hnamed, hpair⟩ := reads_member hg m (by omega) hc hmember
        (stopped_cons (by decide) hcomma.rest_eq)
      obtain ⟨comma, hreadComma, hcomments, hsign, hmoved⟩ := reads_comma hgap hcomma
      obtain ⟨ps, f, hslots, hend, hpairs⟩ :=
        reads_members hg rest (by omega) (hcomma.reaches.at hk) hrest hd
      refine ⟨_, f, .more hread hreadComma hmoved hslots, hend, ?_⟩
      rw [hcomma.take hk, hmember.take hc] at hpairs
      rw [List.flatMap_cons, List.flatMap_cons, Piece.trees, Piece.trees, hcomments, List.nil_append,
        List.nil_append, List.singleton_append, List.singleton_append,
        List.filter_cons_of_pos hnamed, List.filter_cons_of_neg (by rw [hsign]; simp)]
      exact .cons hpair hpairs

/-- The tree of an object of JSON: the named parts of it are the pairs, in order. -/
structure Tree.IsObject (text : List Char) (t : Tree) (tokens : List Token) : Prop where
  kind : t.kind = "object"
  pairs : List.Forall₂ (Tree.IsPair text) (t.parts.filter (·.named)) tokens

theorem reads_braces {k l : Cursor} {ps : List Piece} {tokens : List Token}
    (h : trivia.Reads c [] e) (hopening : e.Passes ['\x7b'] f)
    (hitems : (commaSlots (objectProperty g)).Reads f ps k) (hgap : trivia.Reads k [] l)
    (hclosing : l.Passes ['\x7d'] d)
    (hpairs : List.Forall₂ (Tree.IsPair text) ((ps.flatMap Piece.trees).filter (·.named)) tokens) :
    ∃ t, (objectLiteral g).Reads c ⟨[], t⟩ d ∧ t.IsObject text tokens := by
  refine ⟨_, reads_bind.mpr ⟨_, f, reads_symbol h hopening, reads_bind.mpr ⟨ps, k, hitems,
    reads_bind.mpr ⟨_, d, reads_symbol hgap hclosing, reads_pure.mpr ⟨rfl, rfl⟩⟩⟩⟩, rfl, ?_⟩
  change List.Forall₂ _ (List.filter _ (signTree _ _ _ :: List.flatMap Piece.trees (ps ++ [_]))) _
  rw [List.flatMap_append, List.filter_cons_of_neg (by simp [signTree]), List.filter_append,
    List.flatMap_singleton, Piece.trees, List.nil_append,
    List.filter_cons_of_neg (by simp [signTree]), List.filter_nil, List.append_nil]
  exact hpairs

/-- An object is read, and its pairs declare the names of its members. -/
theorem reads_object (hg : g.ReadsValues n) (o : Written.Object) (hlength : o.text.length ≤ n + 1)
    (he : e.At text) (h : trivia.Reads c [] e) (hp : e.Passes o.text d) :
    ∃ t, (objectLiteral g).Reads c ⟨[], t⟩ d ∧ t.IsObject text (o.tokens (text.take e.offset)) := by
  cases o with
  | empty gap =>
      obtain ⟨f, hopening, hp⟩ := Cursor.passes_cons.mp hp
      obtain ⟨l, hgap, hclosing⟩ := Cursor.passes_append.mp hp
      have hstopped : Stopped l.rest := stopped_cons (by decide) hclosing.rest_eq
      have hgap := reads_trivia_gap hgap hstopped.solid
      exact reads_braces h hopening (reads_commaSlots_nil (objectProperty_eq_none hgap hstopped)
        (comma_eq_none hgap (by decide) hclosing.rest_eq)) hgap hclosing .nil
  | filled members =>
      simp only [Written.Object.text, List.length_append, List.length_cons] at hlength
      obtain ⟨f, hopening, hp⟩ := Cursor.passes_cons.mp hp
      obtain ⟨l, hmembers, hclosing⟩ := Cursor.passes_append.mp hp
      have hstopped : Stopped l.rest := stopped_cons (by decide) hclosing.rest_eq
      obtain ⟨ps, k, hslots, hgap, hpairs⟩ :=
        reads_members hg members (by omega) (hopening.reaches.at he) hmembers hstopped
      rw [hopening.take he] at hpairs
      exact reads_braces h hopening (reads_commaSlots hslots
        (comma_eq_none hgap (by decide) hclosing.rest_eq)) hgap hclosing hpairs

/-! ## Values of every kind -/

theorem Cursor.exists_at (c : Cursor) : ∃ text, c.At text := by
  refine ⟨List.replicate c.offset ' ' ++ c.rest, ?_, ?_⟩
  · rw [List.drop_left' (List.length_replicate)]
  · rw [List.length_append, List.length_replicate]
    exact Nat.le_add_right _ _

/-- What no operator takes apart stands here, and nothing in front of it makes it a part of
something else. -/
structure Operand (g : Grammar) (ending : Ending) (c : Cursor) (t : Tree) (d : Cursor) : Prop where
  ahead : ∃ e, trivia.Reads c [] e ∧ ∀ y ∈ e.rest.head?, y ∉ prefixSigns
  word : ∃ w, nextWord.Reads c w c ∧ ∀ v ∈ prefixWords, w ≠ some v
  reads : (primary g ending).Reads c ⟨[], t⟩ d
  kind : t.kind ∉ ["object_pattern", "array_pattern"]

theorem Operand.unary {t : Tree} (h : Operand g ending c t d) (hends : Ends ending d) :
    (unary g ending).Reads c ⟨[], t⟩ d := by
  obtain ⟨e, htrivia, hsigns⟩ := h.ahead
  obtain ⟨w, hword, hw⟩ := h.word
  exact (reads_unary_plain htrivia hsigns hword hw).mpr (reads_counted h.reads hends)

theorem Operand.expression {t : Tree} (h : Operand g ending c t d) (hends : Ends ending d) :
    (expressionText g ending).Reads c ⟨[], t⟩ d := by
  obtain ⟨w, hword, hw⟩ := h.word
  exact reads_expressionText hword (hw _ (by decide)) (h.unary hends) hends h.kind

theorem operand_magnitude {m : Written.Magnitude} (h : trivia.Reads c [] e)
    (hp : e.Passes m.text d) (hd : Separated d.rest) :
    Operand g ending c (leafTree "number" e.offset d.offset) d := by
  have hdigits : ∀ y ∈ Written.decimalDigits, y.isDigit = true ∧ y ∉ prefixSigns ∧ y ∉ openers :=
    List.all_iff_forall_prop.mp (by decide)
  obtain ⟨y, hy, ys, htext⟩ := m.exists_head
  obtain ⟨hdigit, hsign, hopener⟩ := hdigits y hy
  have hrest : e.rest = y :: (ys ++ d.rest) := by rw [hp.rest_eq, htext, List.cons_append]
  have hword : Lexeme.word e.rest = none := by
    rw [hrest, Lexeme.word, hdigit]
    rfl
  have hkind : "number" ∉ ["object_pattern", "array_pattern"] := by decide
  refine ⟨⟨e, h, forall_head hrest hsign⟩,
    ⟨none, reads_nextWord_none h hword, no_prefix_of_none⟩, ?_, hkind⟩
  rw [reads_primary_plain h hrest hopener, if_pos hdigit]
  exact reads_numberToken h hp hd

theorem operand_constant {name : Written.Constant} (h : trivia.Reads c [] e)
    (hp : e.Passes name.word.toList d) (hd : Separated d.rest) :
    Operand g ending c (leafTree name.word e.offset d.offset) d := by
  obtain ⟨y, ys, htext, hsign, hopener, hdigit⟩ : ∃ y ys, name.word.toList = y :: ys ∧
      y ∉ prefixSigns ∧ y ∉ openers ∧ y.isDigit = false := by
    cases name <;> exact ⟨_, _, rfl, by decide, by decide, by decide⟩
  have hparts : ∀ y ∈ name.word.toList, Lexeme.isWordPart y = true := by
    cases name <;> exact List.all_eq_true.mp (by decide)
  have hw : e.PassesWord name.word d := ⟨hp, ⟨y, ys, htext, hdigit⟩, hparts, hd.noWord⟩
  have hrest : e.rest = y :: (ys ++ d.rest) := by rw [hp.rest_eq, htext, List.cons_append]
  have hprefix : ∀ v ∈ prefixWords, some name.word ≠ some v := by cases name <;> decide
  have hkind : name.word ∉ ["object_pattern", "array_pattern"] := by cases name <;> decide
  have hexpression : wordExpression g ending name.word = wordAs name.word := by cases name <;> rfl
  refine ⟨⟨e, h, forall_head hrest hsign⟩, ⟨_, reads_nextWord_of_word h hw, hprefix⟩, ?_, hkind⟩
  rw [reads_primary_plain h hrest hopener, if_neg (by simp [hdigit]),
    reads_bind_of_still (reads_nextWord_of_word h hw)]
  change (wordExpression g ending name.word).Reads _ _ _
  rw [hexpression]
  exact reads_wordAs h hw

/-- Behind a sign there is no word. -/
theorem operand_of_sign {t : Tree} {y : Char} {ys : List Char} (h : trivia.Reads c [] e)
    (hrest : e.rest = y :: ys) (hy : y ∈ ['[', '\x7b', '\x22'])
    (hread : (primary g ending).Reads c ⟨[], t⟩ d)
    (hkind : t.kind ∉ ["object_pattern", "array_pattern"]) :
    Operand g ending c t d := by
  have hsigns : ∀ y ∈ ['[', '\x7b', '\x22'], y ∉ prefixSigns ∧ Lexeme.isWordPart y = false ∧
      y ≠ '\\' := List.all_iff_forall_prop.mp (by decide)
  obtain ⟨hsign, hpart⟩ := hsigns y hy
  have hword := word_eq_none_of_cons hpart hrest
  exact ⟨⟨e, h, forall_head hrest hsign⟩, ⟨none, reads_nextWord_none h hword, no_prefix_of_none⟩,
    hread, hkind⟩

theorem operand_object (hg : g.ReadsValues n) (o : Written.Object) (hlength : o.text.length ≤ n + 1)
    (he : e.At text) (h : trivia.Reads c [] e) (hp : e.Passes o.text d) :
    ∃ t, Operand g ending c t d ∧ t.IsObject text (o.tokens (text.take e.offset)) := by
  obtain ⟨t, hread, hobject⟩ := reads_object hg o hlength he h hp
  obtain ⟨ys, htext⟩ := o.exists_head
  have hrest : e.rest = '\x7b' :: (ys ++ d.rest) := by rw [hp.rest_eq, htext, List.cons_append]
  refine ⟨t, operand_of_sign h hrest (by decide) ?_ (by rw [hobject.kind]; decide), hobject⟩
  rw [primary, reads_bind_of_still (reads_nextChars h), hrest]
  exact reads_orElse.mpr (Or.inl hread)

theorem operand_array (h : trivia.Reads c [] e) {ys : List Char} (hrest : e.rest = '[' :: ys)
    (hread : (arrayLiteral g).Reads c ⟨[], leafTree "array" e.offset d.offset⟩ d) :
    Operand g ending c (leafTree "array" e.offset d.offset) d := by
  have hkind : "array" ∉ ["object_pattern", "array_pattern"] := by decide
  refine operand_of_sign h hrest (by decide) ?_ hkind
  rw [primary, reads_bind_of_still (reads_nextChars h), hrest]
  exact reads_orElse.mpr (Or.inl hread)

/-- A value that is no negative number is an operand. -/
theorem exists_operand (hg : g.ReadsValues n) {v : Written.Value} (hlength : v.text.length ≤ n + 1)
    (hnegative : ∀ m, v ≠ .number true m) (h : trivia.Reads c [] e) (hp : e.Passes v.text d)
    (hd : Separated d.rest) : ∃ t, Operand g ending c t d := by
  obtain ⟨text, hc⟩ := c.exists_at
  cases v with
  | constant name => exact ⟨_, operand_constant h hp hd⟩
  | number negative m =>
      cases negative with
      | false => exact ⟨_, operand_magnitude h hp hd⟩
      | true => exact absurd rfl (hnegative m)
  | string letters =>
      obtain ⟨t, hread, hstring⟩ := reads_quoted hc h hp
      have hrest := hp.rest_eq
      refine ⟨t, operand_of_sign h hrest (by decide) ?_ (by rw [hstring.kind]; decide)⟩
      rw [primary, reads_bind_of_still (reads_nextChars h), hrest]
      exact hread
  | emptyArray gap => exact ⟨_, operand_array h hp.rest_eq (reads_emptyArray hg gap h hp)⟩
  | array items =>
      simp only [Written.Value.text, List.length_append, List.length_cons] at hlength
      exact ⟨_, operand_array h hp.rest_eq (reads_array hg items (by omega) h hp)⟩
  | object o =>
      obtain ⟨t, hoperand, -⟩ := operand_object hg o hlength (h.reaches.at hc) h hp
      exact ⟨t, hoperand⟩

/-- A negative number is its sign and its magnitude. -/
theorem reads_negative (hg : g.ReadsValues n) {m : Written.Magnitude} (hlength : m.text.length ≤ n)
    (h : trivia.Reads c [] e) (hp : e.Passes ('-' :: m.text) d) (hd : Separated d.rest)
    (hends : Ends ending d) : ∃ t, (expressionText g ending).Reads c ⟨[], t⟩ d := by
  have hdigits : ∀ y ∈ Written.decimalDigits, (Lexeme.isBlank y = false ∧ y ≠ '/') ∧ y ≠ '-' :=
    List.all_iff_forall_prop.mp (by decide)
  obtain ⟨f, hsign, hm⟩ := Cursor.passes_cons.mp hp
  obtain ⟨y, hy, ys, htext⟩ := m.exists_head
  obtain ⟨hsolid, hminus⟩ := hdigits y hy
  have hf : f.rest = y :: (ys ++ d.rest) := by rw [hm.rest_eq, htext, List.cons_append]
  have hrest : e.rest = '-' :: f.rest := hsign.rest_eq
  have hword := word_eq_none_of_cons (by decide) hrest
  obtain ⟨t, hread⟩ :=
    hg.magnitude hlength (reads_trivia_of_solid (solid_cons hsolid hf)) hm hd hends
  have happlied : (applied g "unary_expression" ending (symbol "-")).Reads c
      (.around "unary_expression" ⟨[], signTree "-" e.offset f.offset⟩ [⟨[], t⟩]) d :=
    reads_bind.mpr ⟨_, f, reads_symbol h hsign,
      reads_bind.mpr ⟨_, d, hread, reads_pure.mpr ⟨rfl, rfl⟩⟩⟩
  have hkind : "unary_expression" ∉ ["object_pattern", "array_pattern"] := by decide
  have hunary : (unary g ending).Reads c
      (.around "unary_expression" ⟨[], signTree "-" e.offset f.offset⟩ [⟨[], t⟩]) d := by
    rw [unary, reads_bind_of_still (reads_nextChars h), hrest, hf]
    split
    case h_4 heq =>
      -- A second minus sign would be the first digit.
      exact absurd (List.cons.inj (List.cons.inj heq).2).1 hminus
    case h_6 => exact happlied
    case h_8 _ hnone _ => exact absurd rfl (hnone _)
    all_goals
      next heq => exact absurd (List.cons.inj heq).1 (by decide)
  exact ⟨_, reads_expressionText (reads_nextWord_none h hword) (no_prefix_of_none _ (by decide))
    hunary hends hkind⟩

/-- With one more depth, values with one more character are read. -/
theorem exists_expression (hg : g.ReadsValues n) {v : Written.Value}
    (hlength : v.text.length ≤ n + 1) (h : trivia.Reads c [] e) (hp : e.Passes v.text d)
    (hd : Separated d.rest) (hends : Ends ending d) :
    ∃ t, (expressionText g ending).Reads c ⟨[], t⟩ d := by
  by_cases hnegative : ∃ m, v = .number true m
  · obtain ⟨m, rfl⟩ := hnegative
    simp only [Written.Value.text, if_true, List.length_append, List.length_singleton] at hlength
    exact reads_negative hg (by omega) h hp hd hends
  · obtain ⟨t, hoperand⟩ :=
      exists_operand hg hlength (fun m hm => hnegative ⟨m, hm⟩) h hp hd
    exact ⟨t, hoperand.expression hends⟩

/-- The grammar of a dialect reads every value that its depth suffices for. -/
theorem readsValues (dialect : Dialect) (n : Nat) :
    Grammar.ReadsValues ⟨dialect, parseWithin dialect n⟩ n := by
  induction n with
  | zero =>
      refine ⟨?_, ?_, fun _ _ => rfl⟩
      · intro v ending c d e hlength
        obtain ⟨y, -, ys, htext⟩ := v.exists_head
        rw [htext] at hlength
        cases hlength
      · intro m ending c d e hlength
        obtain ⟨y, -, ys, htext⟩ := m.exists_head
        rw [htext] at hlength
        cases hlength
  | succ n ih =>
      refine ⟨?_, ?_, ?_⟩
      · intro v ending c d e hlength h hp hd hends
        exact exists_expression ih hlength h hp hd hends
      · intro m ending c d e hlength h hp hd hends
        exact ⟨_, (operand_magnitude h hp hd).unary hends⟩
      · intro ending c e h hrest
        exact expressionText_eq_none h hrest

end LocaleCatalogue.Script
