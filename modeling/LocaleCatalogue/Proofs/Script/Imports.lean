import LocaleCatalogue.Proofs.Script.Signs
import LocaleCatalogue.Proofs.Script.Words

/-!
# Import declarations

An import declaration is written with single blanks between its parts. The parser reads the whole of
it as one statement, and of what it binds it keeps a default binding as an identifier of its own and
all the other bindings as one piece.
-/

namespace LocaleCatalogue

/-! ## Declarations as they are written -/

namespace Written

/-- A name in braces, as it is or with another name for it. -/
inductive Braced where
  | plain (name : Name)
  | renamed (imported : Word) (name : Name)

/-- The bindings beside a default binding: names in braces or the whole module. -/
inductive Others where
  | braces (bound : List Braced)
  | whole (name : Name)

/-- The clause of an import: a default binding, other bindings, or both. -/
inductive Clause where
  | alone (name : Name)
  | beside (others : Others)
  | both (name : Name) (others : Others)

/-- What an import binds: nothing, or the names of its clause, perhaps only as types. -/
inductive Bindings where
  | none
  | some (typed : Bool) (clause : Clause)

/-- The specifier of an import, written as a literal. No sign takes a line separator behind it away.
-/
structure Specifier where
  quote : Char
  signs : List (Sign quote)
  quoted : quote ∈ Script.quotes
  precedes : signs.IsChain Sign.Precedes
  keeps : signs.IsChain Sign.Keeps

/-- An import declaration, with or without its semicolon. -/
structure Import where
  bindings : Bindings
  specifier : Specifier
  closed : Bool

namespace Braced

/-- The name that is bound. -/
def name : Braced → Name
  | .plain name => name
  | .renamed _ name => name

/-- The characters of a name in braces. -/
def text : Braced → List Char
  | .plain name => name.text.toList
  | .renamed imported name =>
    imported.text.toList ++ ' ' :: ("as".toList ++ ' ' :: name.text.toList)

end Braced

namespace Others

/-- The names that are bound. -/
def names : Others → List Name
  | .braces bound => bound.map Braced.name
  | .whole name => [name]

/-- The characters of the bindings. -/
def text : Others → List Char
  | .braces [] => ['\x7b', '\x7d']
  | .braces (b :: bs) => '\x7b' :: (b.text ++ (bs.flatMap (fun b => ',' :: ' ' :: b.text) ++ ['\x7d']))
  | .whole name => '*' :: ' ' :: ("as".toList ++ ' ' :: name.text.toList)

end Others

namespace Clause

/-- The default binding. -/
def default? : Clause → Option Name
  | .alone name => some name
  | .beside _ => none
  | .both name _ => some name

/-- The names that are bound beside the default binding. -/
def otherNames : Clause → List Name
  | .alone _ => []
  | .beside others => others.names
  | .both _ others => others.names

/-- The characters of a clause. -/
def text : Clause → List Char
  | .alone name => name.text.toList
  | .beside others => others.text
  | .both name others => name.text.toList ++ ',' :: ' ' :: others.text

end Clause

namespace Bindings

/-- The default binding. -/
def default? : Bindings → Option Name
  | .none => Option.none
  | .some _ clause => clause.default?

/-- The names that are bound beside the default binding. -/
def otherNames : Bindings → List Name
  | .none => []
  | .some _ clause => clause.otherNames

/-- The characters between the first word and the specifier. -/
def text : Bindings → List Char
  | .none => []
  | .some typed clause =>
    (if typed then ' ' :: "type".toList else []) ++ ' ' :: (clause.text ++ ' ' :: "from".toList)

end Bindings

namespace Specifier

/-- The characters of a specifier. -/
def text (s : Specifier) : List Char := signed s.signs

/-- The text that a specifier stands for. -/
def value (s : Specifier) : Text := s.signs.flatMap Sign.value

/-- Every code point can be written as one sign that goes with whatever stands behind it. -/
theorem exists_sign (quote : Char) (c : CodePoint) : ∃ s : Sign quote,
    (∀ t, s.Precedes t) ∧ (∀ t, s.Keeps t) ∧ s.value = [c] := by
  obtain ⟨digits, hknown, hvalue, htext⟩ := Quoted.exists_digits c.val
  have henough : digits.length ≠ 0 := by
    intro hlength
    rw [List.length_eq_zero_iff.mp hlength] at htext
    exact Nat.toDigits_ne_nil htext
  cases hc : c.isSurrogate with
  | true => exact ⟨.half ⟨.braced, digits, c, hc, hknown, henough, hvalue⟩, fun _ => trivial,
      fun _ => trivial, rfl⟩
  | false =>
      have hnot : ¬ (c.IsHigh ∨ c.IsLow) := by rw [← CodePoint.isSurrogate_iff, hc]; exact nofun
      obtain ⟨hhigh, hlow⟩ := not_or.mp hnot
      obtain ⟨x, rfl⟩ := CodePoint.exists_char hhigh hlow
      refine ⟨.stroke (.coded .braced digits x hknown henough hvalue), fun t => ?_, fun t => ?_, rfl⟩
      · cases t <;> trivial
      · cases t with
        | stroke t => exact nofun
        | half h => trivial

/-- Every text can be written as a specifier. -/
theorem exists_of_value (value : Text) : ∃ s : Specifier, s.value = value := by
  have hsigns : ∃ signs : List (Sign '\x27'), signs.IsChain Sign.Precedes ∧
      signs.IsChain Sign.Keeps ∧ signs.flatMap Sign.value = value := by
    induction value with
    | nil => exact ⟨[], .nil, .nil, rfl⟩
    | cons c value ih =>
        obtain ⟨s, hprecedes, hkeeps, hvalue⟩ := exists_sign '\x27' c
        obtain ⟨signs, hprecedesRest, hkeepsRest, hvalues⟩ := ih
        exact ⟨s :: signs, List.isChain_cons.mpr ⟨fun t _ => hprecedes t, hprecedesRest⟩,
          List.isChain_cons.mpr ⟨fun t _ => hkeeps t, hkeepsRest⟩,
          by rw [List.flatMap_cons, hvalue, hvalues]; rfl⟩
  obtain ⟨signs, hprecedes, hkeeps, hvalue⟩ := hsigns
  exact ⟨⟨'\x27', signs, by decide, hprecedes, hkeeps⟩, hvalue⟩

end Specifier

namespace Import

/-- The names that an import binds. -/
def names (i : Import) : List Name := i.bindings.default?.toList ++ i.bindings.otherNames

/-- The characters of an import. -/
def text (i : Import) : List Char :=
  "import".toList ++ (i.bindings.text ++ ' ' :: (i.specifier.text ++ if i.closed then [';'] else []))

end Import

end Written

namespace Script

open LocaleCatalogue.Script.Parser
open Written (Bindings Braced Clause Import Name Others Specifier Word modifiers)

variable {text : List Char} {g : Grammar} {c d e f : Cursor} {w : String}

/-! ## Names in braces -/

/-- A name in braces, perhaps marked as a type. -/
def importedName : Parser Unit :=
  (do
    discard (keywordAmong modifiers)
    specifierList.specifier)
  <|> specifierList.specifier

theorem specifierList_eq :
    specifierList = inBraces (discard (optional (commaSeparated importedName))) := rfl

/-- The characters behind a name in braces. -/
def memberEnds : List Char := [',', '\x7d']

/-- A name in braces ends here. -/
def MemberEnds (cs : List Char) : Prop := ∃ y ∈ memberEnds, ∃ ys, cs = y :: ys

theorem MemberEnds.stopped {cs : List Char} (h : MemberEnds cs) : Stopped cs := by
  have hends : ∀ y ∈ memberEnds, y ∈ closers := List.all_iff_forall_prop.mp (by decide)
  obtain ⟨y, hy, ys, rfl⟩ := h
  exact forall_head rfl (hends y hy)

theorem MemberEnds.noWord {cs : List Char} (h : MemberEnds cs) : NoWord cs := by
  have hends : ∀ y ∈ memberEnds, Lexeme.isWordPart y = false ∧ y ≠ '\\' :=
    List.all_iff_forall_prop.mp (by decide)
  obtain ⟨y, hy, ys, rfl⟩ := h
  exact forall_head rfl (hends y hy)

theorem reads_exportedName (h : trivia.Reads c [] e) (hw : e.PassesWord w d) :
    exportedName.Reads c () d :=
  reads_orElse.mpr (.inr ⟨bind_eq_none_of_left (stringToken_eq_none_of_word h hw),
    reads_discard (reads_wordAs h hw)⟩)

theorem exportedName_eq_none (h : trivia.Reads c [] e) (he : Stopped e.rest) : exportedName c = none :=
  orElse_eq_none.mpr ⟨bind_eq_none_of_left (stringToken_eq_none h he),
    bind_eq_none_of_left (wordAs_eq_none h he.noWord)⟩

/-- The end of a name in braces is looked at and not read. -/
theorem reads_memberEnd (h : trivia.Reads c [] e) (he : MemberEnds e.rest) :
    (do guard (match (← nextChars).head? with
      | some c => c = ',' || c = '\x7d'
      | none => false)).Reads c () c := by
  rw [reads_bind_of_still (reads_nextChars h)]
  obtain ⟨y, hy, ys, hrest⟩ := he
  refine reads_guard.mpr ⟨?_, rfl⟩
  rw [hrest]
  simpa [memberEnds] using hy

/-- A name without another name is read up to its end. -/
theorem reads_specifier_plain (h : trivia.Reads c [] e) (hw : e.PassesWord w d)
    (hd : MemberEnds d.rest) : specifierList.specifier.Reads c () d := by
  have hend : trivia.Reads d [] d := reads_trivia_of_solid hd.stopped.solid
  refine reads_bind.mpr ⟨(), d, reads_exportedName h hw, reads_bind.mpr ⟨(), d, ?_,
    reads_memberEnd hend hd⟩⟩
  exact reads_discard (reads_optional.mpr (.inr
    ⟨bind_eq_none_of_left (bind_eq_none_of_left (keyword_eq_none hend hd.stopped.noWord)), rfl, rfl⟩))

/-- A name with another name is read up to the end of the other name. -/
theorem reads_specifier_renamed {v : String} {k l : Cursor} (h : trivia.Reads c [] e)
    (hw : e.PassesWord w f) (hf : trivia.Reads f [] k) (has : k.PassesWord "as" l)
    (hl : trivia.Reads l [] d) {m : Cursor} (hv : d.PassesWord v m) (hm : MemberEnds m.rest) :
    specifierList.specifier.Reads c () m := by
  refine reads_bind.mpr ⟨(), f, reads_exportedName h hw, reads_bind.mpr ⟨(), m, ?_,
    reads_memberEnd (reads_trivia_of_solid hm.stopped.solid) hm⟩⟩
  exact reads_discard (reads_optional.mpr (.inl ⟨(), rfl, reads_bind.mpr
    ⟨(), l, reads_discard (reads_keyword hf has), reads_exportedName hl hv⟩⟩))

/-- Behind a word for a modifier, a word and a name are not one name in braces. -/
theorem specifier_eq_none_of_words {v : String} {k l m : Cursor} (hf : trivia.Reads f [] k)
    (hv : k.PassesWord v l) (hl : trivia.Reads l [] d) (hw : d.PassesWord w m)
    (hm : MemberEnds m.rest) : specifierList.specifier f = none := by
  have hrenamed : (do discard (keyword "as"); exportedName) l = none := by
    by_cases heq : w = "as"
    · subst heq
      refine bind_eq_none.mpr fun _ x hread => ?_
      obtain ⟨-, rfl⟩ := hread.unique (reads_discard (reads_keyword hl hw))
      exact exportedName_eq_none (reads_trivia_of_solid hm.stopped.solid) hm.stopped
    · exact bind_eq_none_of_left (bind_eq_none_of_left (keyword_eq_none_of_word hl hw heq))
  refine bind_eq_none.mpr fun _ x hread => ?_
  obtain ⟨-, rfl⟩ := hread.unique (reads_exportedName hf hv)
  refine bind_eq_none.mpr fun _ x hread => ?_
  obtain ⟨-, rfl⟩ := hread.unique (reads_discard (reads_optional.mpr (.inr ⟨hrenamed, rfl, rfl⟩)))
  rw [bind_of_still (reads_nextChars hl)]
  obtain ⟨y, ys, hrest, hy⟩ := hw.exists_head
  have hends : ∀ z ∈ memberEnds, Lexeme.isWordPart z = false := List.all_iff_forall_prop.mp (by decide)
  have hnot : y ∉ memberEnds := fun hmem => by cases (hends y hmem).symm.trans hy
  simp only [memberEnds, List.mem_cons, List.not_mem_nil, or_false, not_or] at hnot
  refine Parser.eq_none_iff.mpr fun _ _ hread => ?_
  have hguard := (reads_guard.mp hread).1
  simp [hrest, hnot] at hguard

/-- A name in braces is read up to its end, whatever word another name is for. -/
theorem reads_braced {b : Braced} (h : trivia.Reads c [] e) (hp : e.Passes b.text d)
    (hd : MemberEnds d.rest) : importedName.Reads c () d := by
  cases b with
  | plain name =>
      have hw := hp.ofWord hd.noWord
      exact reads_orElse.mpr (.inr ⟨bind_eq_none_of_left (bind_eq_none_of_left
        (keywordAmong_eq_none_of_word h hw name.ordinary)), reads_specifier_plain h hw hd⟩)
  | renamed imported name =>
      obtain ⟨f, himported, hp⟩ := Cursor.passes_append.mp hp
      obtain ⟨k, hbefore, hp⟩ := Cursor.passes_cons.mp hp
      obtain ⟨l, has, hp⟩ := Cursor.passes_append.mp hp
      obtain ⟨m, hbehind, hname⟩ := Cursor.passes_cons.mp hp
      have hv := himported.ofWord (hbefore.noWord (by decide))
      have has' := has.word (hbehind.noWord (by decide)) (by decide) (by decide)
      have hw := hname.ofWord hd.noWord
      have hfirst := reads_trivia_space hbefore has'.solid
      have hsecond := reads_trivia_space hbehind hw.solid
      refine reads_orElse.mpr (.inr ⟨?_, reads_specifier_renamed h hv hfirst has' hsecond hw hd⟩)
      by_cases hmem : imported.text ∈ modifiers
      · refine bind_eq_none.mpr fun _ x hread => ?_
        obtain ⟨-, rfl⟩ := hread.unique (reads_discard (reads_keywordAmong h hv hmem))
        exact specifier_eq_none_of_words hfirst has' hsecond hw hd
      · exact bind_eq_none_of_left (bind_eq_none_of_left (keywordAmong_eq_none_of_word h hv hmem))

theorem importedName_eq_none (h : trivia.Reads c [] e) (he : Stopped e.rest) : importedName c = none :=
  orElse_eq_none.mpr ⟨bind_eq_none_of_left (bind_eq_none_of_left (keywordAmong_eq_none h he.noWord)),
    bind_eq_none_of_left (exportedName_eq_none h he)⟩

/-! ## Bindings beside the default binding -/

/-- Names in braces with commas before them. -/
def followers (bs : List Braced) : List Char := bs.flatMap fun b => ',' :: ' ' :: b.text

theorem memberEnds_of_followers {bs : List Braced} (h : c.Passes (followers bs) d)
    (hd : MemberEnds d.rest) : MemberEnds c.rest := by
  cases bs with
  | nil =>
      obtain rfl := Cursor.passes_nil.mp h
      exact hd
  | cons b bs => exact ⟨',', by decide, _, h.rest_eq⟩

theorem Braced.solid {b : Braced} (h : c.Passes b.text d) (hd : NoWord d.rest) : Solid c.rest := by
  cases b with
  | plain name => exact (h.ofWord hd).solid
  | renamed imported name =>
      obtain ⟨f, himported, hp⟩ := Cursor.passes_append.mp h
      exact (himported.ofWord (hp.noWord (by decide))).solid

/-- Names in braces are read as long as commas come before them. -/
theorem reads_followers {bs : List Braced} (h : c.Passes (followers bs) d) (hd : MemberEnds d.rest)
    (hcomma : symbol "," d = none) :
    ∃ us, (many do
      discard (symbol ",")
      discard importedName).Reads c us d := by
  induction bs generalizing c with
  | nil =>
      obtain rfl := Cursor.passes_nil.mp h
      exact ⟨[], reads_many_nil (bind_eq_none_of_left (bind_eq_none_of_left hcomma))⟩
  | cons b bs ih =>
      obtain ⟨f, hb, hrest⟩ := Cursor.passes_append.mp h
      obtain ⟨k, hsign, hb⟩ := Cursor.passes_cons.mp hb
      obtain ⟨l, hspace, hb⟩ := Cursor.passes_cons.mp hb
      have hf := memberEnds_of_followers hrest hd
      obtain ⟨comma, hcomma', -, -, hmoved⟩ :=
        reads_comma (reads_trivia_of_solid (solid_cons (by decide) hsign.rest_eq)) hsign
      have hname := reads_braced (reads_trivia_space hspace (Braced.solid hb hf.noWord)) hb hf
      obtain ⟨us, hmany⟩ := ih hrest
      exact ⟨() :: us, (reads_many_of_moves
        (reads_bind.mpr ⟨(), k, reads_discard hcomma', reads_discard hname⟩)
        (Nat.lt_of_lt_of_le hmoved hname.offset_le)).mpr ⟨us, rfl, hmany⟩⟩

theorem reads_inBraces {α : Type} {p : Parser α} {a : α} {k : Cursor} (h : trivia.Reads c [] e)
    (hopening : e.Passes ['\x7b'] f) (hp : p.Reads f a k) (hclosing : k.Passes ['\x7d'] d) :
    (inBraces p).Reads c a d := by
  have hk := reads_trivia_of_solid (solid_cons (by decide) hclosing.rest_eq)
  exact reads_bind.mpr ⟨(), f, reads_discard (@reads_symbol c f e "\x7b" h hopening), reads_bind.mpr
    ⟨a, k, hp, reads_bind.mpr ⟨(), d, reads_discard (@reads_symbol k d k "\x7d" hk hclosing),
      reads_pure.mpr ⟨rfl, rfl⟩⟩⟩⟩

theorem memberEnds_brace (h : c.Passes ['\x7d'] d) : MemberEnds c.rest :=
  ⟨'\x7d', by decide, d.rest, h.rest_eq⟩

/-- Names in braces with commas between them are read from brace to brace. -/
theorem reads_specifierList {bound : List Braced} (h : trivia.Reads c [] e)
    (hp : e.Passes (Others.braces bound).text d) : specifierList.Reads c () d := by
  rw [specifierList_eq]
  cases bound with
  | nil =>
      obtain ⟨f, hopening, hclosing⟩ := Cursor.passes_cons.mp hp
      have hf := (memberEnds_brace hclosing).stopped
      refine reads_inBraces h hopening (reads_discard (reads_optional.mpr (.inr ⟨?_, rfl, rfl⟩))) hclosing
      exact bind_eq_none_of_left (bind_eq_none_of_left
        (importedName_eq_none (reads_trivia_of_solid hf.solid) hf))
  | cons b bs =>
      obtain ⟨f, hopening, hp⟩ := Cursor.passes_cons.mp hp
      obtain ⟨k, hb, hp⟩ := Cursor.passes_append.mp hp
      obtain ⟨l, hbs, hclosing⟩ := Cursor.passes_append.mp hp
      have hl := memberEnds_brace hclosing
      have hcomma : symbol "," l = none := comma_eq_none
        (reads_trivia_of_solid hl.stopped.solid) (by decide) hclosing.rest_eq
      have hk := memberEnds_of_followers hbs hl
      have hfirst := reads_braced (reads_trivia_of_solid (Braced.solid hb hk.noWord)) hb hk
      obtain ⟨us, hmany⟩ := reads_followers hbs hl hcomma
      refine reads_inBraces h hopening (reads_discard (reads_optional.mpr
        (.inl ⟨(), rfl, reads_bind.mpr ⟨(), k, reads_discard hfirst, ?_⟩⟩))) hclosing
      exact reads_bind.mpr ⟨(), l, reads_discard hmany,
        reads_discard (reads_optional.mpr (.inr ⟨hcomma, rfl, rfl⟩))⟩

/-- The signs that bindings beside a default binding begin with. -/
def othersSigns : List Char := ['\x7b', '*']

theorem Others.exists_head {o : Others} (h : c.Passes o.text d) :
    ∃ y ∈ othersSigns, ∃ ys, c.rest = y :: ys := by
  cases o with
  | braces bound =>
      cases bound with
      | nil => exact ⟨'\x7b', by decide, _, h.rest_eq⟩
      | cons b bs => exact ⟨'\x7b', by decide, _, h.rest_eq⟩
  | whole name => exact ⟨'*', by decide, _, h.rest_eq⟩

theorem Others.solid {o : Others} (h : c.Passes o.text d) : Solid c.rest := by
  have hsigns : ∀ y ∈ othersSigns, Lexeme.isBlank y = false ∧ y ≠ '/' :=
    List.all_iff_forall_prop.mp (by decide)
  obtain ⟨y, hy, ys, hrest⟩ := Others.exists_head h
  exact solid_cons (hsigns y hy) hrest

/-- The bindings beside a default binding are one piece, and it is no identifier. -/
theorem reads_others {o : Others} (h : trivia.Reads c [] e) (hp : e.Passes o.text d)
    (hd : NoWord d.rest) :
    ∃ t : Tree, namedImports.Reads c ⟨[], t⟩ d ∧ t.named = true ∧ t.kind ≠ "identifier" := by
  have hagain : trivia.Reads e [] e := reads_trivia_of_solid (Others.solid hp)
  cases o with
  | braces bound =>
      refine ⟨_, reads_orElse.mpr (.inl (reads_whole.mpr
        ⟨[], e, h, reads_specifierList hagain hp, rfl⟩)), rfl, by simp⟩
  | whole name =>
      obtain ⟨f, hstar, hp⟩ := Cursor.passes_cons.mp hp
      obtain ⟨k, hbefore, hp⟩ := Cursor.passes_cons.mp hp
      obtain ⟨l, has, hp⟩ := Cursor.passes_append.mp hp
      obtain ⟨m, hbehind, hname⟩ := Cursor.passes_cons.mp hp
      have has' := has.word (hbehind.noWord (by decide)) (by decide) (by decide)
      have hw := hname.ofWord hd
      have hbraces : whole "named_imports" true specifierList c = none := by
        refine whole_eq_none h (bind_eq_none_of_left (bind_eq_none_of_left (symbol_eq_none hagain ?_)))
        exact ⟨'\x7b', rfl, by rw [hstar.rest_eq]; rintro ⟨⟩⟩
      refine ⟨_, reads_orElse.mpr (.inr ⟨hbraces, reads_whole.mpr ⟨[], e, h, reads_bind.mpr
        ⟨(), f, reads_discard (@reads_symbol e f e "*" hagain hstar), reads_bind.mpr
          ⟨(), l, reads_discard (reads_keyword (reads_trivia_space hbefore has'.solid) has'),
            reads_discard (reads_wordAs (reads_trivia_space hbehind hw.solid) hw)⟩⟩, rfl⟩⟩), rfl, by simp⟩

theorem namedImports_eq_none (h : trivia.Reads c [] e) (he : Solid e.rest) (hbrace : Differs "\x7b" e.rest)
    (hstar : Differs "*" e.rest) : namedImports c = none := by
  have hagain : trivia.Reads e [] e := reads_trivia_of_solid he
  exact orElse_eq_none.mpr ⟨whole_eq_none h (bind_eq_none_of_left (bind_eq_none_of_left
      (symbol_eq_none hagain hbrace))),
    whole_eq_none h (bind_eq_none_of_left (bind_eq_none_of_left (symbol_eq_none hagain hstar)))⟩

/-! ## Clauses -/

/-- The tree of an import clause with the given default binding. -/
structure Tree.IsClause (text : List Char) (t : Tree) (bound? : Option Name) : Prop where
  kind : t.kind = "import_clause"
  role : t.role = none
  named : t.named = true
  binds : ∀ name, Syntax.bindsName name (t.place (.ofChars text)).namedChildren =
    .ok (decide (bound?.map (·.value) = some name))

theorem bindsName_of_others {ns : List Syntax.Node} (h : ∀ n ∈ ns, n.kind ≠ "identifier") (name : Text) :
    Syntax.bindsName name ns = .ok false := by
  induction ns with
  | nil => rfl
  | cons n ns ih =>
      rw [Syntax.bindsName, if_neg (h n List.mem_cons_self), ih fun m hm => h m (List.mem_cons_of_mem n hm)]

/-- An identifier in front of other bindings binds its own name and no other. -/
theorem bindsName_leafTree (hc : c.At text) {name : Name} (hp : c.Passes name.text.toList d)
    {ns : List Syntax.Node} (h : ∀ n ∈ ns, n.kind ≠ "identifier") (other : Text) :
    Syntax.bindsName other ((leafTree "identifier" c.offset d.offset).place (.ofChars text) :: ns) =
      .ok (decide (some name.value = some other)) := by
  rw [Syntax.bindsName, readText_leafTree hc hp, if_pos (by simp [leafTree]), bindsName_of_others h]
  have hvalue : Text.ofChars name.text.toList = name.value := rfl
  dsimp only
  rw [hvalue]
  by_cases heq : name.value = other
  · rw [if_pos heq, heq, decide_eq_true rfl]
  · rw [if_neg heq, decide_eq_false (by simpa using heq)]

/-- A clause is read up to the blank behind it, and its default binding is the only name in it that
stands by itself. -/
theorem reads_importClause (hc : c.At text) {clause : Clause} {k l : Cursor}
    (h : trivia.Reads c [] e) (hp : e.Passes clause.text d) (hd : NoWord d.rest)
    (hk : trivia.Reads d [] k) (hfrom : k.PassesWord "from" l) :
    ∃ t : Tree, importClause.Reads c ⟨[], t⟩ d ∧ t.IsClause text clause.default? := by
  have hplain : ∀ {m : Cursor} {name : Name}, e.Passes name.text.toList m → NoWord m.rest →
      e.PassesWord name.text m ∧ namedImports c = none := by
    intro m name hname hm
    have hw := hname.ofWord hm
    exact ⟨hw, namedImports_eq_none h hw.solid (hw.differs (by decide)) (hw.differs (by decide))⟩
  cases clause with
  | alone name =>
      obtain ⟨hw, hnone⟩ := hplain hp hd
      have hcomma : symbol "," d = none := symbol_eq_none_of_word hk hfrom (by decide)
      refine ⟨_, reads_orElse.mpr (.inr ⟨bind_eq_none_of_left hnone, reads_bind.mpr
        ⟨_, d, reads_wordAs h hw, reads_bind.mpr ⟨[], d, reads_pieces_nil hcomma,
          reads_pure.mpr ⟨rfl, rfl⟩⟩⟩⟩), rfl, rfl, rfl, fun other => ?_⟩
      rw [namedChildren_place]
      exact bindsName_leafTree (h.reaches.at hc) hp (by simp) other
  | beside others =>
      obtain ⟨t, hread, hnamed, hkind⟩ := reads_others h hp hd
      refine ⟨_, reads_orElse.mpr (.inl (reads_bind.mpr ⟨_, d, hread, reads_pure.mpr ⟨rfl, rfl⟩⟩)), rfl,
        rfl, rfl, fun other => ?_⟩
      rw [namedChildren_place]
      simp only [List.flatMap_nil, List.filter_cons_of_pos hnamed, List.filter_nil,
        List.map_cons, List.map_nil]
      exact bindsName_of_others (by simpa using hkind) other
  | both name others =>
      obtain ⟨m, hname, hp⟩ := Cursor.passes_append.mp hp
      obtain ⟨n, hcomma, hp⟩ := Cursor.passes_cons.mp hp
      obtain ⟨o, hspace, hothers⟩ := Cursor.passes_cons.mp hp
      obtain ⟨hw, hnone⟩ := hplain hname (hcomma.noWord (by decide))
      obtain ⟨t, hread, hnamed, hkind⟩ :=
        reads_others (reads_trivia_space hspace (Others.solid hothers)) hothers hd
      have hm : trivia.Reads m [] m := reads_trivia_of_solid (solid_cons (by decide) hcomma.rest_eq)
      refine ⟨_, reads_orElse.mpr (.inr ⟨bind_eq_none_of_left hnone, reads_bind.mpr
        ⟨_, m, reads_wordAs h hw, reads_bind.mpr ⟨_, n,
          reads_pieces_one (@reads_symbol m n m "," hm hcomma), reads_bind.mpr
            ⟨_, d, hread, reads_pure.mpr ⟨rfl, rfl⟩⟩⟩⟩⟩), rfl, rfl, rfl, fun other => ?_⟩
      rw [namedChildren_place]
      have hfilter : [leafTree "identifier" e.offset m.offset, signTree "," m.offset n.offset, t].filter
          (·.named) = [leafTree "identifier" e.offset m.offset, t] := by
        simp [leafTree, signTree, hnamed]
      refine (congrArg (fun ts => Syntax.bindsName other (ts.map (Tree.place (.ofChars text))))
        hfilter).trans ?_
      exact bindsName_leafTree (h.reaches.at hc) hname (by simpa using hkind) other

end Script

end LocaleCatalogue
