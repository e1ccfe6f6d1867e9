import LocaleCatalogue.Proofs.Catalogue.Inlining
import LocaleCatalogue.Proofs.Script.Literals

/-!
# Locations cut out tokens

The location of a key is counted in lines and characters of the file that holds its token. Cutting
the text of that file at the location gives the token: the name itself under an identifier, and
under a string a literal whose value is the name. The literal may span lines, and the key may have
come in through spreads.
-/

namespace LocaleCatalogue

open Syntax (Property)

variable {fs : Files} {path : Text} {i : Nat}

/-- An identifier stands where its location says. -/
theorem cut_of_identifier {name : Text} {location : Location}
    (h : Declares fs path i (.identifier name location)) :
    ∃ text, fs.Holds path text ∧ location.cut (Text.ofChars text) = name := by
  obtain ⟨text, node, hholds, hstands, hproperty⟩ := exists_text_of_declares h
  obtain ⟨t, hlt, hstop, rfl, rfl⟩ := Syntax.exists_tree_of_identifier hstands hproperty
  exact ⟨text, hholds, Script.cut_location_place (Nat.le_of_lt hlt) hstop⟩

/-- A string literal with the declared value stands where its location says. -/
theorem cut_of_string {value : Text} {location : Location}
    (h : Declares fs path i (.string value location)) :
    ∃ text token, fs.Holds path text ∧ location.cut (Text.ofChars text) = Text.ofChars token ∧
      Script.IsLiteral token value := by
  obtain ⟨text, node, hholds, hstands, hproperty⟩ := exists_text_of_declares h
  obtain ⟨t, hsound, hstop, hkind, hvalue, rfl⟩ := Syntax.exists_tree_of_string hstands hproperty
  exact ⟨text, t.spelling text, hholds, Script.cut_location_place hsound.le hstop,
    Script.isLiteral_spelling hsound hstop hkind hvalue⟩

/-- Every key that comes out stands at some address. -/
theorem exists_address_of_mem {keys : List Key} (h : (extract fs path).result = .ok (some keys))
    {key : Key} (hkey : key ∈ keys) : ∃ address, KeyAt fs path address key := by
  rcases extract_cases fs path with ⟨file, hplace, hvisit⟩ | ⟨failure, -, hfail⟩
  · rw [hvisit] at h
    obtain ⟨address, hstands⟩ := (visit_listed ⟨hplace, List.not_mem_nil⟩ id h).mem_iff.mp hkey
    exact ⟨address, keyApart_nil_above.mp hstands⟩
  · rw [hfail] at h
    cases h

/-- Cutting the text that a key's source file holds at the key's location gives its token: the name
under an identifier, and a literal for the name under a string. -/
theorem extract_cuts_tokens (fs : Files) (path : Text) {keys : List Key}
    (h : (extract fs path).result = .ok (some keys)) {key : Key} (hkey : key ∈ keys) :
    ∃ text i, fs.Holds key.sourcePath text ∧
      ((Declares fs key.sourcePath i (.identifier key.name key.location) ∧
          key.location.cut (Text.ofChars text) = key.name) ∨
        (Declares fs key.sourcePath i (.string key.name key.location) ∧
          ∃ token, key.location.cut (Text.ofChars text) = Text.ofChars token ∧
            Script.IsLiteral token key.name)) := by
  obtain ⟨_, hwalk, hdeclares, hproperty⟩ := exists_address_of_mem h hkey
  rename_i property _ _
  cases property with
  | identifier name location =>
      cases hproperty
      obtain ⟨text, hholds, hcut⟩ := cut_of_identifier hdeclares
      exact ⟨text, _, hholds, Or.inl ⟨hdeclares, hcut⟩⟩
  | string value location =>
      rw [Property.key?] at hproperty
      split at hproperty
      · cases hproperty
      · cases hproperty
        -- The spelling may differ from the name by escapes and line continuations, so only its
        -- value is the name.
        obtain ⟨text, token, hholds, hcut, hliteral⟩ := cut_of_string hdeclares
        exact ⟨text, _, hholds, Or.inr ⟨hdeclares, token, hcut, hliteral⟩⟩
  | spread name => cases hproperty
  | opaqueKind kind => cases hproperty

/-- A spread file with a byte order mark, two-character line ends and a key that goes over two
lines, which follows wide characters. -/
def wrapped : Files where
  working := ["w"]
  entries := [
    (["w"], .directory),
    (["w", "a.ts"], .file (Utf8.encode
      "import b from './b'\nexport default \x7b ...b \x7d\n".toList)),
    (["w", "b.ts"], .file (Utf8.encode
      "\uFEFFexport default \x7b\r\n/* \u00FC\u20AC */ 'o\\\r\nk': 1 \x7d\r\n".toList))]

theorem extract_cuts_tokens_wrapped :
    ∃ text i, wrapped.Holds "b.ts" text ∧
      ((Declares wrapped "b.ts" i (.identifier "ok" ⟨2, 9, 3, 2⟩) ∧
          Location.cut ⟨2, 9, 3, 2⟩ (Text.ofChars text) = "ok") ∨
        (Declares wrapped "b.ts" i (.string "ok" ⟨2, 9, 3, 2⟩) ∧
          ∃ token, Location.cut ⟨2, 9, 3, 2⟩ (Text.ofChars text) = Text.ofChars token ∧
            Script.IsLiteral token "ok")) :=
  have h : (extract wrapped "a.ts").result = .ok (some [⟨"ok", ⟨2, 9, 3, 2⟩, "a.ts", "b.ts"⟩]) := by
    decide +kernel
  extract_cuts_tokens wrapped "a.ts" h (List.mem_singleton.mpr rfl)

end LocaleCatalogue
