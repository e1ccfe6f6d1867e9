import LocaleCatalogue.Proofs.Catalogue.Walks
import LocaleCatalogue.Proofs.Syntax.Standing

/-!
# From files to nodes

The program at a path comes from the text that its file holds, and the object that the file exports
stands for a tree of that text. So what was shown of trees and texts holds of the properties that a
file declares.
-/

namespace LocaleCatalogue

open Syntax (Node Property)

/-- The file at a path can be read and holds the given text, once its line ends are unified. -/
def Files.Holds (fs : Files) (path : Text) (text : List Char) : Prop :=
  ∃ file written, fs.access (Path.ofText path) = .ok file ∧ Utf8.decode file.content = .ok written ∧
    text = unifyNewlines written

variable {fs : Files} {path : Text} {text : List Char}

theorem content_of_octets {file : fs.Found} {content : Bytes} (h : file.octets = .ok content) :
    content = file.content := by
  rw [Files.Found.octets] at h
  split at h
  · cases h
  · cases h
    rfl

/-- The program at a path, through the file that can be read there. -/
theorem program_eq_of_access (path : Text) :
    fs.program path =
      match fs.access (Path.ofText path) with
      | .error (.obstacle cause) => .error (.access path (.obstacle (Path.ofText path) cause))
      | .error fault => .error (.lookup (Path.ofText path) fault)
      | .ok file =>
        match Utf8.decode file.content with
        | .error cause => .error (.access path (.malformed cause))
        | .ok written =>
          let root := Script.parseChars (dialectOf path) (unifyNewlines written)
          if root.flagged then .error (.rejected path (dialectOf path) root.diagnosis)
          else .ok (root, Utf8.encode (unifyNewlines written)) := by
  rw [Files.program, Files.access]
  cases hfound : fs.found (Path.ofText path) with
  | error fault => cases fault <;> rfl
  | ok file =>
      simp only [readTree, readText]
      cases hoctets : file.octets with
      | error cause => rfl
      | ok content =>
          rw [content_of_octets hoctets]
          cases hwritten : Utf8.decode file.content with
          | error cause => simp only [hwritten]
          | ok written => simp only [hwritten]

/-- A path leads to a program exactly if it leads to a text that the parser accepts. -/
theorem program_eq_ok_iff {root : Node} {source : Bytes} :
    fs.program path = .ok (root, source) ↔ ∃ text, fs.Holds path text ∧
      root = Script.parseChars (dialectOf path) text ∧ source = Utf8.encode text ∧
      root.flagged = false := by
  rw [program_eq_of_access]
  constructor
  · intro h
    split at h
    · cases h
    · cases h
    next file haccess =>
      split at h
      · cases h
      next written hwritten =>
        dsimp only at h
        split at h
        · cases h
        next haccepted =>
          cases h
          exact ⟨_, ⟨file, written, haccess, hwritten, rfl⟩, rfl, rfl, by simpa using haccepted⟩
  · rintro ⟨_, ⟨file, written, haccess, hwritten, rfl⟩, rfl, rfl, haccepted⟩
    rw [haccess]
    simp only [hwritten, haccepted, Bool.false_eq_true, if_false]

/-- A path holds at most one text. -/
theorem Files.Holds.unique {text' : List Char} (h : fs.Holds path text) (h' : fs.Holds path text') :
    text = text' := by
  obtain ⟨file, written, haccess, hwritten, rfl⟩ := h
  obtain ⟨file', written', haccess', hwritten', rfl⟩ := h'
  cases haccess.symm.trans haccess'
  cases hwritten.symm.trans hwritten'
  rfl

/-- The object that a file exports stands for a sound tree of the text that the file holds. -/
theorem exists_text_of_exported {e : Export} (h : fs.exported path = some e) :
    ∃ text, fs.Holds path text ∧ e.source = Utf8.encode text ∧ e.object.Stands text := by
  rw [Files.exported] at h
  split at h
  · cases h
  next root source hprogram =>
    obtain ⟨text, hholds, rfl, rfl, haccepted⟩ := program_eq_ok_iff.mp hprogram
    split at h
    next object hobject =>
      cases h
      refine ⟨text, hholds, rfl, ?_⟩
      rw [exportedObject?] at hobject
      split at hobject
      · cases hobject
      next statement hstatement =>
        split at hobject
        · cases hobject
        next expression hexpression =>
          obtain ⟨value, hvalue, rfl⟩ := Option.map_eq_some_iff.mp hexpression
          split at hobject
          · cases hobject
            exact Syntax.stands_of_defaultExport haccepted hstatement hvalue
          · cases hobject
    · cases h

/-- The node of a property stands for a sound tree of the text that the file holds. -/
theorem exists_text_of_declares {i : Nat} {property : Property} (h : Declares fs path i property) :
    ∃ text node, fs.Holds path text ∧ node.Stands text ∧
      Property.ofNode node (Utf8.encode text) = .ok property := by
  obtain ⟨e, he, hproperty⟩ := h
  obtain ⟨text, hholds, hsource, hstands⟩ := exists_text_of_exported he
  obtain ⟨node, hnode, hproperty⟩ := Option.map_eq_some_iff.mp hproperty
  refine ⟨text, node, hholds, ?_, hsource ▸ hproperty⟩
  have hmem := (List.mem_filter.mp (List.mem_of_getElem? hnode)).1
  exact hstands.of_mem_children (Syntax.mem_children_of_mem_namedChildren hmem)

/-- Identifiers are not empty. -/
theorem name_ne_nil_of_declares {i : Nat} {name : Text} {location : Location}
    (h : Declares fs path i (.identifier name location)) : name ≠ [] := by
  obtain ⟨text, node, -, hstands, hproperty⟩ := exists_text_of_declares h
  obtain ⟨t, hlt, hstop, rfl, -⟩ := Syntax.exists_tree_of_identifier hstands hproperty
  have hlength : (t.spelling text).length = t.stop - t.start := Script.Tree.length_spelling hstop
  intro hempty
  rw [Text.ofChars, List.map_eq_nil_iff] at hempty
  rw [hempty, List.length_nil] at hlength
  omega

end LocaleCatalogue
