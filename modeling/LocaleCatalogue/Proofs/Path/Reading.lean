import LocaleCatalogue.Path.Basic
import LocaleCatalogue.Proofs.Text.Pieces

/-!
# Reading paths back

A path that was read from a spelling has names that no slash divides and that are neither empty nor
a dot. Such a path is read back from its plainest spelling.
-/

namespace LocaleCatalogue.Path

/-- A name that a path keeps: not empty, not a single dot, and without a slash. -/
def IsName (name : Text) : Prop := name ≠ [] ∧ name ≠ here ∧ slash ∉ name

/-- A path that consists of names. -/
def Plain (p : Path) : Prop := ∀ name ∈ p.names, IsName name

theorem plain_ofText (spelling : Text) : (ofText spelling).Plain := by
  intro name hname
  obtain ⟨hpiece, hkept⟩ := List.mem_filter.mp hname
  have hboth : name ≠ [] ∧ name ≠ here := by simpa using hkept
  exact ⟨hboth.1, hboth.2, Text.not_mem_of_mem_splitOn hpiece⟩

/-- The names are read back from their joint spelling, whatever the anchor. -/
theorem names_of_join {names : List Text} (hnames : ∀ name ∈ names, IsName name) :
    (Text.splitOn slash (Text.join [slash] names)).filter
      (fun name => !name.isEmpty && name ≠ here) = names := by
  by_cases hempty : names = []
  · subst hempty
    rfl
  · rw [Text.splitOn_join (fun name hname => (hnames name hname).2.2) hempty]
    apply List.filter_eq_self.mpr
    intro name hname
    obtain ⟨hne, hhere, -⟩ := hnames name hname
    simp [hne, hhere]

/-- A joint spelling of names does not begin with a slash. -/
theorem head_join_ne_slash {names : List Text} (hnames : ∀ name ∈ names, IsName name) :
    (Text.join [slash] names).head? ≠ some slash := by
  cases names with
  | nil => simp [Text.join]
  | cons name rest =>
      obtain ⟨hne, -, hslash⟩ := hnames name List.mem_cons_self
      obtain ⟨c, cs, rfl⟩ := List.exists_cons_of_ne_nil hne
      have hc : c ≠ slash := fun heq => hslash (heq ▸ List.mem_cons_self)
      cases rest <;> simpa [Text.join] using hc

theorem anchorOf_of_head_ne_slash {t : Text} (ht : t.head? ≠ some slash) :
    anchorOf t = .relative ∧ anchorOf (slash :: t) = .root ∧
      anchorOf (slash :: slash :: t) = .doubleRoot := by
  cases t with
  | nil => exact ⟨rfl, rfl, rfl⟩
  | cons c cs =>
      have hc : c ≠ 0x2F := fun heq => ht (by rw [heq]; rfl)
      refine ⟨?_, ?_, ?_⟩ <;> simp [anchorOf, slash, hc]

/-- A plain path is read back from its plainest spelling. -/
theorem ofText_toText {p : Path} (hp : p.Plain) : ofText p.toText = p := by
  obtain ⟨anchor, names⟩ := p
  have hhead := anchorOf_of_head_ne_slash (head_join_ne_slash hp)
  have hnames := names_of_join hp
  cases anchor with
  | relative =>
      cases names with
      | nil => rfl
      | cons name rest =>
          have htext : toText ⟨.relative, name :: rest⟩ = Text.join [slash] (name :: rest) := rfl
          rw [htext, ofText, hhead.1, hnames]
  | root =>
      have htext : toText ⟨.root, names⟩ = slash :: Text.join [slash] names := rfl
      rw [htext, ofText, hhead.2.1]
      simpa [Text.splitOn] using hnames
  | doubleRoot =>
      have htext : toText ⟨.doubleRoot, names⟩ = slash :: slash :: Text.join [slash] names := rfl
      rw [htext, ofText, hhead.2.2]
      simpa [Text.splitOn] using hnames

theorem toText_ne_nil {p : Path} (hp : p.Plain) : p.toText ≠ [] := by
  obtain ⟨anchor, names⟩ := p
  cases anchor with
  | relative =>
      cases names with
      | nil => simp [toText, here]
      | cons name rest =>
          obtain ⟨c, cs, rfl⟩ := List.exists_cons_of_ne_nil (hp name List.mem_cons_self).1
          cases rest <;> simp [toText, Anchor.text, Text.join]
  | root => simp [toText, Anchor.text]
  | doubleRoot => simp [toText, Anchor.text]

end LocaleCatalogue.Path
