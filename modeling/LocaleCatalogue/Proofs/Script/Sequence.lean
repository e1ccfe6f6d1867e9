import LocaleCatalogue.Proofs.Script.Marks
import LocaleCatalogue.Proofs.Script.Strings

/-!
# Trees in sequence

Sound trees that are laid out follow each other, and names and strings are not empty. This is said
of offsets in the text. Offsets become lines and columns only at the end: a longer beginning of the
text ends at a later place.
-/

namespace LocaleCatalogue.Script

variable {text : List Char} {start stop : Nat}

/-- Trees laid out between two offsets follow each other. -/
theorem Arranged.pairwise {ts : List Tree} (h : Arranged text start ts stop) :
    ts.Pairwise fun t u => t.stop ≤ u.start := by
  induction ts generalizing start with
  | nil => exact .nil
  | cons t ts ih =>
      exact .cons (fun u hu => (h.2.2.of_mem hu).2.1) (ih h.2.2)

/-- A string has a quote at both ends. -/
theorem Tree.Spelled.lt_of_string {t : Tree} (h : t.Spelled text) (hkind : t.kind = "string") :
    t.start < t.stop := by
  obtain ⟨quote, -, hread⟩ := reads_stringToken (h.string hkind)
  obtain ⟨_, e, f, parts, g, inner, k, htrivia, -, hopen, hparts, hinner, -, hclose, -⟩ :=
    reads_stringIn.mp hread
  have hbefore := htrivia.offset_le
  have hwithin := hparts.offset_le.trans hinner.offset_le
  dsimp only at hbefore hclose
  omega

/-- The place in a text at an offset. -/
def endingAt (text : List Char) (offset : Nat) : Int ×ₗ Int :=
  (Text.ofChars (text.take offset)).ending

theorem endingAt_lt {i j : Nat} (hij : i < j) (hj : j ≤ text.length) :
    endingAt text i < endingAt text j := by
  have hsplit : text.take j = text.take i ++ (text.drop i).take (j - i) := by
    rw [← List.take_add, Nat.add_sub_cancel' hij.le]
  have hmore : Text.ofChars ((text.drop i).take (j - i)) ≠ [] := by
    rw [Text.ofChars, ne_eq, List.map_eq_nil_iff]
    apply List.ne_nil_of_length_pos
    rw [List.length_take, List.length_drop]
    omega
  rw [endingAt, endingAt, hsplit, Text.ofChars_append]
  exact Text.ending_lt_append _ hmore

theorem endingAt_le {i j : Nat} (hij : i ≤ j) (hj : j ≤ text.length) :
    endingAt text i ≤ endingAt text j := by
  rcases hij.eq_or_lt with rfl | hlt
  · exact le_refl _
  · exact (endingAt_lt hlt hj).le

/-- The location of a node begins and ends where its tree does. -/
theorem ends_place {t : Tree} (hordered : t.start ≤ t.stop) (hstop : t.stop ≤ text.length) :
    ((t.place (.ofChars text)).location (Utf8.encode text)).start = endingAt text t.start ∧
      ((t.place (.ofChars text)).location (Utf8.encode text)).stop = endingAt text t.stop := by
  rw [location_place hordered hstop]
  exact ⟨rfl, rfl⟩

end LocaleCatalogue.Script
