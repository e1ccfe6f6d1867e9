import LocaleCatalogue.Data.Toml.Document
import LocaleCatalogue.Proofs.Data.Entries

/-!
# Proper tables

A table that is made by a document names everything once, and so does every table within it; and no
value in it is left open. A table is only ever changed where an entry is put into it or into a table
below it, so it is enough that the change in the last of these keeps it proper. What a path leads
through is changed along one part of the path after the other.
-/

namespace LocaleCatalogue

/-- Values that are neither left open nor made of others. -/
def Value.isScalar : Value → Bool
  | .null => false
  | .list _ => false
  | .table _ => false
  | _ => true

/-- Values without open values in them, in whose tables every name stands once. -/
inductive Value.Proper : Value → Prop
  | scalar {v : Value} (hscalar : v.isScalar = true) : Proper v
  | list {items : List Value} (hitems : ∀ v ∈ items, Proper v) : Proper (.list items)
  | table {entries : List (Text × Value)} (hnames : (entries.map Prod.fst).Nodup)
      (hvalues : ∀ e ∈ entries, Proper e.2) : Proper (.table entries)

theorem Value.Proper.ne_null {v : Value} (h : v.Proper) : v ≠ .null := by
  rintro rfl
  cases h with
  | scalar hscalar => cases hscalar

namespace Toml

/-- Tables with proper values in which every name stands once. -/
structure ProperTable (table : Table) : Prop where
  names : (table.map Prod.fst).Nodup
  values : ∀ e ∈ table, e.2.Proper

namespace ProperTable

variable {table : Table} {name : Text} {v : Value}

theorem empty : ProperTable [] := ⟨List.nodup_nil, fun _ he => absurd he List.not_mem_nil⟩

theorem value (h : ProperTable table) : (Value.table table).Proper := .table h.names h.values

theorem of_value (h : (Value.table table).Proper) : ProperTable table := by
  cases h with
  | scalar hscalar => cases hscalar
  | table hnames hvalues => exact ⟨hnames, hvalues⟩

theorem put (h : ProperTable table) (hv : v.Proper) : ProperTable (Entries.put table name v) := by
  refine ⟨Entries.nodup_put h.names, fun e he => ?_⟩
  rcases Entries.mem_put he with rfl | hmem
  · exact hv
  · exact h.values e hmem

theorem find? (h : ProperTable table) (hfind : Entries.find? table name = some v) : v.Proper :=
  h.values _ (Entries.mem_of_find? hfind)

theorem filter (h : ProperTable table) (keep : Text × Value → Bool) : ProperTable (table.filter keep) :=
  ⟨Entries.nodup_filter keep h.names, fun e he => h.values e (List.mem_of_mem_filter he)⟩

end ProperTable

variable {table table' : Table} {name : Text} {v : Value} {path : KeyPath} {throughLists : Bool}

theorem items_of_proper {items : List Value} (h : (Value.list items).Proper) : ∀ v ∈ items, v.Proper := by
  cases h with
  | scalar hscalar => cases hscalar
  | list hitems => exact hitems

/-- A table changed behind a path stays proper if the change keeps what it is made to. -/
theorem properTable_within {change : Table → Option Table}
    (hchange : ∀ inner inner', ProperTable inner → change inner = some inner' → ProperTable inner')
    (h : ProperTable table) (hwithin : within throughLists change path table = some table') :
    ProperTable table' := by
  induction path generalizing table table' with
  | nil => exact hchange _ _ h hwithin
  | cons name rest ih =>
      rw [within] at hwithin
      split at hwithin
      next =>
        obtain ⟨inner, hinner, rfl⟩ := Option.map_eq_some_iff.mp hwithin
        exact h.put (ih .empty hinner).value
      next inner hfind =>
        obtain ⟨inner', hinner, rfl⟩ := Option.map_eq_some_iff.mp hwithin
        exact h.put (ih (.of_value (h.find? hfind)) hinner).value
      next items hfind =>
        split at hwithin
        next inner hlast =>
          obtain ⟨inner', hinner, rfl⟩ := Option.map_eq_some_iff.mp hwithin
          have hitems := items_of_proper (h.find? hfind)
          have hproper := hitems _ (List.mem_of_getLast? hlast)
          refine h.put (.list fun v hv => ?_)
          rcases List.mem_append.mp hv with hold | hnew
          · exact hitems v ((List.dropLast_sublist items).subset hold)
          · rw [List.mem_singleton.mp hnew]
            exact (ih (.of_value hproper) hinner).value
        next => cases hwithin
      next => cases hwithin

theorem properTable_insertNew (h : ProperTable table) (hv : v.Proper)
    (hinsert : insertNew name v table = some table') : ProperTable table' := by
  rw [insertNew] at hinsert
  split at hinsert
  next => cases hinsert
  next =>
    obtain rfl := Option.some_inj.mp hinsert
    exact h.put hv

theorem properTable_appendTable (h : ProperTable table)
    (happend : appendTable name table = some table') : ProperTable table' := by
  have hempty : (Value.table []).Proper := ProperTable.empty.value
  rw [appendTable] at happend
  split at happend
  next =>
    obtain rfl := Option.some_inj.mp happend
    exact h.put (.list fun v hv => List.mem_singleton.mp hv ▸ hempty)
  next items hfind =>
    obtain rfl := Option.some_inj.mp happend
    refine h.put (.list fun v hv => ?_)
    rcases List.mem_append.mp hv with hold | hnew
    · exact items_of_proper (h.find? hfind) v hold
    · exact List.mem_singleton.mp hnew ▸ hempty
  next => cases happend

theorem properTable_insertAt (h : ProperTable table) (hv : v.Proper)
    (hinsert : insertAt throughLists path v table = some table') : ProperTable table' := by
  rw [insertAt] at hinsert
  split at hinsert
  next => cases hinsert
  next =>
    exact properTable_within (fun _ _ hinner hnew => properTable_insertNew hinner hv hnew) h hinsert

namespace Draft

variable {d d' : Draft}

theorem properTable_add (h : ProperTable d.table) (hv : v.Proper) (hadd : d.add? path v = some d') :
    ProperTable d'.table := by
  rw [add?] at hadd
  split at hadd
  next => cases hadd
  next =>
    split at hadd
    next => cases hadd
    next =>
      obtain ⟨table, hinsert, rfl⟩ := Option.map_eq_some_iff.mp hadd
      exact properTable_insertAt h hv hinsert

theorem properTable_open (h : ProperTable d.table) (hopen : d.open? path = some d') :
    ProperTable d'.table := by
  rw [open?] at hopen
  split at hopen
  next => cases hopen
  next =>
    obtain ⟨table, hwithin, rfl⟩ := Option.map_eq_some_iff.mp hopen
    exact properTable_within (fun _ _ hinner hsame => Option.some_inj.mp hsame ▸ hinner) h hwithin

theorem properTable_append (h : ProperTable d.table) (happend : d.append? path = some d') :
    ProperTable d'.table := by
  rw [append?] at happend
  split at happend
  next => cases happend
  next =>
    split at happend
    next => cases happend
    next =>
      obtain ⟨table, hwithin, rfl⟩ := Option.map_eq_some_iff.mp happend
      exact properTable_within (fun _ _ hinner hnew => properTable_appendTable hinner hnew) h hwithin

end Draft

end Toml

end LocaleCatalogue
