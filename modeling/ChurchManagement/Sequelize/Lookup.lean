import Mathlib.Logic.Function.Basic
import ChurchManagement.Sequelize

namespace Sequelize

variable {Col : Type} [Model Col]

/-- A table as the partial function from primary keys to rows that it stands for. -/
def Table.lookup (table : Table Col) (id : String) : Option (Row Col) :=
  table.rows.find? fun row => row.id = id

theorem Table.lookup_eq_none {table : Table Col} {id : String} :
    table.lookup id = none ↔ ∀ row ∈ table.rows, row.id ≠ id := by
  simp [Table.lookup]

theorem Table.mem_of_lookup {table : Table Col} {id : String} {row : Row Col}
    (found : table.lookup id = some row) : row ∈ table.rows ∧ row.id = id := by
  have holds := List.find?_some found
  simp only [decide_eq_true_eq] at holds
  exact ⟨List.mem_of_find?_eq_some found, holds⟩

theorem Table.lookup_eq_some {table : Table Col} {id : String} {row : Row Col} :
    table.lookup id = some row ↔ row ∈ table.rows ∧ row.id = id := by
  refine ⟨Table.mem_of_lookup, ?_⟩
  rintro ⟨member, rfl⟩
  cases looked : table.lookup row.id with
  | none => exact absurd rfl (Table.lookup_eq_none.mp looked row member)
  | some other =>
    obtain ⟨member', same⟩ := Table.mem_of_lookup looked
    rw [Table.eq_of_id member' member same]

theorem Table.lookup_of_mem {table : Table Col} {row : Row Col} (member : row ∈ table.rows) :
    table.lookup row.id = some row := Table.lookup_eq_some.mpr ⟨member, rfl⟩

/-- Two tables with the same rows stand for the same function. -/
theorem Table.lookup_ext {table : Table Col} {f : String → Option (Row Col)}
    (same : ∀ id row, row ∈ table.rows ∧ row.id = id ↔ f id = some row) : table.lookup = f := by
  funext id
  refine Option.ext fun row => ?_
  exact Table.lookup_eq_some.trans (same id row)

theorem Table.lookup_insert {table table' : Table Col} {row : Row Col}
    (inserted : table.insert row = some table') :
    table.lookup row.id = none ∧ table'.lookup = Function.update table.lookup row.id (some row) := by
  have fresh := Table.insert_fresh inserted
  have absent : table.lookup row.id = none := by
    rw [Table.lookup_eq_none]
    intro other member same
    exact fresh (same ▸ List.mem_map_of_mem member)
  refine ⟨absent, Table.lookup_ext fun id other => ?_⟩
  rw [Table.insert_rows inserted, List.mem_append, List.mem_singleton]
  by_cases own : id = row.id
  · subst own
    rw [Function.update_self, Option.some.injEq]
    constructor
    · rintro ⟨old | new, same⟩
      · exact absurd same (Table.lookup_eq_none.mp absent other old)
      · exact new.symm
    · rintro rfl
      exact ⟨.inr rfl, rfl⟩
  · rw [Function.update_of_ne own, Table.lookup_eq_some]
    constructor
    · rintro ⟨old | new, same⟩
      · exact ⟨old, same⟩
      · exact absurd (same.symm.trans (congrArg Row.id new)) own
    · rintro ⟨old, same⟩
      exact ⟨.inl old, same⟩

theorem Table.lookup_save {table : Table Col} {row old : Row Col} (member : old ∈ table.rows)
    (id : old.id = row.id) :
    (table.save row).lookup = Function.update table.lookup row.id (some row) := by
  refine Table.lookup_ext fun key other => ?_
  by_cases own : key = row.id
  · subst own
    rw [Function.update_self, Option.some.injEq]
    constructor
    · rintro ⟨saved, same⟩
      exact (Table.eq_of_id saved (Table.mem_save member id) same).symm
    · rintro rfl
      exact ⟨Table.mem_save member id, rfl⟩
  · rw [Function.update_of_ne own, Table.lookup_eq_some]
    change other ∈ table.rows.map _ ∧ other.id = key ↔ _
    rw [List.mem_map]
    constructor
    · rintro ⟨⟨before, inRows, written⟩, same⟩
      split at written
      · exact absurd (same.symm.trans (congrArg Row.id written.symm)) own
      · exact written ▸ ⟨inRows, written ▸ same⟩
    · rintro ⟨inRows, same⟩
      exact ⟨⟨other, inRows, if_neg fun isRow => own (same.symm.trans isRow)⟩, same⟩

theorem Table.lookup_destroy {table : Table Col} (row : Row Col) :
    (table.destroy row).lookup = Function.update table.lookup row.id none := by
  refine Table.lookup_ext fun key other => ?_
  change other ∈ table.rows.filter _ ∧ other.id = key ↔ _
  rw [List.mem_filter, decide_eq_true_eq]
  by_cases own : key = row.id
  · subst own
    rw [Function.update_self]
    exact ⟨fun kept => absurd kept.2 kept.1.2, fun impossible => by cases impossible⟩
  · rw [Function.update_of_ne own, Table.lookup_eq_some]
    constructor
    · rintro ⟨⟨inRows, _⟩, same⟩
      exact ⟨inRows, same⟩
    · rintro ⟨inRows, rfl⟩
      exact ⟨⟨inRows, own⟩, rfl⟩

end Sequelize
