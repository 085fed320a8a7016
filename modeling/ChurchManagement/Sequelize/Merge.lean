import ChurchManagement.Sequelize

namespace Sequelize

open Js

variable {Col : Type} [Model Col]

/-- The row as it stands in the table, with some columns written from a new version of it. -/
def Row.merge (written : Col → Bool) (new current : Row Col) : Row Col where
  id := current.id
  get col := if written col then new.get col else current.get col
  holds col := by
    split
    · exact new.holds col
    · exact current.holds col

theorem Row.merge_get (written : Col → Bool) (new current : Row Col) (col : Col) :
    (new.merge written current).get col = new.get col ∧ written col = true ∨
      (new.merge written current).get col = current.get col := by
  change (if written col then new.get col else current.get col) = _ ∧ _ ∨
    (if written col then new.get col else current.get col) = _
  cases written col with
  | true => exact .inl ⟨rfl, rfl⟩
  | false => exact .inr rfl

theorem Row.eq_of_get {a b : Row Col} (id : a.id = b.id) (get : a.get = b.get) : a = b := by
  cases a
  cases b
  cases id
  cases get
  rfl

/-- Where every column that differs is written, nothing of the old version is left. -/
theorem Row.merge_eq {written : Col → Bool} {new current : Row Col} (id : current.id = new.id)
    (covers : ∀ col, new.get col ≠ current.get col → written col = true) :
    new.merge written current = new := by
  refine Row.eq_of_get id (funext fun col => ?_)
  change (if written col then new.get col else current.get col) = new.get col
  split
  · rfl
  · rename_i unwritten
    by_contra differs
    exact unwritten (covers col (Ne.symm differs))

theorem map_id_merge (written : Col → Bool) (row : Row Col) (rows : List (Row Col)) :
    (rows.map fun old => if old.id = row.id then row.merge written old else old).map Row.id =
      rows.map Row.id := by
  rw [List.map_map]
  refine List.map_congr_left fun old _ => ?_
  rw [Function.comp_apply]
  split <;> rfl

/-- `UPDATE ... SET` of some columns `WHERE id = ...`. -/
def Table.merge (written : Col → Bool) (row : Row Col) (table : Table Col) : Table Col where
  rows := table.rows.map fun old => if old.id = row.id then row.merge written old else old
  distinct := by
    rw [map_id_merge]
    exact table.distinct

/-- A row after the update is one from before it, or such a row with some cells from the new
version. -/
theorem Table.mem_merge {written : Col → Bool} {row new : Row Col} {table : Table Col}
    (member : new ∈ (table.merge written row).rows) :
    new ∈ table.rows ∨ ∃ old ∈ table.rows, old.id = row.id ∧ new = row.merge written old := by
  obtain ⟨old, inTable, isNew⟩ := List.mem_map.mp member
  split at isNew
  · rename_i same
    exact .inr ⟨old, inTable, same, isNew.symm⟩
  · exact .inl (isNew ▸ inTable)

/-- When the row has not changed since it was read, the update saves the new version. -/
theorem Table.merge_of_mem {written : Col → Bool} {seen row : Row Col} {table : Table Col}
    (member : seen ∈ table.rows) (id : seen.id = row.id)
    (covers : ∀ col, row.get col ≠ seen.get col → written col = true) :
    table.merge written row = table.save row := by
  refine Table.ext_rows (List.map_congr_left fun old inOld => ?_)
  split
  · rename_i same
    cases Table.eq_of_id inOld member (same.trans id.symm)
    exact Row.merge_eq id covers
  · rfl

end Sequelize
