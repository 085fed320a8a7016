import Mathlib.Data.List.Basic
import Mathlib.Data.List.Forall2
import Mathlib.Data.List.Lex
import Mathlib.Data.List.Sort
import Mathlib.Data.String.Basic
import Mathlib.Order.WithBot
import ChurchManagement.Js.Value

namespace Sequelize

open Js

inductive DataType
  | uuid
  | string
  | text
  | dateonly
  | time
  | date
  | integer
  | boolean
  | json
  deriving DecidableEq, Repr

/-- A column as a model declares it. -/
structure Attribute where
  name : String
  type : DataType
  allowNull : Bool := true
  defaultValue : Value := .null

/-- What a column of the type can read back as besides null: character columns hold text, date
columns dates. -/
def DataType.reads : DataType → Value → Bool
  | .string, .str _ | .text, .str _ | .date, .date _ => true
  | .string, _ | .text, _ | .date, _ => false
  | _, _ => true

/-- A column declared without nulls holds none. -/
def Attribute.Holds (column : Attribute) (value : Value) : Prop :=
  if value = .null then column.allowNull = true else column.type.reads value = true

instance (column : Attribute) (value : Value) : Decidable (column.Holds value) :=
  inferInstanceAs (Decidable (if value = .null then _ else _))

/-- A model: its columns besides the primary key `id`. -/
class Model (Col : Type) where
  columns : List Col
  declared : Col → Attribute
  complete : ∀ col, col ∈ columns

/-- A row of a table; every cell is one its column can hold. -/
structure Row (Col : Type) [Model Col] where
  id : String
  get : Col → Value
  holds : ∀ col, (Model.declared col).Holds (get col)

instance {Col : Type} [Model Col] : DecidableEq (Row Col) := fun row row' =>
  decidable_of_iff (row.id = row'.id ∧ ∀ col ∈ (Model.columns : List Col),
    row.get col = row'.get col) <| by
    constructor
    · rintro ⟨id, cells⟩
      cases row
      cases row'
      cases id
      cases funext fun col => cells col (Model.complete col)
      rfl
    · rintro rfl
      exact ⟨rfl, fun _ _ => rfl⟩

/-- The rows of a table in the order they were inserted; no two share a primary key. -/
structure Table (Col : Type) [Model Col] where
  rows : List (Row Col)
  distinct : (rows.map Row.id).Nodup

/-- What the mapper and the database beneath it decide: the value a column holds after a write,
the rows a condition on a column selects, and which of several rows a query for one returns.
A rejected write is `none`, and so is a condition that the mapper refuses. -/
structure Orm where
  store : DataType → Value → Option Value
  store_null : ∀ type, store type .null = some .null
  store_string : ∀ s, store .string (.str s) = some (.str s)
  store_text : ∀ s, store .text (.str s) = some (.str s)
  whereEq : Value → Option (Value → Bool)
  whereEq_str : ∀ s cell, (whereEq (.str s)).map (· cell) = some (decide (cell = .str s))
  whereEq_num : ∀ n cond s, whereEq (.num n) = some cond → cond (.str s) = false
  whereEq_undefined : whereEq .undefined = none
  pick : {α : Type} → List α → Option α
  pick_mem : ∀ {α : Type} {rows : List α} {row : α}, pick rows = some row → row ∈ rows
  pick_none : ∀ {α : Type} {rows : List α}, pick rows = none → rows = []

theorem Orm.whereEq_text (orm : Orm) (s : String) :
    orm.whereEq (.str s) = some fun cell => decide (cell = .str s) := by
  cases built : orm.whereEq (.str s) with
  | none => simpa [built] using orm.whereEq_str s .null
  | some cond =>
    congr 1
    funext cell
    simpa [built] using orm.whereEq_str s cell

/-- A way to return one of the rows that a query selects. -/
structure Choice where
  pick : {α : Type} → List α → Option α
  pick_mem : ∀ {α : Type} {rows : List α} {row : α}, pick rows = some row → row ∈ rows
  pick_none : ∀ {α : Type} {rows : List α}, pick rows = none → rows = []

/-- The same mapper over a database that returns the rows of the choice. -/
def Orm.choosing (orm : Orm) (choice : Choice) : Orm :=
  { orm with pick := choice.pick, pick_mem := choice.pick_mem, pick_none := choice.pick_none }

/-- The row at an index, or the first where there are fewer rows. -/
def Choice.nth (i : Nat) : Choice where
  pick rows := rows[i]?.or rows.head?
  pick_mem := by
    intro α rows row found
    rcases Option.or_eq_some_iff.mp found with inside | ⟨_, first⟩
    · exact List.mem_of_getElem? inside
    · exact List.mem_of_head? first
  pick_none := by
    intro α rows none
    exact List.head?_eq_none_iff.mp (Option.or_eq_none_iff.mp none).2

/-- Every row that is selected can be the one that is returned. -/
theorem Choice.exists_pick {α : Type} {rows : List α} {row : α} (member : row ∈ rows) :
    ∃ choice : Choice, choice.pick rows = some row := by
  obtain ⟨i, inside, isRow⟩ := List.getElem_of_mem member
  refine ⟨Choice.nth i, ?_⟩
  change rows[i]?.or rows.head? = some row
  rw [List.getElem?_eq_getElem inside, isRow]
  rfl

theorem Choice.pick_singleton {α : Type} (choice : Choice) (row : α) :
    choice.pick [row] = some row := by
  cases found : choice.pick [row] with
  | none => cases choice.pick_none found
  | some other => rw [List.mem_singleton.mp (choice.pick_mem found)]

section Rows

variable {Col : Type} [Model Col] (orm : Orm)

/-- `Model.findOne({ where: cond })`. -/
def findOne (cond : Row Col → Bool) (rows : List (Row Col)) : Option (Row Col) :=
  orm.pick (rows.filter cond)

theorem findOne_some {cond : Row Col → Bool} {rows : List (Row Col)} {row : Row Col}
    (found : findOne orm cond rows = some row) : row ∈ rows ∧ cond row = true :=
  List.mem_filter.mp (orm.pick_mem found)

theorem findOne_none {cond : Row Col → Bool} {rows : List (Row Col)}
    (missing : findOne orm cond rows = none) : ∀ row ∈ rows, cond row = false := by
  have empty := orm.pick_none missing
  intro row member
  by_contra holds
  have kept : row ∈ rows.filter cond := List.mem_filter.mpr ⟨member, by simpa using holds⟩
  rw [empty] at kept
  exact List.not_mem_nil kept

/-- `Model.findByPk(param)`: nothing is looked up without a key, and only strings and numbers
are accepted as one. The outer `none` is an exception. -/
def findByPk (key : Value) (rows : List (Row Col)) : Option (Option (Row Col)) :=
  match key with
  | .undefined | .null => some none
  | .str _ | .num _ => (orm.whereEq key).map fun cond => findOne orm (fun row => cond (.str row.id)) rows
  | _ => none

theorem findByPk_some {key : Value} {rows : List (Row Col)} {row : Row Col}
    (found : findByPk orm key rows = some (some row)) : row ∈ rows ∧ key = .str row.id := by
  cases key with
  | str s =>
    obtain ⟨cond, built, selected⟩ := Option.map_eq_some_iff.mp found
    obtain ⟨member, holds⟩ := findOne_some orm selected
    have meaning := orm.whereEq_str s (.str row.id)
    rw [built, Option.map_some, holds, Option.some.injEq, eq_comm, decide_eq_true_eq] at meaning
    exact ⟨member, meaning.symm⟩
  | num n =>
    obtain ⟨cond, built, selected⟩ := Option.map_eq_some_iff.mp found
    have holds := (findOne_some orm selected).2
    rw [orm.whereEq_num n cond row.id built] at holds
    exact absurd holds (by decide)
  | undefined | null => simp [findByPk] at found
  | bool _ | date _ | arr _ | obj _ => simp [findByPk] at found

/-- A text is always accepted as a key, and no row has a key that is not found. -/
theorem findByPk_str (id : String) (rows : List (Row Col)) :
    ∃ found, findByPk orm (.str id) rows = some found ∧
      (found = none → ∀ row ∈ rows, row.id ≠ id) := by
  have meaning := fun cell => orm.whereEq_str id cell
  obtain ⟨cond, built, _⟩ := Option.map_eq_some_iff.mp (meaning .null)
  refine ⟨_, by rw [findByPk, built, Option.map_some], fun missing row member same => ?_⟩
  have refused := findOne_none orm missing row member
  have holds := meaning (.str row.id)
  rw [built, Option.map_some, refused, same] at holds
  simp at holds

/-- Adds a row; a primary key that is taken breaks the unique constraint. -/
def Table.insert (row : Row Col) (table : Table Col) : Option (Table Col) :=
  if fresh : row.id ∉ table.rows.map Row.id then
    some {
      rows := table.rows ++ [row]
      distinct := by
        rw [List.map_append, List.nodup_append]
        refine ⟨table.distinct, by simp, ?_⟩
        intro id member other single same
        rw [List.map_singleton, List.mem_singleton] at single
        exact fresh (single ▸ same ▸ member) }
  else none

/-- The rows that a condition selects when it holds of one row only. -/
theorem Table.filter_only {table : Table Col} {row : Row Col} {cond : Row Col → Bool}
    (member : row ∈ table.rows) (holds : cond row = true)
    (others : ∀ other ∈ table.rows, other.id ≠ row.id → cond other = false) :
    table.rows.filter cond = [row] := by
  obtain ⟨before, after, isRows⟩ := List.append_of_mem member
  have distinct := table.distinct
  rw [isRows, List.map_append, List.map_cons, List.nodup_append, List.nodup_cons] at distinct
  obtain ⟨_, ⟨notAfter, _⟩, apart⟩ := distinct
  have none {part : List (Row Col)} (inside : ∀ other ∈ part, other ∈ table.rows)
      (new : ∀ other ∈ part, other.id ≠ row.id) : part.filter cond = [] := by
    rw [List.filter_eq_nil_iff]
    intro other inPart
    simp [others other (inside other inPart) (new other inPart)]
  rw [isRows, List.filter_append, List.filter_cons_of_pos holds,
    none (fun other inPart => isRows ▸ List.mem_append_left _ inPart)
      (fun other inPart => apart _ (List.mem_map_of_mem inPart) _ List.mem_cons_self),
    none (fun other inPart => isRows ▸ List.mem_append_right _ (List.mem_cons_of_mem _ inPart))
      (fun other inPart same => notAfter (same ▸ List.mem_map_of_mem inPart)), List.nil_append]

theorem Table.insert_rows {row : Row Col} {table table' : Table Col}
    (run : table.insert row = some table') : table'.rows = table.rows ++ [row] := by
  unfold Table.insert at run
  split at run
  · cases Option.some.inj run
    rfl
  · simp at run

theorem Table.insert_fresh {row : Row Col} {table table' : Table Col}
    (run : table.insert row = some table') : row.id ∉ table.rows.map Row.id := by
  unfold Table.insert at run
  split at run
  · assumption
  · simp at run

theorem Table.insert_of_fresh {row : Row Col} {table : Table Col}
    (fresh : row.id ∉ table.rows.map Row.id) : ∃ table', table.insert row = some table' :=
  ⟨_, dif_pos fresh⟩

theorem map_id_save (row : Row Col) (rows : List (Row Col)) :
    (rows.map fun old => if old.id = row.id then row else old).map Row.id = rows.map Row.id := by
  rw [List.map_map]
  refine List.map_congr_left fun old _ => ?_
  simp only [Function.comp_apply]
  split
  · rename_i same
    exact same.symm
  · rfl

/-- Replaces the row with the same primary key. -/
def Table.save (row : Row Col) (table : Table Col) : Table Col where
  rows := table.rows.map fun old => if old.id = row.id then row else old
  distinct := by rw [map_id_save]; exact table.distinct

/-- `row.destroy()`. -/
def Table.destroy (row : Row Col) (table : Table Col) : Table Col where
  rows := table.rows.filter fun old => old.id ≠ row.id
  distinct := table.distinct.sublist (List.filter_sublist.map _)

theorem Table.ext_rows {table table' : Table Col} (same : table.rows = table'.rows) :
    table = table' := by
  cases table
  cases table'
  cases same
  rfl

theorem Table.eq_of_id {table : Table Col} {a b : Row Col} (inA : a ∈ table.rows)
    (inB : b ∈ table.rows) (same : a.id = b.id) : a = b :=
  List.inj_on_of_nodup_map table.distinct inA inB same

/-- Saving a row that was not changed leaves the table as it is. -/
theorem Table.save_of_mem {table : Table Col} {row : Row Col} (member : row ∈ table.rows) :
    table.save row = table := by
  refine Table.ext_rows ?_
  change (table.rows.map fun old => if old.id = row.id then row else old) = table.rows
  conv_rhs => rw [← List.map_id table.rows]
  refine List.map_congr_left fun old inOld => ?_
  rw [id_eq]
  split
  · rename_i same
    exact (Table.eq_of_id inOld member same).symm
  · rfl

/-- Of two rows with one identifier the one saved last is kept. -/
theorem Table.save_save {row row' : Row Col} (table : Table Col) (id : row.id = row'.id) :
    (table.save row).save row' = table.save row' := by
  refine Table.ext_rows ?_
  change ((table.rows.map fun old => if old.id = row.id then row else old).map
    fun old => if old.id = row'.id then row' else old) = table.rows.map _
  rw [List.map_map]
  refine List.map_congr_left fun old _ => ?_
  rw [Function.comp_apply]
  by_cases same : old.id = row.id
  · rw [if_pos same, if_pos id, if_pos (same.trans id)]
  · rw [if_neg same]

theorem Table.mem_save {row old : Row Col} {table : Table Col} (member : old ∈ table.rows)
    (id : old.id = row.id) : row ∈ (table.save row).rows :=
  List.mem_map.mpr ⟨old, member, if_pos id⟩

/-- Saving a row changes no row with another identifier. -/
theorem Table.save_others (row : Row Col) (table : Table Col) :
    List.Forall₂ (fun old new => new.id = old.id ∧ (old.id ≠ row.id → new = old)) table.rows
      (table.save row).rows := by
  change List.Forall₂ _ table.rows (table.rows.map _)
  rw [List.forall₂_map_right_iff, List.forall₂_same]
  intro old _
  split
  · rename_i same
    exact ⟨same.symm, fun other => absurd same other⟩
  · exact ⟨rfl, fun _ => rfl⟩

/-- A save without effect is one of a row that was there. -/
theorem Table.mem_of_save {row old : Row Col} {table : Table Col} (member : old ∈ table.rows)
    (id : old.id = row.id) (same : table.save row = table) : row ∈ table.rows := by
  have saved := Table.mem_save member id
  rwa [same] at saved

/-- The value of a column after an assignment of the given fields. A field that is undefined
leaves the column alone, and a key that names no column is never looked at. -/
def assigned (values : List (String × Value)) (old : Col → Value) (col : Col) : Option Value :=
  match Value.field (Model.declared col).name values with
  | .undefined => some (old col)
  | value => orm.store (Model.declared col).type value

/-- Writes all columns of a row, or none of them when one is rejected. -/
def write (id : String) (values : List (String × Value)) (old : Col → Value) : Option (Row Col) :=
  if ok : ∀ col ∈ (Model.columns : List Col), ∃ v ∈ assigned orm values old col,
      (Model.declared col).Holds v then
    some {
      id := id
      get := fun col => (assigned orm values old col).getD .null
      holds := fun col => by
        obtain ⟨v, assigns, fits⟩ := ok col (Model.complete col)
        rw [Option.mem_def.mp assigns]
        exact fits }
  else none

/-- `row.update(values)`. The primary key of an existing row is never written. -/
def Row.update (values : List (String × Value)) (row : Row Col) : Option (Row Col) :=
  write orm row.id values row.get

/-- `Model.create(values)` with the primary key drawn for the new row. -/
def create (id : String) (values : List (String × Value)) : Option (Row Col) :=
  write orm id values fun col => (Model.declared col).defaultValue

theorem write_get {id : String} {values : List (String × Value)} {old : Col → Value}
    {row : Row Col} (run : write orm id values old = some row) (col : Col) :
    assigned orm values old col = some (row.get col) := by
  unfold write at run
  split at run
  · rename_i ok
    obtain ⟨v, assigns, _⟩ := ok col (Model.complete col)
    cases Option.some.inj run
    simp only [Option.mem_def.mp assigns, Option.getD_some]
  · simp at run

theorem write_id {id : String} {values : List (String × Value)} {old : Col → Value}
    {row : Row Col} (run : write orm id values old = some row) : row.id = id := by
  unfold write at run
  split at run
  · cases Option.some.inj run
    rfl
  · simp at run

/-- The cell keeps what the column stores of the value, or its default where no value is given. -/
def Row.Stores (row : Row Col) (col : Col) (value : Value) : Prop :=
  if value = .undefined then row.get col = (Model.declared col).defaultValue
  else orm.store (Model.declared col).type value = some (row.get col)

theorem create_stores {id : String} {values : List (String × Value)} {row : Row Col}
    (made : create orm id values = some row) (col : Col) :
    row.Stores orm col (Value.field (Model.declared col).name values) := by
  have cell := write_get orm made col
  unfold assigned at cell
  unfold Row.Stores
  split at cell
  · rename_i absent
    rw [if_pos absent]
    exact (Option.some.inj cell).symm
  · rename_i given
    rw [if_neg given]
    exact cell

/-- A text is the cell of a character column. -/
theorem Row.Stores.text {row : Row Col} {col : Col} {s : String} (stores : row.Stores orm col (.str s))
    (character : (Model.declared col).type = .string ∨ (Model.declared col).type = .text) :
    row.get col = .str s := by
  rw [Row.Stores, if_neg (by simp)] at stores
  rcases character with isString | isText
  · rw [isString, orm.store_string] at stores
    exact (Option.some.inj stores).symm
  · rw [isText, orm.store_text] at stores
    exact (Option.some.inj stores).symm

/-- An update gives the row whose cells the assignment says. -/
theorem Row.update_eq_some {values : List (String × Value)} (row row' : Row Col) (id : row'.id = row.id) :
    row.update orm values = some row' ↔
      ∀ col, assigned orm values row.get col = some (row'.get col) := by
  refine ⟨fun run => write_get orm run, fun same => ?_⟩
  have ok : ∀ col ∈ (Model.columns : List Col), ∃ v ∈ assigned orm values row.get col,
      (Model.declared col).Holds v := fun col _ => ⟨row'.get col, same col, row'.holds col⟩
  unfold Row.update write
  rw [dif_pos ok]
  congr 1
  cases row'
  simp only [same, Option.getD_some]
  cases id
  rfl

/-- An update leaves the row as it is exactly when every column is assigned the cell it has. -/
theorem Row.update_eq_self {values : List (String × Value)} (row : Row Col) :
    row.update orm values = some row ↔
      ∀ col, assigned orm values row.get col = some (row.get col) :=
  row.update_eq_some orm row rfl

/-- An assignment that names no column of the model changes no cell. -/
theorem Row.update_foreign {values : List (String × Value)} (row : Row Col)
    (foreign : ∀ col : Col, Value.field (Model.declared col).name values = .undefined) :
    row.update orm values = some row := by
  refine (row.update_eq_self orm).mpr fun col => ?_
  simp only [assigned, foreign col]

/-- A row as a plain object. -/
def Row.toJSON (row : Row Col) : Value :=
  .obj (("id", .str row.id) ::
    (Model.columns : List Col).map fun col => ((Model.declared col).name, row.get col))

/-- The object tells all of the row. -/
theorem Row.toJSON_injective : Function.Injective (Row.toJSON : Row Col → Value) := by
  intro a b same
  obtain ⟨ids, cells⟩ := List.cons_eq_cons.mp (Value.obj.inj same)
  have id : a.id = b.id := Value.str.inj (Prod.mk.inj ids).2
  have get : a.get = b.get := by
    funext col
    exact (Prod.mk.inj (List.map_inj_left.mp cells col (Model.complete col))).2
  cases a
  cases b
  simp_all

end Rows

/-- Text columns are ordered by their characters, and a missing value comes first. -/
def cellLE : Value → Value → Bool
  | .str a, .str b => a ≤ b
  | .null, _ => true
  | _, .null => false
  | _, _ => true

/-- `order: [[c, "DESC"], ...]`, the first column deciding. -/
def descending {Col : Type} [Model Col] : List Col → Row Col → Row Col → Bool
  | [], _, _ => true
  | col :: rest, a, b =>
    if a.get col = b.get col then descending rest a b else cellLE (b.get col) (a.get col)

def orderDesc {Col : Type} [Model Col] (cols : List Col) (rows : List (Row Col)) : List (Row Col) :=
  rows.insertionSort fun a b => descending cols a b = true

section Ordering

/-- The cells that a date or time column reads back as. -/
def TextOrNull (value : Value) : Prop := value = .null ∨ ∃ s, value = .str s

/-- A missing value comes before every text. -/
def cellKey : Value → WithBot String
  | .str s => s
  | _ => ⊥

theorem cellKey_inj {a b : Value} (ordered : TextOrNull a) (ordered' : TextOrNull b)
    (same : cellKey a = cellKey b) : a = b := by
  rcases ordered with rfl | ⟨s, rfl⟩
  · rcases ordered' with rfl | ⟨t, rfl⟩
    · rfl
    · cases same
  · rcases ordered' with rfl | ⟨t, rfl⟩
    · cases same
    · rw [WithBot.coe_inj.mp same]

theorem cellLE_iff {a b : Value} (ordered : TextOrNull a) (ordered' : TextOrNull b) :
    cellLE a b = true ↔ cellKey a ≤ cellKey b := by
  rcases ordered with rfl | ⟨s, rfl⟩
  · exact iff_of_true (by simp [cellLE]) bot_le
  · rcases ordered' with rfl | ⟨t, rfl⟩
    · exact iff_of_false (by simp [cellLE]) (by simp [cellKey])
    · simp [cellLE, cellKey]

variable {Col : Type} [Model Col]

def rowKey (cols : List Col) (row : Row Col) : List (WithBot String) :=
  cols.map fun col => cellKey (row.get col)

/-- The rows are ordered in the columns. -/
def Ordered (cols : List Col) (row : Row Col) : Prop := ∀ col ∈ cols, TextOrNull (row.get col)

theorem descending_iff {cols : List Col} {a b : Row Col} (ordered : Ordered cols a)
    (ordered' : Ordered cols b) : descending cols a b = true ↔ rowKey cols b ≤ rowKey cols a := by
  induction cols with
  | nil => simp [descending, rowKey]
  | cons col rest ih =>
    obtain ⟨first, others⟩ := List.forall_mem_cons.mp ordered
    obtain ⟨first', others'⟩ := List.forall_mem_cons.mp ordered'
    rw [← not_lt, rowKey, rowKey, List.map_cons, List.map_cons, List.cons_lt_cons_iff]
    unfold descending
    split
    · rename_i same
      rw [same, ih others others', ← not_lt]
      simp [rowKey]
    · rename_i other
      have keys : cellKey (a.get col) ≠ cellKey (b.get col) :=
        fun same => other (cellKey_inj first first' same)
      rw [cellLE_iff first' first, ← not_lt]
      simp [keys]

/-- Rows come out in descending order. -/
theorem orderDesc_pairwise {cols : List Col} {rows : List (Row Col)}
    (ordered : ∀ row ∈ rows, Ordered cols row) :
    (orderDesc cols rows).Pairwise fun a b => descending cols a b = true := by
  have sorted : ((orderDesc cols rows).map (rowKey cols)).Pairwise (· ≥ ·) := by
    rw [orderDesc, List.map_insertionSort _ (· ≥ ·) (rowKey cols) rows
      fun a inA b inB => descending_iff (ordered a inA) (ordered b inB)]
    exact List.pairwise_insertionSort _ _
  have known {row : Row Col} (member : row ∈ orderDesc cols rows) : Ordered cols row :=
    ordered row ((List.mem_insertionSort _).mp member)
  refine (List.pairwise_map.mp sorted).imp_of_mem fun {a b} inA inB le => ?_
  exact (descending_iff (known inA) (known inB)).mpr le

end Ordering

end Sequelize
