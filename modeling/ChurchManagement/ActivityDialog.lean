import ChurchManagement.ActivityMarkup
import ChurchManagement.Journey

namespace ChurchManagement

open Js Effect Express Sequelize History

section Cells

/-- The columns for identifiers, days and times of day hold texts. -/
def TextStore (orm : Orm) : Prop :=
  ∀ type ∈ [DataType.uuid, .dateonly, .time], ∀ value cell, orm.store type value = some cell →
    cell = .null ∨ ∃ text, cell = .str text

/-- Every cell of the row is a text or empty. -/
def Textual (row : Activity) : Prop :=
  ∀ col, row.get col = .null ∨ ∃ text, row.get col = .str text

theorem text_of_holds {column : Attribute} {value : Value} (holds : column.Holds value)
    (characters : column.type = .string ∨ column.type = .text) :
    value = .null ∨ ∃ text, value = .str text := by
  unfold Attribute.Holds at holds
  split at holds
  · exact .inl ‹_›
  · cases value with
    | str text => exact .inr ⟨text, rfl⟩
    | undefined | null | bool _ | num _ | date _ | arr _ | obj _ =>
      rcases characters with isType | isType <;> rw [isType] at holds <;> cases holds

variable {p : Platform} {secrets : Secrets}

/-- An activity is written in texts, whatever the request has put into it. -/
theorem textual_create (stores : TextStore p.toOrm) {id : String} {values : List (String × Value)}
    {row : Activity} (made : create p.toOrm id values = some row) : Textual row := by
  intro col
  have cell := write_get p.toOrm made col
  unfold assigned at cell
  split at cell
  · have empty : (Model.declared col).defaultValue = .null := by cases col <;> rfl
    exact .inl ((Option.some.inj cell).symm.trans empty)
  · cases col with
    | USERID | DATE | TIME => exact stores _ (by decide) _ _ cell
    | ACTIVITYTYPE | RESPONSE | PERFORMER => exact text_of_holds (row.holds _) (by decide)

theorem textual_insert (stores : TextStore p.toOrm) {id : String} {values : List (String × Value)}
    {row : Activity} {activities activities' : Table ActivityColumn}
    (known : ∀ row ∈ activities.rows, Textual row) (made : create p.toOrm id values = some row)
    (inserted : activities.insert row = some activities') : ∀ row ∈ activities'.rows, Textual row := by
  rw [Table.insert_rows inserted]
  exact List.forall_mem_append.mpr ⟨known, List.forall_mem_singleton.mpr (textual_create stores made)⟩

/-- No request puts anything but texts into the table. -/
theorem serve_textual (stores : TextStore p.toOrm) {req : Request} {s : Server}
    (known : ∀ row ∈ s.activities.rows, Textual row) :
    ∀ row ∈ (serve p secrets req s).activities.rows, Textual row := by
  have sees {c : Ctx} (left : (served p secrets req s).core = c.core)
      (texts : ∀ row ∈ c.server.activities.rows, Textual row) :
      ∀ row ∈ (serve p secrets req s).activities.rows, Textual row := by
    rwa [serve_activities, Ctx.server_of_core left]
  rcases served_spec p secrets req s with idle | ⟨handler, params, handled⟩
  · exact sees idle known
  cases handled.done.outcome with
  | quiet left => exact sees left known
  | subscribed rows left => exact sees left known
  | identified user matched stuck left => exact sees left known
  | promoted user role matched stands reads stuck left => exact sees left known
  | registered users registers left => exact sees left known
  | shown user member reads truthy current left => exact sees left known
  | updated user updates left => exact sees left known
  | loggedOut record logsOut left =>
    exact sees left fun row kept => known row (List.mem_filter.mp kept).1
  | recorded activities records left =>
    obtain ⟨_, _, _, _, _, _, made, inserted⟩ := records
    exact sees left (textual_insert stores known made inserted)
  | granted user role activities matched stands reads completes recorded answer left =>
    refine sees left ?_
    change ∀ row ∈ activities.rows, Textual row
    unfold AgentRecorded at recorded
    split at recorded
    · rw [recorded.2]
      exact known
    · obtain ⟨_, _, made, inserted⟩ := recorded
      exact textual_insert stores known made inserted

theorem Runs.textual (stores : TextStore p.toOrm) {start s : Server} {log : Log}
    (known : ∀ row ∈ start.activities.rows, Textual row) (reach : Runs p secrets start log s) :
    ∀ row ∈ s.activities.rows, Textual row := by
  induction reach with
  | start => exact known
  | next req _ ih => exact serve_textual stores ih

end Cells

section Answers

/-- The activities in an answer: its text is read as JSON, and they are a list where it has them. -/
def readActivities (p : Platform) (text : String) : Except String (Option (List Value)) :=
  match Json.parse text with
  | none => .error (p.syntaxError text)
  | some value => do
    match ← value.prop "activities" with
    | .arr activities => return some activities
    | _ => return none

/-- What a page gets for an answer. A text is sent as it stands, any other value as its JSON text,
a page is no JSON, and a redirect is no answer yet. -/
def fetched (p : Platform) : Response → Option Fetched
  | .send status (.str text) => some (.answered (200 ≤ status && status < 300) (readActivities p text))
  | .send status value =>
    some (.answered (200 ≤ status && status < 300) (readActivities p (Json.stringify value)))
  | .render status _ _ => some (.answered (200 ≤ status && status < 300) (.error (p.syntaxError "<")))
  | .redirect _ _ => none

variable {p : Platform} {row : Activity}

theorem Textual.representable (textual : Textual row) : Json.Representable row.toJSON := by
  have cell (col : ActivityColumn) : Json.Representable (row.get col) := by
    rcases textual col with empty | ⟨text, isText⟩
    · rw [empty]
      exact ⟨trivial, trivial⟩
    · rw [isText]
      exact ⟨trivial, trivial⟩
  refine ⟨⟨trivial, (cell _).printable, (cell _).printable, (cell _).printable, (cell _).printable,
    (cell _).printable, (cell _).printable, trivial⟩, ?_, trivial, (cell _).distinct,
    (cell _).distinct, (cell _).distinct, (cell _).distinct, (cell _).distinct, (cell _).distinct, trivial⟩
  change ["id", "USERID", "ACTIVITYTYPE", "DATE", "TIME", "RESPONSE", "PERFORMER"].Nodup
  decide

end Answers

section Dialog

variable {p : Platform} {secrets : Secrets} {req : Request} {s : Server}
  {params : List (String × String)} {row : Activity}

/-- The columns that the dialog shows. -/
def shownColumns : List ActivityColumn := [.ACTIVITYTYPE, .DATE, .TIME, .RESPONSE]

theorem field_toJSON (row : Activity) {col : ActivityColumn} (shown : col ∈ shownColumns) :
    (row.toJSON).propD (Model.declared col).name = row.get col := by
  simp only [shownColumns, List.mem_cons, List.not_mem_nil, or_false] at shown
  rcases shown with rfl | rfl | rfl | rfl <;> rfl

theorem activityKeys_eq : activityKeys = shownColumns.map fun col => (Model.declared col).name := rfl

theorem Textual.activity (textual : Textual row) : TextActivity row.toJSON := by
  refine ⟨_, rfl, fun key isKey => ?_⟩
  rw [activityKeys_eq] at isKey
  obtain ⟨col, shown, rfl⟩ := List.mem_map.mp isKey
  have read := field_toJSON row shown
  change Value.field _ _ = _ at read
  rw [read]
  rcases textual col with empty | ⟨text, isText⟩
  · exact .inr (.inr empty)
  · exact .inl ⟨text, isText⟩

end Dialog

section Sample

open Reference

end Sample

end ChurchManagement
