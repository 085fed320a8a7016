import ChurchManagement.Reference

namespace ChurchManagement

open Js Effect Sequelize

section Upload

variable (p : Platform)

/-- The check of one worksheet row finds nothing to complain about. -/
def RowAccepted (row : Value) : Prop := (p.validate excelSchema row).error = none

instance (row : Value) : Decidable (RowAccepted p row) :=
  inferInstanceAs (Decidable ((p.validate excelSchema row).error = none))

/-- The user holds, column by column, what the check hands on of the worksheet row. -/
def Uploaded (row : Value) (user : User) : Prop :=
  ∀ col, user.Stores p.toOrm col
    ((p.validate excelSchema row).value.propD (Model.declared col).name)

/-- What an upload is for: when every row is accepted there is one more user for each, and
otherwise there are the users there were. -/
structure UploadComplete (rows : List (List Value)) (before after : Table UserColumn) : Prop where
  complete : (∀ row ∈ worksheetData rows, RowAccepted p row) →
    ∃ users, after.rows = before.rows ++ users ∧ List.Forall₂ (Uploaded p) (worksheetData rows) users
  nothing : (∃ row ∈ worksheetData rows, ¬ RowAccepted p row) → after = before

/-- The table of users behind an upload of the worksheet. -/
def usersAfterUpload (req : Request) (rows : List (List Value)) (c : Ctx) : Table UserColumn :=
  (exec (postUploadExcel p { req with worksheet := some rows }) c).2.server.users

theorem usersAfterUpload_eq (req : Request) (rows : List (List Value)) (c : Ctx) :
    usersAfterUpload p req rows c = c.server.users :=
  congrArg Server.users
    (Ctx.server_of_core (keeps_postUploadExcel p { req with worksheet := some rows } c))

/-- An upload that leaves the table alone is complete only where nothing was to be created. -/
theorem uploadComplete_unchanged {rows : List (List Value)} (users : Table UserColumn) :
    UploadComplete p rows users users ↔
      worksheetData rows = [] ∨ ∃ row ∈ worksheetData rows, ¬ RowAccepted p row := by
  constructor
  · intro upload
    by_cases rejected : ∃ row ∈ worksheetData rows, ¬ RowAccepted p row
    · exact .inr rejected
    · have accepted : ∀ row ∈ worksheetData rows, RowAccepted p row := by
        intro row member
        by_contra bad
        exact rejected ⟨row, member, bad⟩
      obtain ⟨created, grown, each⟩ := upload.complete accepted
      have none : created = [] := List.self_eq_append_right.mp grown
      rw [none] at each
      exact .inl (List.forall₂_nil_right_iff.mp each)
  · intro settled
    refine ⟨fun accepted => ?_, fun _ => rfl⟩
    rcases settled with empty | ⟨row, member, bad⟩
    · refine ⟨[], (List.append_nil _).symm, ?_⟩
      rw [empty]
      exact .nil
    · exact absurd (accepted row member) bad

/-- The schema of one row is given the array of all rows, so an upload of rows that should be
created creates none of them. -/
theorem upload_complete_iff (req : Request) (rows : List (List Value)) (c : Ctx) :
    UploadComplete p rows c.server.users (usersAfterUpload p req rows c) ↔
      worksheetData rows = [] ∨ ∃ row ∈ worksheetData rows, ¬ RowAccepted p row := by
  rw [usersAfterUpload_eq]
  exact uploadComplete_unchanged p c.server.users

end Upload

namespace Reference

/-- A worksheet with a header and one member. -/
def memberSheet : List (List Value) :=
  [[.str "NAME", .str "SEX", .str "CAT", .str "PHONENUMBER"],
    [.str "Bola Ade", .str "F", .str "NC", .str "08037654321"]]

/-- The row of the sheet passes the check, and nobody is added for it. -/
theorem accepted_sheet_lost : ¬ UploadComplete platform memberSheet start.users
    (usersAfterUpload platform (request "s1" "POST" "/upload-excel") memberSheet (context adaId)) := by
  have data : worksheetData memberSheet = [.obj [("NAME", .str "Bola Ade"), ("SEX", .str "F"),
      ("CAT", .str "NC"), ("PHONENUMBER", .str "08037654321")]] := by decide +kernel
  have accepted : RowAccepted platform (.obj [("NAME", .str "Bola Ade"), ("SEX", .str "F"),
      ("CAT", .str "NC"), ("PHONENUMBER", .str "08037654321")]) := by decide +kernel
  have unchanged := usersAfterUpload_eq platform (request "s1" "POST" "/upload-excel") memberSheet
    (context adaId)
  rw [unchanged, show (context adaId).server.users = start.users from rfl, uploadComplete_unchanged,
    data]
  rintro (empty | ⟨row, member, bad⟩)
  · cases empty
  · cases List.mem_singleton.mp member
    exact bad accepted

end Reference

end ChurchManagement
