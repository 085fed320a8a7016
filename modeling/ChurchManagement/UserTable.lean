import ChurchManagement.Reference

namespace ChurchManagement

open Js Effect Express Sequelize History

section Writes

variable {Col : Type} [Model Col] {orm : Orm} {id : String} {values : List (String × Value)}
  {old : Col → Value} {row : Row Col} {rule : Joi.Rule}

/-- A checked text is stored as it is; a text that may be left out leaves the column alone. -/
theorem write_text (col : Col) (run : write orm id values old = some row)
    (passes : rule.Accepts (Value.field (Model.declared col).name values))
    (kind : rule.kind = .string) (type : (Model.declared col).type = .string) :
    rule.required = false ∧ row.get col = old col ∨ ∃ s, row.get col = .str s ∧
      (s = "" → rule.allowEmpty = true) ∧ ∀ texts, rule.valid = some texts → s ∈ texts := by
  have stored := write_get orm run col
  unfold assigned at stored
  cases given : Value.field (Model.declared col).name values with
  | undefined =>
    rw [given] at passes stored
    exact .inl ⟨passes, (Option.some.inj stored).symm⟩
  | str s =>
    rw [given] at passes stored
    simp only [type, orm.store_string] at stored
    exact .inr ⟨s, (Option.some.inj stored).symm, passes.2.1, passes.2.2⟩
  | date iso =>
    rw [given] at passes
    have kind' : rule.kind = .date := passes
    rw [kind] at kind'
    cases kind'
  | null | bool _ | num _ | arr _ | obj _ =>
    rw [given] at passes
    exact passes.elim

/-- A checked date is stored as the day it stands for. -/
theorem write_date (col : Col) (run : write orm id values old = some row)
    (passes : rule.Accepts (Value.field (Model.declared col).name values))
    (kind : rule.kind = .date) (required : rule.required = true) :
    ∃ iso, orm.store (Model.declared col).type (.date iso) = some (row.get col) := by
  have stored := write_get orm run col
  unfold assigned at stored
  cases given : Value.field (Model.declared col).name values with
  | undefined =>
    rw [given] at passes
    simp [Joi.Rule.Accepts, required] at passes
  | date iso =>
    rw [given] at stored
    exact ⟨iso, stored⟩
  | str s =>
    rw [given] at passes
    have kind' := passes.1
    rw [kind] at kind'
    cases kind'
  | null | bool _ | num _ | arr _ | obj _ =>
    rw [given] at passes
    exact passes.elim

end Writes

section

variable {p : Platform} {secrets : Secrets}

/-- A row that the member pages can work with. Its date is what the column holds for some date. -/
structure ValidUser (p : Platform) (user : User) : Prop where
  name : ∃ s, user.get .NAME = .str s ∧ s ≠ ""
  phone : ∃ s, user.get .PHONENUMBER = .str s ∧ s ≠ ""
  sex : ∃ s, user.get .SEX = .str s ∧ s ∈ ["M", "F"]
  cat : ∃ s, user.get .CAT = .str s ∧ s ∈ ["NC", "FT", "OLD MEMBER"]
  date : ∃ iso, p.store .dateonly (.date iso) = some (user.get .DATE)

/-- The rules that both schemas have for the columns of a valid row. -/
structure CheckedFields (sexRequired : Bool) (values : List (String × Value)) : Prop where
  date : Joi.Rule.Accepts { kind := .date, required := true } (Value.field "DATE" values)
  name : Joi.Rule.Accepts { required := true } (Value.field "NAME" values)
  sex : Joi.Rule.Accepts { valid := some ["M", "F"], required := sexRequired }
    (Value.field "SEX" values)
  cat : Joi.Rule.Accepts { valid := some ["NC", "FT", "OLD MEMBER"], required := true }
    (Value.field "CAT" values)
  phone : Joi.Rule.Accepts { required := true } (Value.field "PHONENUMBER" values)

theorem CheckedFields.valid {sexRequired : Bool} {id : String} {values : List (String × Value)}
    {old : UserColumn → Value} {user : User} (checked : CheckedFields sexRequired values)
    (run : write p.toOrm id values old = some user)
    (sex : sexRequired = false → ∃ s, old .SEX = .str s ∧ s ∈ ["M", "F"]) : ValidUser p user where
  name := by
    rcases write_text .NAME run checked.name rfl rfl with ⟨left, _⟩ | ⟨s, text, empty, _⟩
    · cases left
    · exact ⟨s, text, fun none => Bool.false_ne_true (empty none)⟩
  phone := by
    rcases write_text .PHONENUMBER run checked.phone rfl rfl with ⟨left, _⟩ | ⟨s, text, empty, _⟩
    · cases left
    · exact ⟨s, text, fun none => Bool.false_ne_true (empty none)⟩
  sex := by
    rcases write_text .SEX run checked.sex rfl rfl with ⟨left, same⟩ | ⟨s, text, _, valid⟩
    · rw [same]
      exact sex left
    · exact ⟨s, text, valid _ rfl⟩
  cat := by
    rcases write_text .CAT run checked.cat rfl rfl with ⟨left, _⟩ | ⟨s, text, _, valid⟩
    · cases left
    · exact ⟨s, text, valid _ rfl⟩
  date := by
    obtain ⟨iso, stored⟩ := write_date .DATE run checked.date rfl rfl
    exact ⟨iso, stored⟩

/-- The columns of a user that no schema names. -/
def countColumns : List UserColumn := [.ACTIVITYCOUNT, .ATTENDANCECOUNT, .LASTATTENDANCEDATE]

theorem field_of_absent {key : String} {fields : List (String × Value)}
    (absent : ∀ entry ∈ fields, entry.1 ≠ key) : Value.field key fields = .undefined := by
  have none : (fields.find? fun entry => entry.1 == key) = none := by
    rw [List.find?_eq_none]
    intro entry member
    simpa using absent entry member
  simp [Value.field, none]

/-- A write whose fields name none of the counting columns leaves them alone. -/
theorem write_counts {id : String} {values : List (String × Value)} {old : UserColumn → Value}
    {user : User} (run : write p.toOrm id values old = some user)
    (named : ∀ entry ∈ values, entry.1 ∈ registerSchema.map Prod.fst) :
    ∀ col ∈ countColumns, user.get col = old col := by
  intro col counts
  have apart : ∀ col ∈ countColumns, ∀ key ∈ registerSchema.map Prod.fst,
      key ≠ (Model.declared col).name := by decide
  have absent : Value.field (Model.declared col).name values = .undefined :=
    field_of_absent fun entry member => apart col counts _ (named entry member)
  have stored := write_get p.toOrm run col
  rw [assigned, absent] at stored
  exact (Option.some.inj stored).symm

/-- The row that a registration adds. -/
theorem Registers.row {req : Request} {users users' : Table UserColumn}
    (registers : Registers p secrets req users users') :
    ∃ user, users'.rows = users.rows ++ [user] ∧ user.id ∉ users.rows.map Row.id ∧
      ValidUser p user ∧ ∀ col ∈ countColumns, user.get col = .null := by
  obtain ⟨value, user, accepted, token, _, made, inserted⟩ := registers
  obtain ⟨fields, rfl, keys, passes⟩ := accepts_of_token accepted token
  have checked : CheckedFields true (registeredKeys.map fun key => (key, Value.propD (.obj fields) key)) :=
    ⟨passes ("DATE", _) (by simp [registerSchema]), passes ("NAME", _) (by simp [registerSchema]),
      passes ("SEX", _) (by simp [registerSchema]), passes ("CAT", _) (by simp [registerSchema]),
      passes ("PHONENUMBER", _) (by simp [registerSchema])⟩
  refine ⟨user, Table.insert_rows inserted, Table.insert_fresh inserted,
    checked.valid made (by simp), fun col counts => ?_⟩
  rw [write_counts made (by simp [registeredKeys, registerSchema]) col counts]
  revert col
  decide

/-- The row that an accepted update writes. -/
theorem Updates.row {req : Request} {params : List (String × String)} {users : List User}
    {user : User} (updates : Updates p req params users user)
    (accepted : (p.validate updateSchema req.body).error = none) :
    ∃ old ∈ users, old.id = user.id ∧ (ValidUser p old → ValidUser p user) ∧
      ∀ col ∈ countColumns, user.get col = old.get col := by
  obtain ⟨_, _, old, member, _, written⟩ := updates
  have id : user.id = old.id := write_id p.toOrm written
  by_cases absent : req.body = .undefined
  · rw [absent, p.validate_undefined] at written
    have same : old.update p.toOrm [] = some old := old.update_foreign p.toOrm fun _ => rfl
    cases Option.some.inj (same.symm.trans written)
    exact ⟨_, member, rfl, fun valid => valid, fun _ _ => rfl⟩
  · obtain ⟨fields, value, keys, passes⟩ := p.validate_ok _ _ absent accepted
    rw [value] at written
    have checked : CheckedFields false fields :=
      ⟨passes ("DATE", _) (by simp [updateSchema]), passes ("NAME", _) (by simp [updateSchema]),
        passes ("SEX", _) (by simp [updateSchema]), passes ("CAT", _) (by simp [updateSchema]),
        passes ("PHONENUMBER", _) (by simp [updateSchema])⟩
    refine ⟨old, member, id.symm, fun valid => checked.valid written fun _ => valid.sex, ?_⟩
    refine write_counts written fun entry inFields => ?_
    have sub : ∀ key ∈ updateSchema.map Prod.fst, key ∈ registerSchema.map Prod.fst := by decide
    exact sub _ (keys entry inFields)

/-- The body of an update that finds its user has passed the check. -/
def UpdatesChecked (p : Platform) (e : Event Request Server) : Prop :=
  ∀ params, Addressed p e.input .postUpdateUser params →
    (∃ user ∈ e.before.users.rows, user.id = param params "userId") →
    (p.validate updateSchema e.input.body).error = none

/-- The counting columns of a row are as they were at the start, or empty in a new row. -/
def CountsKept (start : Server) (user : User) : Prop :=
  (∀ old ∈ start.users.rows, old.id = user.id →
    ∀ col ∈ countColumns, user.get col = old.get col) ∧
  ((∀ old ∈ start.users.rows, old.id ≠ user.id) → ∀ col ∈ countColumns, user.get col = .null)

theorem CountsKept.of_same {start : Server} {old user : User} (kept : CountsKept start old)
    (id : old.id = user.id) (counts : ∀ col ∈ countColumns, user.get col = old.get col) :
    CountsKept start user := by
  refine ⟨fun first member same col listed => ?_, fun new col listed => ?_⟩
  · rw [counts col listed]
    exact kept.1 first member (same.trans id.symm) col listed
  · rw [counts col listed]
    exact kept.2 (fun first member => id ▸ new first member) col listed

/-- What holds of the table along a run. The rows of the start are never removed, so a new row
has an identifier of its own. -/
structure UsersSound (p : Platform) (start s : Server) : Prop where
  rows : ∀ user ∈ s.users.rows, ValidUser p user ∧ CountsKept start user
  kept : ∀ first ∈ start.users.rows, ∃ user ∈ s.users.rows, user.id = first.id

/-- A request whose update is checked keeps all rows sound. -/
theorem UsersSound.served {start s : Server} {req : Request} (sound : UsersSound p start s)
    (checked : UpdatesChecked p ⟨req, s⟩) :
    ∀ user ∈ (served p secrets req s).server.users.rows, ValidUser p user ∧ CountsKept start user := by
  rcases served_users p secrets req s with same | registers |
    ⟨params, changed, addressed, updates, saved⟩
  · rw [same]
    exact sound.rows
  · obtain ⟨added, rows, fresh, valid, counts⟩ := registers.row
    rw [rows]
    intro user member
    rcases List.mem_append.mp member with before | new
    · exact sound.rows user before
    · cases List.mem_singleton.mp new
      refine ⟨valid, fun first inStart same => ?_, fun _ => counts⟩
      obtain ⟨user, present, id⟩ := sound.kept first inStart
      exact absurd (List.mem_map.mpr ⟨user, present, id.trans same⟩) fresh
  · have accepted : (p.validate updateSchema req.body).error = none := by
      obtain ⟨_, _, target, present, id, _⟩ := updates
      exact checked params addressed ⟨target, present, id⟩
    obtain ⟨before, stored, same, keeps, counts⟩ := updates.row accepted
    have known := sound.rows before stored
    rw [saved]
    intro user member
    obtain ⟨row, inTable, rfl⟩ := List.mem_map.mp member
    split
    · exact ⟨keeps known.1, known.2.of_same same counts⟩
    · exact sound.rows row inTable

theorem Runs.usersSound {start s : Server} {log : Log}
    (valid : ∀ user ∈ start.users.rows, ValidUser p user) (reach : Runs p secrets start log s)
    (checked : Always (fun _ e => UpdatesChecked p e) log) : UsersSound p start s := by
  refine reach.invariant_state ?_ ?_ checked
  · refine ⟨fun user member => ⟨valid user member, fun old present same => ?_, fun new => ?_⟩,
      fun first member => ⟨first, member, rfl⟩⟩
    · rw [Table.eq_of_id present member same]
      exact fun _ _ => rfl
    · exact absurd rfl (new user member)
  · intro _ s req checked sound
    refine ⟨sound.served checked, fun first member => ?_⟩
    obtain ⟨user, present, id⟩ := sound.kept first member
    obtain ⟨user', present', id'⟩ := served_keeps_user p secrets req s present
    exact ⟨user', present', id'.trans id⟩

/-- As long as every update is given a body that passes the check, all rows stay valid and the
counting columns are never written. -/
theorem checked_updates_keep_users_valid {start s : Server} {log : Log}
    (valid : ∀ user ∈ start.users.rows, ValidUser p user) (reach : Runs p secrets start log s)
    (checked : Always (fun _ e => UpdatesChecked p e) log) :
    ∀ user ∈ s.users.rows, ValidUser p user ∧ CountsKept start user :=
  (Runs.usersSound valid reach checked).rows

section Samples

open Reference

/-- The member's update of her own row, with the given body. -/
def updateWith (body : Value) : Request :=
  { visit "s1" "POST" ("/update-user/" ++ adaId) "member" with body := body }

theorem start_valid : ∀ user ∈ start.users.rows, ValidUser platform user := by
  intro user member
  cases List.mem_singleton.mp member
  exact ⟨⟨_, rfl, by decide⟩, ⟨_, rfl, by decide⟩, ⟨_, rfl, by decide⟩, ⟨_, rfl, by decide⟩,
    ⟨"2024-01-07T00:00:00.000Z", by decide +kernel⟩⟩

theorem login_updatesChecked : UpdatesChecked platform ⟨loginWith "", start⟩ := by
  intro params addressed
  have missed : (dispatch (loginWith "").method (platform.pathname (loginWith "").url)
      Router.member.routes).target = none := by decide +kernel
  rw [show dispatch _ _ Router.member.routes = _ from addressed] at missed
  cases missed

theorem updateUser_leads :
    Leads "POST" ("/update-user/" ++ adaId) .postUpdateUser [("userId", adaId)] := by decide +kernel

theorem updateWith_ran (body : Value) :
    (served platform keys (updateWith body) (loggedIn "")).ran = some .postUpdateUser :=
  ran_visit_loggedIn (by decide) updateUser_leads (by decide) (by decide)

theorem updateWith_params {body : Value} {params : List (String × String)}
    (addressed : Addressed platform (updateWith body) .postUpdateUser params) :
    params = [("userId", adaId)] := by
  have path : platform.pathname (updateWith body).url = "/update-user/" ++ adaId :=
    pathname_visit "s1" "POST" updateUser_leads.1
  rw [Addressed, path] at addressed
  exact (Dispatch.found.inj (addressed.symm.trans updateUser_leads.2.1)).2

/-- The update that runs saves the row with the values of its body. -/
theorem updateWith_saved (body : Value) (s : Server) {old user : User}
    (present : old ∈ s.users.rows) (id : old.id = adaId)
    (written : old.update platform.toOrm (entries (platform.validate updateSchema body).value) =
      some user)
    (ran : (served platform keys (updateWith body) s).ran = some .postUpdateUser) :
    (served platform keys (updateWith body) s).server.users = s.users.save user := by
  obtain ⟨params, handled⟩ := handled_of_ran ran
  cases updateWith_params handled.routed
  have updates : Updates platform (updateWith body) [("userId", adaId)] s.users.rows user :=
    ⟨rfl, rfl, old, present, id, written⟩
  rcases handled.done with ⟨user', ⟨_, _, old', present', id', written'⟩, left⟩ | ⟨_, none⟩
  · have same : old' = old := Table.eq_of_id present' present (id'.trans id.symm)
    subst same
    have same' : user' = user := Option.some.inj (written'.symm.trans written)
    subst same'
    exact congrArg Server.users (Ctx.server_of_core left)
  · exact absurd updates (none user)

/-- A body that sets the name alone is written, whatever the name and the user. -/
theorem update_name (user : User) (name : String) :
    ∃ user', user.update platform.toOrm [("NAME", .str name)] = some user' ∧
      user'.get .NAME = .str name := by
  have ok : ∀ col ∈ (Model.columns : List UserColumn),
      ∃ v ∈ assigned platform.toOrm [("NAME", .str name)] user.get col,
        (Model.declared col).Holds v := by
    intro col _
    cases col with
    | NAME => exact ⟨.str name, rfl, by simp [Attribute.Holds, Model.declared, DataType.reads]⟩
    | _ => exact ⟨_, rfl, user.holds _⟩
  exact ⟨_, dif_pos ok, rfl⟩

/-- The update with an empty name, which the check refuses. -/
def emptying : Request := updateWith (.obj [("NAME", .str "")])

theorem emptying_value : entries (platform.validate updateSchema emptying.body).value =
    [("NAME", .str "")] := by decide +kernel

theorem emptying_written {s : Server} {old : User} (present : old ∈ s.users.rows)
    (id : old.id = adaId) (ran : (served platform keys emptying s).ran = some .postUpdateUser) :
    ∃ user ∈ (served platform keys emptying s).server.users.rows, user.get .NAME = .str "" := by
  obtain ⟨user, written, empty⟩ := update_name old ""
  rw [← emptying_value] at written
  have saved : (served platform keys emptying s).server.users = s.users.save user :=
    updateWith_saved _ s present id written ran
  rw [saved]
  have kept : old.id = user.id := (write_id platform.toOrm written).symm
  exact ⟨user, List.mem_map.mpr ⟨old, present, if_pos kept⟩, empty⟩

/-- The answer to the update is an error, and the member has no name any more. -/
theorem refused_update_empties_name :
    (∀ user ∈ (loggedIn "").users.rows, ValidUser platform user) ∧
    Runs platform keys start [⟨emptying, loggedIn ""⟩, ⟨loginWith "", start⟩]
      (serve platform keys emptying (loggedIn "")) ∧
    ¬ ∀ user ∈ (serve platform keys emptying (loggedIn "")).users.rows, ValidUser platform user := by
  have sound := Runs.usersSound start_valid (login_run "") ⟨login_updatesChecked, trivial⟩
  refine ⟨fun user member => (sound.rows user member).1, .next _ (login_run ""), fun valid => ?_⟩
  obtain ⟨old, present, id⟩ := served_keeps_user platform keys (loginWith "") start ada_mem
  rw [← serve_users] at present
  obtain ⟨user, member, empty⟩ := emptying_written (s := loggedIn "") present id (updateWith_ran _)
  rw [← serve_users] at member
  obtain ⟨name, text, filled⟩ := (valid user member).name
  rw [empty] at text
  exact filled (Value.str.inj text).symm

/-- A body that passes the check keeps the table valid. -/
theorem accepted_update_keeps_table_valid :
    (served platform keys (updateWith (.obj [("DATE", .str "2024-02-04"),
      ("NAME", .str "Ada Eze"), ("CAT", .str "FT"), ("PHONENUMBER", .str "08031234567")]))
      (loggedIn "")).ran = some .postUpdateUser ∧
    ∀ user ∈ (serve platform keys (updateWith (.obj [("DATE", .str "2024-02-04"),
      ("NAME", .str "Ada Eze"), ("CAT", .str "FT"), ("PHONENUMBER", .str "08031234567")]))
      (loggedIn "")).users.rows, ValidUser platform user ∧ CountsKept start user :=
  ⟨updateWith_ran _, checked_updates_keep_users_valid start_valid (.next _ (login_run ""))
    ⟨fun _ _ _ => by decide +kernel, login_updatesChecked, trivial⟩⟩

end Samples

end

end ChurchManagement
