import ChurchManagement.UserTable

namespace ChurchManagement

open Js Effect Express Sequelize History

section Tables

/-- No two users share a name, and no two share a phone number. -/
def Unique (users : List User) : Prop :=
  (users.map fun row => row.get .NAME).Nodup ∧ (users.map fun row => row.get .PHONENUMBER).Nodup

instance (users : List User) : Decidable (Unique users) := inferInstanceAs (Decidable (_ ∧ _))

/-- The two users share neither their name nor their phone number. -/
def Unlike (a b : User) : Prop :=
  a.get .NAME ≠ b.get .NAME ∧ a.get .PHONENUMBER ≠ b.get .PHONENUMBER

theorem unique_iff {users : List User} : Unique users ↔ users.Pairwise Unlike := by
  simp only [Unique, List.Nodup, List.pairwise_map, ← List.pairwise_and_iff]
  rfl

theorem Unique.insert {users : List User} {user : User} (unique : Unique users)
    (free : ∀ row ∈ users, Unlike row user) : Unique (users ++ [user]) := by
  rw [unique_iff, List.pairwise_append]
  refine ⟨unique_iff.mp unique, List.pairwise_singleton _ _, fun row member other single => ?_⟩
  rw [List.mem_singleton.mp single]
  exact free row member

theorem Unlike.symm {a b : User} (unlike : Unlike a b) : Unlike b a :=
  ⟨unlike.1.symm, unlike.2.symm⟩

/-- A row may be replaced by one that is unlike all others. -/
theorem Unique.save {table : Table UserColumn} {user : User} (unique : Unique table.rows)
    (free : ∀ row ∈ table.rows, row.id ≠ user.id → Unlike row user) :
    Unique (table.save user).rows := by
  have ids : table.rows.Pairwise fun a b => a.id ≠ b.id := List.pairwise_map.mp table.distinct
  rw [unique_iff] at unique ⊢
  change (table.rows.map _).Pairwise _
  rw [List.pairwise_map]
  refine (unique.and ids).imp_of_mem fun {a b} inA inB both => ?_
  obtain ⟨unlike, apart⟩ := both
  by_cases isA : a.id = user.id
  · have notB : b.id ≠ user.id := fun isB => apart (isA.trans isB.symm)
    rw [if_pos isA, if_neg notB]
    exact (free b inB notB).symm
  · rw [if_neg isA]
    split
    · exact free a inA isA
    · exact unlike

end Tables

section Writes

variable {p : Platform} {secrets : Secrets} {req : Request}

/-- The name and the phone number of a registration are texts that no row has. -/
theorem Vacant.texts {users : List User} {value : Value} (vacant : Vacant p secrets req users value) :
    ∃ name phone, value.propD "NAME" = .str name ∧ value.propD "PHONENUMBER" = .str phone ∧
      ∀ row ∈ users, row.get .NAME ≠ .str name ∧ row.get .PHONENUMBER ≠ .str phone := by
  obtain ⟨accepted, token, free⟩ := vacant
  obtain ⟨fields, rfl, keys, passes⟩ := accepts_of_token accepted token
  obtain ⟨name, isName, _⟩ := Joi.Rule.accepts_string
    (passes ("NAME", { required := true }) (by simp [registerSchema])) rfl rfl
  obtain ⟨phone, isPhone, _⟩ := Joi.Rule.accepts_string
    (passes ("PHONENUMBER", { required := true }) (by simp [registerSchema])) rfl rfl
  refine ⟨name, phone, isName, isPhone, fun row member => ?_⟩
  have named : p.whereEq (Value.propD (.obj fields) "NAME") = some fun cell =>
    decide (cell = .str name) := (congrArg p.whereEq isName).trans (p.whereEq_text name)
  have phoned : p.whereEq (Value.propD (.obj fields) "PHONENUMBER") = some fun cell =>
    decide (cell = .str phone) := (congrArg p.whereEq isPhone).trans (p.whereEq_text phone)
  simpa using free _ _ named phoned row member

/-- The row of a registration has the name and the phone number of the body. -/
theorem registered_texts {value : Value} {user : User} {id name phone : String}
    (made : create p.toOrm id (registeredKeys.map fun key => (key, value.propD key)) = some user)
    (isName : value.propD "NAME" = .str name) (isPhone : value.propD "PHONENUMBER" = .str phone) :
    user.get .NAME = .str name ∧ user.get .PHONENUMBER = .str phone := by
  have named := write_get p.toOrm made .NAME
  have phoned := write_get p.toOrm made .PHONENUMBER
  have given : Value.field "NAME" (registeredKeys.map fun key => (key, value.propD key)) =
    .str name := isName
  have given' : Value.field "PHONENUMBER" (registeredKeys.map fun key => (key, value.propD key)) =
    .str phone := isPhone
  simp only [assigned, Model.declared, given, given', p.store_string] at named phoned
  exact ⟨(Option.some.inj named).symm, (Option.some.inj phoned).symm⟩

/-- A row that is added for a vacant name and phone number is unlike all others. -/
theorem Vacant.unlike {users : List User} {value : Value} {user : User} {id : String}
    (vacant : Vacant p secrets req users value)
    (made : create p.toOrm id (registeredKeys.map fun key => (key, value.propD key)) = some user) :
    ∀ row ∈ users, Unlike row user := by
  obtain ⟨name, phone, isName, isPhone, free⟩ := vacant.texts
  obtain ⟨named, phoned⟩ := registered_texts made isName isPhone
  intro row member
  rw [Unlike, named, phoned]
  exact free row member

end Writes

section Requests

variable {p : Platform} {secrets : Secrets}

/-- An update of an existing user, with values that its columns accept, gives it no name and no
phone number that another row has. -/
def UpdateSpares (p : Platform) (e : Event Request Server) : Prop :=
  ∀ params, Addressed p e.input .postUpdateUser params →
    e.input.fault .User .findByPk = none → e.input.fault .User .update = none →
    ∀ user ∈ e.before.users.rows, user.id = param params "userId" →
      let values := entries (p.validate updateSchema e.input.body).value
      (user.update p.toOrm values).isSome = true →
      ∀ other ∈ e.before.users.rows, other.id ≠ user.id →
        assigned p.toOrm values user.get .NAME ≠ some (other.get .NAME) ∧
        assigned p.toOrm values user.get .PHONENUMBER ≠ some (other.get .PHONENUMBER)

theorem UpdateSpares.served {req : Request} {s : Server} (spares : UpdateSpares p ⟨req, s⟩)
    (unique : Unique s.users.rows) : Unique (served p secrets req s).server.users.rows := by
  rcases served_users p secrets req s with same | ⟨value, user, accepted, token, free, made,
    inserted⟩ | ⟨params, user, addressed, ⟨read, works, old, member, id, written⟩, saved⟩
  · rwa [same]
  · rw [Table.insert_rows inserted]
    have vacant : Vacant p secrets req s.users.rows value := ⟨accepted, token, free⟩
    exact unique.insert (vacant.unlike made)
  · rw [saved]
    have kept : user.id = old.id := write_id p.toOrm written
    refine unique.save fun row present other => ?_
    rw [kept] at other
    obtain ⟨named, phoned⟩ := spares params addressed read works old member id
      (Option.isSome_iff_exists.mpr ⟨user, written⟩) row present other
    rw [write_get p.toOrm written .NAME] at named
    rw [write_get p.toOrm written .PHONENUMBER] at phoned
    exact ⟨fun same => named (congrArg some same.symm), fun same => phoned (congrArg some same.symm)⟩

/-- Registrations keep names and phone numbers apart, and so do updates that take none from
another row. -/
theorem users_stay_unique {start s : Server} {log : Log} (unique : Unique start.users.rows)
    (reach : Runs p secrets start log s)
    (spares : Always (fun _ e => UpdateSpares p e) log) : Unique s.users.rows := by
  induction reach with
  | start => exact unique
  | next req previous ih => exact spares.1.served (ih spares.2)

section Samples

open Reference

def benId : String := "b2d1f5a8-93c4-4e07-8a6b-5f0e1d2c3b4a"

/-- Another member. -/
def ben : User where
  id := benId
  get
    | .DATE => .str "2024-01-14"
    | .NAME => .str "Ben Ade"
    | .SEX => .str "M"
    | .CAT => .str "FT"
    | .PHONENUMBER => .str "08059876543"
    | _ => .null
  holds col := by cases col <;> decide

/-- A server with the two members, the first of them logged in. -/
def startPair : Server :=
  { start with users := ⟨[ada, ben], by decide⟩, allowedID := [adaId] }

/-- A body that gives the name and the phone number. -/
def namedBody (name phone : String) : Value :=
  .obj [("DATE", .str "2024-02-04"), ("NAME", .str name), ("CAT", .str "FT"),
    ("PHONENUMBER", .str phone)]

theorem updateWith_ran_pair (body : Value) :
    (served platform keys (updateWith body) startPair).ran = some .postUpdateUser := by
  refine ran_visit updateUser_leads (by decide) (fun roles gate => ⟨?_, by simp [startPair]⟩)
    (.inl rfl)
  cases List.mem_singleton.mp gate
  decide

/-- The update accepts the name of another member. -/
theorem update_takes_name :
    Unique startPair.users.rows ∧
    Runs platform keys startPair [⟨updateWith (namedBody "Ben Ade" "08031234567"), startPair⟩]
      (serve platform keys (updateWith (namedBody "Ben Ade" "08031234567")) startPair) ∧
    ¬ Unique (serve platform keys (updateWith (namedBody "Ben Ade" "08031234567")) startPair).users.rows := by
  refine ⟨by decide, .next _ .start, fun unique => ?_⟩
  have writes : (ada.update platform.toOrm (entries
      (platform.validate updateSchema (namedBody "Ben Ade" "08031234567")).value)).map
      (fun user => user.get .NAME) = some (.str "Ben Ade") := by decide +kernel
  obtain ⟨user, written, named⟩ := Option.map_eq_some_iff.mp writes
  have present : ada ∈ startPair.users.rows := List.mem_cons_self
  have id : ada.id = adaId := rfl
  have ran := updateWith_ran_pair (namedBody "Ben Ade" "08031234567")
  have saved : (served platform keys (updateWith (namedBody "Ben Ade" "08031234567")) startPair).server.users =
      startPair.users.save user :=
    updateWith_saved (namedBody "Ben Ade" "08031234567") startPair present id written ran
  have kept : user.id = adaId := write_id platform.toOrm written
  have names := unique.1
  rw [serve_users, saved] at names
  simp [Table.save, startPair, kept, named, ada, ben, adaId, benId] at names

/-- A name and a phone number that nobody has may be taken. -/
theorem update_to_new_name :
    Unique (serve platform keys (updateWith (namedBody "Ada Eze" "08020000000")) startPair).users.rows := by
  have run : Runs platform keys startPair [⟨updateWith (namedBody "Ada Eze" "08020000000"), startPair⟩]
      (serve platform keys (updateWith (namedBody "Ada Eze" "08020000000")) startPair) := .next _ .start
  refine users_stay_unique (by decide) run ⟨?_, trivial⟩
  intro params _ _ _ user member _ values _ other present _
  have new : ∀ user ∈ [ada, ben], ∀ other ∈ [ada, ben],
      assigned platform.toOrm values user.get .NAME ≠ some (other.get .NAME) ∧
      assigned platform.toOrm values user.get .PHONENUMBER ≠ some (other.get .PHONENUMBER) := by
    decide +kernel
  exact new user member other present

end Samples

end Requests

end ChurchManagement
