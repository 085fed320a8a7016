import ChurchManagement.RegistrationToken

namespace ChurchManagement

open Js Effect Sequelize

section Tables

variable {p : Platform} {secrets : Secrets}

/-- The tables that registrations build from an empty one. -/
inductive RegisteredUsers (p : Platform) (secrets : Secrets) : Table UserColumn → Prop
  | empty : RegisteredUsers p secrets ⟨[], List.nodup_nil⟩
  | register (req : Request) (c : Ctx) (built : RegisteredUsers p secrets c.server.users) :
      RegisteredUsers p secrets (exec (postRegister p secrets req) c).2.server.users

/-- A row with a name and two contacts. -/
structure Contactable (user : User) : Prop where
  name : ∃ s, user.get .NAME = .str s
  phone : ∃ s, user.get .PHONENUMBER = .str s ∧ s ≠ ""
  email : ∃ s, user.get .EMAIL = .str s ∧ s ≠ ""

/-- A required text of a registration is in the column of its key. -/
theorem registered_text {value : Value} {user : User} {id : String}
    (rule : Joi.Rule) (col : UserColumn)
    (made : create p.toOrm id (registeredKeys.map fun key => (key, value.propD key)) = some user)
    (given : Value.field (Model.declared col).name
      (registeredKeys.map fun key => (key, value.propD key)) = value.propD (Model.declared col).name)
    (passes : rule.Accepts (value.propD (Model.declared col).name))
    (kind : rule.kind = .string) (required : rule.required = true)
    (filled : rule.allowEmpty = false) (type : (Model.declared col).type = .string) :
    ∃ s, user.get col = .str s ∧ s ≠ "" := by
  rcases write_text col made (given.symm ▸ passes) kind type with ⟨optional, _⟩ | ⟨s, text, empty, _⟩
  · rw [required] at optional
    cases optional
  · refine ⟨s, text, fun none => ?_⟩
    rw [filled] at empty
    cases empty none

theorem Vacant.contactable {req : Request} {users : List User} {value : Value} {user : User}
    {id : String} (vacant : Vacant p secrets req users value)
    (made : create p.toOrm id (registeredKeys.map fun key => (key, value.propD key)) = some user) :
    Contactable user := by
  obtain ⟨accepted, token, _⟩ := vacant
  obtain ⟨fields, rfl, _, passes⟩ := accepts_of_token accepted token
  have name := registered_text { required := true } .NAME made rfl
    (passes ("NAME", _) (by simp [registerSchema])) rfl rfl rfl rfl
  obtain ⟨s, isName, _⟩ := name
  exact ⟨⟨s, isName⟩, registered_text { required := true } .PHONENUMBER made rfl
      (passes ("PHONENUMBER", _) (by simp [registerSchema])) rfl rfl rfl rfl,
    registered_text { email := true, required := true } .EMAIL made rfl
      (passes ("EMAIL", _) (by simp [registerSchema])) rfl rfl rfl rfl⟩

/-- Registered users have two contacts, and no two share a name or a phone number. -/
structure WellRegistered (users : List User) : Prop where
  contactable : ∀ user ∈ users, Contactable user
  unique : Unique users

theorem WellRegistered.register {req : Request} {users users' : Table UserColumn}
    (well : WellRegistered users.rows) (registrable : Registrable p secrets req users users') :
    WellRegistered users'.rows := by
  obtain ⟨value, ⟨_, vacant⟩, _, user, made, inserted⟩ := registrable
  rw [Table.insert_rows inserted]
  refine ⟨fun row member => ?_, well.unique.insert (vacant.unlike made)⟩
  rcases List.mem_append.mp member with old | new
  · exact well.contactable row old
  · rw [List.mem_singleton.mp new]
    exact vacant.contactable made

/-- What one registration preserves holds of every table that registrations build. -/
theorem RegisteredUsers.well {users : Table UserColumn} (built : RegisteredUsers p secrets users) :
    WellRegistered users.rows := by
  induction built with
  | empty => exact ⟨by simp, by simp [Unique]⟩
  | register req c _ ih =>
    have outcome : Ensures (postRegister p secrets req) c
        (fun _ t => WellRegistered t.server.users.rows) (fun _ t => WellRegistered t.server.users.rows) := by
      refine (postRegister_outcome p secrets req c).mono ?_ (fun _ _ never => never.elim)
      rintro _ t (⟨users, registrable, isTable, _⟩ | ⟨_, same⟩)
      · rw [isTable]
        exact ih.register registrable
      · rw [same]
        exact ih
    exact outcome.final

end Tables

section Login

/-- The same packages over a database that returns the rows of the choice. -/
def Platform.choosing (p : Platform) (choice : Choice) : Platform :=
  { p with toOrm := p.toOrm.choosing choice }

/-- The condition of the login's query. -/
def reachedBy (contact : String) (row : User) : Bool :=
  decide (row.get .PHONENUMBER = .str contact) || decide (row.get .EMAIL = .str contact)

theorem reachedBy_iff {contact : String} {row : User} : reachedBy contact row = true ↔
    row.get .PHONENUMBER = .str contact ∨ row.get .EMAIL = .str contact := by
  rw [reachedBy, Bool.or_eq_true, decide_eq_true_eq, decide_eq_true_eq]

/-- A login without a token. -/
def loginBody (firstName contact : String) : Value :=
  .obj [("firstName", .str firstName), ("phoneNumber", .str contact), ("authToken", .str "")]

/-- The check accepts texts that are not empty and hands them on. -/
def AcceptsLogins (p : Platform) : Prop :=
  ∀ firstName contact, firstName ≠ "" → contact ≠ "" →
    p.validate loginSchema (loginBody firstName contact) = ⟨none, loginBody firstName contact⟩

/-- Every database call of a login of the user succeeds. -/
structure LoginStored (p : Platform) (req : Request) (s : Server) (user : User) : Prop where
  answered : ∀ table op, req.fault table op = none
  recorded : (∀ row ∈ s.activities.rows, row.get .USERID ≠ .str user.id) →
    ∃ record activities, create p.toOrm (req.rowId 0)
      (("USERID", .str user.id) :: agentRecord p req "member") = some record ∧
      s.activities.insert record = some activities

/-- The login has succeeded as a member, for the user's own identifier. -/
structure MemberLogin (p : Platform) (req : Request) (user : User) (c t : Ctx) : Prop where
  userId : t.session.userId = .str user.id
  role : t.session.role = .str "member"
  allowed : user.id ∈ t.server.allowedID
  answer : t.responses = c.responses ++ [loginResponse p req user "member"]

variable {p : Platform} {secrets : Secrets} {req : Request} {c : Ctx} {user : User}

/-- The record of the agent can be kept, whichever row is taken for it. -/
theorem LoginStored.agentRecorded (stored : LoginStored p req c.server user) (choice : Choice) :
    ∃ activities, AgentRecorded (p.choosing choice) req user.id "member"
      (agentRow (p.choosing choice) c.server.activities.rows user.id) c.server.activities
      activities := by
  cases found : agentRow (p.choosing choice) c.server.activities.rows user.id with
  | some record => exact ⟨_, stored.answered _ _, rfl⟩
  | none =>
    have missing := findOne_none (p.choosing choice).toOrm found
    obtain ⟨record, activities, made, inserted⟩ := stored.recorded fun row member =>
      of_decide_eq_false (missing row member)
    exact ⟨activities, stored.answered _ _, record, made, inserted⟩

variable {firstName contact : String}

/-- Whoever a login is answered for, it was found by the contact. -/
theorem MemberLogin.found (accepts : AcceptsLogins p) (someName : firstName ≠ "")
    (someContact : contact ≠ "") (isBody : req.body = loginBody firstName contact)
    (login : MemberLogin p req user c (exec (postLogin p secrets req) c).2) :
    ∃ found, findOne p.toOrm (reachedBy contact) c.server.users.rows = some found ∧
      found.id = user.id := by
  obtain ⟨_, _, ends⟩ := (postLogin_ends p secrets req c).returns
  have answer := login.answer
  rcases ends with ⟨msg, _, left⟩ | ⟨other, msg, _, _, _, left⟩ |
    ⟨other, role, activities, matched, _, _, _, _, same, _⟩
  · rw [left] at answer
    simp [Ctx.loginShown, Ctx.answered, Ctx.flashed, loginResponse] at answer
  · rw [left] at answer
    simp [Ctx.loginShown, Ctx.answered, Ctx.flashed, loginResponse] at answer
  · have read : (p.validate loginSchema req.body).value.prop "phoneNumber" =
        .ok (.str contact) := by
      rw [isBody, accepts firstName contact someName someContact]
      rfl
    have userId := Session.userId_of_core (Ctx.session_of_core same)
    exact ⟨other, (matched.words read).1, Value.str.inj (userId.symm.trans login.userId)⟩

/-- A login whose contact finds the user, and nobody else, succeeds. -/
theorem memberLogin_of_alone {name word : String} (accepts : AcceptsLogins p)
    (someName : firstName ≠ "") (someContact : contact ≠ "")
    (isBody : req.body = loginBody firstName contact) (named : user.get .NAME = .str name)
    (isWord : word ∈ splitWords name) (spelled : p.toLowerCase firstName = p.toLowerCase word)
    (found : findOne p.toOrm (reachedBy contact) c.server.users.rows = some user)
    (works : ∀ table op, req.fault table op = none)
    (recorded : ∃ activities, AgentRecorded p req user.id "member"
      (agentRow p c.server.activities.rows user.id) c.server.activities activities) :
    MemberLogin p req user c (exec (postLogin p secrets req) c).2 := by
  have checked : p.validate loginSchema req.body = ⟨none, loginBody firstName contact⟩ := by
    rw [isBody, accepts firstName contact someName someContact]
  have matched : Matches p req c.server.users.rows user :=
    ⟨_, contact, firstName, name, checked, rfl, found, named, rfl, by
      rw [spelled]
      exact List.mem_map_of_mem isWord⟩
  have stands : tokenRole secrets (loginToken p req) = some "member" := by
    rw [loginToken, checked]
    rfl
  have completes : Completes p secrets req c.server user := by
    obtain ⟨activities, recorded⟩ := recorded
    exact ⟨works _ _, "member", activities, stands, recorded⟩
  obtain ⟨_, _, ends⟩ := (postLogin_ends p secrets req c).returns
  rcases ends with ⟨msg, unmatched, _⟩ | ⟨other, msg, _, matched', fails, _⟩ |
    ⟨other, role, activities, matched', stands', _, _, _, same, answer⟩
  · exact absurd matched (unmatched (works _ _) user)
  · cases matched.unique matched'
    exact absurd completes fails
  · cases matched.unique matched'
    cases Option.some.inj (stands.symm.trans stands')
    have session := Ctx.session_of_core same
    refine ⟨Session.userId_of_core session, (congrArg Session.role session :), ?_, answer⟩
    rw [congrArg Server.allowedID (Ctx.server_of_core same)]
    exact List.mem_append_right _ (List.mem_singleton.mpr rfl)

/-- No other member can be found by the contact. Phone numbers are kept apart by the registration,
so a contact that is one can only be another's email; one that is an email can be either. -/
def ContactUnshared (users : List User) (user : User) (contact : String) : Prop :=
  ∀ other ∈ users, other.id ≠ user.id → other.get .EMAIL ≠ .str contact ∧
    (user.get .EMAIL = .str contact → other.get .PHONENUMBER ≠ .str contact)

/-- In a table without shared phone numbers, the rows found by an unshared contact of the user are
the user's. -/
theorem ContactUnshared.others {users : Table UserColumn} (well : WellRegistered users.rows)
    (member : user ∈ users.rows)
    (own : user.get .PHONENUMBER = .str contact ∨ user.get .EMAIL = .str contact)
    (unshared : ContactUnshared users.rows user contact) :
    ∀ other ∈ users.rows, other.id ≠ user.id → reachedBy contact other = false := by
  intro other inRows apart
  obtain ⟨email, phone⟩ := unshared other inRows apart
  have number : other.get .PHONENUMBER ≠ .str contact := by
    rcases own with byPhone | byEmail
    · intro same
      have equal := List.inj_on_of_nodup_map well.unique.2 inRows member (same.trans byPhone.symm)
      exact apart (congrArg Row.id equal)
    · exact phone byEmail
  rw [Bool.eq_false_iff, ne_eq, reachedBy_iff]
  exact not_or.mpr ⟨number, email⟩

/-- A registered member can log in with every word of the name and with the phone number or the
email, whichever of the rows with that contact the query returns, exactly when no other member has
the contact: the name is compared with the row returned, after the choice. -/
theorem registered_member_login_iff {name word : String} (accepts : AcceptsLogins p)
    (built : RegisteredUsers p secrets c.server.users) (member : user ∈ c.server.users.rows)
    (named : user.get .NAME = .str name) (isWord : word ∈ splitWords name)
    (spelled : p.toLowerCase firstName = p.toLowerCase word) (someName : firstName ≠ "")
    (own : user.get .PHONENUMBER = .str contact ∨ user.get .EMAIL = .str contact)
    (isBody : req.body = loginBody firstName contact) (stored : LoginStored p req c.server user) :
    (∀ choice, MemberLogin (p.choosing choice) req user c
        (exec (postLogin (p.choosing choice) secrets req) c).2) ↔
      ContactUnshared c.server.users.rows user contact := by
  have well := built.well
  have someContact : contact ≠ "" := by
    obtain ⟨phone, isPhone, filled⟩ := (well.contactable user member).phone
    obtain ⟨email, isEmail, filled'⟩ := (well.contactable user member).email
    rcases own with byPhone | byEmail
    · cases isPhone.symm.trans byPhone
      exact filled
    · cases isEmail.symm.trans byEmail
      exact filled'
  constructor
  · intro logins other inRows apart
    by_contra shared
    have selects : reachedBy contact other = true := by
      rw [reachedBy_iff]
      by_contra neither
      obtain ⟨number, email⟩ := not_or.mp neither
      exact shared ⟨email, fun _ => number⟩
    -- the query may return the other row
    obtain ⟨choice, picks⟩ := Choice.exists_pick (List.mem_filter.mpr ⟨inRows, selects⟩)
    have accepts' : AcceptsLogins (p.choosing choice) := accepts
    obtain ⟨found, isFound, same⟩ := (logins choice).found accepts' someName someContact isBody
    cases Option.some.inj (picks.symm.trans isFound)
    exact apart same
  · intro unshared choice
    have only := Table.filter_only member (reachedBy_iff.mpr own)
      (unshared.others well member own)
    have accepts' : AcceptsLogins (p.choosing choice) := accepts
    refine memberLogin_of_alone accepts' someName someContact isBody named isWord spelled ?_
      stored.answered (stored.agentRecorded choice)
    exact (congrArg choice.pick only).trans (choice.pick_singleton user)

end Login

namespace Reference

theorem platform_acceptsLogins : AcceptsLogins platform := by
  intro firstName contact someName someContact
  have converted : [("firstName", Value.str firstName), ("phoneNumber", .str contact),
      ("authToken", .str "")].map (convert loginSchema) = [("firstName", .str firstName),
      ("phoneNumber", .str contact), ("authToken", .str "")] := rfl
  have silent : complaints loginSchema [("firstName", .str firstName),
      ("phoneNumber", .str contact), ("authToken", .str "")] = [] := by
    simp [complaints, complaint, loginSchema, Value.field, someName, someContact]
  change validate loginSchema (.obj _) = _
  rw [validate, converted, silent]
  rfl

/-- A registration with an address that the family shares. -/
def joiningFamily (row name phone : String) : Request :=
  { request "s1" "POST" "/register" with
    body := .obj [("DATE", .str "2024-02-11"), ("NAME", .str name), ("SEX", .str "F"),
      ("CAT", .str "NC"), ("PHONENUMBER", .str phone), ("EMAIL", .str "obi@example.org"),
      ("authToken", .str "join-key")]
    rowId := fun _ => row }

/-- A new session at a server with the users. -/
def arrival (users : Table UserColumn) : Ctx :=
  { server := { start with users := users }, session := {} }

def firstMember : Table UserColumn :=
  (exec (postRegister platform keys (joiningFamily "row-1" "Ada Obi" "08031234567"))
    (arrival ⟨[], List.nodup_nil⟩)).2.server.users

def family : Table UserColumn :=
  (exec (postRegister platform keys (joiningFamily "row-2" "Ben Obi" "08059876543"))
    (arrival firstMember)).2.server.users

theorem firstMember_registered : RegisteredUsers platform keys firstMember :=
  .register _ (arrival ⟨[], List.nodup_nil⟩) .empty

theorem family_registered : RegisteredUsers platform keys family :=
  .register _ (arrival firstMember) firstMember_registered

/-- A login without a token. -/
def loggingIn (firstName contact : String) : Request :=
  { request "s1" "POST" "/login" with body := loginBody firstName contact }

/-- Both members have been registered with one address; the query returns the first of them, and
the second is told that the first name is wrong. -/
theorem shared_email_refuses_member : RegisteredUsers platform keys family ∧
    ∃ user ∈ family.rows, user.get .NAME = .str "Ben Obi" ∧
      user.get .EMAIL = .str "obi@example.org" ∧
      ¬ MemberLogin platform (loggingIn "Ben" "obi@example.org") user (arrival family)
        (exec (postLogin platform keys (loggingIn "Ben" "obi@example.org")) (arrival family)).2 := by
  have rows : family.rows.map (fun row => (row.get .NAME, row.get .EMAIL)) =
      [(.str "Ada Obi", .str "obi@example.org"), (.str "Ben Obi", .str "obi@example.org")] := by
    decide +kernel
  have member : (Value.str "Ben Obi", Value.str "obi@example.org") ∈
      family.rows.map (fun row => (row.get .NAME, row.get .EMAIL)) := by
    rw [rows]
    simp
  obtain ⟨user, inRows, isUser⟩ := List.mem_map.mp member
  obtain ⟨isName, isEmail⟩ := Prod.mk.inj isUser
  refine ⟨family_registered, user, inRows, isName, isEmail, fun login => ?_⟩
  have shown : (exec (postLogin platform keys (loggingIn "Ben" "obi@example.org"))
      (arrival family)).2.responses =
      [.render 200 "login" [("error_msg", .str "Incorrect first name.")]] := by decide +kernel
  have answer := login.answer
  rw [shown] at answer
  simp [arrival, loginResponse] at answer

/-- The first member logs in with the phone number, which the family does not share. -/
theorem first_member_logs_in : ∃ user ∈ family.rows, user.get .NAME = .str "Ada Obi" ∧
    ∀ choice, MemberLogin (platform.choosing choice) (loggingIn "ada" "08031234567") user
      (arrival family) (exec (postLogin (platform.choosing choice) keys
        (loggingIn "ada" "08031234567")) (arrival family)).2 := by
  have rows : family.rows.map (fun row =>
      (row.id, row.get .NAME, row.get .EMAIL, row.get .PHONENUMBER)) =
      [("row-1", .str "Ada Obi", .str "obi@example.org", .str "08031234567"),
        ("row-2", .str "Ben Obi", .str "obi@example.org", .str "08059876543")] := by decide +kernel
  obtain ⟨user, rest, isRows, isUser, isRest⟩ := List.map_eq_cons_iff.mp rows
  obtain ⟨other, isOther, isBen⟩ := List.map_eq_singleton_iff.mp isRest
  obtain ⟨isId, isName, isEmail, isPhone⟩ : user.id = "row-1" ∧ user.get .NAME = .str "Ada Obi" ∧
      user.get .EMAIL = .str "obi@example.org" ∧ user.get .PHONENUMBER = .str "08031234567" := by
    simpa using isUser
  have member : user ∈ family.rows := by simp [isRows]
  have stored : LoginStored platform (loggingIn "ada" "08031234567") (arrival family).server
      user := by
    refine ⟨fun _ _ => rfl, fun _ => ?_⟩
    have made : (create platform.toOrm ((loggingIn "ada" "08031234567").rowId 0)
        (("USERID", .str "row-1") :: agentRecord platform (loggingIn "ada" "08031234567")
          "member") : Option Activity).isSome = true := by
      decide +kernel
    obtain ⟨record, isRecord⟩ := Option.isSome_iff_exists.mp made
    rw [isId]
    exact ⟨record, _, isRecord, rfl⟩
  have unshared : ContactUnshared (arrival family).server.users.rows user "08031234567" := by
    intro row inRows apart
    have either : row = user ∨ row = other := by
      simpa [show (arrival family).server.users = family from rfl, isRows, isOther] using inRows
    rcases either with rfl | rfl
    · exact absurd rfl apart
    · have isBen' : row.get .EMAIL = .str "obi@example.org" := by
        simp only [Prod.mk.injEq] at isBen
        exact isBen.2.2.1
      rw [isBen', isEmail]
      exact ⟨by decide, fun same => absurd same (by decide)⟩
  exact ⟨user, member, isName, (registered_member_login_iff (c := arrival family)
    platform_acceptsLogins family_registered member isName
    (show "Ada" ∈ splitWords "Ada Obi" by decide +kernel) (by decide +kernel) (by decide)
    (.inl isPhone) rfl stored).mpr unshared⟩

end Reference

end ChurchManagement
