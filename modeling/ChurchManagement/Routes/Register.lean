import ChurchManagement.Server

namespace ChurchManagement

open Js Effect Sequelize

def registerSchema : Joi.Schema :=
  [("DATE", { kind := .date, required := true }), ("NAME", { required := true }),
    ("SEX", { valid := some ["M", "F"], required := true }), ("ADDRESS", { allowEmpty := true }),
    ("FOLLOWUP", { allowEmpty := true }),
    ("CAT", { valid := some ["NC", "FT", "OLD MEMBER"], required := true }),
    ("PHONENUMBER", { required := true }), ("PRAYER", { allowEmpty := true }),
    ("EMAIL", { email := true, required := true }), ("CREATOR", { allowEmpty := true }),
    ("UNIT", { allowEmpty := true }), ("authToken", { allowEmpty := true })]

/-- The messages of a failed check, joined as the handlers show them. -/
def joinMessages : List String → String
  | [] => ""
  | [msg] => msg
  | msg :: rest => msg ++ "; " ++ joinMessages rest

/-- The columns that a registration fills from the checked body. -/
def registeredKeys : List String :=
  ["DATE", "NAME", "SEX", "ADDRESS", "FOLLOWUP", "CAT", "PHONENUMBER", "PRAYER", "EMAIL",
    "CREATOR", "UNIT"]

section

variable (p : Platform) (secrets : Secrets)

def getRegister (req : Request) : Act Unit := do
  let userId := p.query req.url "userId"
  let notWorker := !(← get).session.isWorker.truthy
  if userId.truthy then render "register" [("userId", userId), ("notWorker", .bool notWorker)]
  else render "register"

def registerError (msg : String) : Act Unit := do
  flash "error_msg" (.str msg)
  render "register" [("error_msg", .str msg)]

/-- The message for a registration whose name or phone number is taken. -/
def takenMessage (existing : User) (NAME PHONENUMBER : Value) : String :=
  if (existing.get .NAME).strictEq NAME && (existing.get .PHONENUMBER).strictEq PHONENUMBER then
    "A user with this name and phone number already exists."
  else if (existing.get .NAME).strictEq NAME then "A user with this name already exists."
  else "A user with this phone number already exists."

def postRegister (req : Request) : Act Unit :=
  attempt (do
    let checked := p.validate registerSchema req.body
    match checked.error with
    | some details => registerError (joinMessages details)
    | none =>
      let authToken ← prop "authToken" checked.value
      if !authToken.strictEq (.str secrets.AUTH_TOKEN) then
        registerError "Invalid authorization token"
      else
        let NAME ← prop "NAME" checked.value
        let PHONENUMBER ← prop "PHONENUMBER" checked.value
        let named ← whereColumn p NAME
        let phoned ← whereColumn p PHONENUMBER
        db req .User .findOne
        let existingUser := findOne p.toOrm
          (fun row => named (row.get UserColumn.NAME) || phoned (row.get UserColumn.PHONENUMBER))
          (← get).server.users.rows
        match existingUser with
        | some existing => registerError (takenMessage existing NAME PHONENUMBER)
        | none =>
          -- reading NAME has succeeded, so reading the other keys does not throw
          let values := registeredKeys.map fun key => (key, checked.value.propD key)
          db req .User .create
          let user ← orThrow "SequelizeValidationError" (create p.toOrm (req.rowId 0) values)
          let table ← orThrow "SequelizeUniqueConstraintError" ((← get).server.users.insert user)
          setServer fun s => { s with users := table }
          flash "success_msg" (.str "User has been successfully registered!")
          let text ← orThrow "TypeError: Cannot convert object to primitive value" NAME.toText
          render "register"
            [("success_msg", .str ("User has been successfully registered!" ++ text))])
  fun error => do
    flash "error_msg" (.str "An internal error occurred.")
    render "register" [("error_msg", .str error)]

/-- The registration up to and with its query. It has answered the request itself, or goes on with
the checked body. -/
def registerLookup (req : Request) : Act (Option Value) := do
  let checked := p.validate registerSchema req.body
  match checked.error with
  | some details => do registerError (joinMessages details); pure none
  | none =>
    let authToken ← prop "authToken" checked.value
    if !authToken.strictEq (.str secrets.AUTH_TOKEN) then do
      registerError "Invalid authorization token"
      pure none
    else
      let NAME ← prop "NAME" checked.value
      let PHONENUMBER ← prop "PHONENUMBER" checked.value
      let named ← whereColumn p NAME
      let phoned ← whereColumn p PHONENUMBER
      db req .User .findOne
      let existingUser := findOne p.toOrm
        (fun row => named (row.get UserColumn.NAME) || phoned (row.get UserColumn.PHONENUMBER))
        (← get).server.users.rows
      match existingUser with
      | some existing => do registerError (takenMessage existing NAME PHONENUMBER); pure none
      | none => pure (some checked.value)

/-- The registration from its insertion on. -/
def registerCreate (req : Request) (value : Value) : Act Unit := do
  let values := registeredKeys.map fun key => (key, value.propD key)
  db req .User .create
  let user ← orThrow "SequelizeValidationError" (create p.toOrm (req.rowId 0) values)
  let table ← orThrow "SequelizeUniqueConstraintError" ((← get).server.users.insert user)
  setServer fun s => { s with users := table }
  flash "success_msg" (.str "User has been successfully registered!")
  let text ← orThrow "TypeError: Cannot convert object to primitive value"
    (value.propD "NAME").toText
  render "register" [("success_msg", .str ("User has been successfully registered!" ++ text))]

/-- The catch of the registration. -/
def registerFailed (error : String) : Act Unit := do
  flash "error_msg" (.str "An internal error occurred.")
  render "register" [("error_msg", .str error)]

/-- The two database steps of a registration, one behind the other. -/
theorem postRegister_steps (req : Request) :
    postRegister p secrets req = attempt (do
      match ← registerLookup p secrets req with
      | none => pure ()
      | some value => registerCreate p req value) registerFailed := by
  unfold postRegister registerLookup
  congr 1
  dsimp only
  split
  · simp only [bind_assoc, pure_bind, bind_pure_unit]
  · rw [bind_assoc]
    refine bind_congr fun authToken => ?_
    split
    · simp only [bind_assoc, pure_bind, bind_pure_unit]
    · rw [bind_assoc]
      cases read : (p.validate registerSchema req.body).value.prop "NAME" with
      | error e => simp only [prop, read]; rfl
      | ok NAME =>
        have isName : (p.validate registerSchema req.body).value.propD "NAME" = NAME := by
          simp [Value.propD, read, Except.toOption]
        have reads : prop "NAME" (p.validate registerSchema req.body).value = pure NAME := by
          simp only [prop, read]
        simp only [bind_assoc, reads, pure_bind]
        refine bind_congr fun PHONENUMBER => bind_congr fun named => bind_congr fun phoned =>
          bind_congr fun _ => bind_congr fun c => ?_
        split
        · simp only [bind_assoc, pure_bind, bind_pure_unit]
        · simp only [pure_bind, registerCreate, isName]

theorem keeps_getRegister (req : Request) : Keeps (Same Ctx.core) (getRegister p req) :=
  keeps_bind keeps_get fun _ => keeps_ite (keeps_render _ _) (keeps_render _ _)

/-- The table with the row that a registration adds: the body has passed the check and carries the
token, and no row had its name or phone number. -/
def Registers (req : Request) (users users' : Table UserColumn) : Prop :=
  ∃ value user, p.validate registerSchema req.body = ⟨none, value⟩ ∧
    value.prop "authToken" = .ok (.str secrets.AUTH_TOKEN) ∧
    (∀ named phoned, p.whereEq (value.propD "NAME") = some named →
      p.whereEq (value.propD "PHONENUMBER") = some phoned →
      ∀ row ∈ users.rows, named (row.get .NAME) = false ∧ phoned (row.get .PHONENUMBER) = false) ∧
    create p.toOrm (req.rowId 0) (registeredKeys.map fun key => (key, value.propD key)) = some user ∧
    users.insert user = some users'

/-- The body has passed the check and carries the token, and no row has its name or phone
number. -/
def Vacant (req : Request) (users : List User) (value : Value) : Prop :=
  p.validate registerSchema req.body = ⟨none, value⟩ ∧
    value.prop "authToken" = .ok (.str secrets.AUTH_TOKEN) ∧
    ∀ named phoned, p.whereEq (value.propD "NAME") = some named →
      p.whereEq (value.propD "PHONENUMBER") = some phoned →
      ∀ row ∈ users, named (row.get .NAME) = false ∧ phoned (row.get .PHONENUMBER) = false

variable {p} in
/-- A body that has passed the check and carries a token was there, and meets the schema. -/
theorem accepts_of_token {req : Request} {value authToken : Value}
    (accepted : p.validate registerSchema req.body = ⟨none, value⟩)
    (token : value.prop "authToken" = .ok authToken) : registerSchema.Accepts value := by
  have present : req.body ≠ .undefined := by
    intro absent
    rw [absent, p.validate_undefined] at accepted
    cases accepted
    cases token
  have accepts := p.validate_ok registerSchema _ present (by rw [accepted])
  rwa [accepted] at accepts

/-- A query that finds nobody, for a body that has passed the checks before it. -/
theorem vacant_of_missing {req : Request} {users : List User} {authToken NAME PHONENUMBER : Value}
    {named phoned : Value → Bool}
    (accepted : (p.validate registerSchema req.body).error = none)
    (token : (p.validate registerSchema req.body).value.prop "authToken" = .ok authToken)
    (matched : ¬ (!authToken.strictEq (.str secrets.AUTH_TOKEN)) = true)
    (name : (p.validate registerSchema req.body).value.prop "NAME" = .ok NAME)
    (phone : (p.validate registerSchema req.body).value.prop "PHONENUMBER" = .ok PHONENUMBER)
    (namedIs : p.whereEq NAME = some named) (phonedIs : p.whereEq PHONENUMBER = some phoned)
    (missing : findOne p.toOrm (fun row => named (row.get UserColumn.NAME) ||
      phoned (row.get UserColumn.PHONENUMBER)) users = none) :
    Vacant p secrets req users (p.validate registerSchema req.body).value := by
  have isName : (p.validate registerSchema req.body).value.propD "NAME" = NAME := by
    simp [Value.propD, name, Except.toOption]
  have isPhone : (p.validate registerSchema req.body).value.propD "PHONENUMBER" = PHONENUMBER := by
    simp [Value.propD, phone, Except.toOption]
  have equal : authToken = .str secrets.AUTH_TOKEN :=
    Value.strictEq_str_iff.mp (by simpa using matched)
  refine ⟨by rw [← accepted], equal ▸ token, ?_⟩
  intro named' phoned' namedIs' phonedIs' row member
  rw [isName, namedIs, Option.some.injEq] at namedIs'
  rw [isPhone, phonedIs, Option.some.injEq] at phonedIs'
  subst named'
  subst phoned'
  simpa using findOne_none p.toOrm missing row member

theorem registerLookup_spec (req : Request) (c : Ctx) :
    Ensures (registerLookup p secrets req) c
      (fun found t => t.core = c.core ∧ ∀ value, found = some value →
        Vacant p secrets req c.server.users.rows value)
      (fun _ t => t.core = c.core) := by
  unfold registerLookup
  dsimp only
  split
  · exact ⟨rfl, by simp⟩
  · rename_i accepted
    simp only [ensures_bind, ensures_prop, ensures_ite, ensures_whereColumn, ensures_db,
      ensures_get]
    refine ⟨fun authToken token => ⟨fun _ => ⟨rfl, by simp⟩, fun matched => ⟨fun NAME name =>
      ⟨fun PHONENUMBER phone => ⟨fun named namedIs => ⟨fun phoned phonedIs => ⟨fun _ _ => trivial,
      fun _ => ?_⟩, fun _ => trivial⟩, fun _ => trivial⟩, fun _ _ => trivial⟩,
      fun _ _ => trivial⟩⟩, fun _ _ => trivial⟩
    split
    · exact ⟨rfl, by simp⟩
    · rename_i missing
      refine ⟨rfl, fun value found => ?_⟩
      cases Option.some.inj found
      exact vacant_of_missing p secrets accepted token matched name phone namedIs phonedIs missing

/-- The row of a registration is added before the answer is built, which can fail. -/
def Adds (req : Request) (value : Value) (c t : Ctx) : Prop :=
  ∃ user users, create p.toOrm (req.rowId 0) (registeredKeys.map fun key => (key, value.propD key)) =
      some user ∧ c.server.users.insert user = some users ∧
    t.core = ({ c with server := { c.server with users := users } } : Ctx).core

theorem registerCreate_spec (req : Request) (value : Value) (c : Ctx) :
    Ensures (registerCreate p req value) c (fun _ t => Adds p req value c t)
      (fun _ t => t.core = c.core ∨ Adds p req value c t) := by
  unfold registerCreate
  simp only [ensures_bind, ensures_db, ensures_get, ensures_orThrow, ensures_setServer]
  refine ⟨fun _ _ => .inl trivial, fun _ => ⟨fun user made => ⟨fun users inserted => ?_,
    fun _ => .inl trivial⟩, fun _ => .inl trivial⟩⟩
  exact ⟨fun _ _ => ⟨user, users, made, inserted, rfl⟩,
    fun _ => .inr ⟨user, users, made, inserted, rfl⟩⟩

/-- A registration either leaves the core alone or adds one row. -/
theorem postRegister_spec (req : Request) (c : Ctx) :
    Ensures (postRegister p secrets req) c
      (fun _ t => t.core = c.core ∨ ∃ users, Registers p secrets req c.server.users users ∧
        t.core = ({ c with server := { c.server with users := users } } : Ctx).core)
      (fun _ _ => False) := by
  rw [postRegister_steps, ensures_attempt, ensures_bind]
  refine (registerLookup_spec p secrets req c).mono ?_ (fun _ _ same => .inl same)
  intro found t post
  obtain ⟨same, vacant⟩ := post
  have server := Ctx.server_of_core same
  have added (value : Value) (isFound : found = some value) (t' : Ctx)
      (adds : Adds p req value t t') : t'.core = c.core ∨
        ∃ users, Registers p secrets req c.server.users users ∧
          t'.core = ({ c with server := { c.server with users := users } } : Ctx).core := by
    obtain ⟨user, users, made, inserted, left⟩ := adds
    obtain ⟨valid, token, free⟩ := vacant value isFound
    rw [server] at inserted
    have others : ({ t.core with server := { t.core.server with users := users } } : Ctx) =
        { c.core with server := { c.core.server with users := users } } := by rw [same]
    exact .inr ⟨users, ⟨value, user, valid, token, free, made, inserted⟩, left.trans others⟩
  cases found with
  | none => exact .inl same
  | some value =>
    refine (registerCreate_spec p req value t).mono (fun _ t' adds => added value rfl t' adds) ?_
    rintro _ t' (same' | adds)
    · exact .inl (same'.trans same)
    · exact added value rfl (Ctx.answered _ (Ctx.flashed _ _ t')) adds

end

end ChurchManagement
