import ChurchManagement.Security.Gate

namespace ChurchManagement

open Js Effect Sequelize

/-- The login module imports `model/Activity.js` under the name `UserAgent`. -/
abbrev LoginUserAgent := Activity

def loginSchema : Joi.Schema :=
  [("firstName", { required := true }), ("phoneNumber", { required := true }),
    ("authToken", { allowEmpty := true })]

def splitWords (name : String) : List String :=
  (splitChar ' ' name.toList).map String.ofList

/-- A string value of a checked body; anything else has no `toLowerCase` or `split`. -/
def asString (v : Value) : Act String :=
  match v with
  | .str s => pure s
  | _ => throw "TypeError: not a function"

section

variable (p : Platform) (secrets : Secrets)

def getLogin : Act Unit := render "login"

def loginError (msg : String) : Act Unit := do
  flash "error_msg" (.str msg)
  render "login" [("error_msg", .str msg)]

/-- The fields that `createAgent` writes into the agent record. -/
def agentRecord (req : Request) (role : String) : List (String × Value) :=
  [("IPADDRESS", .str req.ip), ("USERAGENT", req.userAgent), ("LASTACTIVITY", .obj p.now),
    ("ROLE", .str role), ("ISACTIVE", .bool true), ("FAILEDCOUNT", .num .zero)]

/-- The agent that a login hands out. -/
def loginAgent (req : Request) (userId role : String) : Agent :=
  ⟨agentDataOf (.str userId) req, .bool true, .str role, .obj p.now⟩

def createAgent (req : Request) (userId : String) (userAgentRecord : Option LoginUserAgent)
    (role : String) : Act String := do
  match userAgentRecord with
  | some record =>
    db req .Activity .update
    let record ← orThrow "SequelizeValidationError" (record.update p.toOrm (agentRecord p req role))
    setServer fun s => { s with activities := s.activities.save record }
  | none =>
    db req .Activity .create
    let record ← orThrow "SequelizeValidationError" (create p.toOrm (req.rowId 0)
      (("USERID", .str userId) :: agentRecord p req role))
    let table ← orThrow "SequelizeUniqueConstraintError" ((← get).server.activities.insert record)
    setServer fun s => { s with activities := table }
  let agent := getAgentData (agentDataOf (.str userId) req) (.bool true) (.str role) (.obj p.now)
  setServer fun s => { s with allowedID := s.allowedID ++ [userId] }
  flash "agent" (.str agent)
  return agent

/-- The end of a role branch: the agent is made, and the client is sent to the role's page. -/
def enter (req : Request) (userId : String) (userAgentRecord : Option LoginUserAgent)
    (role welcome page : String) : Act Unit := do
  let agent ← createAgent p req userId userAgentRecord role
  setSession fun s => { s with agent := .str agent }
  flash "success_msg" (.str welcome)
  redirect (page ++ "?agent=" ++ agent)

/-- The role branches of the login handler. -/
def loginRole (req : Request) (user : User) (name : String)
    (userAgentRecord : Option LoginUserAgent) (authToken : Value) : Act Unit :=
  if authToken.truthy && authToken.strictEq (.str secrets.ADMIN_AUTH_TOKEN) then do
    setSession fun s => { s with isWorker := .bool true, isAdmin := .bool true, role := .str "admin" }
    enter p req user.id userAgentRecord "admin" "Welcome, ADMIN! Login successful." "/admin/dashboard"
  else if authToken.truthy && authToken.strictEq (.str secrets.WORKER_AUTH_TOKEN) then do
    setSession fun s => { s with isWorker := .bool true, role := .str "worker" }
    enter p req user.id userAgentRecord "worker" "Welcome, Worker! Login successful." "/dashboard"
  else if !authToken.truthy then do
    setSession fun s => { s with isWorker := .bool false, role := .str "member" }
    enter p req user.id userAgentRecord "member"
      ("Welcome, " ++ (splitWords name).headD "" ++ "! Login successful.") "/memberIndex"
  else loginError "Invalid authorization token."

def postLogin (req : Request) : Act Unit :=
  attempt (do
    let checked := p.validate loginSchema req.body
    if checked.error.isSome then loginError "First name or phone number cannot be empty."
    else
      let cond ← whereColumn p (← prop "phoneNumber" checked.value)
      db req .User .findOne
      let user := findOne p.toOrm
        (fun row => cond (row.get UserColumn.PHONENUMBER) || cond (row.get UserColumn.EMAIL))
        (← get).server.users.rows
      match user with
      | none => loginError "User does not exist. Please try again."
      | some user =>
        let name ← asString (user.get .NAME)
        let nameWords := (splitWords name).map p.toLowerCase
        let firstName ← asString (← prop "firstName" checked.value)
        if !nameWords.contains (p.toLowerCase firstName) then loginError "Incorrect first name."
        else
          setSession fun s => { s with userId := .str user.id, lastActivity := .obj p.now }
          let cond ← whereColumn p (.str user.id)
          db req .Activity .findOne
          let userAgentRecord := findOne p.toOrm
            (fun row => cond (row.get ActivityColumn.USERID)) (← get).server.activities.rows
          loginRole p secrets req user name userAgentRecord (← prop "authToken" checked.value))
  fun _ => loginError "An internal server error occurred."

/-- The logout of an identifier. -/
def logoutOf (req : Request) (userId : Value) : Act Unit := do
  if userId.truthy then
    let cond ← whereColumn p userId
    db req .Activity .findOne
    let userAgentRecord := findOne p.toOrm (fun row => cond (row.get ActivityColumn.USERID))
      (← get).server.activities.rows
    let record ← orThrow "TypeError: Cannot read properties of null (reading 'destroy')"
      userAgentRecord
    db req .Activity .destroy
    setServer fun s => { s with activities := s.activities.destroy record }
    modify fun c => { c with destroyed := true }
    redirect "/"
  else
    flash "error_msg" (.str "Could not Logged out Try again.")
    redirectBack req "/login"

def getLogout (req : Request) : Act Unit := do
  let sessionId := (← get).session.userId
  let agent ← orThrow "TypeError: Cannot read properties of null (reading 'getData')"
    (← getAgent p req)
  let userId ← if sessionId.truthy then pure sessionId else prop "userId" agent.data
  logoutOf p req userId

/-- The checked body names the user: it is the one found by the contact, and the first name is a
word of its name. -/
def Matches (req : Request) (users : List User) (user : User) : Prop :=
  ∃ value phoneNumber firstName name, p.validate loginSchema req.body = ⟨none, value⟩ ∧
    value.prop "phoneNumber" = .ok (.str phoneNumber) ∧
    findOne p.toOrm (fun row => decide (row.get .PHONENUMBER = .str phoneNumber) ||
      decide (row.get .EMAIL = .str phoneNumber)) users = some user ∧
    user.get .NAME = .str name ∧ value.prop "firstName" = .ok (.str firstName) ∧
    p.toLowerCase firstName ∈ (splitWords name).map p.toLowerCase

theorem Matches.mem {req : Request} {users : List User} {user : User}
    (matched : Matches p req users user) : user ∈ users := by
  obtain ⟨_, _, _, _, _, _, found, _⟩ := matched
  exact (findOne_some p.toOrm found).1

theorem Matches.unique {p : Platform} {req : Request} {users : List User} {user user' : User}
    (matched : Matches p req users user) (matched' : Matches p req users user') : user = user' := by
  obtain ⟨value, phoneNumber, _, _, valid, read, found, _⟩ := matched
  obtain ⟨value', phoneNumber', _, _, valid', read', found', _⟩ := matched'
  cases valid.symm.trans valid'
  cases Except.ok.inj (read.symm.trans read')
  exact Option.some.inj (found.symm.trans found')

/-- A user that matches is the one found by the contact, and the words compared are those of the
checked body. -/
theorem Matches.words {p : Platform} {req : Request} {users : List User} {user : User}
    {phoneNumber : String} (matched : Matches p req users user)
    (read : (p.validate loginSchema req.body).value.prop "phoneNumber" = .ok (.str phoneNumber)) :
    findOne p.toOrm (fun row => decide (row.get .PHONENUMBER = .str phoneNumber) ||
      decide (row.get .EMAIL = .str phoneNumber)) users = some user ∧
    ∃ name firstName, user.get .NAME = .str name ∧
      (p.validate loginSchema req.body).value.prop "firstName" = .ok (.str firstName) ∧
      p.toLowerCase firstName ∈ (splitWords name).map p.toLowerCase := by
  obtain ⟨value, phoneNumber', firstName, name, valid, read', found, named, first, listed⟩ := matched
  rw [valid] at read ⊢
  cases Except.ok.inj (read.symm.trans read')
  exact ⟨found, name, firstName, named, first, listed⟩

/-- The token of the checked body. -/
def loginToken (req : Request) : Value := (p.validate loginSchema req.body).value.propD "authToken"

/-- The role that a token stands for; no token stands for a member. -/
def tokenRole (authToken : Value) : Option String :=
  if authToken.truthy && authToken.strictEq (.str secrets.ADMIN_AUTH_TOKEN) then some "admin"
  else if authToken.truthy && authToken.strictEq (.str secrets.WORKER_AUTH_TOKEN) then some "worker"
  else if !authToken.truthy then some "member"
  else none

theorem tokenRole_admin {secrets : Secrets} {authToken : Value}
    (stands : tokenRole secrets authToken = some "admin") :
    authToken = .str secrets.ADMIN_AUTH_TOKEN ∧ secrets.ADMIN_AUTH_TOKEN ≠ "" := by
  unfold tokenRole at stands
  split at stands
  · rename_i token
    obtain ⟨truthy, same⟩ := Bool.and_eq_true_iff.mp token
    cases Value.strictEq_str_iff.mp same
    exact ⟨rfl, Value.truthy_str.mp truthy⟩
  · split at stands
    · simp at stands
    · split at stands <;> simp at stands

theorem tokenRole_worker {secrets : Secrets} {authToken : Value}
    (stands : tokenRole secrets authToken = some "worker") :
    authToken = .str secrets.WORKER_AUTH_TOKEN ∧ secrets.WORKER_AUTH_TOKEN ≠ "" := by
  unfold tokenRole at stands
  split at stands
  · simp at stands
  · split at stands
    · rename_i token
      obtain ⟨truthy, same⟩ := Bool.and_eq_true_iff.mp token
      cases Value.strictEq_str_iff.mp same
      exact ⟨rfl, Value.truthy_str.mp truthy⟩
    · split at stands <;> simp at stands

def rolePage (role : String) : String :=
  if role = "admin" then "/admin/dashboard"
  else if role = "worker" then "/dashboard"
  else "/memberIndex"

/-- The answer to a successful login. -/
def loginResponse (req : Request) (user : User) (role : String) : Response :=
  .redirect 302 (rolePage role ++ "?agent=" ++
    getAgentData (agentDataOf (.str user.id) req) (.bool true) (.str role) (.obj p.now))

/-- The session writes that come before the token is looked at. -/
def Ctx.identified (user : User) (c : Ctx) : Ctx :=
  { c with session := { c.session with userId := .str user.id, lastActivity := .obj p.now } }

/-- The session writes of a role branch. -/
def Session.promoted (role : String) (s : Session) : Session :=
  { s with
    isWorker := .bool (role = "admin" ∨ role = "worker")
    isAdmin := if role = "admin" then .bool true else s.isAdmin
    role := .str role }

def Ctx.promoted (role : String) (c : Ctx) : Ctx :=
  { c with session := c.session.promoted role }

/-- The server writes of `createAgent`. -/
def Ctx.granted (userId : String) (activities : Table ActivityColumn) (c : Ctx) : Ctx :=
  { c with server := { c.server with
    activities := activities, allowedID := c.server.allowedID ++ [userId] } }

/-- The row that the login handler takes for the agent record of a user. -/
def agentRow (activities : List Activity) (userId : String) : Option LoginUserAgent :=
  findOne p.toOrm (fun row => decide (row.get .USERID = .str userId)) activities

/-- The table that `createAgent` leaves behind: its record is a row of the activities, so the one
it is given is not changed, and where it is given none one is added. -/
def AgentRecorded (req : Request) (userId role : String) (userAgentRecord : Option LoginUserAgent)
    (activities activities' : Table ActivityColumn) : Prop :=
  match userAgentRecord with
  | some _ => req.fault .Activity .update = none ∧ activities' = activities
  | none => req.fault .Activity .create = none ∧ ∃ record, create p.toOrm (req.rowId 0)
      (("USERID", .str userId) :: agentRecord p req role) = some record ∧
      activities.insert record = some activities'

/-- None of the fields of an agent record is a column of the activities. -/
theorem agentRecord_foreign (req : Request) (role : String) (col : ActivityColumn) :
    Value.field (Model.declared col).name (agentRecord p req role) = .undefined := by
  cases col <;> rfl

theorem createAgent_spec (req : Request) (userId role : String)
    (userAgentRecord : Option LoginUserAgent) (c : Ctx)
    (known : ∀ record, userAgentRecord = some record → record ∈ c.server.activities.rows) :
    Ensures (createAgent p req userId userAgentRecord role) c
      (fun agent t => agent = getAgentData (agentDataOf (.str userId) req) (.bool true) (.str role)
        (.obj p.now) ∧ t.responses = c.responses ∧ ∃ activities,
        AgentRecorded p req userId role userAgentRecord c.server.activities activities ∧
        t.core = (c.granted userId activities).core)
      (fun _ t => t = c ∧ ∀ activities,
        ¬ AgentRecorded p req userId role userAgentRecord c.server.activities activities) := by
  unfold createAgent AgentRecorded
  generalize getAgentData (agentDataOf (.str userId) req) (.bool true) (.str role)
    (.obj p.now) = agent
  cases userAgentRecord with
  | some record =>
    have same := record.update_foreign p.toOrm (agentRecord_foreign p req role)
    simp only [ensures_bind, ensures_db, ensures_orThrow, ensures_setServer, same]
    refine ⟨fun _ fault => ⟨trivial, by simp [fault]⟩, fun ok => ⟨fun record' equal => ?_, by simp⟩⟩
    cases Option.some.inj equal
    rw [Table.save_of_mem (known record rfl)]
    exact ⟨rfl, rfl, _, ⟨ok, rfl⟩, rfl⟩
  | none =>
    simp only [ensures_bind, ensures_db, ensures_get, ensures_orThrow, ensures_setServer]
    refine ⟨fun _ fault => ⟨trivial, by simp [fault]⟩, fun ok => ⟨fun record made =>
      ⟨fun activities inserted => ⟨rfl, rfl, activities, ⟨ok, record, made, inserted⟩, rfl⟩,
      fun taken => ⟨trivial, ?_⟩⟩, fun rejected => ⟨trivial, by simp [rejected]⟩⟩⟩
    rintro activities ⟨_, record', made', inserted⟩
    cases Option.some.inj (made.symm.trans made')
    simp [taken] at inserted

theorem enter_spec (req : Request) (userId role welcome page : String)
    (userAgentRecord : Option LoginUserAgent) (c : Ctx)
    (known : ∀ record, userAgentRecord = some record → record ∈ c.server.activities.rows) :
    Ensures (enter p req userId userAgentRecord role welcome page) c
      (fun _ t => t.responses = c.responses ++ [.redirect 302 (page ++ "?agent=" ++
        getAgentData (agentDataOf (.str userId) req) (.bool true) (.str role) (.obj p.now))] ∧
        ∃ activities, AgentRecorded p req userId role userAgentRecord c.server.activities activities ∧
          t.core = (c.granted userId activities).core)
      (fun _ t => t = c ∧ ∀ activities,
        ¬ AgentRecorded p req userId role userAgentRecord c.server.activities activities) := by
  unfold enter
  rw [ensures_bind]
  refine (createAgent_spec p req userId role userAgentRecord c known).mono ?_ (fun _ _ same => same)
  intro agent t post
  obtain ⟨rfl, responses, activities, recorded, same⟩ := post
  simp only [ensures_bind, ensures_setSession, ensures_flash, ensures_redirect]
  exact ⟨congrArg (· ++ _) responses, activities, recorded, same⟩

/-- The context behind `loginError`. -/
def Ctx.loginShown (msg : String) (c : Ctx) : Ctx :=
  (c.flashed "error_msg" (.str msg)).answered (.render 200 "login" [("error_msg", .str msg)])

theorem Ctx.loginShown_last (msg : String) (c : Ctx) : (c.loginShown msg).responses.getLast? =
    some (.render 200 "login" [("error_msg", .str msg)]) := List.getLast?_concat

theorem ensures_loginError {msg : String} {c : Ctx} {ok : Unit → Ctx → Prop}
    {err : String → Ctx → Prop} : Ensures (loginError msg) c ok err ↔ ok () (c.loginShown msg) :=
  Iff.rfl

/-- A token that stands for a role leads into the branch of that role, which promotes the session
before it makes the agent; any other token is refused. -/
theorem loginRole_spec (req : Request) (user : User) (name : String)
    (userAgentRecord : Option LoginUserAgent) (authToken : Value) (c : Ctx)
    (known : ∀ record, userAgentRecord = some record → record ∈ c.server.activities.rows) :
    Ensures (loginRole p secrets req user name userAgentRecord authToken) c
      (fun _ t => (tokenRole secrets authToken = none ∧ ∃ msg, t = c.loginShown msg) ∨
        ∃ role activities, tokenRole secrets authToken = some role ∧
          AgentRecorded p req user.id role userAgentRecord c.server.activities activities ∧
          t.responses = c.responses ++ [loginResponse p req user role] ∧
          t.core = ((c.promoted role).granted user.id activities).core)
      (fun _ t => ∃ role, tokenRole secrets authToken = some role ∧ t = c.promoted role ∧
        ∀ activities, ¬ AgentRecorded p req user.id role userAgentRecord c.server.activities
          activities) := by
  have branch (role welcome : String) (stands : tokenRole secrets authToken = some role) :
      Ensures (enter p req user.id userAgentRecord role welcome (rolePage role)) (c.promoted role)
        (fun _ t => (tokenRole secrets authToken = none ∧ ∃ msg, t = c.loginShown msg) ∨
          ∃ role activities, tokenRole secrets authToken = some role ∧
            AgentRecorded p req user.id role userAgentRecord c.server.activities activities ∧
            t.responses = c.responses ++ [loginResponse p req user role] ∧
            t.core = ((c.promoted role).granted user.id activities).core)
        (fun _ t => ∃ role, tokenRole secrets authToken = some role ∧ t = c.promoted role ∧
          ∀ activities, ¬ AgentRecorded p req user.id role userAgentRecord c.server.activities
            activities) := by
    refine (enter_spec p req user.id role welcome (rolePage role) userAgentRecord (c.promoted role)
      known).mono ?_ ?_
    · intro _ t post
      obtain ⟨answer, activities, recorded, same⟩ := post
      exact .inr ⟨role, activities, stands, recorded, answer, same⟩
    · intro _ t post
      obtain ⟨same, missing⟩ := post
      exact ⟨role, stands, same, missing⟩
  unfold loginRole
  simp only [ensures_ite, ensures_bind, ensures_setSession]
  refine ⟨fun admin => ?_, fun notAdmin => ⟨fun worker => ?_, fun notWorker => ⟨fun member => ?_,
    fun other => ?_⟩⟩⟩
  · exact branch "admin" _ (by rw [tokenRole, if_pos admin])
  · exact branch "worker" _ (by rw [tokenRole, if_neg notAdmin, if_pos worker])
  · exact branch "member" _ (by rw [tokenRole, if_neg notAdmin, if_neg notWorker, if_pos member])
  · exact .inl ⟨by rw [tokenRole, if_neg notAdmin, if_neg notWorker, if_neg other], _, rfl⟩

/-- A login of the user comes to its end: the token stands for a role, and the agent record can be
read and written. -/
def Completes (req : Request) (s : Server) (user : User) : Prop :=
  req.fault .Activity .findOne = none ∧ ∃ role activities,
    tokenRole secrets (loginToken p req) = some role ∧
    AgentRecorded p req user.id role (agentRow p s.activities.rows user.id) s.activities activities

/-- Both queries of a login are answered. -/
def LoginReads (req : Request) : Prop :=
  req.fault .User .findOne = none ∧ req.fault .Activity .findOne = none

/-- The ways a login can end. The session is identified as soon as a user matches, and promoted
as soon as the token stands for a role, so both writes stay when a later step fails. -/
inductive LoginOutcome (req : Request) (c t : Ctx) : Prop
  | refused (msg : String) (same : t.core = c.core)
      (answer : t.responses.getLast? = some (.render 200 "login" [("error_msg", .str msg)]))
  | identified (user : User) (msg : String) (matched : Matches p req c.server.users.rows user)
      (stuck : ¬ Completes p secrets req c.server user)
      (same : t.core = (c.identified p user).core)
      (answer : t.responses.getLast? = some (.render 200 "login" [("error_msg", .str msg)]))
  | promoted (user : User) (role msg : String) (matched : Matches p req c.server.users.rows user)
      (stands : tokenRole secrets (loginToken p req) = some role) (reads : LoginReads req)
      (stuck : ¬ Completes p secrets req c.server user)
      (same : t.core = ((c.identified p user).promoted role).core)
      (answer : t.responses.getLast? = some (.render 200 "login" [("error_msg", .str msg)]))
  | granted (user : User) (role : String) (activities : Table ActivityColumn)
      (matched : Matches p req c.server.users.rows user)
      (stands : tokenRole secrets (loginToken p req) = some role) (reads : LoginReads req)
      (completes : Completes p secrets req c.server user)
      (recorded : AgentRecorded p req user.id role (agentRow p c.server.activities.rows user.id)
        c.server.activities activities)
      (same : t.core = (((c.identified p user).promoted role).granted user.id activities).core)
      (answer : t.responses.getLast? = some (loginResponse p req user role))

theorem LoginOutcome.of_entry {req : Request} {c c' t : Ctx}
    (outcome : LoginOutcome p secrets req c t) (same : c'.core = c.core) :
    LoginOutcome p secrets req c' t := by
  have server := Ctx.server_of_core same
  rcases outcome with ⟨msg, still, answer⟩ | ⟨user, msg, matched, stuck, left, answer⟩ |
    ⟨user, role, msg, matched, stands, reads, stuck, left, answer⟩ |
    ⟨user, role, activities, matched, stands, reads, completes, recorded, left, answer⟩
  · exact .refused msg (still.trans same.symm) answer
  · have others : (c.core.identified p user).core = (c'.core.identified p user).core := by rw [same]
    exact .identified user msg (server ▸ matched) (server ▸ stuck) (left.trans others) answer
  · have others : ((c.core.identified p user).promoted role).core =
        ((c'.core.identified p user).promoted role).core := by rw [same]
    exact .promoted user role msg (server ▸ matched) stands reads (server ▸ stuck)
      (left.trans others) answer
  · have others : (((c.core.identified p user).promoted role).granted user.id activities).core =
        (((c'.core.identified p user).promoted role).granted user.id activities).core := by
      rw [same]
    exact .granted user role activities (server ▸ matched) stands reads (server ▸ completes)
      (server ▸ recorded) (left.trans others) answer

theorem ensures_asString {v : Value} {c : Ctx} {ok : String → Ctx → Prop}
    {err : String → Ctx → Prop} : Ensures (asString v) c ok err ↔
      (∀ s, v = .str s → ok s c) ∧ ((∀ s, v ≠ .str s) → err "TypeError: not a function" c) := by
  cases v <;> simp [asString, ensures_pure, ensures_throw]

/-- The contact of a checked body is a text. -/
theorem phoneNumber_text {req : Request} {phoneNumber : Value}
    (accepted : (p.validate loginSchema req.body).error = none)
    (read : (p.validate loginSchema req.body).value.prop "phoneNumber" = .ok phoneNumber) :
    ∃ s, phoneNumber = .str s := by
  by_cases absent : req.body = .undefined
  · rw [absent, p.validate_undefined] at read
    simp [Value.prop] at read
  · obtain ⟨fields, value, _, passes⟩ := p.validate_ok _ _ absent accepted
    rw [value] at read
    cases read
    have checked := passes ("phoneNumber", { required := true }) (by simp [loginSchema])
    obtain ⟨s, text, _⟩ := Joi.Rule.accepts_string checked rfl rfl
    exact ⟨s, text⟩

/-- The session that a login leaves behind when it fails after its user was found. -/
def stranded (req : Request) (user : User) (s : Session) : Session :=
  match req.fault .Activity .findOne, tokenRole secrets (loginToken p req) with
  | none, some role =>
    { s with userId := .str user.id, lastActivity := .obj p.now }.promoted role
  | _, _ => { s with userId := .str user.id, lastActivity := .obj p.now }

/-- The ways a login can end, with the whole context of those that show the login page again. -/
inductive LoginEnds (req : Request) (c t : Ctx) : Prop
  | refused (msg : String)
      (unmatched : req.fault .User .findOne = none → ∀ user, ¬ Matches p req c.server.users.rows user)
      (left : t = c.loginShown msg)
  | stuck (user : User) (msg : String) (works : req.fault .User .findOne = none)
      (matched : Matches p req c.server.users.rows user)
      (fails : ¬ Completes p secrets req c.server user)
      (left : t = ({ c with session := stranded p secrets req user c.session } : Ctx).loginShown msg)
  | granted (user : User) (role : String) (activities : Table ActivityColumn)
      (matched : Matches p req c.server.users.rows user)
      (stands : tokenRole secrets (loginToken p req) = some role) (reads : LoginReads req)
      (completes : Completes p secrets req c.server user)
      (recorded : AgentRecorded p req user.id role (agentRow p c.server.activities.rows user.id)
        c.server.activities activities)
      (same : t.core = (((c.identified p user).promoted role).granted user.id activities).core)
      (answer : t.responses = c.responses ++ [loginResponse p req user role])

theorem postLogin_ends (req : Request) (c : Ctx) :
    Ensures (postLogin p secrets req) c (fun _ t => LoginEnds p secrets req c t)
      (fun _ _ => False) := by
  have refused (msg : String) (unmatched : req.fault .User .findOne = none →
      ∀ user, ¬ Matches p req c.server.users.rows user) :
      LoginEnds p secrets req c (c.loginShown msg) := .refused msg unmatched rfl
  unfold postLogin
  simp only [ensures_attempt, ensures_ite, ensures_loginError, ensures_bind, ensures_prop,
    ensures_whereColumn, ensures_db, ensures_get]
  refine ⟨fun rejected => refused _ ?_, fun passed => ⟨fun phone readPhone => ⟨fun contact built =>
    ⟨fun _ fault => refused _ (by simp [fault]), fun works => ?_⟩, fun invalid => ?_⟩,
    fun _ threw => refused _ ?_⟩⟩
  · rintro _ user ⟨value, _, _, _, valid, _⟩
    simp [valid] at rejected
  · have accepted : (p.validate loginSchema req.body).error = none := by simpa using passed
    obtain ⟨phoneNumber, rfl⟩ := phoneNumber_text p accepted readPhone
    cases Option.some.inj ((p.whereEq_text phoneNumber).symm.trans built)
    have known (user : User) (matched : Matches p req c.server.users.rows user) :=
      matched.words readPhone
    split
    · rename_i missing
      refine refused _ fun _ user matched => ?_
      cases missing.symm.trans (known user matched).1
    · rename_i user found
      simp only [ensures_bind, ensures_asString, ensures_prop, ensures_ite, ensures_loginError,
        ensures_setSession, ensures_whereColumn, ensures_db, ensures_get]
      refine ⟨fun name named => ⟨fun first readFirst => ⟨fun firstName text => ⟨fun other => ?_,
        fun listed => ?_⟩, fun other => ?_⟩, fun _ threw => ?_⟩, fun other => ?_⟩
      · refine refused _ fun _ user' matched => ?_
        obtain ⟨found', name', firstName', named', readFirst', listed⟩ := known user' matched
        cases Option.some.inj (found.symm.trans found')
        cases Value.str.inj (named.symm.trans named')
        subst text
        cases Value.str.inj (Except.ok.inj (readFirst.symm.trans readFirst'))
        simp only [Bool.not_eq_true', List.contains_eq_mem, decide_eq_false_iff_not] at other
        exact other listed
      · subst text
        have matched : Matches p req c.server.users.rows user :=
          ⟨(p.validate loginSchema req.body).value, phoneNumber, firstName, name, by rw [← accepted],
            readPhone, found, named, readFirst, by simpa using listed⟩
        refine ⟨fun cond built' => ⟨fun _ fault => ?_, fun ok => ⟨fun token readToken => ?_,
          fun _ threw => ?_⟩⟩, fun refusedId => ?_⟩
        · refine .stuck user "An internal server error occurred." works matched
            (by simp [Completes, fault]) ?_
          simp only [stranded, fault]
        · cases Option.some.inj ((p.whereEq_text user.id).symm.trans built')
          have isToken : loginToken p req = token := by
            simp [loginToken, Value.propD, readToken, Except.toOption]
          refine (loginRole_spec p secrets req user name _ token (c.identified p user) ?_).mono ?_ ?_
          · exact fun record row => (findOne_some p.toOrm row).1
          · rintro _ t (⟨invalid, msg, rfl⟩ | ⟨role, activities, stands, recorded, answer, same⟩)
            · rw [← isToken] at invalid
              refine .stuck user msg works matched (by simp [Completes, invalid]) ?_
              simp only [stranded, ok, invalid]
              rfl
            · rw [← isToken] at stands
              exact .granted user role activities matched stands ⟨works, ok⟩
                ⟨ok, role, activities, stands, recorded⟩ recorded same answer
          · intro _ t post
            obtain ⟨role, stands, rfl, missing⟩ := post
            rw [← isToken] at stands
            refine .stuck user "An internal server error occurred." works matched ?_ ?_
            · rintro ⟨_, role', activities, stands', recorded⟩
              cases Option.some.inj (stands.symm.trans stands')
              exact missing activities recorded
            · simp only [stranded, ok, stands]
              rfl
        · exact absurd readPhone (Value.prop_of_error threw)
        · simp [p.whereEq_text] at refusedId
      · refine refused _ fun _ user' matched => ?_
        obtain ⟨_, _, firstName, _, readFirst', _⟩ := known user' matched
        exact other firstName (Except.ok.inj (readFirst.symm.trans readFirst'))
      · refine refused _ fun _ user' matched => ?_
        obtain ⟨_, _, firstName, _, readFirst', _⟩ := known user' matched
        cases threw.symm.trans readFirst'
      · refine refused _ fun _ user' matched => ?_
        obtain ⟨found', name, _, named, _⟩ := known user' matched
        cases Option.some.inj (found.symm.trans found')
        exact other name named
  · have accepted : (p.validate loginSchema req.body).error = none := by simpa using passed
    obtain ⟨phoneNumber, rfl⟩ := phoneNumber_text p accepted readPhone
    simp [p.whereEq_text] at invalid
  · rintro _ user ⟨value, _, _, _, valid, readPhone, _⟩
    rw [valid] at threw
    cases threw.symm.trans readPhone

theorem postLogin_spec (req : Request) (c : Ctx) :
    Ensures (postLogin p secrets req) c (fun _ t => LoginOutcome p secrets req c t)
      (fun _ _ => False) := by
  refine (postLogin_ends p secrets req c).mono ?_ (fun _ _ never => never)
  rintro _ t (⟨msg, _, rfl⟩ | ⟨user, msg, works, matched, fails, rfl⟩ |
    ⟨user, role, activities, matched, stands, reads, completes, recorded, same, answer⟩)
  · exact .refused msg rfl (Ctx.loginShown_last msg c)
  · unfold stranded
    split
    · rename_i role ok stands
      exact .promoted user role msg matched stands ⟨works, ok⟩ fails rfl (Ctx.loginShown_last _ _)
    · exact .identified user msg matched fails rfl (Ctx.loginShown_last _ _)
  · exact .granted user role activities matched stands reads completes recorded same
      (by rw [answer, List.getLast?_concat])

/-- The row that a logout destroys: an activity of the user the session is logged in as. -/
def LogsOut (req : Request) (c : Ctx) (record : LoginUserAgent) : Prop :=
  (presented p req).isSome = true ∧ ∃ userId cond, currentId p req c.session = some userId ∧
    userId.truthy = true ∧ p.whereEq userId = some cond ∧ req.fault .Activity .findOne = none ∧
    findOne p.toOrm (fun row => cond (row.get .USERID)) c.server.activities.rows = some record ∧
    req.fault .Activity .destroy = none

def Ctx.loggedOut (record : LoginUserAgent) (c : Ctx) : Ctx :=
  { c with
    server := { c.server with activities := c.server.activities.destroy record }
    destroyed := true }

theorem Ctx.core_loggedOut {c c' : Ctx} (same : c'.core = c.core) (record : LoginUserAgent) :
    (c'.loggedOut record).core = (c.loggedOut record).core := by
  have others : c'.core.loggedOut record = c.core.loggedOut record := by rw [same]
  exact others

theorem logoutOf_spec (req : Request) (userId : Value) (c t : Ctx) (same : t.core = c.core)
    (agent : (presented p req).isSome = true) (current : currentId p req c.session = some userId) :
    Ensures (logoutOf p req userId) t
      (fun _ t => (∃ record, LogsOut p req c record ∧ t.core = (c.loggedOut record).core) ∨
        t.core = c.core ∧ ∀ record, ¬ LogsOut p req c record)
      (fun _ t => t.core = c.core ∧ ∀ record, ¬ LogsOut p req c record) := by
  have server := Ctx.server_of_core same
  unfold logoutOf
  simp only [ensures_ite, ensures_bind, ensures_whereColumn, ensures_db, ensures_get,
    ensures_orThrow, ensures_setServer]
  refine ⟨fun truthy => ⟨fun cond built => ⟨fun _ fault => ⟨same, ?_⟩, fun read => ⟨fun record found =>
    ⟨fun _ fault => ⟨same, ?_⟩, fun destroys => .inl ⟨record, ?_, ?_⟩⟩, fun missing => ⟨same, ?_⟩⟩⟩,
    fun refused => ⟨same, ?_⟩⟩, fun falsy => .inr ⟨same, ?_⟩⟩
  · simp [LogsOut, fault]
  · simp [LogsOut, fault]
  · exact ⟨agent, userId, cond, current, truthy, built, read, server ▸ found, destroys⟩
  · exact Ctx.core_loggedOut same record
  · rintro record ⟨_, userId', cond', current', _, built', _, found, _⟩
    cases Option.some.inj (current.symm.trans current')
    cases Option.some.inj (built.symm.trans built')
    rw [server, found] at missing
    cases missing
  · rintro record ⟨_, userId', cond', current', _, built', _⟩
    cases Option.some.inj (current.symm.trans current')
    simp [refused] at built'
  · rintro record ⟨_, userId', cond', current', truthy, _⟩
    cases Option.some.inj (current.symm.trans current')
    exact falsy truthy

/-- A logout destroys the session only together with a row of the activities; without one it
fails and leaves the session as it is. -/
theorem getLogout_spec (req : Request) (c : Ctx) :
    Ensures (getLogout p req) c
      (fun _ t => (∃ record, LogsOut p req c record ∧ t.core = (c.loggedOut record).core) ∨
        t.core = c.core ∧ ∀ record, ¬ LogsOut p req c record)
      (fun _ t => t.core = c.core ∧ ∀ record, ¬ LogsOut p req c record) := by
  unfold getLogout
  rw [ensures_bind, ensures_get, ensures_bind]
  refine (getAgent_spec p req c).mono ?_ (fun _ _ impossible => impossible.elim)
  intro agent t post
  obtain ⟨rfl, same⟩ := post
  rw [ensures_bind, ensures_orThrow]
  refine ⟨fun agent found => ?_, fun missing => ⟨same, by simp [LogsOut, missing]⟩⟩
  have current (userId : Value) := logoutOf_spec p req userId c t same (by rw [found]; rfl)
  simp only [ensures_ite, ensures_bind, ensures_pure, ensures_prop]
  refine ⟨fun truthy => current _ (if_pos truthy), fun falsy => ⟨fun userId read => current _ ?_,
    fun _ threw => ⟨same, ?_⟩⟩⟩
  · rw [currentId, if_neg falsy, found, Option.bind_some, read]
    rfl
  · rintro record ⟨_, userId, _, none, _⟩
    rw [currentId, if_neg falsy, found, Option.bind_some, threw] at none
    cases none

end

end ChurchManagement
