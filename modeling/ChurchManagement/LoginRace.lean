import ChurchManagement.BookKeeping
import ChurchManagement.Interleaving
import ChurchManagement.MemberRace

namespace ChurchManagement

open Js Effect Express Sequelize History Interleaving

section Parts

variable {α β : Type}

/-- Goes on with what the first part of a handler has found; where it has found nothing, it has
answered the request itself. -/
def goOn (x : Act (Option α)) (rest : α → Act Unit) : Act Unit := do
  match ← x with
  | none => pure ()
  | some a => rest a

theorem goOn_bind (x : Act β) (f : β → Act (Option α)) (rest : α → Act Unit) :
    goOn (x >>= f) rest = x >>= fun b => goOn (f b) rest := bind_assoc _ _ _

theorem goOn_some (a : α) (rest : α → Act Unit) : goOn (pure (some a)) rest = rest a := rfl

theorem goOn_none (rest : α → Act Unit) : goOn (pure none) rest = pure () := rfl

theorem goOn_ite {c : Prop} [Decidable c] (x y : Act (Option α)) (rest : α → Act Unit) :
    goOn (if c then x else y) rest = if c then goOn x rest else goOn y rest := by
  split <;> rfl

/-- Programs that agree on what a first one returns agree behind it. -/
theorem exec_bind_congr {x : Act β} {f g : β → Act α} {c : Ctx}
    (same : Ensures x c (fun b t => exec (f b) t = exec (g b) t) fun _ _ => True) :
    exec (x >>= f) c = exec (x >>= g) c := by
  rw [exec_bind, exec_bind]
  unfold Ensures at same
  cases run : exec x c with
  | mk result t =>
    rw [run] at same
    cases result with
    | error e => rfl
    | ok b => exact same

theorem goOn_congr {x : Act (Option α)} {rest rest' : α → Act Unit} {c : Ctx}
    (same : Ensures x c (fun found t => ∀ a, found = some a → exec (rest a) t = exec (rest' a) t)
      fun _ _ => True) : exec (goOn x rest) c = exec (goOn x rest') c := by
  refine exec_bind_congr (same.mono ?_ fun _ _ _ => trivial)
  intro found t agree
  cases found with
  | none => rfl
  | some a => exact agree a rfl

end Parts

section Steps

variable (p : Platform) (secrets : Secrets)

/-- The login handler up to and with its query for the user. It has answered the request itself, or
goes on with the user. -/
def loginFind (req : Request) : Act (Option User) := do
  let checked := p.validate loginSchema req.body
  if checked.error.isSome then do
    loginError "First name or phone number cannot be empty."
    pure none
  else
    let cond ← whereColumn p (← prop "phoneNumber" checked.value)
    db req .User .findOne
    let user := findOne p.toOrm
      (fun row => cond (row.get UserColumn.PHONENUMBER) || cond (row.get UserColumn.EMAIL))
      (← get).server.users.rows
    match user with
    | none => do
      loginError "User does not exist. Please try again."
      pure none
    | some user => pure (some user)

/-- From the comparison of the names to the query for the record. -/
def recordFind (req : Request) (user : User) : Act (Option (String × Option LoginUserAgent)) := do
  let name ← asString (user.get .NAME)
  let nameWords := (splitWords name).map p.toLowerCase
  let firstName ← asString (← prop "firstName" (p.validate loginSchema req.body).value)
  if !nameWords.contains (p.toLowerCase firstName) then do
    loginError "Incorrect first name."
    pure none
  else
    setSession fun s => { s with userId := .str user.id, lastActivity := .obj p.now }
    let cond ← whereColumn p (.str user.id)
    db req .Activity .findOne
    let userAgentRecord := findOne p.toOrm
      (fun row => cond (row.get ActivityColumn.USERID)) (← get).server.activities.rows
    pure (some (name, userAgentRecord))

/-- What the branches of the login handler differ in. -/
structure LoginBranch where
  role : String
  welcome : String
  page : String
  promote : Session → Session

def loginBranch (name : String) (authToken : Value) : Option LoginBranch :=
  if authToken.truthy && authToken.strictEq (.str secrets.ADMIN_AUTH_TOKEN) then
    some ⟨"admin", "Welcome, ADMIN! Login successful.", "/admin/dashboard",
      fun s => { s with isWorker := .bool true, isAdmin := .bool true, role := .str "admin" }⟩
  else if authToken.truthy && authToken.strictEq (.str secrets.WORKER_AUTH_TOKEN) then
    some ⟨"worker", "Welcome, Worker! Login successful.", "/dashboard",
      fun s => { s with isWorker := .bool true, role := .str "worker" }⟩
  else if !authToken.truthy then
    some ⟨"member", "Welcome, " ++ (splitWords name).headD "" ++ "! Login successful.", "/memberIndex",
      fun s => { s with isWorker := .bool false, role := .str "member" }⟩
  else none

/-- The write of the record. The update of a record names no column of it, so the mapper has
nothing to write. -/
def recordStore (req : Request) (userId role : String) (userAgentRecord : Option LoginUserAgent) :
    Act Unit :=
  match userAgentRecord with
  | some record => do
    db req .Activity .update
    let _ ← orThrow "SequelizeValidationError" (record.update p.toOrm (agentRecord p req role))
  | none => do
    db req .Activity .create
    let record ← orThrow "SequelizeValidationError" (create p.toOrm (req.rowId 0)
      (("USERID", .str userId) :: agentRecord p req role))
    let table ← orThrow "SequelizeUniqueConstraintError" ((← get).server.activities.insert record)
    setServer fun s => { s with activities := table }

/-- From the choice of the branch to the write of the record. -/
def recordWrite (req : Request) (user : User) (name : String)
    (userAgentRecord : Option LoginUserAgent) : Act (Option LoginBranch) := do
  match loginBranch secrets name (← prop "authToken" (p.validate loginSchema req.body).value) with
  | none => do
    loginError "Invalid authorization token."
    pure none
  | some branch => do
    setSession branch.promote
    recordStore p req user.id branch.role userAgentRecord
    pure (some branch)

/-- What the login handler does when the record is written. -/
def grantAgent (req : Request) (user : User) (branch : LoginBranch) : Act Unit := do
  let agent := getAgentData (agentDataOf (.str user.id) req) (.bool true) (.str branch.role)
    (.obj p.now)
  setServer fun s => { s with allowedID := s.allowedID ++ [user.id] }
  flash "agent" (.str agent)
  setSession fun s => { s with agent := .str agent }
  flash "success_msg" (.str branch.welcome)
  redirect (branch.page ++ "?agent=" ++ agent)

/-- The catch of the login handler. -/
def loginFailed (_ : String) : Act Unit := loginError "An internal server error occurred."

/-- The login handler, as its parts between the calls that it awaits. -/
def loginSteps (req : Request) : Act Unit :=
  goOn (loginFind p req) fun user =>
    goOn (recordFind p req user) fun found =>
      goOn (recordWrite p secrets req user found.1 found.2) fun branch => grantAgent p req user branch

theorem postLogin_parts (req : Request) : postLogin p secrets req = attempt
    (goOn (loginFind p req) fun user => goOn (recordFind p req user) fun found => do
      loginRole p secrets req user found.1 found.2
        (← prop "authToken" (p.validate loginSchema req.body).value)) loginFailed := by
  unfold postLogin loginFind recordFind
  congr 1
  dsimp only
  simp only [goOn_ite, goOn_bind, goOn_none, goOn_some, bind_pure_unit]
  split
  · rfl
  · refine bind_congr fun phoneNumber => bind_congr fun cond => bind_congr fun _ =>
      bind_congr fun c => ?_
    cases findOne p.toOrm (fun row => cond (row.get UserColumn.PHONENUMBER) ||
      cond (row.get UserColumn.EMAIL)) c.server.users.rows with
    | none => simp only [goOn_bind, goOn_none, bind_pure_unit]
    | some user => rfl

theorem loginRole_branch (req : Request) (user : User) (name : String)
    (userAgentRecord : Option LoginUserAgent) (authToken : Value) :
    loginRole p secrets req user name userAgentRecord authToken =
      (match loginBranch secrets name authToken with
      | none => loginError "Invalid authorization token."
      | some branch => do
        setSession branch.promote
        enter p req user.id userAgentRecord branch.role branch.welcome branch.page) := by
  unfold loginRole loginBranch
  split
  · rfl
  · split
    · rfl
    · split <;> rfl

variable {p}

/-- The record that was found is saved as it is. -/
theorem exec_enter (req : Request) (user : User) (branch : LoginBranch)
    {userAgentRecord : Option LoginUserAgent} {c : Ctx}
    (known : ∀ record, userAgentRecord = some record → record ∈ c.server.activities.rows) :
    exec (enter p req user.id userAgentRecord branch.role branch.welcome branch.page) c =
      exec (do
        recordStore p req user.id branch.role userAgentRecord
        grantAgent p req user branch) c := by
  unfold enter createAgent recordStore grantAgent
  cases userAgentRecord with
  | none => simp only [bind_assoc, pure_bind]
  | some record =>
    have same := record.update_foreign p.toOrm (agentRecord_foreign p req branch.role)
    cases fault : req.fault .Activity .update with
    | some e => simp only [db, fault, exec_throw_bind, bind_assoc]
    | none =>
      simp only [db, fault, orThrow, same, bind_assoc, pure_bind]
      rw [exec_setServer_bind, Table.save_of_mem (known record rfl)]

/-- The end of the login handler is its write and what comes behind it, as long as the record that
was found is still there. -/
theorem exec_loginRole (req : Request) (user : User) (name : String)
    {userAgentRecord : Option LoginUserAgent} {c : Ctx}
    (known : ∀ record, userAgentRecord = some record → record ∈ c.server.activities.rows) :
    exec (do
        loginRole p secrets req user name userAgentRecord
          (← prop "authToken" (p.validate loginSchema req.body).value)) c =
      exec (goOn (recordWrite p secrets req user name userAgentRecord) (grantAgent p req user)) c := by
  unfold recordWrite
  rw [goOn_bind]
  refine exec_bind_congr (ensures_prop.mpr ⟨fun authToken _ => ?_, fun _ _ => trivial⟩)
  rw [loginRole_branch]
  cases loginBranch secrets name authToken with
  | none => simp only [goOn_bind, goOn_none, bind_pure_unit]
  | some branch =>
    simp only [goOn_bind, goOn_some]
    refine exec_bind_congr (ensures_setSession.mpr ?_)
    exact exec_enter req user branch known

/-- The words that the login handler compares agree. -/
def Named (p : Platform) (req : Request) (user : User) : Prop :=
  ∃ firstName name, user.get .NAME = .str name ∧
    (p.validate loginSchema req.body).value.prop "firstName" = .ok (.str firstName) ∧
    p.toLowerCase firstName ∈ (splitWords name).map p.toLowerCase

/-- The server is as it was, and no redirect has been sent. -/
structure Unmoved (c t : Ctx) : Prop where
  server : t.server = c.server
  quiet : ∀ url, Response.redirect 302 url ∈ t.responses → Response.redirect 302 url ∈ c.responses

theorem Unmoved.refl (c : Ctx) : Unmoved c c := ⟨rfl, fun _ sent => sent⟩

theorem Unmoved.shown {c t : Ctx} (same : Unmoved c t) (msg : String) :
    Unmoved c (t.loginShown msg) := by
  refine ⟨same.server, fun url sent => ?_⟩
  rcases List.mem_append.mp sent with old | new
  · exact same.quiet url old
  · cases List.mem_singleton.mp new

theorem recordFind_spec (req : Request) (user : User) (c : Ctx) :
    Ensures (recordFind p req user) c
      (fun found t => (found = none → Unmoved c t) ∧ ∀ pair, found = some pair → Unmoved c t ∧
        Named p req user ∧ pair.2 = agentRow p c.server.activities.rows user.id)
      (fun _ t => Unmoved c t) := by
  unfold recordFind
  simp only [ensures_bind, ensures_asString, ensures_prop, ensures_ite, ensures_loginError,
    ensures_setSession, ensures_whereColumn, ensures_db, ensures_get, ensures_pure]
  refine ⟨fun name named => ⟨fun first read => ⟨fun firstName text => ⟨fun _ =>
    ⟨fun _ => (Unmoved.refl c).shown _, nofun⟩, fun listed => ⟨fun cond built => ⟨fun _ _ =>
    ⟨rfl, fun _ sent => sent⟩, fun _ => ⟨nofun, ?_⟩⟩, fun _ => ⟨rfl, fun _ sent => sent⟩⟩⟩,
    fun _ => .refl c⟩, fun _ _ => .refl c⟩, fun _ => .refl c⟩
  intro pair isPair
  cases isPair
  cases Option.some.inj ((p.whereEq_text user.id).symm.trans built)
  subst text
  exact ⟨⟨rfl, fun _ sent => sent⟩, ⟨firstName, name, named, read, by simpa using listed⟩, rfl⟩

theorem exec_postLogin (req : Request) (c : Ctx) :
    exec (postLogin p secrets req) c = exec (attempt (loginSteps p secrets req) loginFailed) c := by
  have whole : exec (goOn (loginFind p req) fun user => goOn (recordFind p req user) fun found => do
      loginRole p secrets req user found.1 found.2
        (← prop "authToken" (p.validate loginSchema req.body).value)) c =
      exec (loginSteps p secrets req) c := by
    refine goOn_congr (ensures_of_forall _ _ (fun _ t user _ => ?_) fun _ _ => trivial)
    refine goOn_congr ((recordFind_spec req user t).mono (fun _ t' post found isFound => ?_)
      fun _ _ _ => trivial)
    obtain ⟨same, _, isRow⟩ := post.2 found isFound
    refine exec_loginRole secrets req user found.1 fun record isRecord => ?_
    rw [isRow, ← same.server] at isRecord
    exact (findOne_some p.toOrm isRecord).1
  rw [postLogin_parts, exec_attempt, exec_attempt, whole]

/-- The checked body has the contact of the user. -/
def Contacted (p : Platform) (req : Request) (users : List User) (user : User) : Prop :=
  (p.validate loginSchema req.body).error = none ∧ ∃ phoneNumber,
    (p.validate loginSchema req.body).value.prop "phoneNumber" = .ok (.str phoneNumber) ∧
    findOne p.toOrm (fun row => decide (row.get .PHONENUMBER = .str phoneNumber) ||
      decide (row.get .EMAIL = .str phoneNumber)) users = some user

theorem Contacted.matches {req : Request} {users : List User} {user : User}
    (contacted : Contacted p req users user) (named : Named p req user) :
    Matches p req users user := by
  obtain ⟨accepted, phoneNumber, read, found⟩ := contacted
  obtain ⟨firstName, name, isName, readFirst, listed⟩ := named
  exact ⟨(p.validate loginSchema req.body).value, phoneNumber, firstName, name, by rw [← accepted],
    read, found, isName, readFirst, listed⟩

theorem loginFind_spec (req : Request) (c : Ctx) :
    Ensures (loginFind p req) c
      (fun found t => (found = none → Unmoved c t) ∧ ∀ user, found = some user →
        Unmoved c t ∧ Contacted p req c.server.users.rows user)
      (fun _ t => Unmoved c t) := by
  unfold loginFind
  simp only [ensures_ite, ensures_loginError, ensures_bind, ensures_prop, ensures_whereColumn,
    ensures_db, ensures_get, ensures_pure]
  refine ⟨fun _ => ⟨fun _ => (Unmoved.refl c).shown _, nofun⟩, fun passed => ⟨fun phone read =>
    ⟨fun cond built => ⟨fun _ _ => .refl c, fun _ => ?_⟩, fun _ => .refl c⟩, fun _ _ => .refl c⟩⟩
  have accepted : (p.validate loginSchema req.body).error = none := by simpa using passed
  obtain ⟨phoneNumber, rfl⟩ := phoneNumber_text p accepted read
  cases Option.some.inj ((p.whereEq_text phoneNumber).symm.trans built)
  split
  · exact ⟨fun _ => (Unmoved.refl c).shown _, nofun⟩
  · rename_i user found
    refine ⟨nofun, fun user' isUser => ?_⟩
    cases isUser
    exact ⟨.refl c, accepted, phoneNumber, read, found⟩

/-- A branch is that of the role which the token stands for. -/
theorem loginBranch_role {name : String} {authToken : Value} {branch : LoginBranch}
    (taken : loginBranch secrets name authToken = some branch) :
    tokenRole secrets authToken = some branch.role ∧ branch.page = rolePage branch.role := by
  unfold loginBranch at taken
  unfold tokenRole
  split at taken
  · rename_i admin
    cases taken
    exact ⟨if_pos admin, rfl⟩
  · rename_i notAdmin
    rw [if_neg notAdmin]
    split at taken
    · rename_i worker
      cases taken
      exact ⟨if_pos worker, rfl⟩
    · rename_i notWorker
      rw [if_neg notWorker]
      split at taken
      · rename_i member
        cases taken
        exact ⟨if_pos member, rfl⟩
      · cases taken

theorem recordStore_spec (req : Request) (userId role : String)
    (userAgentRecord : Option LoginUserAgent) (c : Ctx) :
    Ensures (recordStore p req userId role userAgentRecord) c
      (fun _ t => ∃ activities,
        AgentRecorded p req userId role userAgentRecord c.server.activities activities ∧
        t = { c with server := { c.server with activities := activities } })
      (fun _ t => t = c) := by
  unfold recordStore AgentRecorded
  cases userAgentRecord with
  | some record =>
    simp only [ensures_bind, ensures_db, ensures_orThrow, ensures_pure]
    exact ⟨fun _ _ => trivial, fun works => ⟨fun _ _ => ⟨_, ⟨works, rfl⟩, rfl⟩, fun _ => trivial⟩⟩
  | none =>
    simp only [ensures_bind, ensures_db, ensures_get, ensures_orThrow, ensures_setServer]
    exact ⟨fun _ _ => trivial, fun works => ⟨fun record made => ⟨fun activities inserted =>
      ⟨activities, ⟨works, record, made, inserted⟩, rfl⟩, fun _ => trivial⟩, fun _ => trivial⟩⟩

/-- What the write of a login has done when the login goes on. -/
structure Written (p : Platform) (secrets : Secrets) (req : Request) (user : User)
    (userAgentRecord : Option LoginUserAgent) (branch : LoginBranch) (s s' : Server) : Prop where
  stands : tokenRole secrets (loginToken p req) = some branch.role
  page : branch.page = rolePage branch.role
  recorded : AgentRecorded p req user.id branch.role userAgentRecord s.activities s'.activities
  others : s' = { s with activities := s'.activities }

theorem recordWrite_spec (req : Request) (user : User) (name : String)
    (userAgentRecord : Option LoginUserAgent) (c : Ctx) :
    Ensures (recordWrite p secrets req user name userAgentRecord) c
      (fun found t => (found = none → Unmoved c t) ∧ ∀ branch, found = some branch →
        t.responses = c.responses ∧
        Written p secrets req user userAgentRecord branch c.server t.server)
      (fun _ t => Unmoved c t) := by
  unfold recordWrite
  rw [ensures_bind, ensures_prop]
  refine ⟨fun authToken read => ?_, fun _ _ => .refl c⟩
  have isToken : loginToken p req = authToken := by
    simp [loginToken, Value.propD, read, Except.toOption]
  split
  · refine ⟨fun _ => (Unmoved.refl c).shown _, fun branch taken => ?_⟩
    cases taken
  · rename_i branch taken
    obtain ⟨stands, page⟩ := loginBranch_role secrets taken
    rw [← isToken] at stands
    simp only [ensures_bind, ensures_setSession, ensures_pure]
    refine (recordStore_spec req user.id branch.role userAgentRecord _).mono ?_ ?_
    · rintro _ _ ⟨activities, recorded, rfl⟩
      refine ⟨fun answered => ?_, fun branch' isBranch => ?_⟩
      · cases answered
      · cases isBranch
        exact ⟨rfl, stands, page, recorded, rfl⟩
    · rintro _ _ rfl
      exact ⟨rfl, fun _ sent => sent⟩

/-- The answer at the end of a branch. -/
def branchResponse (p : Platform) (req : Request) (user : User) (branch : LoginBranch) : Response :=
  .redirect 302 (branch.page ++ "?agent=" ++
    getAgentData (agentDataOf (.str user.id) req) (.bool true) (.str branch.role) (.obj p.now))

theorem branchResponse_role (req : Request) (user : User) {branch : LoginBranch}
    (page : branch.page = rolePage branch.role) :
    branchResponse p req user branch = loginResponse p req user branch.role := by
  rw [branchResponse, page, loginResponse]

theorem grantAgent_spec (req : Request) (user : User) (branch : LoginBranch) (c : Ctx) :
    Ensures (grantAgent p req user branch) c
      (fun _ t => t.server = { c.server with allowedID := c.server.allowedID ++ [user.id] } ∧
        t.responses = c.responses ++ [branchResponse p req user branch])
      (fun _ _ => False) := ⟨rfl, rfl⟩

end Steps

section Logout

variable (p : Platform)

/-- The query of a logout of the identifier. -/
def leaverFind (req : Request) (userId : Value) : Act (Option LoginUserAgent) := do
  if userId.truthy then
    let cond ← whereColumn p userId
    db req .Activity .findOne
    let userAgentRecord := findOne p.toOrm (fun row => cond (row.get ActivityColumn.USERID))
      (← get).server.activities.rows
    let record ← orThrow "TypeError: Cannot read properties of null (reading 'destroy')"
      userAgentRecord
    pure (some record)
  else
    flash "error_msg" (.str "Could not Logged out Try again.")
    redirectBack req "/login"
    pure none

/-- The logout handler up to and with its query. -/
def logoutFind (req : Request) : Act (Option LoginUserAgent) := do
  let sessionId := (← get).session.userId
  let agent ← orThrow "TypeError: Cannot read properties of null (reading 'getData')"
    (← getAgent p req)
  let userId ← if sessionId.truthy then pure sessionId else prop "userId" agent.data
  leaverFind p req userId

/-- The logout handler from its write on. -/
def logoutDestroy (req : Request) (record : LoginUserAgent) : Act Unit := do
  db req .Activity .destroy
  setServer fun s => { s with activities := s.activities.destroy record }
  modify fun c => { c with destroyed := true }
  redirect "/"

theorem logoutOf_steps (req : Request) (userId : Value) :
    logoutOf p req userId = goOn (leaverFind p req userId) (logoutDestroy req) := by
  unfold logoutOf leaverFind logoutDestroy
  rw [goOn_ite]
  split
  · simp only [goOn_bind, goOn_some]
  · simp only [goOn_bind, goOn_none, bind_pure_unit]

theorem getLogout_steps (req : Request) :
    getLogout p req = goOn (logoutFind p req) (logoutDestroy req) := by
  unfold getLogout logoutFind
  simp only [goOn_bind]
  refine bind_congr fun c => bind_congr fun found => bind_congr fun agent => ?_
  split
  · rw [pure_bind, pure_bind, logoutOf_steps]
  · rw [goOn_bind]
    exact bind_congr fun userId => logoutOf_steps p req userId

/-- The row that a logout finds. -/
def Spots (p : Platform) (req : Request) (c : Ctx) (record : LoginUserAgent) : Prop :=
  (presented p req).isSome = true ∧ ∃ userId cond, currentId p req c.session = some userId ∧
    userId.truthy = true ∧ p.whereEq userId = some cond ∧ req.fault .Activity .findOne = none ∧
    findOne p.toOrm (fun row => cond (row.get .USERID)) c.server.activities.rows = some record

theorem Spots.logsOut {req : Request} {c : Ctx} {record : LoginUserAgent}
    (spots : Spots p req c record) (destroys : req.fault .Activity .destroy = none) :
    LogsOut p req c record := by
  obtain ⟨agent, userId, cond, current, truthy, built, read, found⟩ := spots
  exact ⟨agent, userId, cond, current, truthy, built, read, found, destroys⟩

theorem leaverFind_spec (req : Request) (userId : Value) (c t : Ctx) (same : t.server = c.server)
    (agent : (presented p req).isSome = true) (current : currentId p req c.session = some userId) :
    Ensures (leaverFind p req userId) t
      (fun found t' => (found = none → t'.server = c.server) ∧ ∀ record, found = some record →
        t'.server = c.server ∧ Spots p req c record)
      (fun _ t' => t'.server = c.server) := by
  unfold leaverFind redirectBack
  simp only [ensures_ite, ensures_bind, ensures_whereColumn, ensures_db, ensures_get,
    ensures_orThrow, ensures_flash, ensures_redirect, ensures_pure]
  refine ⟨fun truthy => ⟨fun cond built => ⟨fun _ _ => same, fun read => ⟨fun record found =>
    ⟨nofun, fun record' isRecord => ?_⟩, fun _ => same⟩⟩, fun _ => same⟩,
    fun _ => ⟨fun _ => same, nofun⟩⟩
  cases isRecord
  exact ⟨same, agent, userId, cond, current, truthy, built, read, same ▸ found⟩

theorem logoutFind_spec (req : Request) (c : Ctx) :
    Ensures (logoutFind p req) c
      (fun found t => (found = none → t.server = c.server) ∧ ∀ record, found = some record →
        t.server = c.server ∧ Spots p req c record)
      (fun _ t => t.server = c.server) := by
  unfold logoutFind
  rw [ensures_bind, ensures_get, ensures_bind]
  refine (getAgent_spec p req c).mono ?_ (fun _ _ impossible => impossible.elim)
  intro presenting t post
  obtain ⟨rfl, same⟩ := post
  have server := Ctx.server_of_core same
  rw [ensures_bind, ensures_orThrow]
  refine ⟨fun agent found => ?_, fun _ => server⟩
  have current (userId : Value) := leaverFind_spec p req userId c t server (by rw [found]; rfl)
  simp only [ensures_ite, ensures_bind, ensures_pure, ensures_prop]
  refine ⟨fun truthy => current _ (if_pos truthy), fun falsy => ⟨fun userId read => current _ ?_,
    fun _ _ => server⟩⟩
  rw [currentId, if_neg falsy, found, Option.bind_some, read]
  rfl

theorem logoutDestroy_spec (req : Request) (record : LoginUserAgent) (c : Ctx) :
    Ensures (logoutDestroy req record) c
      (fun _ t => req.fault .Activity .destroy = none ∧
        t.server = { c.server with activities := c.server.activities.destroy record })
      (fun _ t => t = c) := by
  unfold logoutDestroy
  simp only [ensures_bind, ensures_db, ensures_setServer]
  exact ⟨fun _ _ => trivial, fun destroys => ⟨destroys, rfl⟩⟩

end Logout

/-- Which of the two handlers a request is for. -/
inductive EntryTask
  | login
  | logout
  deriving DecidableEq

/-- How far a request has come: which calls to the database its handler has made, and what it has
got from them. -/
inductive EntryPhase
  | arrived (c : Ctx)
  | found (c : Ctx) (user : User)
  | reading (c : Ctx) (user : User) (name : String) (userAgentRecord : Option LoginUserAgent)
  | written (c : Ctx) (user : User) (branch : LoginBranch)
  | leaving (c : Ctx) (record : LoginUserAgent)
  | done (c : Ctx)

/-- What the request knows so far. -/
def EntryPhase.ctx : EntryPhase → Ctx
  | .arrived c => c
  | .found c _ => c
  | .reading c _ _ _ => c
  | .written c _ _ => c
  | .leaving c _ => c
  | .done c => c

/-- Logins and logouts that are handled at the same time, and the server they share. -/
abbrev EntryWork (ι : Type) := Work ι Server EntryPhase

/-- The context with the server as it stands when a step is taken. -/
def Ctx.on (server : Server) (c : Ctx) : Ctx := { c with server := server }

@[simp] theorem Ctx.on_self (c : Ctx) : c.on c.server = c := rfl

/-- Where a part of a handler leaves the request when it throws. -/
def settled {α : Type} (failed : String → Act Unit) : Except String α × Ctx → Ctx
  | (.ok _, t) => t
  | (.error e, t) => (exec (failed e) t).2

theorem exec_attempt_settled (x : Act Unit) (failed : String → Act Unit) (c : Ctx) :
    (exec (attempt x failed) c).2 = settled failed (exec x c) := by
  rw [exec_attempt]
  cases exec x c with
  | mk result t => cases result <;> rfl

section Machine

variable {ι : Type} [DecidableEq ι]

/-- The request runs a part of its handler on the server as it stands, and goes on or ends. -/
def proceed {α : Type} (w : EntryWork ι) (i : ι) (c : Ctx) (part : Act (Option α))
    (failed : String → Act Unit) (go : α → Ctx → EntryPhase) : EntryWork ι :=
  match exec part (c.on w.shared) with
  | (.ok (some a), t) => w.moved i t.server (go a t)
  | result => w.moved i (settled failed result).server (.done (settled failed result))

/-- The request runs the last part of its handler. -/
def finish (w : EntryWork ι) (i : ι) (c : Ctx) (part : Act Unit) (failed : String → Act Unit) :
    EntryWork ι :=
  w.moved i (settled failed (exec part (c.on w.shared))).server
    (.done (settled failed (exec part (c.on w.shared))))

/-- A part leaves the request in a new phase, whichever it was in. -/
theorem proceed_moved {α : Type} (w : EntryWork ι) (i : ι) (phase : EntryPhase) (c : Ctx)
    (part : Act (Option α)) (failed : String → Act Unit) (go : α → Ctx → EntryPhase) :
    proceed (w.moved i w.shared phase) i c part failed go = proceed w i c part failed go := by
  unfold proceed
  simp only [Work.moved_shared, Work.moved_moved]

theorem finish_moved (w : EntryWork ι) (i : ι) (phase : EntryPhase) (c : Ctx) (part : Act Unit)
    (failed : String → Act Unit) :
    finish (w.moved i w.shared phase) i c part failed = finish w i c part failed := by
  unfold finish
  simp only [Work.moved_shared, Work.moved_moved]

variable (p : Platform) (secrets : Secrets) (task : ι → EntryTask) (reqs : ι → Request)

/-- A logout has no catch. -/
def uncaught (_ : String) : Act Unit := pure ()

/-- One step of one request: up to and with its next call to the database, which it awaits. -/
def entryStep (i : ι) (w : EntryWork ι) : EntryWork ι :=
  match w.phase i with
  | .arrived c =>
    match task i with
    | .login => proceed w i c (loginFind p (reqs i)) loginFailed fun user t => .found t user
    | .logout => proceed w i c (logoutFind p (reqs i)) uncaught fun record t => .leaving t record
  | .found c user =>
    proceed w i c (recordFind p (reqs i) user) loginFailed
      fun found t => .reading t user found.1 found.2
  | .reading c user name userAgentRecord =>
    proceed w i c (recordWrite p secrets (reqs i) user name userAgentRecord) loginFailed
      fun branch t => .written t user branch
  | .written c user branch => finish w i c (grantAgent p (reqs i) user branch) loginFailed
  | .leaving c record => finish w i c (logoutDestroy (reqs i) record) uncaught
  | .done _ => w

/-- The handler of a task. -/
def entryHandler (i : ι) : Act Unit :=
  match task i with
  | .login => postLogin p secrets (reqs i)
  | .logout => getLogout p (reqs i)

theorem entryStep_done {i : ι} {w : EntryWork ι} {c : Ctx} (done : w.phase i = .done c) :
    entryStep p secrets task reqs i w = w := by
  unfold entryStep
  rw [done]

theorem entryStep_rest {i : ι} {w : EntryWork ι} {c : Ctx} (done : w.phase i = .done c) (n : Nat) :
    (entryStep p secrets task reqs i)^[n] w = w := by
  induction n with
  | zero => rfl
  | succ n ih => rw [Function.iterate_succ_apply, entryStep_done p secrets task reqs done, ih]

/-- A part and the steps that come behind it are one program. -/
theorem steps_goOn {α : Type} {i : ι} {part : Act (Option α)} {failed : String → Act Unit}
    {go : α → Ctx → EntryPhase} {rest : α → Act Unit} {n : Nat}
    (later : ∀ w a c, (entryStep p secrets task reqs i)^[n] (w.moved i w.shared (go a c)) =
      finish w i c (rest a) failed) (w : EntryWork ι) (c : Ctx) :
    (entryStep p secrets task reqs i)^[n] (proceed w i c part failed go) =
      finish w i c (goOn part rest) failed := by
  unfold proceed finish goOn
  rw [exec_bind]
  cases exec part (c.on w.shared) with
  | mk result t =>
    cases result with
    | error e => exact entryStep_rest p secrets task reqs (w.moved_phase i _ _) n
    | ok found =>
      cases found with
      | none => exact entryStep_rest p secrets task reqs (w.moved_phase i _ _) n
      | some a =>
        have moved := later (w.moved i t.server (go a t)) a t
        rw [Work.moved_shared, Work.moved_moved] at moved
        simp only
        rw [moved, finish, Work.moved_moved, Work.moved_shared, Ctx.on_self]

/-- Four steps of one request without a step of another in between are its handler. -/
theorem entryStep_alone {i : ι} {w : EntryWork ι} {c : Ctx} (arrived : w.phase i = .arrived c) :
    (entryStep p secrets task reqs i)^[4] w =
      w.moved i (exec (entryHandler p secrets task reqs i) (c.on w.shared)).2.server
        (.done (exec (entryHandler p secrets task reqs i) (c.on w.shared)).2) := by
  rw [Function.iterate_succ_apply, entryStep.eq_def p secrets task reqs i w, arrived]
  unfold entryHandler
  cases task i with
  | login =>
    simp only
    rw [exec_postLogin, exec_attempt_settled]
    refine steps_goOn p secrets task reqs (fun w user c => ?_) w c
    rw [Function.iterate_succ_apply, entryStep, Work.moved_phase]
    simp only [proceed_moved]
    refine steps_goOn p secrets task reqs (fun w found c => ?_) w c
    rw [Function.iterate_succ_apply, entryStep, Work.moved_phase]
    simp only [proceed_moved]
    refine steps_goOn p secrets task reqs (fun w branch c => ?_) w c
    rw [Function.iterate_one, entryStep, Work.moved_phase]
    simp only [finish_moved]
  | logout =>
    have alone : (exec (getLogout p (reqs i)) (c.on w.shared)).2 =
        settled uncaught (exec (goOn (logoutFind p (reqs i)) (logoutDestroy (reqs i)))
          (c.on w.shared)) := by
      rw [getLogout_steps]
      cases exec (goOn (logoutFind p (reqs i)) (logoutDestroy (reqs i))) (c.on w.shared) with
      | mk result t => cases result <;> rfl
    simp only
    rw [alone]
    refine steps_goOn p secrets task reqs (fun w record c => ?_) w c
    rw [Function.iterate_succ_apply, entryStep, Work.moved_phase]
    simp only [finish_moved]
    exact entryStep_rest p secrets task reqs (w.moved_phase i _ _) 2

/-- What holds of the end of the request and of the next phase holds of what a part leads to. -/
theorem proceed_rule {α : Type} {w : EntryWork ι} {i : ι} {c : Ctx} {part : Act (Option α)}
    {failed : String → Act Unit} {go : α → Ctx → EntryPhase} {Left : Ctx → Prop}
    {Goes : α → Ctx → Prop} {Move : EntryWork ι → Prop}
    (spec : Ensures part (c.on w.shared)
      (fun found t => (found = none → Left t) ∧ ∀ a, found = some a → Goes a t) fun _ t => Left t)
    (caught : ∀ e t, Left t → Left (exec (failed e) t).2)
    (ends : ∀ t, Left t → Move (w.moved i t.server (.done t)))
    (goes : ∀ a t, Goes a t → Move (w.moved i t.server (go a t))) :
    Move (proceed w i c part failed go) := by
  unfold proceed
  unfold Ensures at spec
  cases ended : exec part (c.on w.shared) with
  | mk result t =>
    rw [ended] at spec
    cases result with
    | error e => exact ends _ (caught e t spec)
    | ok found =>
      cases found with
      | none => exact ends t (spec.1 rfl)
      | some a => exact goes a t (spec.2 a rfl)

theorem finish_rule {w : EntryWork ι} {i : ι} {c : Ctx} {part : Act Unit}
    {failed : String → Act Unit} {Left Goes : Ctx → Prop} {Move : EntryWork ι → Prop}
    (spec : Ensures part (c.on w.shared) (fun _ t => Goes t) fun _ t => Left t)
    (caught : ∀ e t, Left t → Left (exec (failed e) t).2)
    (ends : ∀ t, Left t → Move (w.moved i t.server (.done t)))
    (goes : ∀ t, Goes t → Move (w.moved i t.server (.done t))) :
    Move (finish w i c part failed) := by
  unfold finish
  unfold Ensures at spec
  cases ended : exec part (c.on w.shared) with
  | mk result t =>
    rw [ended] at spec
    cases result with
    | error e => exact ends _ (caught e t spec)
    | ok _ => exact goes t spec

/-- What a step can do: come to an end without a trace, go on with what it has read, write the
record of a login, admit its user, or destroy the record that a logout has found. -/
inductive EntryMove (i : ι) (w : EntryWork ι) : EntryWork ι → Prop
  | idle (c : Ctx) (ended : w.phase i = .done c) : EntryMove i w w
  | ends (t : Ctx) (active : ∀ c, w.phase i ≠ .done c) (server : t.server = w.shared)
      (quiet : task i = .login → ∀ url, Response.redirect 302 url ∈ t.responses →
        Response.redirect 302 url ∈ (w.phase i).ctx.responses) :
      EntryMove i w (w.moved i t.server (.done t))
  | finds (c t : Ctx) (user : User) (arrived : w.phase i = .arrived c) (isLogin : task i = .login)
      (same : Unmoved (c.on w.shared) t)
      (contacted : Contacted p (reqs i) w.shared.users.rows user) :
      EntryMove i w (w.moved i t.server (.found t user))
  | compares (c t : Ctx) (user : User) (name : String) (found : w.phase i = .found c user)
      (same : Unmoved (c.on w.shared) t) (named : Named p (reqs i) user) :
      EntryMove i w (w.moved i t.server
        (.reading t user name (agentRow p w.shared.activities.rows user.id)))
  | writes (c t : Ctx) (user : User) (name : String) (userAgentRecord : Option LoginUserAgent)
      (branch : LoginBranch) (reading : w.phase i = .reading c user name userAgentRecord)
      (responses : t.responses = c.responses)
      (written : Written p secrets (reqs i) user userAgentRecord branch w.shared t.server) :
      EntryMove i w (w.moved i t.server (.written t user branch))
  | grants (c t : Ctx) (user : User) (branch : LoginBranch)
      (written : w.phase i = .written c user branch)
      (server : t.server = { w.shared with allowedID := w.shared.allowedID ++ [user.id] })
      (answer : t.responses = c.responses ++ [branchResponse p (reqs i) user branch]) :
      EntryMove i w (w.moved i t.server (.done t))
  | spots (c t : Ctx) (record : LoginUserAgent) (arrived : w.phase i = .arrived c)
      (isLogout : task i = .logout) (server : t.server = w.shared)
      (spots : Spots p (reqs i) (c.on w.shared) record) :
      EntryMove i w (w.moved i t.server (.leaving t record))
  | destroys (c t : Ctx) (record : LoginUserAgent) (leaving : w.phase i = .leaving c record)
      (works : (reqs i).fault .Activity .destroy = none)
      (server : t.server = { w.shared with activities := w.shared.activities.destroy record }) :
      EntryMove i w (w.moved i t.server (.done t))

theorem entryStep_move (i : ι) (w : EntryWork ι) :
    EntryMove p secrets task reqs i w (entryStep p secrets task reqs i w) := by
  have failed (c : Ctx) (e : String) (t : Ctx) (same : Unmoved c t) :
      Unmoved c (exec (loginFailed e) t).2 := same.shown _
  have ends (t c : Ctx) (active : ∀ c', w.phase i ≠ .done c') (known : (w.phase i).ctx = c)
      (same : Unmoved (c.on w.shared) t) :
      EntryMove p secrets task reqs i w (w.moved i t.server (.done t)) :=
    .ends t active same.server fun _ => known ▸ same.quiet
  unfold entryStep
  cases atPhase : w.phase i with
  | done c => exact .idle c atPhase
  | arrived c =>
    have active : ∀ c', w.phase i ≠ .done c' := by
      rw [atPhase]
      exact nofun
    cases isTask : task i with
    | login =>
      refine proceed_rule (loginFind_spec (reqs i) (c.on w.shared)) (failed _) ?_ ?_
      · exact fun t same => ends t c active (by rw [atPhase]; rfl) same
      · exact fun user t found => .finds c t user atPhase isTask found.1 found.2
    | logout =>
      refine proceed_rule (logoutFind_spec p (reqs i) (c.on w.shared)) (fun _ _ same => same) ?_ ?_
      · exact fun t server => .ends t active server (by rw [isTask]; exact nofun)
      · exact fun record t found => .spots c t record atPhase isTask found.1 found.2
  | found c user =>
    refine proceed_rule (recordFind_spec (reqs i) user (c.on w.shared)) (failed _) ?_ ?_
    · exact fun t same => ends t c (by rw [atPhase]; exact nofun) (by rw [atPhase]; rfl) same
    · rintro ⟨name, userAgentRecord⟩ t ⟨same, named, rfl⟩
      exact .compares c t user name atPhase same named
  | reading c user name userAgentRecord =>
    refine proceed_rule (recordWrite_spec secrets (reqs i) user name userAgentRecord
      (c.on w.shared)) (failed _) ?_ ?_
    · exact fun t same => ends t c (by rw [atPhase]; exact nofun) (by rw [atPhase]; rfl) same
    · exact fun branch t post =>
        .writes c t user name userAgentRecord branch atPhase post.1 post.2
  | written c user branch =>
    refine finish_rule (grantAgent_spec (reqs i) user branch (c.on w.shared))
      (fun _ _ never => never.elim) (fun _ never => never.elim) ?_
    exact fun t post => .grants c t user branch atPhase post.1 post.2
  | leaving c record =>
    refine finish_rule (logoutDestroy_spec (reqs i) record (c.on w.shared)) (fun _ _ same => same)
      ?_ ?_
    · rintro _ rfl
      exact ends _ c (by rw [atPhase]; exact nofun) (by rw [atPhase]; rfl) (.refl _)
    · exact fun t post => .destroys c t record atPhase post.1 post.2

section Runs

variable {p secrets task reqs} {start w : EntryWork ι} {log : List (Event ι (EntryWork ι))}

theorem entryStep_stepsAlone : StepsAlone (entryStep p secrets task reqs) := by
  intro i w j other
  have move := entryStep_move p secrets task reqs i w
  generalize entryStep p secrets task reqs i w = w' at move ⊢
  cases move with
  | idle => rfl
  | ends | finds | compares | writes | grants | spots | destroys =>
    exact w.moved_other other _ _

/-- Neither a login nor a logout writes the users. -/
theorem entryStep_users (i : ι) (w : EntryWork ι) :
    (entryStep p secrets task reqs i w).shared.users = w.shared.users := by
  have move := entryStep_move p secrets task reqs i w
  generalize entryStep p secrets task reqs i w = w' at move ⊢
  cases move with
  | idle => rfl
  | ends t _ server | grants _ t _ _ _ server | spots _ t _ _ _ server | destroys _ t _ _ _ server =>
    rw [Work.moved_shared, server]
  | finds _ t _ _ _ same | compares _ t _ _ _ same =>
    rw [Work.moved_shared, same.server, Ctx.on]
  | writes _ t _ _ _ _ _ _ written => rw [Work.moved_shared, written.others]

theorem users_of_reach (reach : Reach (entryStep p secrets task reqs) start log w) :
    w.shared.users = start.shared.users := by
  induction reach with
  | start => rfl
  | next i _ ih => exact (entryStep_users i _).trans ih

/-- The client has been sent on to a page. -/
def Ctx.Redirected (c : Ctx) : Prop := ∃ url, Response.redirect 302 url ∈ c.responses

/-- What a request knows in its phase: a login is not redirected before its end, and then with the
agent of the user that matches; what it has found, and what a logout has, stood in the tables when
it made its query. -/
def EntryKnows (p : Platform) (secrets : Secrets) (task : ι → EntryTask) (reqs : ι → Request)
    (users : List User) (log : List (Event ι (EntryWork ι))) (i : ι) : EntryPhase → Prop
  | .arrived c => task i = .login → ¬ c.Redirected
  | .found c user => task i = .login ∧ ¬ c.Redirected ∧ Contacted p (reqs i) users user
  | .reading c user _ userAgentRecord => task i = .login ∧ ¬ c.Redirected ∧
    Matches p (reqs i) users user ∧ ∃ e ∈ log, e.input = i ∧
      (∃ c, e.before.phase i = .found c user) ∧
      userAgentRecord = agentRow p e.before.shared.activities.rows user.id
  | .written c user branch => task i = .login ∧ ¬ c.Redirected ∧ Matches p (reqs i) users user ∧
    tokenRole secrets (loginToken p (reqs i)) = some branch.role ∧
    branch.page = rolePage branch.role
  | .leaving _ record => task i = .logout ∧ ∃ e ∈ log, e.input = i ∧
    ∃ c, e.before.phase i = .arrived c ∧ Spots p (reqs i) (c.on e.before.shared) record
  | .done c => task i = .login → ∀ url, Response.redirect 302 url ∈ c.responses →
    ∃ user role, Matches p (reqs i) users user ∧
      tokenRole secrets (loginToken p (reqs i)) = some role ∧
      Response.redirect 302 url = loginResponse p (reqs i) user role

omit [DecidableEq ι] in
theorem EntryKnows.later {users : List User} {i : ι} {phase : EntryPhase}
    (known : EntryKnows p secrets task reqs users log i phase) (e : Event ι (EntryWork ι)) :
    EntryKnows p secrets task reqs users (e :: log) i phase := by
  cases phase with
  | arrived | found | written | done => exact known
  | reading =>
    obtain ⟨isLogin, fresh, matched, old, member, rest⟩ := known
    exact ⟨isLogin, fresh, matched, old, List.mem_cons_of_mem _ member, rest⟩
  | leaving =>
    obtain ⟨isLogout, old, member, rest⟩ := known
    exact ⟨isLogout, old, List.mem_cons_of_mem _ member, rest⟩

omit [DecidableEq ι] in
/-- A login that is under way has not been redirected. -/
theorem EntryKnows.waiting {users : List User} {i : ι} {phase : EntryPhase}
    (known : EntryKnows p secrets task reqs users log i phase) (active : ∀ c, phase ≠ .done c)
    (isLogin : task i = .login) : ¬ phase.ctx.Redirected := by
  cases phase with
  | arrived => exact known isLogin
  | found | reading | written => exact known.2.1
  | leaving => cases isLogin.symm.trans known.1
  | done c => exact absurd rfl (active c)

omit [DecidableEq ι] in
/-- A redirected login is at its end, and has been given the agent of the user that matches. -/
theorem EntryKnows.admitted {users : List User} {i : ι} {phase : EntryPhase}
    (known : EntryKnows p secrets task reqs users log i phase) (isLogin : task i = .login)
    (redirected : phase.ctx.Redirected) : ∃ user role, Matches p (reqs i) users user ∧
      tokenRole secrets (loginToken p (reqs i)) = some role ∧
      loginResponse p (reqs i) user role ∈ phase.ctx.responses := by
  by_cases active : ∀ c, phase ≠ .done c
  · exact absurd redirected (known.waiting active isLogin)
  · obtain ⟨c, ended⟩ := not_forall.mp active
    cases not_not.mp ended
    obtain ⟨url, sent⟩ := redirected
    obtain ⟨user, role, matched, stands, same⟩ := known isLogin url sent
    exact ⟨user, role, matched, stands, same ▸ sent⟩

theorem Unmoved.redirected {c t : Ctx} (same : Unmoved c t) (given : t.Redirected) :
    c.Redirected := by
  obtain ⟨url, sent⟩ := given
  exact ⟨url, same.quiet url sent⟩

theorem entryKnows_step {i : ι}
    (known : EntryKnows p secrets task reqs w.shared.users.rows log i (w.phase i)) :
    EntryKnows p secrets task reqs w.shared.users.rows (⟨i, w⟩ :: log) i
      ((entryStep p secrets task reqs i w).phase i) := by
  have move := entryStep_move p secrets task reqs i w
  generalize entryStep p secrets task reqs i w = w' at move ⊢
  cases move with
  | idle => exact known.later _
  | ends t active server quiet =>
    rw [Work.moved_phase]
    intro isLogin url sent
    exact absurd ⟨url, quiet isLogin url sent⟩ (known.waiting active isLogin)
  | finds c t user isArrived isLogin same contacted =>
    rw [isArrived] at known
    rw [Work.moved_phase]
    exact ⟨isLogin, fun given => known isLogin (same.redirected given), contacted⟩
  | compares c t user name isFound same named =>
    rw [isFound] at known
    obtain ⟨isLogin, fresh, contacted⟩ := known
    rw [Work.moved_phase]
    exact ⟨isLogin, fun given => fresh (same.redirected given), contacted.matches named,
      ⟨i, w⟩, List.mem_cons_self, rfl, ⟨c, isFound⟩, rfl⟩
  | writes c t user name userAgentRecord branch reading responses written =>
    rw [reading] at known
    obtain ⟨isLogin, fresh, matched, _⟩ := known
    rw [Work.moved_phase]
    refine ⟨isLogin, ?_, matched, written.stands, written.page⟩
    rw [Ctx.Redirected, responses]
    exact fresh
  | grants c t user branch isWritten server answer =>
    rw [isWritten] at known
    obtain ⟨_, fresh, matched, stands, page⟩ := known
    rw [Work.moved_phase]
    intro _ url sent
    rw [answer, branchResponse_role (reqs i) user page] at sent
    rcases List.mem_append.mp sent with old | new
    · exact absurd ⟨url, old⟩ fresh
    · exact ⟨user, branch.role, matched, stands, List.mem_singleton.mp new⟩
  | spots c t record isArrived isLogout server spots =>
    rw [Work.moved_phase]
    exact ⟨isLogout, ⟨i, w⟩, List.mem_cons_self, rfl, c, isArrived, spots⟩
  | destroys c t record leaving =>
    rw [leaving] at known
    rw [Work.moved_phase]
    intro isLogin
    cases isLogin.symm.trans known.1

theorem knows_of_reach (arrived : ∀ i, ∃ c, start.phase i = .arrived c ∧ c.responses = [])
    (reach : Reach (entryStep p secrets task reqs) start log w) (i : ι) :
    EntryKnows p secrets task reqs start.shared.users.rows log i (w.phase i) := by
  refine phases_of_reach entryStep_stepsAlone (fun i => ?_)
    (fun e log i phase known => known.later e) (fun log w i previous known => ?_) reach i
  · obtain ⟨c, isArrived, unanswered⟩ := arrived i
    rw [isArrived]
    rintro _ ⟨url, sent⟩
    rw [unanswered] at sent
    cases sent
  · rw [← users_of_reach previous] at known ⊢
    exact entryKnows_step known

/-- A step enters a user into the list exactly when it redirects a login. -/
theorem entryStep_ledger {i : ι}
    (known : EntryKnows p secrets task reqs w.shared.users.rows log i (w.phase i)) :
    LedgerStep Server.allowedID (fun i phase => task i = .login ∧ phase.ctx.Redirected)
      (fun e id => ∃ user, Matches p (reqs e.input) w.shared.users.rows user ∧ user.id = id)
      i w (entryStep p secrets task reqs i w) := by
  have move := entryStep_move p secrets task reqs i w
  have next := entryKnows_step known
  generalize entryStep p secrets task reqs i w = w' at move next ⊢
  -- a login that is still under way afterwards was so before, and has been told nothing
  have waits {now later : EntryPhase} (same : w'.shared.allowedID = w.shared.allowedID)
      (atPhase : w.phase i = now) (atNext : w'.phase i = later) (before : ∀ c, now ≠ .done c)
      (after : ∀ c, later ≠ .done c) :
      LedgerStep Server.allowedID (fun i phase => task i = .login ∧ phase.ctx.Redirected)
        (fun e id => ∃ user, Matches p (reqs e.input) w.shared.users.rows user ∧ user.id = id)
        i w w' := by
    rw [← atPhase] at before
    rw [← atNext] at after
    refine .keeps same ⟨fun given => ?_, fun given => ?_⟩
    · exact absurd given.2 (next.waiting after given.1)
    · exact absurd given.2 (known.waiting before given.1)
  cases move with
  | idle => exact .keeps rfl Iff.rfl
  | ends t active server quiet =>
    have before := known.waiting active
    refine .keeps (by rw [Work.moved_shared, server]) ⟨fun given => ?_, fun given =>
      absurd given.2 (before given.1)⟩
    rw [Work.moved_phase] at given
    obtain ⟨isLogin, url, sent⟩ := given
    exact absurd ⟨url, quiet isLogin url sent⟩ (before isLogin)
  | finds c t user atPhase _ same | compares c t user name atPhase same =>
    have kept : t.server.allowedID = w.shared.allowedID := congrArg Server.allowedID same.server
    exact waits kept atPhase (w.moved_phase i _ _) nofun nofun
  | writes c t user name userAgentRecord branch atPhase _ written =>
    have kept : t.server.allowedID = w.shared.allowedID := by rw [written.others]
    exact waits kept atPhase (w.moved_phase i _ _) nofun nofun
  | spots c t record atPhase _ server =>
    have kept : t.server.allowedID = w.shared.allowedID := congrArg Server.allowedID server
    exact waits kept atPhase (w.moved_phase i _ _) nofun nofun
  | grants c t user branch atPhase server answer =>
    have waiting := known.waiting (by rw [atPhase]; exact nofun)
    rw [atPhase] at known
    obtain ⟨isLogin, _, matched, _⟩ := known
    refine .adds user.id (by rw [Work.moved_shared, server]) (fun given => waiting isLogin given.2)
      ⟨isLogin, ?_⟩ ⟨user, matched, rfl⟩
    rw [Work.moved_phase]
    exact ⟨_, answer ▸ List.mem_append_right _ (List.mem_singleton_self _)⟩
  | destroys c t record atPhase _ server =>
    rw [atPhase] at known
    refine .keeps (by rw [Work.moved_shared, server]) ⟨fun given => ?_, fun given => ?_⟩
    · cases given.1.symm.trans known.1
    · cases given.1.symm.trans known.1

/-- However logins and logouts interleave, the list of allowed users grows by one entry for each
login that is answered with a redirect, and by no other: the entry is the user that matches the
login, whose agent is in the answer. -/
theorem raced_logins_allowed
    (arrived : ∀ i, ∃ c, start.phase i = .arrived c ∧ c.responses = [])
    (reach : Reach (entryStep p secrets task reqs) start log w) :
    ∃ entries : List (ι × String),
      w.shared.allowedID = start.shared.allowedID ++ entries.map Prod.snd ∧
      (entries.map Prod.fst).Nodup ∧
      (∀ i, task i = .login ∧ (w.phase i).ctx.Redirected ↔ i ∈ entries.map Prod.fst) ∧
      ∀ entry ∈ entries, ∃ user role, user.id = entry.2 ∧
        Matches p (reqs entry.1) start.shared.users.rows user ∧
        tokenRole secrets (loginToken p (reqs entry.1)) = some role ∧
        loginResponse p (reqs entry.1) user role ∈ (w.phase entry.1).ctx.responses := by
  have silent (i : ι) : ¬ (task i = .login ∧ (start.phase i).ctx.Redirected) := by
    obtain ⟨c, isArrived, unanswered⟩ := arrived i
    rw [isArrived]
    rintro ⟨_, url, sent⟩
    change Response.redirect 302 url ∈ c.responses at sent
    rw [unanswered] at sent
    cases sent
  have steps (log : List (Event ι (EntryWork ι))) (w : EntryWork ι) (i : ι)
      (previous : Reach (entryStep p secrets task reqs) start log w) :
      LedgerStep Server.allowedID (fun i phase => task i = .login ∧ phase.ctx.Redirected)
        (fun e id => ∃ user, Matches p (reqs e.input) start.shared.users.rows user ∧ user.id = id)
        i w (entryStep p secrets task reqs i w) := by
    have known := knows_of_reach arrived previous i
    rw [← users_of_reach previous] at known ⊢
    exact entryStep_ledger known
  obtain ⟨entries, grown, once, told, labels⟩ :=
    ledger_of_reach entryStep_stepsAlone silent steps reach
  refine ⟨entries, grown, once, told, fun entry member => ?_⟩
  obtain ⟨e, _, own, user, matched, isUser⟩ := labels entry member
  obtain ⟨isLogin, redirected⟩ := (told entry.1).mpr (List.mem_map_of_mem member)
  obtain ⟨user', role, matched', stands, sent⟩ :=
    (knows_of_reach arrived reach entry.1).admitted isLogin redirected
  rw [own] at matched
  cases matched.unique matched'
  exact ⟨user, role, isUser, matched, stands, sent⟩

/-- The row that a login opens for its user, who had none in the step in which the login, having
found the user, made its query for the record. -/
def OpenedIn (p : Platform) (secrets : Secrets) (task : ι → EntryTask) (reqs : ι → Request)
    (users : List User) (log : List (Event ι (EntryWork ι))) (row : Activity) : Prop :=
  ∃ e ∈ log, task e.input = .login ∧ ∃ user role, Matches p (reqs e.input) users user ∧
    tokenRole secrets (loginToken p (reqs e.input)) = some role ∧
    (∃ c, e.before.phase e.input = .found c user) ∧
    agentRow p e.before.shared.activities.rows user.id = none ∧
    create p.toOrm ((reqs e.input).rowId 0)
      (("USERID", .str user.id) :: agentRecord p (reqs e.input) role) = some row

/-- The row that a logout has found and destroys. -/
def LeftIn (p : Platform) (task : ι → EntryTask) (reqs : ι → Request)
    (log : List (Event ι (EntryWork ι))) (row : Activity) : Prop :=
  ∃ e ∈ log, task e.input = .logout ∧ ∃ c, e.before.phase e.input = .arrived c ∧
    LogsOut p (reqs e.input) (c.on e.before.shared) row

omit [DecidableEq ι] in
theorem OpenedIn.later {users : List User} {row : Activity}
    (known : OpenedIn p secrets task reqs users log row) (e : Event ι (EntryWork ι)) :
    OpenedIn p secrets task reqs users (e :: log) row := by
  obtain ⟨old, member, rest⟩ := known
  exact ⟨old, List.mem_cons_of_mem _ member, rest⟩

omit [DecidableEq ι] in
theorem LeftIn.later {row : Activity} (known : LeftIn p task reqs log row)
    (e : Event ι (EntryWork ι)) : LeftIn p task reqs (e :: log) row := by
  obtain ⟨old, member, rest⟩ := known
  exact ⟨old, List.mem_cons_of_mem _ member, rest⟩

/-- What a step does to the activities: nothing, open a row, or destroy one. -/
theorem entryStep_activities {i : ι}
    (known : EntryKnows p secrets task reqs w.shared.users.rows log i (w.phase i)) :
    (entryStep p secrets task reqs i w).shared.activities = w.shared.activities ∨
    (∃ row, OpenedIn p secrets task reqs w.shared.users.rows log row ∧
      (entryStep p secrets task reqs i w).shared.activities.rows =
        w.shared.activities.rows ++ [row]) ∨
    ∃ record, (entryStep p secrets task reqs i w).shared.activities =
        w.shared.activities.destroy record ∧
      ∃ e ∈ log, task e.input = .logout ∧ ∃ c, e.before.phase e.input = .arrived c ∧
        LogsOut p (reqs e.input) (c.on e.before.shared) record := by
  have move := entryStep_move p secrets task reqs i w
  generalize entryStep p secrets task reqs i w = w' at move ⊢
  cases move with
  | idle => exact .inl rfl
  | ends t _ server | grants _ t _ _ _ server | spots _ t _ _ _ server =>
    exact .inl (by rw [Work.moved_shared, server])
  | finds _ t _ _ _ same | compares _ t _ _ _ same =>
    exact .inl (by rw [Work.moved_shared, same.server, Ctx.on])
  | writes c t user name userAgentRecord branch reading _ written =>
    rw [reading] at known
    obtain ⟨isLogin, _, matched, e, member, rfl, queries, isRow⟩ := known
    have recorded := written.recorded
    cases userAgentRecord with
    | some record => exact .inl recorded.2
    | none =>
      obtain ⟨_, row, made, inserted⟩ := recorded
      refine .inr (.inl ⟨row, ⟨e, member, isLogin, user, branch.role, matched, written.stands,
        queries, isRow.symm, made⟩, Table.insert_rows inserted⟩)
  | destroys c t record leaving works server =>
    rw [leaving] at known
    obtain ⟨isLogout, e, member, rfl, c', isArrived, spots⟩ := known
    refine .inr (.inr ⟨record, ?_, e, member, isLogout, c', isArrived, spots.logsOut p works⟩)
    rw [Work.moved_shared, server]

/-- The rows that are there and the rows of the start, each with what has become of it. -/
structure RecordsAccounted (p : Platform) (secrets : Secrets) (task : ι → EntryTask)
    (reqs : ι → Request) (start : EntryWork ι) (log : List (Event ι (EntryWork ι)))
    (w : EntryWork ι) : Prop where
  opened : ∀ row ∈ w.shared.activities.rows, row ∈ start.shared.activities.rows ∨
    OpenedIn p secrets task reqs start.shared.users.rows log row
  kept : ∀ row ∈ start.shared.activities.rows, row ∈ w.shared.activities.rows ∨
    LeftIn p task reqs log row
  seen : ∀ row ∈ start.shared.activities.rows, ∀ e ∈ log,
    row ∈ e.before.shared.activities.rows ∨ LeftIn p task reqs log row

theorem accounted_of_reach
    (arrived : ∀ i, ∃ c, start.phase i = .arrived c ∧ c.responses = [])
    (reach : Reach (entryStep p secrets task reqs) start log w) :
    RecordsAccounted p secrets task reqs start log w := by
  induction reach with
  | start => exact ⟨fun _ member => .inl member, fun _ member => .inl member, nofun⟩
  | @next log w i previous ih =>
    have known := knows_of_reach arrived previous i
    have users := users_of_reach previous
    rw [← users] at known
    have step := entryStep_activities known
    generalize entryStep p secrets task reqs i w = w' at step ⊢
    have seen : ∀ row ∈ start.shared.activities.rows, ∀ e ∈ (⟨i, w⟩ : Event ι (EntryWork ι)) :: log,
        row ∈ e.before.shared.activities.rows ∨ LeftIn p task reqs (⟨i, w⟩ :: log) row := by
      intro row inStart e member
      rcases List.mem_cons.mp member with rfl | old
      · exact (ih.kept row inStart).imp_right fun left => left.later _
      · exact (ih.seen row inStart e old).imp_right fun left => left.later _
    rcases step with same | ⟨row, opened, rows⟩ | ⟨record, destroyed, e, member, isLogout, c,
      isArrived, logsOut⟩
    · refine ⟨fun row member => ?_, fun row inStart => ?_, seen⟩
      · exact (ih.opened row (same ▸ member)).imp_right fun known => known.later _
      · rw [same]
        exact (ih.kept row inStart).imp_right fun left => left.later _
    · refine ⟨fun row' member => ?_, fun row' inStart => ?_, seen⟩
      · rw [rows] at member
        rcases List.mem_append.mp member with old | new
        · exact (ih.opened row' old).imp_right fun known => known.later _
        · cases List.mem_singleton.mp new
          exact .inr ((users ▸ opened).later _)
      · rw [rows]
        exact (ih.kept row' inStart).imp (fun old => List.mem_append_left _ old)
          fun left => left.later _
    · refine ⟨fun row member => ?_, fun row inStart => ?_, seen⟩
      · rw [destroyed] at member
        exact (ih.opened row (List.mem_of_mem_filter member)).imp_right fun known => known.later _
      · rw [destroyed]
        rcases ih.kept row inStart with old | left
        · by_cases own : row.id = record.id
          · -- the row was there when the logout made its query, unless it had gone before
            rcases ih.seen row inStart e member with there | left
            · obtain ⟨_, _, _, _, _, _, _, found, _⟩ := id logsOut
              cases Table.eq_of_id there (findOne_some p.toOrm found).1 own
              exact .inr ⟨e, List.mem_cons_of_mem _ member, isLogout, c, isArrived, logsOut⟩
            · exact .inr (left.later _)
          · exact .inl (List.mem_filter.mpr ⟨old, by simpa using own⟩)
        · exact .inr (left.later _)

/-- However logins and logouts interleave, every row of the activities was there at the start or
was opened by a login whose user had none, and a row of the start has gone only where a logout found
just that row. -/
theorem raced_records_accounted
    (arrived : ∀ i, ∃ c, start.phase i = .arrived c ∧ c.responses = [])
    (reach : Reach (entryStep p secrets task reqs) start log w) :
    (∀ row ∈ w.shared.activities.rows, row ∈ start.shared.activities.rows ∨
      OpenedIn p secrets task reqs start.shared.users.rows log row) ∧
    ∀ row ∈ start.shared.activities.rows, row ∈ w.shared.activities.rows ∨
      LeftIn p task reqs log row := by
  have known := accounted_of_reach arrived reach
  exact ⟨known.opened, known.kept⟩

end Runs

end Machine

section Samples

open Reference

/-- The member logs in from two devices at once. -/
def deviceLogin (second : Bool) : Request :=
  { loginWith "" with rowId := fun _ => if second then "row-2" else "row-1" }

def bothEntering : EntryWork Bool where
  shared := start
  phase _ := .arrived { server := start, session := {} }

/-- Each of the calls is made on both devices before the next one. -/
def bothEntered : EntryWork Bool :=
  [false, true, false, true, false, true, false, true].foldl
    (fun w second => entryStep platform keys (fun _ => .login) deviceLogin second w) bothEntering

theorem bothEntered_reach : ∃ log,
    Reach (entryStep platform keys (fun _ => .login) deviceLogin) bothEntering log bothEntered :=
  ⟨_, .next true (.next false (.next true (.next false (.next true (.next false (.next true
    (.next false .start)))))))⟩

/-- The member is allowed twice, once for each of her logins. -/
theorem raced_logins_both_allowed : ∃ entries : List (Bool × String),
    entries.map Prod.snd = [adaId, adaId] ∧ (entries.map Prod.fst).Nodup ∧
    ∀ entry ∈ entries, (bothEntered.phase entry.1).ctx.Redirected := by
  have ids : bothEntered.shared.allowedID = [adaId, adaId] := by decide +kernel
  obtain ⟨log, reach⟩ := bothEntered_reach
  obtain ⟨entries, grown, once, told, _⟩ := raced_logins_allowed (fun _ => ⟨_, rfl, rfl⟩) reach
  refine ⟨entries, grown.symm.trans ids, once, fun entry member => ?_⟩
  exact ((told entry.1).mpr (List.mem_map_of_mem member)).2

/-- Neither login finds a record of the member, so both open one. -/
theorem raced_logins_open_both : bothEntered.shared.activities.rows.length = 2 ∧ ∃ log,
    ∀ row ∈ bothEntered.shared.activities.rows,
      OpenedIn platform keys (fun _ => .login) deviceLogin [ada] log row := by
  obtain ⟨log, reach⟩ := bothEntered_reach
  refine ⟨by decide +kernel, log, fun row member => ?_⟩
  have known := (raced_records_accounted (fun _ => ⟨_, rfl, rfl⟩) reach).1 row member
  exact known.resolve_left List.not_mem_nil

end Samples

end ChurchManagement
