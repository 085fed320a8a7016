import ChurchManagement.Routes.Register
import ChurchManagement.Security.Gate

namespace ChurchManagement

open Js Effect Sequelize

/-- The schema of an update differs from that of a registration: `SEX` and `EMAIL` may be left
out, `CREATOR` and `UNIT` may not be empty, and there is no token. -/
def updateSchema : Joi.Schema :=
  [("DATE", { kind := .date, required := true }), ("NAME", { required := true }),
    ("SEX", { valid := some ["M", "F"] }), ("ADDRESS", { allowEmpty := true }),
    ("FOLLOWUP", { allowEmpty := true }),
    ("CAT", { valid := some ["NC", "FT", "OLD MEMBER"], required := true }),
    ("PHONENUMBER", { required := true }), ("PRAYER", { allowEmpty := true }),
    ("EMAIL", { email := true }), ("CREATOR", {}), ("UNIT", {})]

/-- The fields that `user.update(value)` goes through. -/
def entries : Value → List (String × Value)
  | .obj fields => fields
  | _ => []

/-- A path parameter of the matched route. -/
def param (params : List (String × String)) (name : String) : String :=
  ((params.find? fun entry => entry.1 == name).map Prod.snd).getD ""

section

variable (p : Platform)

def findUser (req : Request) (id : Value) : Act (Option User) := do
  db req .User .findByPk
  orThrow "Error: Argument passed to findByPk is invalid"
    (findByPk p.toOrm id (← get).server.users.rows)

/-- The identifier the member page is for: the session's, or else the agent's. -/
def memberId (req : Request) : Act Value := do
  let userId := (← get).session.userId
  if userId.truthy then pure userId
  else
    let agent ← orThrow "TypeError: Cannot read properties of null (reading 'getData')"
      (← getAgent p req)
    prop "userId" agent.data

/-- The member page of a user. -/
def showMember (req : Request) (userId : Value) : Act Unit := do
  match ← findUser p req userId with
  | none =>
    flash "error_msg" (.str "User not found.")
    respond (.send 404 (.str "User not found."))
  | some user =>
    setSession fun s =>
      { s with userId := .str user.id, unit := user.get .UNIT, isWorker := .bool false }
    let cond ← whereColumn p userId
    db req .Activity .findAll
    let userActivities := orderDesc [ActivityColumn.DATE, .TIME]
      ((← get).server.activities.rows.filter fun row => cond (row.get .USERID))
    render "memberIndex" [("user", user.toJSON),
      ("activities", .arr (userActivities.map Row.toJSON)), ("agent", p.query req.url "agent")]

def getMemberIndex (req : Request) : Act Unit :=
  attempt (do
    let userId ← memberId p req
    if !userId.truthy then
      flash "error_msg" (.str "User id not found, log in properly ")
      redirect "/login"
    else showMember p req userId)
  fun _ => do
    flash "error_msg" (.str "An error occurred while fetching user information.")
    respond (.send 500 (.str "An error occurred while fetching user information."))

def sendError (msg : String) : Act Unit := do
  flash "error_msg" (.str msg)
  respond (.send 200 (.obj [("error_msg", .str msg)]))

/-- The part of the activity handler behind the location check. -/
def recordActivity (req : Request) (userId activityType : String) : Act Unit := do
  let response ← prop "response" req.body
  let session := (← get).session
  let currentUser := session.userId
  if !currentUser.strictEq (.str userId) && !session.isWorker.truthy then
    sendError "invalid authentication you are not allowed to access this"
  else
    match ← findUser p req currentUser with
    | none =>
      flash "error_msg" (.str "User not found.")
      undeclared "error_msg"
    | some user =>
      db req .Activity .create
      let activity ← orThrow "SequelizeValidationError" (create p.toOrm (req.rowId 0)
        [("USERID", .str userId), ("PERFORMER", user.get .NAME),
          ("ACTIVITYTYPE", .str activityType), ("DATE", .str req.localeDate),
          ("TIME", .str req.localeTime), ("RESPONSE", response)])
      let table ← orThrow "SequelizeUniqueConstraintError" ((← get).server.activities.insert activity)
      setServer fun s => { s with activities := table }
      flash "success_msg" (.str "Activity created successfully")
      respond (.send 200 (.obj [("success_msg", .str "Activity created successfully")]))

def postCreateActivity (req : Request) (params : List (String × String)) : Act Unit :=
  attempt (do
    let location := p.query req.url "location"
    let latitude ← prop "latitude" location
    if latitude.truthy then
      if p.nearby latitude (location.propD "longitude") then
        flash "success_msg" (.str "Welcome To Church")
        recordActivity p req (param params "userId") (param params "activityType")
      else sendError "You're not in church, you can't mark attendance"
    else recordActivity p req (param params "userId") (param params "activityType"))
  fun _ => do
    flash "success_msg" (.str "An error occurred while creating activity.")
    undeclared "error_msg"

def getUpdateUser (req : Request) : Act Unit := do
  let userId := p.query req.url "userId"
  let notWorker := !(← get).session.isWorker.truthy
  if userId.truthy then render "update-user" [("userId", userId), ("notWorker", .bool notWorker)]
  else render "update-user"

def updateError (msg : String) : Act Unit := do
  flash "error_msg" (.str msg)
  render "update-user"

/-- The two refusals in front of an update. Neither returns, so both are followed by the rest of
the handler. -/
def updateRefusals (req : Request) (userId : String) : Act Unit := do
  match (p.validate updateSchema req.body).error with
  | some details => updateError (joinMessages details)
  | none => pure ()
  let session := (← get).session
  if !session.userId.strictEq (.str userId) && !session.isWorker.truthy then
    updateError "invalid authentication you are not allowed to access this"

/-- The part of the update handler that writes. A missing user is refused without a return too,
and the next line fails on it. -/
def applyUpdate (req : Request) (userId : String) (value : Value) : Act Unit := do
  match ← findUser p req (.str userId) with
  | none =>
    updateError "User not found"
    throw "TypeError: Cannot read properties of null (reading 'update')"
  | some user =>
    db req .User .update
    let user ← orThrow "SequelizeValidationError" (user.update p.toOrm (entries value))
    setServer fun s => { s with users := s.users.save user }
    flash "success_msg" (.str "User updated successfully")
    redirect "/memberIndex"

def postUpdateUser (req : Request) (params : List (String × String)) : Act Unit :=
  attempt (do
    let userId := param params "userId"
    updateRefusals p req userId
    applyUpdate p req userId (p.validate updateSchema req.body).value)
  fun _ => do
    flash "error_msg" (.str "Internal server error")
    respond (.send 500 (.obj [("error_msg", .str "Internal server error")]))

theorem findUser_spec (req : Request) (id : Value) (c : Ctx) :
    Ensures (findUser p req id) c
      (fun found t => t = c ∧ req.fault .User .findByPk = none ∧
        findByPk p.toOrm id c.server.users.rows = some found)
      (fun _ t => t = c ∧ (req.fault .User .findByPk = none →
        findByPk p.toOrm id c.server.users.rows = none)) := by
  unfold findUser
  simp only [ensures_bind, ensures_db, ensures_get, ensures_orThrow]
  exact ⟨fun _ fault => ⟨trivial, fun works => by cases fault.symm.trans works⟩,
    fun works => ⟨fun found looked => ⟨trivial, works, looked⟩, fun invalid => ⟨trivial, fun _ => invalid⟩⟩⟩

theorem memberId_spec (req : Request) (c : Ctx) :
    Ensures (memberId p req) c
      (fun userId t => t.core = c.core ∧ currentId p req c.session = some userId)
      (fun _ t => t.core = c.core) := by
  unfold memberId currentId
  simp only [ensures_bind, ensures_get, ensures_ite, ensures_pure]
  refine ⟨fun truthy => ⟨trivial, if_pos truthy⟩, fun falsy => ?_⟩
  refine (getAgent_spec p req c).mono ?_ (fun _ _ impossible => impossible.elim)
  intro agent t post
  obtain ⟨rfl, same⟩ := post
  simp only [ensures_orThrow, ensures_prop]
  refine ⟨fun agent found => ⟨fun userId read => ⟨same, ?_⟩, fun _ _ => same⟩, fun _ => same⟩
  rw [if_neg falsy, found, Option.bind_some, read]
  rfl

/-- The context after the member page of a user was prepared. -/
def Ctx.shown (user : User) (c : Ctx) : Ctx :=
  { c with session := { c.session with
    userId := .str user.id, unit := user.get .UNIT, isWorker := .bool false } }

theorem Ctx.core_shown {c c' : Ctx} (same : c'.core = c.core) (user : User) :
    (c'.shown user).core = (c.shown user).core := by
  refine Ctx.core_session same ?_
  have session := Ctx.session_of_core same
  simp_all [Session.core]

theorem showMember_spec (req : Request) (userId : Value) (c : Ctx) :
    Ensures (showMember p req userId) c
      (fun _ t => t.core = c.core ∨ ∃ user ∈ c.server.users.rows, req.fault .User .findByPk = none ∧
        userId = .str user.id ∧ t.core = (c.shown user).core)
      (fun _ t => t.core = c.core ∨ ∃ user ∈ c.server.users.rows, req.fault .User .findByPk = none ∧
        userId = .str user.id ∧ t.core = (c.shown user).core) := by
  unfold showMember
  rw [ensures_bind]
  refine (findUser_spec p req userId c).mono ?_ (fun _ _ failed => .inl (congrArg Ctx.core failed.1))
  intro found t post
  obtain ⟨rfl, reads, looked⟩ := post
  split
  · exact .inl rfl
  · rename_i user
    obtain ⟨member, key⟩ := findByPk_some p.toOrm looked
    simp only [ensures_bind, ensures_setSession, ensures_whereColumn, ensures_db, ensures_get,
      ensures_render]
    have done (c' : Ctx) (same : c'.core = (t.shown user).core) :
        c'.core = t.core ∨ ∃ user ∈ t.server.users.rows, req.fault .User .findByPk = none ∧
          userId = .str user.id ∧ c'.core = (t.shown user).core :=
      .inr ⟨user, member, reads, key, same⟩
    exact ⟨fun _ _ => ⟨fun _ _ => done _ rfl, fun _ => done _ rfl⟩, fun _ => done _ rfl⟩

/-- The member page makes the session that of the user it shows and takes the worker flag from
it; the user is the one the session names, unless it names none. -/
theorem getMemberIndex_spec (req : Request) (c : Ctx) :
    Ensures (getMemberIndex p req) c
      (fun _ t => t.core = c.core ∨ ∃ user ∈ c.server.users.rows,
        req.fault .User .findByPk = none ∧ (Value.str user.id).truthy = true ∧ currentId p req c.session = some (.str user.id) ∧
        t.core = (c.shown user).core)
      (fun _ _ => False) := by
  unfold getMemberIndex
  rw [ensures_attempt, ensures_bind]
  refine (memberId_spec p req c).mono ?_ (fun e t same => .inl same)
  intro userId t post
  obtain ⟨same, looks⟩ := post
  rw [ensures_ite]
  refine ⟨fun _ => .inl same, fun truthy => ?_⟩
  have outcome (t' : Ctx) (known : t'.core = t.core ∨ ∃ user ∈ t.server.users.rows,
      req.fault .User .findByPk = none ∧ userId = .str user.id ∧ t'.core = (t.shown user).core) :
      t'.core = c.core ∨ ∃ user ∈ c.server.users.rows, req.fault .User .findByPk = none ∧
        (Value.str user.id).truthy = true ∧ currentId p req c.session = some (.str user.id) ∧
        t'.core = (c.shown user).core := by
    rcases known with unchanged | ⟨user, member, reads, rfl, shown⟩
    · exact .inl (unchanged.trans same)
    · rw [Ctx.server_of_core same] at member
      exact .inr ⟨user, member, reads, by simpa using truthy, looks,
        shown.trans (Ctx.core_shown same user)⟩
  exact (showMember_spec p req userId t).mono (fun _ _ known => outcome _ known)
    (fun _ _ known => outcome _ known)

/-- The table with the row that the activity handler adds, and the check it passes before. -/
def Records (req : Request) (params : List (String × String)) (c : Ctx)
    (activities : Table ActivityColumn) : Prop :=
  (c.session.userId = .str (param params "userId") ∨ c.session.isWorker.truthy = true) ∧
    ∃ user response activity,
      findByPk p.toOrm c.session.userId c.server.users.rows = some (some user) ∧
      req.body.prop "response" = .ok response ∧
      create p.toOrm (req.rowId 0)
        [("USERID", .str (param params "userId")), ("PERFORMER", user.get .NAME),
          ("ACTIVITYTYPE", .str (param params "activityType")), ("DATE", .str req.localeDate),
          ("TIME", .str req.localeTime), ("RESPONSE", response)] = some activity ∧
      c.server.activities.insert activity = some activities

def Ctx.recorded (activities : Table ActivityColumn) (c : Ctx) : Ctx :=
  { c with server := { c.server with activities := activities } }

theorem recordActivity_spec (req : Request) (params : List (String × String)) (c : Ctx) :
    Ensures (recordActivity p req (param params "userId") (param params "activityType")) c
      (fun _ t => t.core = c.core ∨
        ∃ activities, Records p req params c activities ∧ t.core = (c.recorded activities).core)
      (fun _ t => t.core = c.core) := by
  unfold recordActivity
  simp only [ensures_bind, ensures_prop, ensures_get, ensures_ite]
  refine ⟨fun response read => ⟨fun _ => .inl rfl, fun passed => ?_⟩, fun _ _ => trivial⟩
  refine (findUser_spec p req c.session.userId c).mono ?_ (fun _ _ failed => congrArg Ctx.core failed.1)
  intro found t post
  obtain ⟨rfl, _, looked⟩ := post
  split
  · exact rfl
  · rename_i user
    simp only [ensures_bind, ensures_db, ensures_get, ensures_orThrow, ensures_setServer]
    refine ⟨fun _ _ => trivial, fun _ => ⟨fun activity made => ⟨fun activities inserted =>
      .inr ⟨activities, ⟨?_, user, response, activity, looked, read, made, inserted⟩, rfl⟩,
      fun _ => trivial⟩, fun _ => trivial⟩⟩
    by_cases own : t.session.userId.strictEq (.str (param params "userId")) = true
    · exact .inl (Value.strictEq_str_iff.mp own)
    · exact .inr (by simpa [own] using passed)

/-- Creating an activity adds at most one row, and every exception leaves the core alone. -/
theorem postCreateActivity_spec (req : Request) (params : List (String × String)) (c : Ctx) :
    Ensures (postCreateActivity p req params) c
      (fun _ t => t.core = c.core ∨
        ∃ activities, Records p req params c activities ∧ t.core = (c.recorded activities).core)
      (fun _ t => t.core = c.core) := by
  unfold postCreateActivity
  simp only [ensures_attempt, ensures_bind, ensures_prop, ensures_ite, ensures_flash,
    ensures_undeclared]
  exact ⟨fun _ _ => ⟨fun _ => ⟨fun _ => recordActivity_spec p req params (c.flashed _ _),
    fun _ => .inl rfl⟩, fun _ => recordActivity_spec p req params c⟩, fun _ _ => rfl⟩

theorem keeps_getUpdateUser (req : Request) : Keeps (Same Ctx.core) (getUpdateUser p req) :=
  keeps_bind keeps_get fun _ => keeps_ite (keeps_render _ _) (keeps_render _ _)

theorem updateError_spec (msg : String) (c : Ctx) :
    Ensures (updateError msg) c (fun _ t => t.core = c.core) (fun _ _ => False) := rfl

/-- The check that the update handler makes of the session. -/
def MayUpdate (session : Session) (userId : String) : Prop :=
  session.userId = .str userId ∨ session.isWorker.truthy = true

theorem refuses_update {session : Session} {userId : String} :
    (!session.userId.strictEq (.str userId) && !session.isWorker.truthy) = true ↔
      ¬ MayUpdate session userId := by
  simp [MayUpdate, ← Value.strictEq_str_iff]

/-- Both refusals return. -/
theorem updateRefusals_spec (req : Request) (userId : String) (c : Ctx) :
    Ensures (updateRefusals p req userId) c (fun _ t => t.core = c.core) (fun _ _ => False) := by
  have owner (t : Ctx) : Ensures (do
      let session := (← get).session
      if !session.userId.strictEq (.str userId) && !session.isWorker.truthy then
        updateError "invalid authentication you are not allowed to access this" : Act Unit) t
      (fun _ t' => t'.core = t.core) (fun _ _ => False) := by
    rw [ensures_bind, ensures_get, ensures_ite]
    exact ⟨fun _ => updateError_spec _ t, fun _ => rfl⟩
  unfold updateRefusals
  split
  · rw [ensures_bind]
    refine (updateError_spec _ c).mono (fun _ t same => ?_) (fun _ _ never => never.elim)
    exact (owner t).mono (fun _ _ same' => same'.trans same) (fun _ _ never => never.elim)
  · exact owner c

/-- The row that an update writes. Neither the verdict of the check nor the owner of the session
has a say in it. -/
def Updates (req : Request) (params : List (String × String)) (users : List User)
    (user' : User) : Prop :=
  req.fault .User .findByPk = none ∧ req.fault .User .update = none ∧
    ∃ user ∈ users, user.id = param params "userId" ∧
      user.update p.toOrm (entries (p.validate updateSchema req.body).value) = some user'

def Ctx.updated (user : User) (c : Ctx) : Ctx :=
  { c with server := { c.server with users := c.server.users.save user } }

theorem Ctx.core_updated {c c' : Ctx} (same : c'.core = c.core) (user : User) :
    (c'.updated user).core = (c.updated user).core := by
  have others : ({ c'.core with server := { c'.core.server with
      users := c'.core.server.users.save user } } : Ctx) =
      { c.core with server := { c.core.server with users := c.core.server.users.save user } } := by
    rw [same]
  exact others

theorem applyUpdate_spec (req : Request) (params : List (String × String)) (c : Ctx) :
    Ensures (applyUpdate p req (param params "userId") (p.validate updateSchema req.body).value) c
      (fun _ t => ∃ user, Updates p req params c.server.users.rows user ∧
        t.core = (c.updated user).core)
      (fun _ t => t.core = c.core ∧ ∀ user, ¬ Updates p req params c.server.users.rows user) := by
  obtain ⟨looked, valid, missing⟩ := findByPk_str p.toOrm (param params "userId") c.server.users.rows
  unfold applyUpdate
  rw [ensures_bind]
  refine (findUser_spec p req _ c).mono ?_ ?_
  · intro found t post
    obtain ⟨rfl, read, found_eq⟩ := post
    cases Option.some.inj (valid.symm.trans found_eq)
    split
    · refine ⟨rfl, ?_⟩
      rintro user' ⟨_, _, user, member, id, _⟩
      exact missing rfl user member id
    · rename_i user
      obtain ⟨member, key⟩ := findByPk_some p.toOrm valid
      have id : user.id = param params "userId" := (Value.str.inj key).symm
      simp only [ensures_bind, ensures_db, ensures_orThrow, ensures_setServer]
      refine ⟨fun _ fault => ⟨trivial, ?_⟩, fun works => ⟨fun user' written => ?_, fun rejected =>
        ⟨trivial, ?_⟩⟩⟩
      · rintro user' ⟨_, works, _⟩
        cases fault.symm.trans works
      · exact ⟨user', ⟨read, works, user, member, id, written⟩, rfl⟩
      · rintro user' ⟨_, _, other, present, same, written⟩
        cases Table.eq_of_id member present (id.trans same.symm)
        cases rejected.symm.trans written
  · intro _ t post
    obtain ⟨rfl, failed⟩ := post
    refine ⟨rfl, ?_⟩
    rintro user' ⟨read, _⟩
    cases valid.symm.trans (failed read)

/-- An update writes the row that it stands for, and nothing when there is none. -/
theorem postUpdateUser_spec (req : Request) (params : List (String × String)) (c : Ctx) :
    Ensures (postUpdateUser p req params) c
      (fun _ t => (∃ user, Updates p req params c.server.users.rows user ∧
          t.core = (c.updated user).core) ∨
        t.core = c.core ∧ ∀ user, ¬ Updates p req params c.server.users.rows user)
      (fun _ _ => False) := by
  unfold postUpdateUser
  rw [ensures_attempt, ensures_bind]
  refine (updateRefusals_spec p req (param params "userId") c).mono ?_ (fun _ _ never => never.elim)
  intro _ t same
  have server := Ctx.server_of_core same
  refine (applyUpdate_spec p req params t).mono ?_ ?_
  · intro _ t' post
    obtain ⟨user, updates, written⟩ := post
    rw [server] at updates
    exact .inl ⟨user, updates, written.trans (Ctx.core_updated same user)⟩
  · intro _ t' post
    obtain ⟨same', none⟩ := post
    rw [server] at none
    exact .inr ⟨same'.trans same, none⟩

end

end ChurchManagement
