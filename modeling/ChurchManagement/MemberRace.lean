import ChurchManagement.Sequelize.Merge
import ChurchManagement.UserTable

namespace ChurchManagement

open Js Effect Express Sequelize History

/-- The columns that the mapper writes when a row it has read is updated with some values: every
one whose cell differs from what it has read, and none that the values do not name. -/
structure ChangeTracking (orm : Orm) where
  writes : List (String × Value) → User → User → UserColumn → Bool
  changed : ∀ {values : List (String × Value)} {seen new : User},
    seen.update orm values = some new → ∀ col, new.get col ≠ seen.get col →
    writes values seen new col = true
  named : ∀ {values : List (String × Value)} {seen new : User} {col : UserColumn},
    writes values seen new col = true →
    Value.field (Model.declared col).name values ≠ .undefined

section Steps

variable (p : Platform)

/-- The activity handler from its check of the session to its query. It has answered the request
itself, or goes on with the response and the performer. -/
def performerFind (req : Request) (userId : String) : Act (Option (Value × User)) := do
  let response ← prop "response" req.body
  let session := (← get).session
  let currentUser := session.userId
  if !currentUser.strictEq (.str userId) && !session.isWorker.truthy then do
    sendError "invalid authentication you are not allowed to access this"
    pure none
  else
    match ← findUser p req currentUser with
    | none => do
      flash "error_msg" (.str "User not found.")
      undeclared "error_msg"
    | some user => pure (some (response, user))

/-- The activity handler up to and with its query. -/
def activityFind (req : Request) (params : List (String × String)) :
    Act (Option (Value × User)) := do
  let location := p.query req.url "location"
  let latitude ← prop "latitude" location
  if latitude.truthy then
    if p.nearby latitude (location.propD "longitude") then do
      flash "success_msg" (.str "Welcome To Church")
      performerFind p req (param params "userId")
    else do
      sendError "You're not in church, you can't mark attendance"
      pure none
  else performerFind p req (param params "userId")

/-- The activity handler from its insertion on. -/
def activityCreate (req : Request) (params : List (String × String)) (found : Value × User) :
    Act Unit := do
  db req .Activity .create
  let activity ← orThrow "SequelizeValidationError" (create p.toOrm (req.rowId 0)
    [("USERID", .str (param params "userId")), ("PERFORMER", found.2.get .NAME),
      ("ACTIVITYTYPE", .str (param params "activityType")), ("DATE", .str req.localeDate),
      ("TIME", .str req.localeTime), ("RESPONSE", found.1)])
  let table ← orThrow "SequelizeUniqueConstraintError" ((← get).server.activities.insert activity)
  setServer fun s => { s with activities := table }
  flash "success_msg" (.str "Activity created successfully")
  respond (.send 200 (.obj [("success_msg", .str "Activity created successfully")]))

/-- The catch of the activity handler. -/
def activityFailed (_ : String) : Act Unit := do
  flash "success_msg" (.str "An error occurred while creating activity.")
  undeclared "error_msg"

theorem postCreateActivity_steps (req : Request) (params : List (String × String)) :
    postCreateActivity p req params = attempt (do
      match ← activityFind p req params with
      | none => pure ()
      | some found => activityCreate p req params found) activityFailed := by
  have record : recordActivity p req (param params "userId") (param params "activityType") = (do
      match ← performerFind p req (param params "userId") with
      | none => pure ()
      | some found => activityCreate p req params found) := by
    unfold recordActivity performerFind
    rw [bind_assoc]
    refine bind_congr fun response => ?_
    rw [bind_assoc]
    refine bind_congr fun c => ?_
    dsimp only
    split
    · simp only [bind_assoc, pure_bind, bind_pure_unit]
    · rw [bind_assoc]
      refine bind_congr fun found => ?_
      cases found with
      | none => rfl
      | some user => simp only [pure_bind, activityCreate]
  unfold postCreateActivity activityFind
  congr 1
  rw [bind_assoc]
  refine bind_congr fun latitude => ?_
  split
  · split
    · simp only [bind_assoc, record]
    · simp only [bind_assoc, pure_bind, bind_pure_unit]
  · exact record

/-- The update handler up to and with its query. -/
def updateFind (req : Request) (params : List (String × String)) : Act User := do
  updateRefusals p req (param params "userId")
  match ← findUser p req (.str (param params "userId")) with
  | none => do
    updateError "User not found"
    throw "TypeError: Cannot read properties of null (reading 'update')"
  | some user => pure user

/-- The update handler from its write on. The row may have changed since it was read, and only the
columns that the mapper takes for changed are written. -/
def updateWrite (tracking : ChangeTracking p.toOrm) (req : Request) (seen : User) : Act Unit := do
  let values := entries (p.validate updateSchema req.body).value
  db req .User .update
  let user ← orThrow "SequelizeValidationError" (seen.update p.toOrm values)
  setServer fun s => { s with users := s.users.merge (tracking.writes values seen user) user }
  flash "success_msg" (.str "User updated successfully")
  redirect "/memberIndex"

/-- The catch of the update handler. -/
def updateFailed (_ : String) : Act Unit := do
  flash "error_msg" (.str "Internal server error")
  respond (.send 500 (.obj [("error_msg", .str "Internal server error")]))

variable {p}

theorem exec_setServer_bind {α : Type} (f : Server → Server) (k : Unit → Act α) (c : Ctx) :
    exec (setServer f >>= k) c = exec (k ()) { c with server := f c.server } :=
  exec_bind (setServer f) k c

/-- The write saves the new version where the row is as it was read. -/
theorem exec_updateWrite (tracking : ChangeTracking p.toOrm) (req : Request) {seen : User} {c : Ctx}
    (member : seen ∈ c.server.users.rows) :
    exec (updateWrite p tracking req seen) c = exec (do
      db req .User .update
      let user ← orThrow "SequelizeValidationError"
        (seen.update p.toOrm (entries (p.validate updateSchema req.body).value))
      setServer fun s => { s with users := s.users.save user }
      flash "success_msg" (.str "User updated successfully")
      redirect "/memberIndex") c := by
  unfold updateWrite
  cases fault : req.fault .User .update with
  | some e => simp only [db, fault, exec_throw_bind]
  | none =>
    cases written : seen.update p.toOrm (entries (p.validate updateSchema req.body).value) with
    | none => simp only [db, fault, orThrow, written, pure_bind, exec_throw_bind]
    | some user =>
      have same := Table.merge_of_mem member (write_id p.toOrm written).symm
        (tracking.changed written)
      simp only [db, fault, orThrow, written, pure_bind]
      rw [exec_setServer_bind, exec_setServer_bind, same]

theorem exec_postUpdateUser (tracking : ChangeTracking p.toOrm) (req : Request)
    (params : List (String × String)) (c : Ctx) :
    exec (postUpdateUser p req params) c =
      exec (attempt (updateFind p req params >>= updateWrite p tracking req) updateFailed) c := by
  have body (t : Ctx) : exec (applyUpdate p req (param params "userId")
      (p.validate updateSchema req.body).value) t = exec ((do
        match ← findUser p req (.str (param params "userId")) with
        | none => do
          updateError "User not found"
          throw "TypeError: Cannot read properties of null (reading 'update')"
        | some user => pure user) >>= updateWrite p tracking req) t := by
    unfold applyUpdate
    rw [bind_assoc, exec_bind, exec_bind]
    have spec := findUser_spec p req (.str (param params "userId")) t
    unfold Ensures at spec
    cases looked : exec (findUser p req (.str (param params "userId"))) t with
    | mk result t' =>
      rw [looked] at spec
      cases result with
      | error e => rfl
      | ok found =>
        obtain ⟨rfl, _, isFound⟩ := spec
        cases found with
        | none => rfl
        | some user =>
          exact (exec_updateWrite tracking req (findByPk_some p.toOrm isFound).1).symm
  have whole : exec (do
      updateRefusals p req (param params "userId")
      applyUpdate p req (param params "userId") (p.validate updateSchema req.body).value) c =
        exec (updateFind p req params >>= updateWrite p tracking req) c := by
    rw [updateFind, bind_assoc, exec_bind, exec_bind]
    simp only [body]
  unfold postUpdateUser updateFailed
  rw [exec_attempt, exec_attempt]
  dsimp only
  rw [whole]

end Steps

section Specs

variable (p : Platform) (req : Request) (params : List (String × String))

/-- The answer that says that an activity was recorded. -/
def created : Response := .send 200 (.obj [("success_msg", .str "Activity created successfully")])

def Ctx.Acknowledged (c : Ctx) : Prop := created ∈ c.responses

/-- Nothing that outlives the request was changed, and nothing was acknowledged. -/
def Uncommitted (c t : Ctx) : Prop := t.core = c.core ∧ (t.Acknowledged → c.Acknowledged)

theorem Uncommitted.refl (c : Ctx) : Uncommitted c c := ⟨rfl, id⟩

theorem Uncommitted.trans {a b c : Ctx} (first : Uncommitted a b) (second : Uncommitted b c) :
    Uncommitted a c :=
  ⟨second.1.trans first.1, fun given => first.2 (second.2 given)⟩

theorem acknowledged_other {r : Response} (other : created ≠ r) (c : Ctx)
    (given : (c.answered r).Acknowledged) : c.Acknowledged := by
  rcases List.mem_append.mp given with old | new
  · exact old
  · exact absurd (List.mem_singleton.mp new) other

theorem created_ne_error (msg : String) : created ≠ .send 200 (.obj [("error_msg", .str msg)]) := by
  intro same
  have entry := List.cons.inj (Value.obj.inj (Response.send.inj same).2)
  have key : "success_msg" = "error_msg" := congrArg Prod.fst entry.1
  exact absurd key (by decide)

theorem uncommitted_error (msg : String) (c : Ctx) :
    Uncommitted c ((c.flashed "error_msg" (.str msg)).answered
      (.send 200 (.obj [("error_msg", .str msg)]))) :=
  ⟨rfl, fun given => acknowledged_other (created_ne_error msg) _ given⟩

theorem updateError_uncommitted (msg : String) (c : Ctx) :
    Uncommitted c (exec (updateError msg) c).2 :=
  ⟨rfl, fun given => acknowledged_other (r := .render 200 "update-user" []) nofun _ given⟩

theorem updateRefusals_uncommitted (req : Request) (userId : String) (c : Ctx) :
    Ensures (updateRefusals p req userId) c (fun _ t => Uncommitted c t) (fun _ _ => False) := by
  have owner (t : Ctx) : Ensures (do
      let session := (← get).session
      if !session.userId.strictEq (.str userId) && !session.isWorker.truthy then
        updateError "invalid authentication you are not allowed to access this" : Act Unit) t
      (fun _ t' => Uncommitted t t') (fun _ _ => False) := by
    rw [ensures_bind, ensures_get, ensures_ite]
    exact ⟨fun _ => updateError_uncommitted _ t, fun _ => .refl t⟩
  unfold updateRefusals
  split
  · rw [ensures_bind]
    refine (owner (exec (updateError _) c).2).mono (fun _ t same => ?_) (fun _ _ never => never.elim)
    exact (updateError_uncommitted _ c).trans same
  · exact owner c

/-- What the activity handler has checked and read when it goes on to its insertion. -/
def Performs (c : Ctx) (found : Value × User) : Prop :=
  (c.session.userId = .str (param params "userId") ∨ c.session.isWorker.truthy = true) ∧
    findByPk p.toOrm c.session.userId c.server.users.rows = some (some found.2) ∧
    req.body.prop "response" = .ok found.1

theorem performerFind_spec (c : Ctx) :
    Ensures (performerFind p req (param params "userId")) c
      (fun found t => Uncommitted c t ∧ ∀ pair, found = some pair → Performs p req params c pair)
      (fun _ t => Uncommitted c t) := by
  unfold performerFind
  simp only [ensures_bind, ensures_prop, ensures_get, ensures_ite]
  refine ⟨fun response read => ⟨fun _ => ⟨uncommitted_error _ c, nofun⟩, fun passed => ?_⟩,
    fun _ _ => .refl c⟩
  refine (findUser_spec p req c.session.userId c).mono ?_ ?_
  rotate_left
  · rintro _ _ ⟨rfl, _⟩
    exact .refl _
  intro found t post
  obtain ⟨rfl, _, looked⟩ := post
  split
  · exact .refl t
  · refine ⟨.refl t, fun pair isPair => ?_⟩
    cases isPair
    refine ⟨?_, looked, read⟩
    by_cases own : t.session.userId.strictEq (.str (param params "userId")) = true
    · exact .inl (Value.strictEq_str_iff.mp own)
    · exact .inr (by simpa [own] using passed)

theorem activityFind_spec (c : Ctx) :
    Ensures (activityFind p req params) c
      (fun found t => Uncommitted c t ∧ ∀ pair, found = some pair → Performs p req params c pair)
      (fun _ t => Uncommitted c t) := by
  unfold activityFind
  simp only [ensures_bind, ensures_prop, ensures_ite, ensures_flash]
  exact ⟨fun _ _ => ⟨fun _ => ⟨fun _ => performerFind_spec p req params (c.flashed _ _),
    fun _ => ⟨uncommitted_error _ c, nofun⟩⟩, fun _ => performerFind_spec p req params c⟩,
    fun _ _ => .refl c⟩

/-- The row that the activity handler makes of what it has found. -/
def Makes (found : Value × User) (row : Activity) : Prop :=
  create p.toOrm (req.rowId 0)
    [("USERID", .str (param params "userId")), ("PERFORMER", found.2.get .NAME),
      ("ACTIVITYTYPE", .str (param params "activityType")), ("DATE", .str req.localeDate),
      ("TIME", .str req.localeTime), ("RESPONSE", found.1)] = some row

theorem activityCreate_spec (found : Value × User) (c : Ctx) :
    Ensures (attempt (activityCreate p req params found) activityFailed) c
      (fun _ t => t.Acknowledged ∧ ∃ row activities, Makes p req params found row ∧
        c.server.activities.insert row = some activities ∧ t.core = (c.recorded activities).core)
      (fun _ t => Uncommitted c t) := by
  unfold activityCreate activityFailed
  simp only [ensures_attempt, ensures_bind, ensures_db, ensures_get, ensures_orThrow,
    ensures_setServer, ensures_flash, ensures_undeclared]
  exact ⟨fun _ _ => .refl c, fun _ => ⟨fun row made => ⟨fun activities inserted =>
    ⟨List.mem_append_right _ (List.mem_singleton_self _), row, activities, made, inserted, rfl⟩,
    fun _ => .refl c⟩, fun _ => .refl c⟩⟩

theorem updateFailed_uncommitted (e : String) (c : Ctx) :
    Uncommitted c (exec (updateFailed e) c).2 :=
  ⟨rfl, fun given => acknowledged_other
    (r := .send 500 (.obj [("error_msg", .str "Internal server error")])) nofun _ given⟩

theorem updateFind_spec (c : Ctx) :
    Ensures (updateFind p req params) c
      (fun seen t => Uncommitted c t ∧ req.fault .User .findByPk = none ∧
        seen ∈ c.server.users.rows ∧ seen.id = param params "userId")
      (fun _ t => Uncommitted c t) := by
  unfold updateFind
  rw [ensures_bind]
  refine (updateRefusals_uncommitted p req (param params "userId") c).mono ?_
    (fun _ _ never => never.elim)
  intro _ t same
  rw [ensures_bind]
  refine (findUser_spec p req _ t).mono ?_ ?_
  · intro found t' post
    obtain ⟨rfl, reads, looked⟩ := post
    split
    · exact same.trans (updateError_uncommitted _ t')
    · obtain ⟨member, key⟩ := findByPk_some p.toOrm looked
      rw [Ctx.server_of_core same.1] at member
      exact ⟨same, reads, member, (Value.str.inj key).symm⟩
  · intro _ t' post
    rw [post.1]
    exact same

/-- The table after an update has written the columns that it takes for changed. -/
def WritesBack (tracking : ChangeTracking p.toOrm) (seen : User) (users users' : Table UserColumn) :
    Prop :=
  req.fault .User .update = none ∧ ∃ user,
    seen.update p.toOrm (entries (p.validate updateSchema req.body).value) = some user ∧
    users' = users.merge (tracking.writes (entries (p.validate updateSchema req.body).value) seen user)
      user

theorem updateWrite_spec (tracking : ChangeTracking p.toOrm) (seen : User) (c : Ctx) :
    Ensures (attempt (updateWrite p tracking req seen) updateFailed) c
      (fun _ t => (t.Acknowledged → c.Acknowledged) ∧ (t.core = c.core ∨
        ∃ users, WritesBack p req tracking seen c.server.users users ∧
          t.core = ({ c with server := { c.server with users := users } } : Ctx).core))
      (fun _ _ => False) := by
  unfold updateWrite updateFailed
  simp only [ensures_attempt, ensures_bind, ensures_db, ensures_orThrow, ensures_setServer,
    ensures_flash]
  have failed (t : Ctx) := acknowledged_other
    (r := .send 500 (.obj [("error_msg", .str "Internal server error")])) nofun t
  exact ⟨fun _ _ => ⟨failed _, .inl rfl⟩, fun works => ⟨fun user written =>
    ⟨acknowledged_other (r := .redirect 302 "/memberIndex") nofun _,
      .inr ⟨_, ⟨works, user, written, rfl⟩, rfl⟩⟩, fun _ => ⟨failed _, .inl rfl⟩⟩⟩

end Specs

/-- Which of the two handlers a request is for. -/
inductive MemberTask
  | create
  | update
  deriving DecidableEq

/-- How far a request has come: before its query, between its query and its write with what it has
read, or behind both. -/
inductive MemberPhase
  | arrived (c : Ctx)
  | performing (c : Ctx) (found : Value × User)
  | editing (c : Ctx) (seen : User)
  | done (c : Ctx)

/-- What the request knows so far. -/
def MemberPhase.ctx : MemberPhase → Ctx
  | .arrived c => c
  | .performing c _ => c
  | .editing c _ => c
  | .done c => c

/-- Requests that are handled at the same time, and the tables they share. -/
structure MemberWork (ι : Type) where
  users : Table UserColumn
  activities : Table ActivityColumn
  phase : ι → MemberPhase

/-- The context with the tables as they stand when a database step is taken. -/
def Ctx.facing (users : Table UserColumn) (activities : Table ActivityColumn) (c : Ctx) : Ctx :=
  { c with server := { c.server with users := users, activities := activities } }

section Machine

variable {ι : Type} [DecidableEq ι]

/-- The request goes on with a new phase, and others see the tables it has left. -/
def MemberWork.moved (s : MemberWork ι) (i : ι) (t : Ctx) (phase : Ctx → MemberPhase) :
    MemberWork ι where
  users := t.server.users
  activities := t.server.activities
  phase := Function.update s.phase i (phase t)

variable (p : Platform) (tracking : ChangeTracking p.toOrm) (task : ι → MemberTask)
  (reqs : ι → Request) (params : ι → List (String × String))

/-- One database step of one request. -/
def memberStep (i : ι) (s : MemberWork ι) : MemberWork ι :=
  match s.phase i with
  | .arrived c =>
    match task i with
    | .create =>
      match exec (activityFind p (reqs i) (params i)) (c.facing s.users s.activities) with
      | (.ok none, t) => s.moved i t .done
      | (.ok (some found), t) => s.moved i t (.performing · found)
      | (.error e, t) => s.moved i (exec (activityFailed e) t).2 .done
    | .update =>
      match exec (updateFind p (reqs i) (params i)) (c.facing s.users s.activities) with
      | (.ok seen, t) => s.moved i t (.editing · seen)
      | (.error e, t) => s.moved i (exec (updateFailed e) t).2 .done
  | .performing c found =>
    s.moved i (exec (attempt (activityCreate p (reqs i) (params i) found) activityFailed)
      (c.facing s.users s.activities)).2 .done
  | .editing c seen =>
    s.moved i (exec (attempt (updateWrite p tracking (reqs i) seen) updateFailed)
      (c.facing s.users s.activities)).2 .done
  | .done _ => s

/-- The handler of a task. -/
def memberHandler (i : ι) : Act Unit :=
  match task i with
  | .create => postCreateActivity p (reqs i) (params i)
  | .update => postUpdateUser p (reqs i) (params i)

/-- Two steps of one request without a step of another in between are its handler. -/
theorem memberStep_alone {i : ι} {s : MemberWork ι} {c : Ctx} (arrived : s.phase i = .arrived c) :
    memberStep p tracking task reqs params i (memberStep p tracking task reqs params i s) =
      s.moved i (exec (memberHandler p task reqs params i) (c.facing s.users s.activities)).2
        .done := by
  conv_lhs => rw [memberStep.eq_def p tracking task reqs params i s, arrived]
  unfold memberHandler
  simp only
  cases task i with
  | create =>
    rw [postCreateActivity_steps, exec_attempt, exec_bind]
    simp only
    cases looked : exec (activityFind p (reqs i) (params i)) (c.facing s.users s.activities) with
    | mk result t =>
      cases result with
      | error e => simp [memberStep, MemberWork.moved]
      | ok found =>
        cases found with
        | none => simp [memberStep, MemberWork.moved]
        | some found =>
          have same : t.facing t.server.users t.server.activities = t := rfl
          simp only [memberStep, MemberWork.moved, Function.update_self, same, exec_attempt]
          cases exec (activityCreate p (reqs i) (params i) found) t with
          | mk result t' => cases result <;> simp
  | update =>
    rw [exec_postUpdateUser tracking, exec_attempt, exec_bind]
    simp only
    cases looked : exec (updateFind p (reqs i) (params i)) (c.facing s.users s.activities) with
    | mk result t =>
      cases result with
      | error e => simp [memberStep, MemberWork.moved]
      | ok seen =>
        have same : t.facing t.server.users t.server.activities = t := rfl
        simp only [memberStep, MemberWork.moved, Function.update_self, same, exec_attempt]
        cases exec (updateWrite p tracking (reqs i) seen) t with
        | mk result t' => cases result <;> simp

/-- What a step can do: come to an end without a write, go on with what it has read, add a row,
or write some columns of one. -/
inductive MemberMove (i : ι) (s : MemberWork ι) : MemberWork ι → Prop
  | idle : MemberMove i s s
  | ends (t : Ctx) (active : ∀ c, s.phase i ≠ .done c) (users : t.server.users = s.users)
      (activities : t.server.activities = s.activities)
      (owed : t.Acknowledged → (s.phase i).ctx.Acknowledged) :
      MemberMove i s (s.moved i t .done)
  | performs (c t : Ctx) (found : Value × User) (arrived : s.phase i = .arrived c)
      (isCreate : task i = .create) (users : t.server.users = s.users)
      (activities : t.server.activities = s.activities) (owed : t.Acknowledged → c.Acknowledged)
      (performs : Performs p (reqs i) (params i) (c.facing s.users s.activities) found) :
      MemberMove i s (s.moved i t (.performing · found))
  | reads (c t : Ctx) (seen : User) (arrived : s.phase i = .arrived c)
      (isUpdate : task i = .update) (users : t.server.users = s.users)
      (activities : t.server.activities = s.activities) (owed : t.Acknowledged → c.Acknowledged)
      (answered : (reqs i).fault .User .findByPk = none) (member : seen ∈ s.users.rows)
      (id : seen.id = param (params i) "userId") : MemberMove i s (s.moved i t (.editing · seen))
  | adds (c t : Ctx) (found : Value × User) (row : Activity)
      (performing : s.phase i = .performing c found) (users : t.server.users = s.users)
      (acknowledged : t.Acknowledged) (makes : Makes p (reqs i) (params i) found row)
      (inserted : s.activities.insert row = some t.server.activities) :
      MemberMove i s (s.moved i t .done)
  | writes (c t : Ctx) (seen : User) (editing : s.phase i = .editing c seen)
      (activities : t.server.activities = s.activities) (owed : t.Acknowledged → c.Acknowledged)
      (written : WritesBack p (reqs i) tracking seen s.users t.server.users) :
      MemberMove i s (s.moved i t .done)

theorem memberStep_move (i : ι) (s : MemberWork ι) :
    MemberMove p tracking task reqs params i s (memberStep p tracking task reqs params i s) := by
  have users {t c : Ctx} (same : t.core = (c.facing s.users s.activities).core) :
      t.server.users = s.users := congrArg Server.users (Ctx.server_of_core same)
  have activities {t c : Ctx} (same : t.core = (c.facing s.users s.activities).core) :
      t.server.activities = s.activities := congrArg Server.activities (Ctx.server_of_core same)
  have left (t c : Ctx) (atPhase : ∀ c', s.phase i ≠ .done c') (known : (s.phase i).ctx = c)
      (same : Uncommitted (c.facing s.users s.activities) t) :
      MemberMove p tracking task reqs params i s (s.moved i t .done) :=
    .ends t atPhase (users same.1) (activities same.1) (known ▸ same.2)
  cases atPhase : s.phase i with
  | done c =>
    simp only [memberStep, atPhase]
    exact .idle
  | arrived c =>
    have active : ∀ c', s.phase i ≠ .done c' := by
      rw [atPhase]
      exact nofun
    have known : (s.phase i).ctx = c := by rw [atPhase]; rfl
    simp only [memberStep, atPhase]
    cases isTask : task i with
    | create =>
      have spec := activityFind_spec p (reqs i) (params i) (c.facing s.users s.activities)
      unfold Ensures at spec
      simp only
      cases looked : exec (activityFind p (reqs i) (params i)) (c.facing s.users s.activities) with
      | mk result t =>
        rw [looked] at spec
        cases result with
        | error e => exact left (exec (activityFailed e) t).2 c active known spec
        | ok found =>
          obtain ⟨same, performs⟩ := spec
          cases found with
          | none => exact left t c active known same
          | some found =>
            exact .performs c t found atPhase isTask (users same.1) (activities same.1) same.2
              (performs found rfl)
    | update =>
      have spec := updateFind_spec p (reqs i) (params i) (c.facing s.users s.activities)
      unfold Ensures at spec
      simp only
      cases looked : exec (updateFind p (reqs i) (params i)) (c.facing s.users s.activities) with
      | mk result t =>
        rw [looked] at spec
        cases result with
        | error e =>
          exact left (exec (updateFailed e) t).2 c active known (spec.trans (updateFailed_uncommitted e t))
        | ok seen =>
          obtain ⟨same, answered, member, id⟩ := spec
          exact .reads c t seen atPhase isTask (users same.1) (activities same.1) same.2 answered
            member id
  | performing c found =>
    simp only [memberStep, atPhase]
    have spec := activityCreate_spec p (reqs i) (params i) found (c.facing s.users s.activities)
    unfold Ensures at spec
    cases ended : exec (attempt (activityCreate p (reqs i) (params i) found) activityFailed)
        (c.facing s.users s.activities) with
    | mk result t =>
      rw [ended] at spec
      cases result with
      | error e => exact left t c (by rw [atPhase]; exact nofun) (by rw [atPhase]; rfl) spec
      | ok _ =>
        obtain ⟨acknowledged, row, table, makes, inserted, final⟩ := spec
        have server := Ctx.server_of_core final
        have same : t.server.activities = table := congrArg Server.activities server
        exact .adds c t found row atPhase (congrArg Server.users server) acknowledged makes
          (same ▸ inserted)
  | editing c seen =>
    simp only [memberStep, atPhase]
    have spec := updateWrite_spec p (reqs i) tracking seen (c.facing s.users s.activities)
    unfold Ensures at spec
    cases ended : exec (attempt (updateWrite p tracking (reqs i) seen) updateFailed)
        (c.facing s.users s.activities) with
    | mk result t =>
      rw [ended] at spec
      cases result with
      | error e => exact spec.elim
      | ok _ =>
        obtain ⟨owed, same | ⟨table, written, final⟩⟩ := spec
        · exact left t c (by rw [atPhase]; exact nofun) (by rw [atPhase]; rfl) ⟨same, owed⟩
        · have server := Ctx.server_of_core final
          have same : t.server.users = table := congrArg Server.users server
          exact .writes c t seen atPhase (congrArg Server.activities server) owed (same ▸ written)

section Runs

variable {p tracking task reqs params} {start s : MemberWork ι} {log : List (Event ι (MemberWork ι))}

theorem MemberWork.phase_self (s : MemberWork ι) (i : ι) (t : Ctx) (phase : Ctx → MemberPhase) :
    (s.moved i t phase).phase i = phase t := Function.update_self _ _ _

theorem MemberWork.phase_other {s : MemberWork ι} {i j : ι} (other : j ≠ i) (t : Ctx)
    (phase : Ctx → MemberPhase) : (s.moved i t phase).phase j = s.phase j :=
  Function.update_of_ne other _ _

theorem MemberWork.phase_moved {s : MemberWork ι} {i j : ι} {t : Ctx} {phase : Ctx → MemberPhase}
    {now : MemberPhase} (isNow : (s.moved i t phase).phase j = now) :
    j = i ∧ phase t = now ∨ j ≠ i ∧ s.phase j = now := by
  by_cases own : j = i
  · subst own
    exact .inl ⟨rfl, (s.phase_self j t phase).symm.trans isNow⟩
  · exact .inr ⟨own, (MemberWork.phase_other own t phase).symm.trans isNow⟩

/-- The request made its query in an earlier step and went on with what it found there. -/
def FoundIn (p : Platform) (task : ι → MemberTask) (reqs : ι → Request)
    (params : ι → List (String × String)) (log : List (Event ι (MemberWork ι))) (s : MemberWork ι)
    (i : ι) (found : Value × User) : Prop :=
  task i = .create ∧ ∃ e ∈ log, e.input = i ∧ e.before.activities.rows ⊆ s.activities.rows ∧
    ∃ c, e.before.phase i = .arrived c ∧
      Performs p (reqs i) (params i) (c.facing e.before.users e.before.activities) found

omit [DecidableEq ι] in
theorem FoundIn.later {i : ι} {found : Value × User} {s' : MemberWork ι}
    (known : FoundIn p task reqs params log s i found) (e : Event ι (MemberWork ι))
    (grows : s.activities.rows ⊆ s'.activities.rows) :
    FoundIn p task reqs params (e :: log) s' i found := by
  obtain ⟨isCreate, old, member, isOwn, present, rest⟩ := known
  exact ⟨isCreate, old, List.mem_cons_of_mem _ member, isOwn, List.Subset.trans present grows, rest⟩

/-- The row is the one that the handler alone would have added when the request made its query. -/
def AsAlone (p : Platform) (task : ι → MemberTask) (reqs : ι → Request)
    (params : ι → List (String × String)) (log : List (Event ι (MemberWork ι)))
    (entry : ι × Activity) : Prop :=
  task entry.1 = .create ∧ ∃ e ∈ log, e.input = entry.1 ∧ ∃ c activities,
    e.before.phase entry.1 = .arrived c ∧
    Records p (reqs entry.1) (params entry.1) (c.facing e.before.users e.before.activities)
      activities ∧
    activities.rows = e.before.activities.rows ++ [entry.2]

omit [DecidableEq ι] in
theorem AsAlone.later {entry : ι × Activity} (known : AsAlone p task reqs params log entry)
    (e : Event ι (MemberWork ι)) : AsAlone p task reqs params (e :: log) entry := by
  obtain ⟨isCreate, old, member, rest⟩ := known
  exact ⟨isCreate, old, List.mem_cons_of_mem _ member, rest⟩

omit [DecidableEq ι] in
/-- A row that is new now was new at the time of the query too. -/
theorem FoundIn.alone {i : ι} {found : Value × User} {row : Activity}
    (known : FoundIn p task reqs params log s i found) (makes : Makes p (reqs i) (params i) found row)
    (fresh : row.id ∉ s.activities.rows.map Row.id) :
    AsAlone p task reqs params log (i, row) := by
  obtain ⟨isCreate, e, member, isOwn, present, c, isArrived, owner, looked, response⟩ := known
  have before : row.id ∉ e.before.activities.rows.map Row.id :=
    fun old => fresh (List.map_subset Row.id present old)
  obtain ⟨activities, inserted⟩ := Table.insert_of_fresh before
  exact ⟨isCreate, e, member, isOwn, c, activities, isArrived,
    ⟨owner, found.2, found.1, row, looked, response, makes, inserted⟩, Table.insert_rows inserted⟩

/-- The rows that have been added, each with the request that has added it. -/
structure Added (p : Platform) (task : ι → MemberTask) (reqs : ι → Request)
    (params : ι → List (String × String)) (start : MemberWork ι)
    (log : List (Event ι (MemberWork ι))) (s : MemberWork ι) (added : List (ι × Activity)) :
    Prop where
  rows : s.activities.rows = start.activities.rows ++ added.map Prod.snd
  once : (added.map Prod.fst).Nodup
  ended : ∀ entry ∈ added, ∃ c, s.phase entry.1 = .done c
  alone : ∀ entry ∈ added, AsAlone p task reqs params log entry
  acknowledged : ∀ i, (s.phase i).ctx.Acknowledged ↔ i ∈ added.map Prod.fst

omit [DecidableEq ι] in
theorem Added.active {added : List (ι × Activity)} {i : ι}
    (known : Added p task reqs params start log s added) (active : ∀ c, s.phase i ≠ .done c) :
    i ∉ added.map Prod.fst := by
  intro member
  obtain ⟨entry, inAdded, rfl⟩ := List.mem_map.mp member
  obtain ⟨c, isDone⟩ := known.ended entry inAdded
  exact active c isDone

/-- A step that adds no row acknowledges none. -/
theorem Added.keep {added : List (ι × Activity)} {i : ι} {t : Ctx} {phase : Ctx → MemberPhase}
    (known : Added p task reqs params start log s added) (e : Event ι (MemberWork ι))
    (active : ∀ c, s.phase i ≠ .done c) (activities : t.server.activities = s.activities)
    (isCtx : (phase t).ctx = t) (owed : t.Acknowledged → (s.phase i).ctx.Acknowledged) :
    Added p task reqs params start (e :: log) (s.moved i t phase) added where
  rows := by
    change t.server.activities.rows = _
    rw [activities]
    exact known.rows
  once := known.once
  ended entry member := by
    have other : entry.1 ≠ i := fun own =>
      known.active active (own ▸ List.mem_map_of_mem member)
    rw [MemberWork.phase_other other]
    exact known.ended entry member
  alone entry member := (known.alone entry member).later e
  acknowledged j := by
    by_cases own : j = i
    · rw [own, MemberWork.phase_self, isCtx]
      refine ⟨fun given => (known.acknowledged i).mp (owed given), fun member => ?_⟩
      exact absurd member (known.active active)
    · rw [MemberWork.phase_other own]
      exact known.acknowledged j

theorem Added.add {added : List (ι × Activity)} {i : ι} {c t : Ctx} {found : Value × User}
    {row : Activity} (known : Added p task reqs params start log s added)
    (e : Event ι (MemberWork ι)) (performing : s.phase i = .performing c found)
    (isFound : FoundIn p task reqs params log s i found) (acknowledged : t.Acknowledged)
    (makes : Makes p (reqs i) (params i) found row)
    (inserted : s.activities.insert row = some t.server.activities) :
    Added p task reqs params start (e :: log) (s.moved i t .done) (added ++ [(i, row)]) := by
  have active : ∀ c, s.phase i ≠ .done c := by
    rw [performing]
    exact nofun
  refine ⟨?_, ?_, fun entry member => ?_, fun entry member => ?_, fun j => ?_⟩
  · change t.server.activities.rows = _
    rw [Table.insert_rows inserted, known.rows, List.map_append, List.append_assoc]
    rfl
  · rw [List.map_append, List.nodup_append]
    refine ⟨known.once, List.nodup_singleton _, fun j member j' single same => ?_⟩
    have own : j = i := same.trans (List.mem_singleton.mp single)
    exact known.active active (own ▸ member)
  · by_cases own : entry.1 = i
    · rw [own, MemberWork.phase_self]
      exact ⟨t, rfl⟩
    · rw [MemberWork.phase_other own]
      rcases List.mem_append.mp member with old | new
      · exact known.ended entry old
      · cases List.mem_singleton.mp new
        exact absurd rfl own
  · rcases List.mem_append.mp member with old | new
    · exact (known.alone entry old).later e
    · cases List.mem_singleton.mp new
      exact (isFound.alone makes (Table.insert_fresh inserted)).later e
  · rw [List.map_append, List.mem_append]
    by_cases own : j = i
    · rw [own, MemberWork.phase_self]
      exact ⟨fun _ => .inr (List.mem_singleton_self i), fun _ => acknowledged⟩
    · rw [MemberWork.phase_other own, known.acknowledged j]
      exact ⟨.inl, fun member => member.resolve_right fun new => own (List.mem_singleton.mp new)⟩

/-- Along a run, the rows that were added are known, and so is what the requests between their
query and their insertion have found. -/
theorem added_of_reach (arrived : ∀ i, ∃ c, start.phase i = .arrived c ∧ c.responses = [])
    (reach : Reach (memberStep p tracking task reqs params) start log s) :
    (∃ added, Added p task reqs params start log s added) ∧
    ∀ i c found, s.phase i = .performing c found → FoundIn p task reqs params log s i found := by
  induction reach with
  | start =>
    refine ⟨⟨[], by simp, List.nodup_nil, nofun, nofun, fun i => ?_⟩, fun i c found performing => ?_⟩
    · obtain ⟨c, isArrived, unanswered⟩ := arrived i
      rw [isArrived]
      change created ∈ c.responses ↔ _
      rw [unanswered]
      exact ⟨nofun, nofun⟩
    · obtain ⟨c', isArrived, _⟩ := arrived i
      rw [isArrived] at performing
      cases performing
  | @next log s i previous ih =>
    obtain ⟨⟨added, known⟩, waiting⟩ := ih
    -- the others stay where they are, and the rows they have seen stay too
    have others {t : Ctx} {phase : Ctx → MemberPhase} {j : ι} {c : Ctx} {found : Value × User}
        (grows : s.activities.rows ⊆ t.server.activities.rows)
        (now : (s.moved i t phase).phase j = .performing c found)
        (own : phase t = .performing c found →
          FoundIn p task reqs params (⟨i, s⟩ :: log) (s.moved i t phase) i found) :
        FoundIn p task reqs params (⟨i, s⟩ :: log) (s.moved i t phase) j found := by
      rcases MemberWork.phase_moved now with ⟨rfl, same⟩ | ⟨_, before⟩
      · exact own same
      · exact (waiting j c found before).later _ grows
    have kept {t : Ctx} (activities : t.server.activities = s.activities) :
        s.activities.rows ⊆ t.server.activities.rows := activities ▸ List.Subset.refl _
    have move := memberStep_move p tracking task reqs params i s
    generalize memberStep p tracking task reqs params i s = s' at move ⊢
    cases move with
    | idle =>
      refine ⟨⟨added, known.rows, known.once, known.ended, fun entry member =>
        (known.alone entry member).later _, known.acknowledged⟩, fun j c found performing => ?_⟩
      exact (waiting j c found performing).later _ (List.Subset.refl _)
    | ends t active users activities owed =>
      exact ⟨⟨added, known.keep _ active activities rfl owed⟩,
        fun j c found now => others (kept activities) now nofun⟩
    | performs c t found isArrived isCreate users activities owed performs =>
      refine ⟨⟨added, known.keep _ (by rw [isArrived]; exact nofun) activities rfl
        (by rw [isArrived]; exact owed)⟩, fun j c' found' now =>
        others (kept activities) now fun same => ?_⟩
      cases same
      exact ⟨isCreate, ⟨i, s⟩, List.mem_cons_self, rfl, kept activities, c, isArrived, performs⟩
    | reads c t seen isArrived isUpdate users activities owed answered member id =>
      exact ⟨⟨added, known.keep _ (by rw [isArrived]; exact nofun) activities rfl
        (by rw [isArrived]; exact owed)⟩, fun j c' found now => others (kept activities) now nofun⟩
    | adds c t found row performing users acknowledged makes inserted =>
      have grows : s.activities.rows ⊆ t.server.activities.rows := by
        rw [Table.insert_rows inserted]
        exact List.subset_append_left _ _
      exact ⟨⟨_, known.add _ performing (waiting i c found performing) acknowledged makes inserted⟩,
        fun j c' found' now => others grows now nofun⟩
    | writes c t seen editing activities owed written =>
      exact ⟨⟨added, known.keep _ (by rw [editing]; exact nofun) activities rfl
        (by rw [editing]; exact owed)⟩, fun j c' found now => others (kept activities) now nofun⟩

/-- However the steps of the requests interleave, a request is told that its activity was recorded
exactly when the table has got a row of it, no request has two, and the row is the one that the
handler alone would have added when the request made its query. -/
theorem acknowledged_activities_recorded
    (arrived : ∀ i, ∃ c, start.phase i = .arrived c ∧ c.responses = [])
    (reach : Reach (memberStep p tracking task reqs params) start log s) :
    ∃ added : List (ι × Activity),
      s.activities.rows = start.activities.rows ++ added.map Prod.snd ∧
      (added.map Prod.fst).Nodup ∧
      (∀ i, (s.phase i).ctx.Acknowledged ↔ i ∈ added.map Prod.fst) ∧
      ∀ entry ∈ added, AsAlone p task reqs params log entry := by
  obtain ⟨⟨added, known⟩, _⟩ := added_of_reach arrived reach
  exact ⟨added, known.rows, known.once, known.acknowledged, known.alone⟩

/-- What the requests between their query and their write have read. -/
theorem editing_of_reach (arrived : ∀ i, ∃ c, start.phase i = .arrived c)
    (reach : Reach (memberStep p tracking task reqs params) start log s) :
    ∀ i c seen, s.phase i = .editing c seen → task i = .update ∧
      (reqs i).fault .User .findByPk = none ∧ seen.id = param (params i) "userId" := by
  induction reach with
  | start =>
    intro i c seen editing
    obtain ⟨c', isArrived⟩ := arrived i
    rw [isArrived] at editing
    cases editing
  | @next log s i previous ih =>
    have move := memberStep_move p tracking task reqs params i s
    generalize memberStep p tracking task reqs params i s = s' at move ⊢
    intro j c seen editing
    cases move with
    | idle => exact ih j c seen editing
    | reads c' t seen' isArrived isUpdate users activities owed answered member id =>
      rcases MemberWork.phase_moved editing with ⟨rfl, same⟩ | ⟨_, before⟩
      · cases same
        exact ⟨isUpdate, answered, id⟩
      · exact ih j c seen before
    | ends | performs | adds | writes =>
      rcases MemberWork.phase_moved editing with ⟨_, same⟩ | ⟨_, before⟩
      · cases same
      · exact ih j c seen before

theorem assigned_of_named {Col : Type} [Model Col] (orm : Orm) {values : List (String × Value)}
    {old : Col → Value} {col : Col} {v : Value}
    (named : Value.field (Model.declared col).name values ≠ .undefined)
    (stored : assigned orm values old col = some v) :
    orm.store (Model.declared col).type (Value.field (Model.declared col).name values) = some v := by
  unfold assigned at stored
  split at stored
  · rename_i absent
    exact absurd absent named
  · exact stored

/-- The step is the write of an update of the row that names the column, and it gives the cell. -/
def WritesCell (p : Platform) (task : ι → MemberTask) (reqs : ι → Request)
    (params : ι → List (String × String)) (e : Event ι (MemberWork ι)) (user : User)
    (col : UserColumn) : Prop :=
  task e.input = .update ∧ (∃ c seen, e.before.phase e.input = .editing c seen) ∧
    param (params e.input) "userId" = user.id ∧
    Value.field (Model.declared col).name
      (entries (p.validate updateSchema (reqs e.input).body).value) ≠ .undefined ∧
    p.store (Model.declared col).type (Value.field (Model.declared col).name
      (entries (p.validate updateSchema (reqs e.input).body).value)) = some (user.get col)

/-- The cell was written by an update of the row that names its column. -/
def WrittenIn (p : Platform) (task : ι → MemberTask) (reqs : ι → Request)
    (params : ι → List (String × String)) (log : List (Event ι (MemberWork ι))) (user : User)
    (col : UserColumn) : Prop :=
  ∃ e ∈ log, WritesCell p task reqs params e user col

omit [DecidableEq ι] in
theorem WrittenIn.keep {user user' : User} {col : UserColumn}
    (known : WrittenIn p task reqs params log user col) (e : Event ι (MemberWork ι))
    (id : user'.id = user.id) (same : user'.get col = user.get col) :
    WrittenIn p task reqs params (e :: log) user' col := by
  obtain ⟨old, member, writes⟩ := known
  refine ⟨old, List.mem_cons_of_mem _ member, ?_⟩
  rwa [WritesCell, id, same]

/-- The cells of the users after a step are those before it, but for what the write of an update
names. -/
def CellsKept (p : Platform) (task : ι → MemberTask) (reqs : ι → Request)
    (params : ι → List (String × String)) (e : Event ι (MemberWork ι)) (users : Table UserColumn) :
    Prop :=
  users.rows.map Row.id = e.before.users.rows.map Row.id ∧
    ∀ user ∈ users.rows, ∃ old ∈ e.before.users.rows, old.id = user.id ∧
      ∀ col, user.get col = old.get col ∨ WritesCell p task reqs params e user col

omit [DecidableEq ι] in
/-- The cells that a write has changed hold values that the update names. -/
theorem WritesBack.cellsKept {i : ι} {c : Ctx} {seen : User} {users : Table UserColumn}
    (writes : WritesBack p (reqs i) tracking seen s.users users) (isUpdate : task i = .update)
    (atPhase : s.phase i = .editing c seen) (id : seen.id = param (params i) "userId") :
    CellsKept p task reqs params ⟨i, s⟩ users := by
  obtain ⟨_, new, written, rfl⟩ := writes
  refine ⟨map_id_merge _ new s.users.rows, fun user member => ?_⟩
  rcases Table.mem_merge member with kept | ⟨current, inTable, target, rfl⟩
  · exact ⟨user, kept, rfl, fun _ => .inl rfl⟩
  · refine ⟨current, inTable, rfl, fun col => ?_⟩
    rcases Row.merge_get (tracking.writes _ seen new) new current col with ⟨isNew, isWritten⟩ | kept
    · have named := tracking.named isWritten
      have stored := assigned_of_named p.toOrm named (write_get p.toOrm written col)
      refine .inr ⟨isUpdate, ⟨c, seen, atPhase⟩, ?_, named, isNew ▸ stored⟩
      exact (id.symm.trans (write_id p.toOrm written).symm).trans target.symm
    · exact .inl kept

theorem memberStep_cellsKept (arrived : ∀ i, ∃ c, start.phase i = .arrived c)
    (reach : Reach (memberStep p tracking task reqs params) start log s) (i : ι) :
    CellsKept p task reqs params ⟨i, s⟩ (memberStep p tracking task reqs params i s).users := by
  have same {t : Ctx} (users : t.server.users = s.users) :
      CellsKept p task reqs params ⟨i, s⟩ t.server.users := by
    rw [users]
    exact ⟨rfl, fun user member => ⟨user, member, rfl, fun _ => .inl rfl⟩⟩
  have reading := editing_of_reach arrived reach
  have move := memberStep_move p tracking task reqs params i s
  generalize memberStep p tracking task reqs params i s = s' at move ⊢
  cases move with
  | idle => exact ⟨rfl, fun user member => ⟨user, member, rfl, fun _ => .inl rfl⟩⟩
  | ends t active users | performs c t found isArrived isCreate users
  | reads c t seen isArrived isUpdate users | adds c t found row performing users => exact same users
  | writes c t seen editing activities owed written =>
    obtain ⟨isUpdate, _, id⟩ := reading i c seen editing
    exact written.cellsKept isUpdate editing id

/-- The rows of the start, and what has become of them. -/
structure Accounted (p : Platform) (task : ι → MemberTask) (reqs : ι → Request)
    (params : ι → List (String × String)) (start : MemberWork ι)
    (log : List (Event ι (MemberWork ι))) (users : Table UserColumn) : Prop where
  ids : users.rows.map Row.id = start.users.rows.map Row.id
  cells : ∀ user ∈ users.rows, ∃ old ∈ start.users.rows, old.id = user.id ∧
    ∀ col, user.get col = old.get col ∨ WrittenIn p task reqs params log user col

omit [DecidableEq ι] in
theorem Accounted.step {i : ι} {users : Table UserColumn}
    (known : Accounted p task reqs params start log s.users)
    (kept : CellsKept p task reqs params ⟨i, s⟩ users) :
    Accounted p task reqs params start (⟨i, s⟩ :: log) users := by
  refine ⟨kept.1.trans known.ids, fun user member => ?_⟩
  obtain ⟨before, present, same, cells⟩ := kept.2 user member
  obtain ⟨old, inStart, isOld, earlier⟩ := known.cells before present
  refine ⟨old, inStart, isOld.trans same, fun col => ?_⟩
  rcases cells col with unchanged | writes
  · exact (earlier col).imp (fun first => unchanged.trans first)
      fun written => written.keep _ same.symm unchanged
  · exact .inr ⟨⟨i, s⟩, List.mem_cons_self, writes⟩

theorem cells_of_reach (arrived : ∀ i, ∃ c, start.phase i = .arrived c)
    (reach : Reach (memberStep p tracking task reqs params) start log s) :
    Accounted p task reqs params start log s.users := by
  induction reach with
  | start => exact ⟨rfl, fun user member => ⟨user, member, rfl, fun _ => .inl rfl⟩⟩
  | next i previous ih => exact ih.step (memberStep_cellsKept arrived previous i)

/-- However the steps of the requests interleave, no user is added or removed; a step changes a cell
only if it is the write of an update of that user that names the column, and then to what it names;
so each cell of a user holds what it held at the start or what such a write has given it. -/
theorem concurrent_updates_accounted (arrived : ∀ i, ∃ c, start.phase i = .arrived c)
    (reach : Reach (memberStep p tracking task reqs params) start log s) :
    s.users.rows.map Row.id = start.users.rows.map Row.id ∧
    (∀ user ∈ s.users.rows, ∃ old ∈ start.users.rows, old.id = user.id ∧
      ∀ col, user.get col = old.get col ∨ WrittenIn p task reqs params log user col) ∧
    ∀ e ∈ log, CellsKept p task reqs params e
      (memberStep p tracking task reqs params e.input e.before).users := by
  have known := cells_of_reach arrived reach
  refine ⟨known.ids, known.cells, fun e member => ?_⟩
  obtain ⟨_, _, _, before⟩ := reach.split member
  exact memberStep_cellsKept arrived before e.input

/-- The row is valid, and its counting columns are those it had at the start. -/
def StaysSound (p : Platform) (start : MemberWork ι) (user : User) : Prop :=
  ValidUser p user ∧ ∃ first ∈ start.users.rows, first.id = user.id ∧
    ∀ col ∈ countColumns, user.get col = first.get col

/-- Cells of two valid rows make a valid row, wherever each comes from. -/
theorem ValidUser.merge {new current : User} (written : UserColumn → Bool) (isNew : ValidUser p new)
    (isCurrent : ValidUser p current) : ValidUser p (new.merge written current) := by
  have cell {P : Value → Prop} (col : UserColumn) (fromNew : P (new.get col))
      (fromCurrent : P (current.get col)) : P ((new.merge written current).get col) := by
    rcases Row.merge_get written new current col with ⟨same, _⟩ | same
    · exact same ▸ fromNew
    · exact same ▸ fromCurrent
  exact ⟨cell (P := fun v => ∃ s, v = .str s ∧ s ≠ "") .NAME isNew.name isCurrent.name,
    cell (P := fun v => ∃ s, v = .str s ∧ s ≠ "") .PHONENUMBER isNew.phone isCurrent.phone,
    cell (P := fun v => ∃ s, v = .str s ∧ s ∈ ["M", "F"]) .SEX isNew.sex isCurrent.sex,
    cell (P := fun v => ∃ s, v = .str s ∧ s ∈ ["NC", "FT", "OLD MEMBER"]) .CAT isNew.cat isCurrent.cat,
    cell (P := fun v => ∃ iso, p.store .dateonly (.date iso) = some v) .DATE isNew.date isCurrent.date⟩

omit [DecidableEq ι] in
/-- A checked update makes a sound row of what it has read, whatever has been written since. -/
theorem StaysSound.write {i : ι} {seen user : User} {users users' : Table UserColumn}
    (answered : (reqs i).fault .User .findByPk = none) (id : seen.id = param (params i) "userId")
    (checked : (p.validate updateSchema (reqs i).body).error = none)
    (sound : ∀ user ∈ users.rows, StaysSound p start user) (read : StaysSound p start seen)
    (writes : WritesBack p (reqs i) tracking seen users users') (member : user ∈ users'.rows) :
    StaysSound p start user := by
  obtain ⟨works, new, written, rfl⟩ := writes
  rcases Table.mem_merge member with kept | ⟨current, inTable, target, rfl⟩
  · exact sound user kept
  have updates : Updates p (reqs i) (params i) [seen] new :=
    ⟨answered, works, seen, List.mem_singleton_self seen, id, written⟩
  obtain ⟨old, isSeen, same, keeps, counts⟩ := updates.row checked
  cases List.mem_singleton.mp isSeen
  obtain ⟨valid, first, inStart, isFirst, kept⟩ := sound current inTable
  obtain ⟨validOld, first', inStart', isFirst', kept'⟩ := read
  refine ⟨(keeps validOld).merge _ valid, first, inStart, isFirst, fun col listed => ?_⟩
  rcases Row.merge_get (tracking.writes _ seen new) new current col with ⟨isNew, _⟩ | isCurrent
  · have one : first' = first := Table.eq_of_id inStart' inStart
      (isFirst'.trans (same.trans (target.symm.trans isFirst.symm)))
    rw [isNew, counts col listed, kept' col listed, one]
  · rw [isCurrent]
    exact kept col listed

/-- As long as every update is given a body that passes the check, all rows stay valid and the
counting columns are never written, however the steps of the requests interleave. -/
theorem concurrent_updates_keep_users_valid (arrived : ∀ i, ∃ c, start.phase i = .arrived c)
    (valid : ∀ user ∈ start.users.rows, ValidUser p user)
    (checked : ∀ i, task i = .update → (p.validate updateSchema (reqs i).body).error = none)
    (reach : Reach (memberStep p tracking task reqs params) start log s) :
    ∀ user ∈ s.users.rows, ValidUser p user ∧ ∃ first ∈ start.users.rows, first.id = user.id ∧
      ∀ col ∈ countColumns, user.get col = first.get col := by
  -- a row that is about to be written back has to be sound as well
  suffices known : (∀ user ∈ s.users.rows, StaysSound p start user) ∧
      ∀ i c seen, s.phase i = .editing c seen → StaysSound p start seen from known.1
  induction reach with
  | start =>
    refine ⟨fun user member => ⟨valid user member, user, member, rfl, fun _ _ => rfl⟩,
      fun i c seen editing => ?_⟩
    obtain ⟨c', isArrived⟩ := arrived i
    rw [isArrived] at editing
    cases editing
  | @next log s i previous ih =>
    obtain ⟨sound, read⟩ := ih
    have reading := editing_of_reach arrived previous
    have move := memberStep_move p tracking task reqs params i s
    generalize memberStep p tracking task reqs params i s = s' at move ⊢
    cases move with
    | idle => exact ⟨sound, read⟩
    | ends t active users | performs c t found isArrived isCreate users
    | adds c t found row performing users =>
      refine ⟨fun user member => sound user (users ▸ member), fun j c' seen editing => ?_⟩
      rcases MemberWork.phase_moved editing with ⟨_, same⟩ | ⟨_, before⟩
      · cases same
      · exact read j c' seen before
    | reads c t seen isArrived isUpdate users activities owed answered member =>
      refine ⟨fun user member => sound user (users ▸ member), fun j c' seen' editing => ?_⟩
      rcases MemberWork.phase_moved editing with ⟨_, same⟩ | ⟨_, before⟩
      · cases same
        exact sound seen member
      · exact read j c' seen' before
    | writes c t seen editing activities owed written =>
      obtain ⟨isUpdate, answered, id⟩ := reading i c seen editing
      refine ⟨fun user member => StaysSound.write answered id (checked i isUpdate) sound
        (read i c seen editing) written member, fun j c' seen' editing' => ?_⟩
      rcases MemberWork.phase_moved editing' with ⟨_, same⟩ | ⟨_, before⟩
      · cases same
      · exact read j c' seen' before

end Runs

end Machine

section Samples

open Reference

/-- The mapper writes the named columns whose cells differ from what it has read. -/
def differing (orm : Orm) : ChangeTracking orm where
  writes values seen new col := decide (new.get col ≠ seen.get col) &&
    decide (Value.field (Model.declared col).name values ≠ .undefined)
  changed := by
    intro values seen new written col differs
    have stored := write_get orm written col
    rw [Bool.and_eq_true, decide_eq_true_iff, decide_eq_true_iff]
    refine ⟨differs, fun absent => differs ?_⟩
    rw [assigned, absent] at stored
    exact (Option.some.inj stored).symm
  named writes := by
    rw [Bool.and_eq_true, decide_eq_true_iff, decide_eq_true_iff] at writes
    exact writes.2

/-- The member's two requests: one edits her row, the other records an activity. -/
def memberRequest (edit : Bool) : Request :=
  if edit then Reference.editing acceptedBody
  else { request "s1" "POST" ("/create-activity/" ++ adaId ++ "/Prayer?location=church") with
    body := .obj [("response", .str "Yes")]
    rowId := fun _ => "row-1" }

def memberTask (edit : Bool) : MemberTask := if edit then .update else .create

def memberParams (_ : Bool) : List (String × String) :=
  [("userId", adaId), ("activityType", "Prayer")]

def bothArrived : MemberWork Bool where
  users := start.users
  activities := start.activities
  phase _ := .arrived (context adaId)

/-- Both queries are made before either write. -/
def bothServed : MemberWork Bool :=
  [false, true, true, false].foldl (fun s edit =>
    memberStep platform (differing platform.toOrm) memberTask memberRequest memberParams edit s)
    bothArrived

theorem bothServed_reach : ∃ log, Reach (memberStep platform (differing platform.toOrm) memberTask
    memberRequest memberParams) bothArrived log bothServed :=
  ⟨_, .next false (.next true (.next true (.next false .start)))⟩

/-- The member is told that her activity was recorded, and it is in the table. -/
theorem raced_activity_recorded : (bothServed.phase false).ctx.Acknowledged ∧
    ∃ added : List (Bool × Activity),
      bothServed.activities.rows = start.activities.rows ++ added.map Prod.snd ∧
      false ∈ added.map Prod.fst := by
  have told : created ∈ (bothServed.phase false).ctx.responses := by decide +kernel
  obtain ⟨log, reach⟩ := bothServed_reach
  obtain ⟨added, rows, _, acknowledged, _⟩ :=
    acknowledged_activities_recorded (fun _ => ⟨_, rfl, rfl⟩) reach
  exact ⟨told, added, rows, (acknowledged false).mp told⟩

/-- Her category is not the one of the start any more, so the update has written it. -/
theorem raced_update_accounted : ∃ log, ∃ user ∈ bothServed.users.rows,
    WrittenIn platform memberTask memberRequest memberParams log user .CAT := by
  obtain ⟨log, reach⟩ := bothServed_reach
  obtain ⟨user, member, changed⟩ : ∃ user ∈ bothServed.users.rows, user.get .CAT ≠ ada.get .CAT := by
    decide +kernel
  obtain ⟨old, inStart, _, cells⟩ :=
    (concurrent_updates_accounted (fun _ => ⟨_, rfl⟩) reach).2.1 user member
  cases List.mem_singleton.mp inStart
  exact ⟨log, user, member, (cells .CAT).resolve_left changed⟩

theorem raced_update_valid : bothServed.users.rows.length = 1 ∧
    ∀ user ∈ bothServed.users.rows, ValidUser platform user := by
  obtain ⟨log, reach⟩ := bothServed_reach
  refine ⟨by decide +kernel, fun user member => ?_⟩
  refine (concurrent_updates_keep_users_valid (fun _ => ⟨_, rfl⟩) start_valid ?_ reach user member).1
  decide +kernel

end Samples

end ChurchManagement
