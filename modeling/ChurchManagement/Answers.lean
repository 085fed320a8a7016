import ChurchManagement.Reference

namespace ChurchManagement

open Js Effect Express Sequelize

/-- The number of answers that a request has been given. -/
def Ctx.sent (c : Ctx) : Nat := c.responses.length

section Rules

variable {R : Ctx → Ctx → Prop} [Std.Refl R] [IsTrans Ctx R] (p : Platform) (req : Request)

omit [IsTrans Ctx R] in
theorem keeps_asString (v : Value) : Keeps R (asString v) := by
  unfold asString
  split
  · exact keeps_pure _
  · exact keeps_throw _

theorem keeps_getAgent (stores : ∀ agent, Keeps R (setSession fun s => { s with agent := agent }))
    (tells : ∀ msg, Keeps R (flash "error_msg" msg)) : Keeps R (getAgent p req) := by
  unfold getAgent
  refine keeps_ite ?_ (keeps_pure _)
  split
  · exact keeps_bind (stores _) fun _ => keeps_pure _
  · exact keeps_bind (tells _) fun _ => keeps_pure _

theorem keeps_findUser (id : Value) : Keeps R (findUser p req id) :=
  keeps_bind (keeps_db _ _ _ _) fun _ => keeps_bind keeps_get fun _ => keeps_orThrow _ _ _

theorem keeps_memberId (found : Keeps R (getAgent p req)) : Keeps R (memberId p req) :=
  keeps_bind keeps_get fun _ => keeps_ite (keeps_pure _) (keeps_bind found fun _ =>
    keeps_bind (keeps_orThrow _ _ _) fun _ => keeps_prop _ _ _)

theorem keeps_createAgent (userId : String) (userAgentRecord : Option LoginUserAgent) (role : String)
    (writes : ∀ f, Keeps R (setServer f))
    (gives : ∀ data isAuthenticated role lastActivity,
      Keeps R (flash "agent" (.str (getAgentData data isAuthenticated role lastActivity)))) :
    Keeps R (createAgent p req userId userAgentRecord role) := by
  have granted : Keeps R (do
      let agent := getAgentData (agentDataOf (.str userId) req) (.bool true) (.str role)
        (.obj p.now)
      setServer fun s => { s with allowedID := s.allowedID ++ [userId] }
      flash "agent" (.str agent)
      return agent) :=
    keeps_bind (writes _) fun _ => keeps_bind (gives _ _ _ _) fun _ => keeps_pure _
  unfold createAgent
  cases userAgentRecord with
  | some record =>
    exact keeps_bind (keeps_db _ _ _ _) fun _ => keeps_bind (keeps_orThrow _ _ _) fun _ =>
      keeps_bind (writes _) fun _ => granted
  | none =>
    exact keeps_bind (keeps_db _ _ _ _) fun _ => keeps_bind (keeps_orThrow _ _ _) fun _ =>
      keeps_bind keeps_get fun _ => keeps_bind (keeps_orThrow _ _ _) fun _ =>
      keeps_bind (writes _) fun _ => granted

end Rules

section Steps

theorem flash_silent (key : String) (msg : Value) : Keeps (Same Ctx.sent) (flash key msg) :=
  fun _ => rfl

theorem setSession_silent (f : Session → Session) : Keeps (Same Ctx.sent) (setSession f) :=
  fun _ => rfl

theorem setServer_silent (f : Server → Server) : Keeps (Same Ctx.sent) (setServer f) :=
  fun _ => rfl

theorem getAgent_silent (p : Platform) (req : Request) : Keeps (Same Ctx.sent) (getAgent p req) :=
  keeps_getAgent p req (fun _ => setSession_silent _) fun _ => flash_silent _ _

theorem respond_once (r : Response) : Once Ctx.sent (respond r) := by
  intro c
  have one : (c.answered r).sent = c.sent + 1 := by simp [Ctx.sent, Ctx.answered]
  exact one.le

theorem flash_respond_once (key : String) (msg : Value) (r : Response) :
    Once Ctx.sent (do flash key msg; respond r) :=
  once_bind (flash_silent _ _) fun _ => respond_once _

end Steps

section Handlers

variable (p : Platform) (secrets : Secrets)

theorem enter_once (req : Request) (userId : String) (userAgentRecord : Option LoginUserAgent)
    (role welcome page : String) :
    Once Ctx.sent (enter p req userId userAgentRecord role welcome page) :=
  once_bind (keeps_createAgent p req userId userAgentRecord role (fun _ => setServer_silent _)
      fun _ _ _ _ => flash_silent _ _) fun _ =>
    once_bind (setSession_silent _) fun _ => flash_respond_once _ _ _

theorem loginRole_once (req : Request) (user : User) (name : String)
    (userAgentRecord : Option LoginUserAgent) (authToken : Value) :
    Once Ctx.sent (loginRole p secrets req user name userAgentRecord authToken) := by
  have branch (f : Session → Session) (role welcome page : String) : Once Ctx.sent (do
      setSession f
      enter p req user.id userAgentRecord role welcome page) :=
    once_bind (setSession_silent f) fun _ => enter_once p req user.id userAgentRecord role _ _
  exact once_ite (branch _ _ _ _) (once_ite (branch _ _ _ _) (once_ite (branch _ _ _ _)
    (flash_respond_once _ _ _)))

theorem postLogin_once (req : Request) : Once Ctx.sent (postLogin p secrets req) := by
  refine once_attempt (once_ite (flash_respond_once _ _ _) ?_) fun _ => flash_respond_once _ _ _
  refine once_bind (keeps_prop _ _ _) fun _ => once_bind (keeps_whereColumn _ _ _) fun _ =>
    once_bind (keeps_db _ _ _ _) fun _ => once_bind keeps_get fun _ => ?_
  dsimp only
  split
  · exact flash_respond_once _ _ _
  · refine once_bind (keeps_asString _) fun _ => once_bind (keeps_prop _ _ _) fun _ =>
      once_bind (keeps_asString _) fun _ => once_ite (flash_respond_once _ _ _) ?_
    exact once_bind (setSession_silent _) fun _ => once_bind (keeps_whereColumn _ _ _) fun _ =>
      once_bind (keeps_db _ _ _ _) fun _ => once_bind keeps_get fun _ =>
      once_bind (keeps_prop _ _ _) fun _ => loginRole_once p secrets _ _ _ _ _

theorem logoutOf_once (req : Request) (userId : Value) : Once Ctx.sent (logoutOf p req userId) := by
  refine once_ite ?_ (flash_respond_once _ _ _)
  exact once_bind (keeps_whereColumn _ _ _) fun _ => once_bind (keeps_db _ _ _ _) fun _ =>
    once_bind keeps_get fun _ => once_bind (keeps_orThrow _ _ _) fun _ =>
    once_bind (keeps_db _ _ _ _) fun _ => once_bind (setServer_silent _) fun _ =>
    once_bind (keeps_modify fun _ => rfl) fun _ => respond_once _

theorem getLogout_once (req : Request) : Once Ctx.sent (getLogout p req) :=
  once_bind keeps_get fun _ => once_bind (getAgent_silent p req) fun _ =>
    once_bind (keeps_orThrow _ _ _) fun _ =>
    once_ite (once_bind (keeps_pure _) fun _ => logoutOf_once p req _)
      (once_bind (keeps_prop _ _ _) fun _ => logoutOf_once p req _)

theorem postRegister_once (req : Request) : Once Ctx.sent (postRegister p secrets req) := by
  refine once_attempt ?_ fun _ => flash_respond_once _ _ _
  dsimp only
  split
  · exact flash_respond_once _ _ _
  · refine once_bind (keeps_prop _ _ _) fun _ => once_ite (flash_respond_once _ _ _) ?_
    refine once_bind (keeps_prop _ _ _) fun _ => once_bind (keeps_prop _ _ _) fun _ =>
      once_bind (keeps_whereColumn _ _ _) fun _ => once_bind (keeps_whereColumn _ _ _) fun _ =>
      once_bind (keeps_db _ _ _ _) fun _ => once_bind keeps_get fun _ => ?_
    split
    · exact flash_respond_once _ _ _
    · exact once_bind (keeps_db _ _ _ _) fun _ => once_bind (keeps_orThrow _ _ _) fun _ =>
        once_bind keeps_get fun _ => once_bind (keeps_orThrow _ _ _) fun _ =>
        once_bind (setServer_silent _) fun _ => once_bind (flash_silent _ _) fun _ =>
        once_bind (keeps_orThrow _ _ _) fun _ => respond_once _

theorem memberId_silent (req : Request) : Keeps (Same Ctx.sent) (memberId p req) :=
  keeps_memberId p req (getAgent_silent p req)

theorem showMember_once (req : Request) (userId : Value) :
    Once Ctx.sent (showMember p req userId) := by
  refine once_bind (keeps_findUser p req userId) fun found => ?_
  split
  · exact flash_respond_once _ _ _
  · exact once_bind (setSession_silent _) fun _ => once_bind (keeps_whereColumn _ _ _) fun _ =>
      once_bind (keeps_db _ _ _ _) fun _ => once_bind keeps_get fun _ => respond_once _

theorem getMemberIndex_once (req : Request) : Once Ctx.sent (getMemberIndex p req) :=
  once_attempt (once_bind (memberId_silent p req) fun _ =>
    once_ite (flash_respond_once _ _ _) (showMember_once p req _)) fun _ => flash_respond_once _ _ _

theorem recordActivity_once (req : Request) (userId activityType : String) :
    Once Ctx.sent (recordActivity p req userId activityType) := by
  refine once_bind (keeps_prop _ _ _) fun _ => once_bind keeps_get fun _ =>
    once_ite (flash_respond_once _ _ _) (once_bind (keeps_findUser p req _) fun found => ?_)
  split
  · exact once_bind (flash_silent _ _) fun _ => (keeps_undeclared _ _).once
  · exact once_bind (keeps_db _ _ _ _) fun _ => once_bind (keeps_orThrow _ _ _) fun _ =>
      once_bind keeps_get fun _ => once_bind (keeps_orThrow _ _ _) fun _ =>
      once_bind (setServer_silent _) fun _ => flash_respond_once _ _ _

/-- The catch of the activity handler fails before it answers. -/
theorem postCreateActivity_once (req : Request) (params : List (String × String)) :
    Once Ctx.sent (postCreateActivity p req params) := by
  refine once_attempt ?_ fun _ => once_bind (flash_silent _ _) fun _ => (keeps_undeclared _ _).once
  have record := recordActivity_once p req (param params "userId") (param params "activityType")
  exact once_bind (keeps_prop _ _ _) fun _ =>
    once_ite (once_ite (once_bind (flash_silent _ _) fun _ => record) (flash_respond_once _ _ _)) record

/-- The update handler has one thing to say: the body passes the check, the session may update
the user, and the user exists where it can be looked up. -/
structure UpdateSettled (req : Request) (userId : String) (c : Ctx) : Prop where
  accepted : (p.validate updateSchema req.body).error = none
  allowed : MayUpdate c.session userId
  known : req.fault .User .findByPk = none → ∃ user ∈ c.server.users.rows, user.id = userId

theorem updateError_sent (msg : String) (c : Ctx) :
    Ensures (updateError msg) c (fun _ t => t.session.core = c.session.core ∧
      t.server = c.server ∧ t.sent = c.sent + 1) (fun _ _ => False) := by
  refine ⟨rfl, rfl, ?_⟩
  exact List.length_append

/-- A refusal is an answer, and the handler goes on behind it. -/
theorem updateRefusals_sent (req : Request) (userId : String) (c : Ctx) :
    Ensures (updateRefusals p req userId) c
      (fun _ t => t.server = c.server ∧ c.sent ≤ t.sent ∧ (t.sent = c.sent ↔
        (p.validate updateSchema req.body).error = none ∧ MayUpdate c.session userId))
      (fun _ _ => False) := by
  have owner (t : Ctx) : Ensures (do
      let session := (← get).session
      if !session.userId.strictEq (.str userId) && !session.isWorker.truthy then
        updateError "invalid authentication you are not allowed to access this" : Act Unit) t
      (fun _ t' => t'.server = t.server ∧ t.sent ≤ t'.sent ∧
        (t'.sent = t.sent ↔ MayUpdate t.session userId)) (fun _ _ => False) := by
    rw [ensures_bind, ensures_get, ensures_ite, refuses_update]
    refine ⟨fun refused => ?_, fun allowed => ⟨rfl, le_rfl, ?_⟩⟩
    · refine (updateError_sent _ t).mono ?_ (fun _ _ never => never)
      intro _ t' post
      obtain ⟨_, server, more⟩ := post
      exact ⟨server, by omega, by simp [refused, more]⟩
    · simpa using allowed
  unfold updateRefusals
  split
  · rename_i details rejected
    rw [ensures_bind]
    refine (updateError_sent _ c).mono ?_ (fun _ _ never => never)
    intro _ t post
    obtain ⟨_, server, more⟩ := post
    refine (owner t).mono ?_ (fun _ _ never => never)
    intro _ t' post
    obtain ⟨server', least, _⟩ := post
    refine ⟨server'.trans server, by omega, ?_⟩
    simp only [rejected, reduceCtorEq, false_and, iff_false]
    omega
  · rename_i accepted
    refine (owner c).mono ?_ (fun _ _ never => never)
    intro _ t post
    simpa [accepted] using post

/-- A missing user is answered before the exception that the catch answers again. -/
theorem applyUpdate_sent (req : Request) (userId : String) (value : Value) (c : Ctx) :
    Ensures (applyUpdate p req userId value) c
      (fun _ t => t.sent = c.sent + 1 ∧ ∃ user ∈ c.server.users.rows, user.id = userId)
      (fun _ t => c.sent ≤ t.sent ∧ (t.sent = c.sent ↔ (req.fault .User .findByPk = none →
        ∃ user ∈ c.server.users.rows, user.id = userId))) := by
  obtain ⟨looked, valid, missing⟩ := findByPk_str p.toOrm userId c.server.users.rows
  unfold applyUpdate
  rw [ensures_bind]
  refine (findUser_spec p req _ c).mono ?_ ?_
  · intro found t post
    obtain ⟨rfl, read, found_eq⟩ := post
    cases Option.some.inj (valid.symm.trans found_eq)
    split
    · have absent : ¬ ∃ user ∈ t.server.users.rows, user.id = userId := by
        rintro ⟨user, member, id⟩
        exact missing rfl user member id
      rw [ensures_bind]
      refine (updateError_sent _ t).mono ?_ (fun _ _ never => never.elim)
      intro _ t' post
      obtain ⟨_, _, more⟩ := post
      refine ⟨by omega, ?_⟩
      simp only [read, absent, more]
      simp
    · rename_i user
      obtain ⟨member, key⟩ := findByPk_some p.toOrm valid
      have known : ∃ user ∈ t.server.users.rows, user.id = userId :=
        ⟨user, member, (Value.str.inj key).symm⟩
      have thrown : t.sent ≤ t.sent ∧ (True ↔ (req.fault .User .findByPk = none →
          ∃ user ∈ t.server.users.rows, user.id = userId)) :=
        ⟨le_rfl, iff_of_true trivial fun _ => known⟩
      simp only [ensures_bind, ensures_db, ensures_orThrow, ensures_setServer, ensures_flash,
        ensures_redirect]
      exact ⟨fun _ _ => thrown, fun _ => ⟨fun _ _ => ⟨List.length_append, known⟩, fun _ => thrown⟩⟩
  · intro _ t post
    obtain ⟨rfl, failed⟩ := post
    refine ⟨le_rfl, iff_of_true rfl fun read => ?_⟩
    cases valid.symm.trans (failed read)

theorem postUpdateUser_sent (req : Request) (params : List (String × String)) (c : Ctx) :
    (exec (postUpdateUser p req params) c).2.sent ≤ c.sent + 1 ↔
      UpdateSettled p req (param params "userId") c := by
  have settled : Ensures (postUpdateUser p req params) c
      (fun _ t => t.sent ≤ c.sent + 1 ↔ UpdateSettled p req (param params "userId") c)
      (fun _ t => t.sent ≤ c.sent + 1 ↔ UpdateSettled p req (param params "userId") c) := by
    unfold postUpdateUser
    rw [ensures_attempt, ensures_bind]
    refine (updateRefusals_sent p req (param params "userId") c).mono ?_ (fun _ _ never => never.elim)
    intro _ t post
    obtain ⟨server, least, plain⟩ := post
    refine (applyUpdate_sent p req (param params "userId") _ t).mono ?_ ?_
    · intro _ t' post
      obtain ⟨answered, known⟩ := post
      rw [server] at known
      refine ⟨fun most => ?_, fun settled => ?_⟩
      · obtain ⟨accepted, allowed⟩ := plain.mp (by omega)
        exact ⟨accepted, allowed, fun _ => known⟩
      · have same := plain.mpr ⟨settled.accepted, settled.allowed⟩
        omega
    · intro _ t' post
      obtain ⟨least', found⟩ := post
      rw [server] at found
      have answered : ((t'.flashed "error_msg" (.str "Internal server error")).answered
          (.send 500 (.obj [("error_msg", .str "Internal server error")]))).sent = t'.sent + 1 :=
        List.length_append
      change _ ≤ _ ↔ _
      rw [answered]
      refine ⟨fun most => ?_, fun settled => ?_⟩
      · obtain ⟨accepted, allowed⟩ := plain.mp (by omega)
        exact ⟨accepted, allowed, found.mp (by omega)⟩
      · have same := plain.mpr ⟨settled.accepted, settled.allowed⟩
        have same' := found.mpr settled.known
        omega
  exact settled.final

/-- The handlers that the answers are counted for. -/
def countedHandlers : List Handler :=
  [.postLogin, .getLogout, .postRegister, .getMemberIndex, .postCreateActivity, .postUpdateUser]

/-- A handler gives at most one answer, unless it is an update with something to refuse. -/
theorem answers_at_most_once (req : Request) (params : List (String × String)) (c : Ctx)
    (handler : Handler) (counted : handler ∈ countedHandlers) :
    (exec (handle p secrets req params handler) c).2.responses.length ≤ c.responses.length + 1 ↔
      (handler = .postUpdateUser → UpdateSettled p req (param params "userId") c) := by
  have most {x : Act Unit} (once : Once Ctx.sent x) : (exec x c).2.sent ≤ c.sent + 1 := by
    refine ((once c).mono (fun _ _ most => most) ?_).final
    intro _ t same
    omega
  simp only [countedHandlers, List.mem_cons, List.not_mem_nil, or_false] at counted
  rcases counted with rfl | rfl | rfl | rfl | rfl | rfl
  · exact iff_of_true (most (postLogin_once p secrets req)) (by simp)
  · exact iff_of_true (most (getLogout_once p req)) (by simp)
  · exact iff_of_true (most (postRegister_once p secrets req)) (by simp)
  · exact iff_of_true (most (getMemberIndex_once p req)) (by simp)
  · exact iff_of_true (most (postCreateActivity_once p req params)) (by simp)
  · refine (postUpdateUser_sent p req params c).trans ⟨fun settled _ => settled, fun settled => ?_⟩
    exact settled rfl

end Handlers

section Samples

open Reference

/-- An update of one's own row with a body that fails the check is answered by the form and by the
redirect behind it. -/
theorem refused_update_answers_twice :
    ¬ (exec (handle platform keys (editing (.obj [("NAME", .str "")])) [("userId", adaId)]
      .postUpdateUser) (context adaId)).2.responses.length ≤
        (context adaId).responses.length + 1 := by
  decide +kernel

theorem accepted_update_answers_once :
    (exec (handle platform keys (editing acceptedBody) [("userId", adaId)] .postUpdateUser)
      (context adaId)).2.responses.length ≤ (context adaId).responses.length + 1 := by
  have settled : UpdateSettled platform (editing acceptedBody) adaId (context adaId) :=
    ⟨by decide +kernel, .inl rfl, fun _ => ⟨ada, ada_mem, rfl⟩⟩
  exact (answers_at_most_once platform keys _ _ _ .postUpdateUser (by decide)).mpr fun _ => settled

end Samples

end ChurchManagement
