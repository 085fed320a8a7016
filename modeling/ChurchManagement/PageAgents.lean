import ChurchManagement.AgentToken
import ChurchManagement.Identity
import ChurchManagement.Passage

namespace ChurchManagement

open Js Effect Express Sequelize

/-- Where a template puts an agent into its links and forms: in the context of the page, or only
inside `{{#each users}}`, where a user has none. -/
inductive AgentSlot
  | page
  | rows
  | absent
  deriving DecidableEq, Repr

def agentSlot : String → AgentSlot
  | "index" | "login" | "register" | "update-user" | "memberIndex" | "dashboard"
  | "search-members" => .page
  | "admin/dashboard" | "admin/users" => .rows
  | _ => .absent

/-- What Handlebars prints for a value: a list is comma-joined, and an object has no text of its
own. -/
def printed : Value → String
  | .undefined | .null => ""
  | v => v.toText.getD ""

/-- The agent in the links and forms of the page that a request was answered with. What a handler
passes to a page hides what the flash has left. -/
def Ctx.pageAgent (c : Ctx) : Option String :=
  match c.responses.head? with
  | some (.render _ view vars) =>
    match agentSlot view with
    | .page => some (printed (Value.field "agent" (vars ++ c.locals)))
    | .rows => if Value.field "users" vars = .arr [] then none else some ""
    | .absent => none
  | _ => none

def Response.slot : Response → AgentSlot
  | .render _ view _ => agentSlot view
  | _ => .absent

section Yields

variable {ok : Response → Prop}

/-- The second context has no agent on the wire that the first has not, and every answer it has in
addition is of the kind. -/
def Yields (ok : Response → Prop) (c c' : Ctx) : Prop :=
  c'.wire = c.wire ∧ ∀ r ∈ c'.responses, r ∈ c.responses ∨ ok r

instance : Std.Refl (Yields ok) := ⟨fun _ => ⟨rfl, fun _ member => .inl member⟩⟩

instance : IsTrans Ctx (Yields ok) := by
  refine ⟨?_⟩
  rintro a b c ⟨wire, first⟩ ⟨wire', second⟩
  refine ⟨wire'.trans wire, fun r member => ?_⟩
  rcases second r member with old | new
  · exact first r old
  · exact .inr new

theorem Yields.trans {a b c : Ctx} (first : Yields ok a b) (second : Yields ok b c) :
    Yields ok a c := IsTrans.trans _ _ _ first second

theorem yields_flash {key : String} (other : key ≠ "agent") (msg : Value) :
    Keeps (Yields ok) (flash key msg) :=
  fun c => ⟨wire_flashed other msg c, fun _ member => .inl member⟩

theorem yields_respond {r : Response} (kind : ok r) : Keeps (Yields ok) (respond r) := by
  intro c
  refine ⟨rfl, fun r' member => ?_⟩
  rcases List.mem_append.mp member with old | new
  · exact .inl old
  · cases List.mem_singleton.mp new
    exact .inr kind

theorem yields_flash_respond {key : String} (other : key ≠ "agent") (msg : Value) {r : Response}
    (kind : ok r) : Keeps (Yields ok) (do flash key msg; respond r) :=
  keeps_bind (yields_flash other msg) fun _ => yields_respond kind

theorem yields_setServer (f : Server → Server) : Keeps (Yields ok) (setServer f) :=
  fun _ => ⟨rfl, fun _ member => .inl member⟩

theorem yields_setSession {f : Session → Session} (kept : ∀ s, (f s).flash = s.flash) :
    Keeps (Yields ok) (setSession f) := by
  intro c
  refine ⟨?_, fun _ member => .inl member⟩
  have agents : (f c.session).agents = c.session.agents := by rw [Session.agents, kept, Session.agents]
  exact congrArg (Prod.mk _) agents

variable (p : Platform) (secrets : Secrets) (req : Request)

theorem yields_getAgent : Keeps (Yields ok) (getAgent p req) :=
  keeps_getAgent p req (fun _ => yields_setSession fun _ => rfl) fun _ =>
    yields_flash (by decide) _

theorem yields_saveSubscription (ip : String) (subscription : Value) :
    Keeps (Yields ok) (saveSubscription p req ip subscription) := by
  refine keeps_attempt ?_ fun _ => keeps_pure _
  refine keeps_bind (keeps_whereColumn _ _ _) fun _ => keeps_bind (keeps_db _ _ _ _) fun _ =>
    keeps_bind keeps_get fun _ => ?_
  dsimp only
  split
  · exact keeps_bind (keeps_prop _ _ _) fun _ => keeps_bind (keeps_prop _ _ _) fun _ =>
      keeps_bind (keeps_prop _ _ _) fun _ => keeps_bind (keeps_db _ _ _ _) fun _ =>
      keeps_bind (keeps_orThrow _ _ _) fun _ => yields_setServer _
  · exact keeps_bind (keeps_prop _ _ _) fun _ => keeps_bind (keeps_prop _ _ _) fun _ =>
      keeps_bind (keeps_prop _ _ _) fun _ => keeps_bind (keeps_db _ _ _ _) fun _ =>
      keeps_bind (keeps_orThrow _ _ _) fun _ => keeps_bind keeps_get fun _ =>
      keeps_bind (keeps_orThrow _ _ _) fun _ => yields_setServer _

theorem yields_postUploadExcel : Keeps (Yields ok) (postUploadExcel p req) := by
  refine keeps_attempt ?_ fun _ => keeps_undeclared _ _
  split
  · exact keeps_undeclared _ _
  · exact keeps_ite (keeps_undeclared _ _) (keeps_bind (keeps_db _ _ _ _) fun _ =>
      keeps_bind keeps_get fun _ => keeps_bind (keeps_orThrow _ _ _) fun _ =>
      keeps_bind (yields_setServer _) fun _ => keeps_undeclared _ _)

variable (plain : ∀ r : Response, r.slot = .absent → ok r)

include plain

theorem yields_getSendNotification : Keeps (Yields ok) (getSendNotification req) :=
  keeps_attempt (keeps_bind (keeps_db _ _ _ _) fun _ => keeps_bind keeps_get fun _ =>
    keeps_bind (fun _ => ⟨rfl, fun _ member => .inl member⟩) fun _ => yields_respond (plain _ rfl))
    fun _ => yields_respond (plain _ rfl)

theorem yields_logoutOf (userId : Value) : Keeps (Yields ok) (logoutOf p req userId) := by
  refine keeps_ite ?_ (yields_flash_respond (by decide) _ (plain _ rfl))
  exact keeps_bind (keeps_whereColumn _ _ _) fun _ => keeps_bind (keeps_db _ _ _ _) fun _ =>
    keeps_bind keeps_get fun _ => keeps_bind (keeps_orThrow _ _ _) fun _ =>
    keeps_bind (keeps_db _ _ _ _) fun _ => keeps_bind (yields_setServer _) fun _ =>
    keeps_bind (fun _ => ⟨rfl, fun _ member => .inl member⟩) fun _ => yields_respond (plain _ rfl)

theorem yields_getLogout : Keeps (Yields ok) (getLogout p req) :=
  keeps_bind keeps_get fun _ => keeps_bind (yields_getAgent p req) fun _ =>
    keeps_bind (keeps_orThrow _ _ _) fun _ =>
    keeps_ite (keeps_bind (keeps_pure _) fun _ => yields_logoutOf p req plain _)
      (keeps_bind (keeps_prop _ _ _) fun _ => yields_logoutOf p req plain _)

theorem yields_getMemberIndex
    (member : ∀ user activities, ok (.render 200 "memberIndex" [("user", user),
      ("activities", activities), ("agent", p.query req.url "agent")])) :
    Keeps (Yields ok) (getMemberIndex p req) := by
  have shown (userId : Value) : Keeps (Yields ok) (showMember p req userId) := by
    refine keeps_bind (keeps_findUser p req userId) fun found => ?_
    split
    · exact yields_flash_respond (by decide) _ (plain _ rfl)
    · exact keeps_bind (yields_setSession fun _ => rfl) fun _ =>
        keeps_bind (keeps_whereColumn _ _ _) fun _ => keeps_bind (keeps_db _ _ _ _) fun _ =>
        keeps_bind keeps_get fun _ => yields_respond (member _ _)
  have named : Keeps (Yields ok) (memberId p req) := keeps_memberId p req (yields_getAgent p req)
  exact keeps_attempt (keeps_bind named fun _ =>
    keeps_ite (yields_flash_respond (by decide) _ (plain _ rfl)) (shown _)) fun _ =>
    yields_flash_respond (by decide) _ (plain _ rfl)

theorem yields_recordActivity (userId activityType : String) :
    Keeps (Yields ok) (recordActivity p req userId activityType) := by
  refine keeps_bind (keeps_prop _ _ _) fun _ => keeps_bind keeps_get fun _ =>
    keeps_ite (yields_flash_respond (by decide) _ (plain _ rfl))
      (keeps_bind (keeps_findUser p req _) fun found => ?_)
  split
  · exact keeps_bind (yields_flash (by decide) _) fun _ => keeps_undeclared _ _
  · exact keeps_bind (keeps_db _ _ _ _) fun _ => keeps_bind (keeps_orThrow _ _ _) fun _ =>
      keeps_bind keeps_get fun _ => keeps_bind (keeps_orThrow _ _ _) fun _ =>
      keeps_bind (yields_setServer _) fun _ => yields_flash_respond (by decide) _ (plain _ rfl)

theorem yields_postCreateActivity (params : List (String × String)) :
    Keeps (Yields ok) (postCreateActivity p req params) := by
  have record := yields_recordActivity p req plain (param params "userId")
    (param params "activityType")
  refine keeps_attempt (keeps_bind (keeps_prop _ _ _) fun _ => keeps_ite (keeps_ite
    (keeps_bind (yields_flash (by decide) _) fun _ => record)
    (yields_flash_respond (by decide) _ (plain _ rfl))) record) fun _ =>
    keeps_bind (yields_flash (by decide) _) fun _ => keeps_undeclared _ _

theorem yields_adminError (msg page : String) : Keeps (Yields ok) (adminError msg page) :=
  yields_flash_respond (by decide) _ (plain _ rfl)

omit plain

theorem yields_postRegister (shown : ∀ vars : List (String × Value), vars.map Prod.fst ∈
    [["error_msg"], ["success_msg"]] → ok (.render 200 "register" vars)) :
    Keeps (Yields ok) (postRegister p secrets req) := by
  have failed (msg text : Value) : Keeps (Yields ok) (do
      flash "error_msg" msg
      render "register" [("error_msg", text)]) :=
    yields_flash_respond (by decide) _ (shown _ (by simp))
  refine keeps_attempt ?_ fun _ => failed _ _
  dsimp only
  split
  · exact failed _ _
  · refine keeps_bind (keeps_prop _ _ _) fun _ => keeps_ite (failed _ _) ?_
    refine keeps_bind (keeps_prop _ _ _) fun _ => keeps_bind (keeps_prop _ _ _) fun _ =>
      keeps_bind (keeps_whereColumn _ _ _) fun _ => keeps_bind (keeps_whereColumn _ _ _) fun _ =>
      keeps_bind (keeps_db _ _ _ _) fun _ => keeps_bind keeps_get fun _ => ?_
    split
    · exact failed _ _
    · exact keeps_bind (keeps_db _ _ _ _) fun _ => keeps_bind (keeps_orThrow _ _ _) fun _ =>
        keeps_bind keeps_get fun _ => keeps_bind (keeps_orThrow _ _ _) fun _ =>
        keeps_bind (yields_setServer _) fun _ => keeps_bind (yields_flash (by decide) _) fun _ =>
        keeps_bind (keeps_orThrow _ _ _) fun _ => yields_respond (shown _ (by simp))

theorem yields_updateError (shown : ok (.render 200 "update-user" [])) (msg : String) :
    Keeps (Yields ok) (updateError msg) := yields_flash_respond (by decide) _ shown

theorem yields_postUpdateUser (plain : ∀ r : Response, r.slot = .absent → ok r)
    (shown : ok (.render 200 "update-user" [])) (params : List (String × String)) :
    Keeps (Yields ok) (postUpdateUser p req params) := by
  have owner (userId : String) : Keeps (Yields ok) (do
      let session := (← get).session
      if !session.userId.strictEq (.str userId) && !session.isWorker.truthy then
        updateError "invalid authentication you are not allowed to access this" : Act Unit) :=
    keeps_bind keeps_get fun _ => keeps_ite (yields_updateError shown _) (keeps_pure _)
  have refusals (userId : String) : Keeps (Yields ok) (updateRefusals p req userId) := by
    unfold updateRefusals
    split
    · exact keeps_bind (yields_updateError shown _) fun _ => owner userId
    · exact owner userId
  refine keeps_attempt (keeps_bind (refusals _) fun _ =>
    keeps_bind (keeps_findUser p req _) fun found => ?_) fun _ =>
    yields_flash_respond (by decide) _ (plain _ rfl)
  split
  · exact keeps_bind (yields_updateError shown _) fun _ => keeps_throw _
  · exact keeps_bind (keeps_db _ _ _ _) fun _ => keeps_bind (keeps_orThrow _ _ _) fun _ =>
      keeps_bind (yields_setServer _) fun _ => yields_flash_respond (by decide) _ (plain _ rfl)

/-- An update with nothing to refuse shows no page. -/
theorem postUpdateUser_settled (params : List (String × String)) {c : Ctx}
    (settled : UpdateSettled p req (param params "userId") c) :
    Ensures (postUpdateUser p req params) c
      (fun _ t => Yields (fun r => r.slot = .absent) c t)
      (fun _ t => Yields (fun r => r.slot = .absent) c t) := by
  obtain ⟨accepted, allowed, known⟩ := settled
  have failed : Keeps (Yields fun r => r.slot = .absent) (do
      flash "error_msg" (.str "Internal server error")
      respond (.send 500 (.obj [("error_msg", .str "Internal server error")]))) :=
    yields_flash_respond (by decide) _ rfl
  have passed : ¬ (!c.session.userId.strictEq (.str (param params "userId")) &&
      !c.session.isWorker.truthy) = true := fun refused => refuses_update.mp refused allowed
  unfold postUpdateUser updateRefusals applyUpdate
  rw [ensures_attempt, ensures_bind]
  simp only [accepted]
  rw [ensures_bind, ensures_get, ensures_ite]
  refine ⟨fun refused => absurd refused passed, fun _ => ?_⟩
  rw [ensures_pure, ensures_bind]
  refine (findUser_spec p req _ c).mono ?_ ?_
  · intro found t post
    obtain ⟨rfl, works, looked⟩ := post
    split
    · obtain ⟨user, member, id⟩ := known works
      obtain ⟨_, valid, missing⟩ := findByPk_str p.toOrm (param params "userId") t.server.users.rows
      cases Option.some.inj (valid.symm.trans looked)
      exact absurd id (missing rfl user member)
    · have rest : ∀ user : User, Keeps (Yields fun r => r.slot = .absent) (do
          db req .User .update
          let user ← orThrow "SequelizeValidationError"
            (user.update p.toOrm (entries (p.validate updateSchema req.body).value))
          setServer fun s => { s with users := s.users.save user }
          flash "success_msg" (.str "User updated successfully")
          redirect "/memberIndex") := fun user =>
        keeps_bind (keeps_db _ _ _ _) fun _ => keeps_bind (keeps_orThrow _ _ _) fun _ =>
          keeps_bind (yields_setServer _) fun _ => yields_flash_respond (by decide) _ rfl
      refine ((rest _).ensures t).mono (fun _ _ yields => yields) ?_
      intro _ t' yields
      exact yields.trans (failed t')
  · intro _ t post
    obtain ⟨rfl, _⟩ := post
    exact failed t

end Yields

section Login

/-- A token is never empty. -/
theorem getAgentData_ne (data isAuthenticated role lastActivity : Value) :
    getAgentData data isAuthenticated role lastActivity ≠ "" := by
  intro empty
  have decoded := decodeURIComponent_encode
    (Json.stringify (Agent.toJSON ⟨data, isAuthenticated, role, lastActivity⟩))
  rw [getAgentData] at empty
  rw [empty, decodeURIComponent_plain (by decide), Option.some.injEq] at decoded
  have starts := Json.stringify_obj ([("data", data), ("isAuthenticated", isAuthenticated),
    ("role", role), ("lastActivity", lastActivity)].filter fun entry => entry.2 != .undefined) []
  rw [List.append_nil] at starts
  cases (congrArg String.toList decoded).trans starts

/-- The second context shows the same, and its flash has lost no agent. -/
def Grows (c c' : Ctx) : Prop := c'.locals = c.locals ∧ c.session.agents <+: c'.session.agents

instance : Std.Refl Grows := ⟨fun _ => ⟨rfl, List.prefix_refl _⟩⟩

instance : IsTrans Ctx Grows := ⟨fun _ _ _ first second =>
  ⟨second.1.trans first.1, first.2.trans second.2⟩⟩

theorem grows_flash {key : String} (other : key ≠ "agent") (msg : Value) :
    Keeps Grows (flash key msg) := by
  intro c
  have same : (c.flashed key msg).session.agents = c.session.agents :=
    congrArg Prod.snd (wire_flashed other msg c)
  exact ⟨rfl, by rw [← same]; exact List.prefix_refl _⟩

theorem grows_token {agent : String} (filled : agent ≠ "") :
    Keeps Grows (flash "agent" (.str agent)) := by
  intro c
  refine ⟨rfl, ?_⟩
  have pushes := agents_flashed (.str agent) c
  rw [pushAgent, if_pos (Value.truthy_str.mpr filled)] at pushes
  exact ⟨[.str agent], pushes.symm⟩

theorem grows_setServer (f : Server → Server) : Keeps Grows (setServer f) :=
  fun _ => ⟨rfl, List.prefix_refl _⟩

theorem grows_setSession {f : Session → Session} (kept : ∀ s, (f s).flash = s.flash) :
    Keeps Grows (setSession f) := by
  intro c
  have agents : (f c.session).agents = c.session.agents := by rw [Session.agents, kept, Session.agents]
  exact ⟨rfl, agents ▸ List.prefix_refl _⟩

theorem grows_flash_respond {key : String} (other : key ≠ "agent") (msg : Value) (r : Response) :
    Keeps Grows (do flash key msg; respond r) :=
  keeps_bind (grows_flash other msg) fun _ _ => ⟨rfl, List.prefix_refl _⟩

variable (p : Platform) (secrets : Secrets) (req : Request)

theorem grows_loginRole (user : User) (name : String) (userAgentRecord : Option LoginUserAgent)
    (authToken : Value) : Keeps Grows (loginRole p secrets req user name userAgentRecord authToken) := by
  have branch (f : Session → Session) (kept : ∀ s, (f s).flash = s.flash)
      (role welcome page : String) : Keeps Grows (do
        setSession f
        enter p req user.id userAgentRecord role welcome page) :=
    keeps_bind (grows_setSession kept) fun _ => keeps_bind (keeps_createAgent p req _ _ role
      grows_setServer fun _ _ _ _ => grows_token (getAgentData_ne _ _ _ _)) fun _ => keeps_bind (grows_setSession fun _ => rfl) fun _ =>
      grows_flash_respond (by decide) _ _
  refine keeps_ite ?_ (keeps_ite ?_ (keeps_ite ?_ (grows_flash_respond (by decide) _ _)))
  all_goals
    refine branch _ ?_ _ _ _
    intro _
    rfl

/-- A login adds its agent behind the one that tracking has flashed. -/
theorem grows_postLogin : Keeps Grows (postLogin p secrets req) := by
  have failed (msg : String) : Keeps Grows (loginError msg) := grows_flash_respond (by decide) _ _
  refine keeps_attempt (keeps_ite (failed _) ?_) fun _ => failed _
  refine keeps_bind (keeps_prop _ _ _) fun _ => keeps_bind (keeps_whereColumn _ _ _) fun _ =>
    keeps_bind (keeps_db _ _ _ _) fun _ => keeps_bind keeps_get fun _ => ?_
  dsimp only
  split
  · exact failed _
  · refine keeps_bind (keeps_asString _) fun _ => keeps_bind (keeps_prop _ _ _) fun _ =>
      keeps_bind (keeps_asString _) fun _ => keeps_ite (failed _) ?_
    exact keeps_bind (grows_setSession fun _ => rfl) fun _ =>
      keeps_bind (keeps_whereColumn _ _ _) fun _ => keeps_bind (keeps_db _ _ _ _) fun _ =>
      keeps_bind keeps_get fun _ => keeps_bind (keeps_prop _ _ _) fun _ =>
      grows_loginRole p secrets req _ _ _ _

end Login

section Pages

variable (p : Platform) (secrets : Secrets) (req : Request) (s : Server)

/-- A login of the request would send the client on to the page of a role. -/
def LoginSucceeds : Prop :=
  req.fault .User .findOne = none ∧ ∃ user, Matches p req s.users.rows user ∧
    Completes p secrets req s user

/-- The handler shows a page with the agent that the flash has left. -/
def FromFlash (params : List (String × String)) : Handler → Prop
  | .getIndex | .getLogin | .getRegister | .postRegister | .getUpdateUser => True
  | .postLogin => ¬ LoginSucceeds p secrets req s
  | .postUpdateUser => ¬ UpdateSettled p req (param params "userId") (Ctx.entry p req s)
  | _ => False

/-- The handler shows a page with an agent for each user. -/
def FromRows (handler : Handler) : Prop :=
  handler ∈ [Handler.getAdminDashboard, .getAdminUsers] ∧
    (∀ table ∈ adminQueries handler, req.fault table .findAll = none) ∧ s.users.rows ≠ []

/-- The answers, by what they have for their links and forms. -/
inductive PageOf : Response → Prop
  | absent {r : Response} (plain : r.slot = .absent) : PageOf r
  | flash {status : Nat} {view : String} {vars : List (String × Value)} {handler : Handler}
      {params : List (String × String)} (arrives : Arrives p req s handler.router)
      (addressed : Addressed p req handler params)
      (shows : FromFlash p secrets req s params handler) (slot : agentSlot view = .page)
      (hidden : ∀ locals, Value.field "agent" (vars ++ locals) = Value.field "agent" locals) :
      PageOf (.render status view vars)
  | query {status : Nat} {vars : List (String × Value)} {params : List (String × String)}
      (arrives : Arrives p req s .member) (addressed : Addressed p req .getMemberIndex params)
      (given : ∀ locals, Value.field "agent" (vars ++ locals) = p.query req.url "agent") :
      PageOf (.render status "memberIndex" vars)
  | rows {status : Nat} {view : String} {vars : List (String × Value)} {handler : Handler}
      {params : List (String × String)} (arrives : Arrives p req s handler.router)
      (addressed : Addressed p req handler params) (slot : agentSlot view = .rows)
      (shows : FromRows req s handler ∨ Value.field "users" vars = .arr []) :
      PageOf (.render status view vars)

/-- What a request leaves for the next one: a page with one of these agents, the agent that
tracking flashes, with one of a login behind it, and an identifier that only a login changes. -/
structure Leaves (t : Ctx) : Prop where
  pages : ∀ r ∈ t.responses.head?, PageOf p secrets req s r
  shown : Value.field "agent" t.locals = .arr ((s.sessions req.sid).getD {}).agents
  flashed : pushed p req ((s.sessions req.sid).getD {}) <+: t.session.agents
  alone : presented p req = none →
    t.session.agents = pushed p req ((s.sessions req.sid).getD {})
  userId : t.session.userId = (entrySession p req s).userId ∨ ∃ params user,
    Arrives p req s .login ∧ Addressed p req .postLogin params ∧
    req.fault .User .findOne = none ∧ Matches p req s.users.rows user ∧
    t.session.userId = .str user.id

variable {p secrets req s}

section Answers

variable {handler : Handler} {params : List (String × String)} {c : Ctx}

theorem said_page (status : Nat) (body : Value) : PageOf p secrets req s (.send status body) :=
  .absent rfl

/-- The two forms that greet a user by the identifier in the query. -/
theorem form_yields {view : String} (arrives : Arrives p req s handler.router)
    (addressed : Addressed p req handler params) (slot : agentSlot view = .page)
    (shows : FromFlash p secrets req s params handler) :
    Keeps (Yields (PageOf p secrets req s)) (do
      let userId := p.query req.url "userId"
      let notWorker := !(← get).session.isWorker.truthy
      if userId.truthy then render view [("userId", userId), ("notWorker", .bool notWorker)]
      else render view) := by
  refine keeps_bind keeps_get fun _ => keeps_ite (yields_respond ?_) (yields_respond ?_)
  · exact .flash arrives addressed shows slot fun _ => by simp [Value.field]
  · exact .flash arrives addressed shows slot fun _ => rfl

theorem index_yields (home : handler.router = .index) (arrives : Arrives p req s handler.router)
    (addressed : Addressed p req handler params) :
    Keeps (Yields (PageOf p secrets req s)) (handle p secrets req params handler) := by
  cases handler with
  | getIndex =>
    exact yields_respond (.flash arrives addressed trivial rfl fun _ => by simp [Value.field])
  | postSubscribe =>
    exact keeps_bind (yields_saveSubscription p req _ _) fun _ => yields_respond (said_page _ _)
  | getSendNotification => exact yields_getSendNotification req fun _ => .absent
  | getAccessDenied => exact yields_respond (.absent rfl)
  | _ => cases home

theorem login_yields (home : handler.router = .login) (arrives : Arrives p req s handler.router)
    (addressed : Addressed p req handler params) (other : handler ≠ .postLogin) :
    Keeps (Yields (PageOf p secrets req s)) (handle p secrets req params handler) := by
  cases handler with
  | getLogin => exact yields_respond (.flash arrives addressed trivial rfl fun _ => rfl)
  | postLogin => exact absurd rfl other
  | getLogout => exact yields_getLogout p req fun _ => .absent
  | _ => cases home

theorem register_yields (home : handler.router = .register) (arrives : Arrives p req s handler.router)
    (addressed : Addressed p req handler params) :
    Keeps (Yields (PageOf p secrets req s)) (handle p secrets req params handler) := by
  cases handler with
  | getRegister => exact form_yields arrives addressed rfl trivial
  | postRegister =>
    refine yields_postRegister p secrets req ?_
    intro vars keys
    refine .flash arrives addressed trivial rfl fun locals => ?_
    have unnamed : ∀ entry ∈ vars, ¬ (entry.1 == "agent") = true := by
      intro entry member
      have key := List.mem_map_of_mem (f := Prod.fst) member
      simp only [List.mem_cons, List.not_mem_nil, or_false] at keys
      rcases keys with isKeys | isKeys <;> rw [isKeys, List.mem_singleton] at key <;> simp [key]
    rw [Value.field, Value.field, List.find?_append, List.find?_eq_none.mpr unnamed, Option.none_or]
  | _ => cases home

/-- An update that goes through is answered without a page; one that is refused shows its form. -/
theorem postUpdateUser_yields
    (same : c.core = ({ Ctx.entry p req s with ran := some .postUpdateUser } : Ctx).core)
    (arrives : Arrives p req s (Handler.postUpdateUser).router)
    (addressed : Addressed p req .postUpdateUser params) :
    Ensures (postUpdateUser p req params) c
      (fun _ t => Yields (PageOf p secrets req s) c t)
      (fun _ t => Yields (PageOf p secrets req s) c t) := by
  have plain : ∀ r : Response, r.slot = .absent → PageOf p secrets req s r := fun _ => .absent
  by_cases settled : UpdateSettled p req (param params "userId") (Ctx.entry p req s)
  · have settles : UpdateSettled p req (param params "userId") c := by
      have session := Ctx.session_of_core same
      refine ⟨settled.accepted, ?_, fun works => ?_⟩
      · have userId := Session.userId_of_core session
        have isWorker := congrArg Session.isWorker session
        rw [MayUpdate, userId]
        exact settled.allowed.imp_right fun flag => (congrArg Value.truthy isWorker).trans flag
      · rw [Ctx.server_of_core same]
        exact settled.known works
    exact (postUpdateUser_settled p req params settles).mono
      (fun _ _ yields => ⟨yields.1, fun r member => (yields.2 r member).imp_right (plain r)⟩)
      (fun _ _ yields => ⟨yields.1, fun r member => (yields.2 r member).imp_right (plain r)⟩)
  · have refused : PageOf p secrets req s (.render 200 "update-user" []) :=
      .flash arrives addressed settled rfl fun _ => rfl
    exact (yields_postUpdateUser p req plain refused params).ensures c

theorem member_yields (home : handler.router = .member)
    (same : c.core = ({ Ctx.entry p req s with ran := some handler } : Ctx).core)
    (arrives : Arrives p req s handler.router) (addressed : Addressed p req handler params) :
    Ensures (handle p secrets req params handler) c
      (fun _ t => Yields (PageOf p secrets req s) c t)
      (fun _ t => Yields (PageOf p secrets req s) c t) := by
  cases handler with
  | getMemberIndex =>
    refine (yields_getMemberIndex p req (fun _ => .absent) ?_).ensures c
    exact fun user activities => .query arrives addressed fun _ => by simp [Value.field]
  | postCreateActivity =>
    exact (yields_postCreateActivity p req (fun _ => .absent) params).ensures c
  | getUpdateUser => exact (form_yields arrives addressed rfl trivial).ensures c
  | postUpdateUser => exact postUpdateUser_yields same arrives addressed
  | _ => cases home

theorem dashboard_yields (home : handler.router = .dashboard) :
    Keeps (Yields (PageOf p secrets req s)) (handle p secrets req params handler) := by
  cases handler with
  | getUserActivities =>
    exact keeps_attempt (keeps_bind (keeps_whereColumn _ _ _) fun _ =>
      keeps_bind (keeps_db _ _ _ _) fun _ => keeps_bind keeps_get fun _ =>
      yields_respond (said_page _ _)) fun _ => yields_respond (said_page _ _)
  | getDashboard =>
    exact keeps_attempt (keeps_bind (keeps_db _ _ _ _) fun _ => keeps_bind (keeps_db _ _ _ _)
      fun _ => keeps_undeclared _ _) fun _ => yields_respond (said_page _ _)
  | postUploadExcel => exact yields_postUploadExcel p req
  | getMemberStatistics =>
    exact keeps_attempt (keeps_bind (keeps_db _ _ _ _) fun _ => keeps_undeclared _ _) fun _ =>
      yields_respond (said_page _ _)
  | postEvents => exact yields_respond (said_page _ _)
  | getSearchMembers | getAdvancedSearchMembers =>
    exact keeps_attempt (keeps_throw _) fun _ => keeps_undeclared _ _
  | getUnit => exact keeps_attempt (keeps_undeclared _ _) fun _ => yields_respond (said_page _ _)
  | _ => cases home

/-- A page with a table of users shows no agent in an empty one. -/
theorem rows_or_empty {vars : List (String × Value)}
    (works : ∀ table ∈ adminQueries handler, req.fault table .findAll = none)
    (listed : Value.field "users" vars = .arr (s.users.rows.map Row.toJSON))
    (admin : handler ∈ [Handler.getAdminDashboard, .getAdminUsers]) :
    FromRows req s handler ∨ Value.field "users" vars = .arr [] := by
  by_cases empty : s.users.rows = []
  · rw [empty] at listed
    exact .inr listed
  · exact .inl ⟨admin, works, empty⟩

theorem admin_yields (home : handler.router = .admin) (server : c.server = s)
    (arrives : Arrives p req s handler.router) (addressed : Addressed p req handler params) :
    Ensures (handle p secrets req params handler) c
      (fun _ t => Yields (PageOf p secrets req s) c t)
      (fun _ t => Yields (PageOf p secrets req s) c t) := by
  have plain : ∀ r : Response, r.slot = .absent → PageOf p secrets req s r := fun _ => .absent
  cases handler with
  | getAdminDashboard =>
    have failed := yields_adminError plain "Error loading admin dashboard" "/admin/login"
    unfold handle getAdminDashboard
    simp only [ensures_attempt, ensures_bind, ensures_db, ensures_get, server]
    refine ⟨fun _ _ => failed.ensures c, fun users => ⟨fun _ _ => failed.ensures c,
      fun activities => ?_⟩⟩
    refine (yields_respond ?_ : Keeps _ (render _ _)).ensures c
    refine .rows arrives addressed rfl (rows_or_empty ?_ rfl (by simp))
    simp [adminQueries, users, activities]
  | getAdminUsers =>
    have failed := yields_adminError plain "Error loading users" "/admin/dashboard"
    unfold handle getAdminUsers
    simp only [ensures_attempt, ensures_bind, ensures_db, ensures_get, server]
    refine ⟨fun _ _ => failed.ensures c, fun users => ?_⟩
    refine (yields_respond ?_ : Keeps _ (render _ _)).ensures c
    refine .rows arrives addressed rfl (rows_or_empty ?_ rfl (by simp))
    simp [adminQueries, users]
  | getAdminActivities =>
    exact (keeps_attempt (keeps_bind (keeps_db _ _ _ _) fun _ => keeps_bind keeps_get fun _ =>
      yields_respond (plain _ rfl)) fun _ => yields_adminError plain _ _).ensures c
  | _ => cases home

/-- The answers of a handler other than the login. -/
theorem handle_yields (same : c.core = ({ Ctx.entry p req s with ran := some handler } : Ctx).core)
    (arrives : Arrives p req s handler.router) (addressed : Addressed p req handler params)
    (other : handler ≠ .postLogin) :
    Ensures (handle p secrets req params handler) c
      (fun _ t => Yields (PageOf p secrets req s) c t)
      (fun _ t => Yields (PageOf p secrets req s) c t) := by
  cases home : handler.router with
  | index => exact (index_yields home arrives addressed).ensures c
  | login => exact (login_yields home arrives addressed other).ensures c
  | register => exact (register_yields home arrives addressed).ensures c
  | member => exact member_yields home same arrives addressed
  | dashboard => exact (dashboard_yields home).ensures c
  | admin => exact admin_yields home (Ctx.server_of_core same) arrives addressed

end Answers

/-- A login shows its page again or sends the client on. -/
theorem LoginEnds.leaves {params : List (String × String)} {c t : Ctx}
    (ends : LoginEnds p secrets req c t) (idle : c.responses = []) (server : c.server = s)
    (named : c.session.userId = (entrySession p req s).userId)
    (arrives : Arrives p req s .login) (addressed : Addressed p req .postLogin params) :
    (∀ r ∈ t.responses, PageOf p secrets req s r) ∧
      (t.session.userId = (entrySession p req s).userId ∨ ∃ user,
        req.fault .User .findOne = none ∧ Matches p req s.users.rows user ∧
        t.session.userId = .str user.id) := by
  have shown (session : Session) (msg : String) (fails : ¬ LoginSucceeds p secrets req s) :
      ∀ r ∈ (({ c with session := session } : Ctx).loginShown msg).responses,
        PageOf p secrets req s r := by
    intro r member
    have isPage : r = .render 200 "login" [("error_msg", .str msg)] := by
      rcases List.mem_append.mp member with old | new
      · rw [show ((({ c with session := session } : Ctx).flashed "error_msg" (.str msg)).responses)
          = [] from idle] at old
        cases old
      · exact List.mem_singleton.mp new
    rw [isPage]
    refine .flash ?_ addressed fails rfl fun _ => by simp [Value.field]
    exact arrives
  subst server
  cases ends with
  | refused msg unmatched left =>
    subst left
    refine ⟨shown c.session msg ?_, .inl named⟩
    rintro ⟨works, user, matched, _⟩
    exact unmatched works user matched
  | stuck user msg works matched fails left =>
    subst left
    refine ⟨shown _ msg ?_, .inr ⟨user, works, matched, ?_⟩⟩
    · rintro ⟨_, other, matched', completes⟩
      rw [matched.unique matched'] at fails
      exact fails completes
    · change (stranded p secrets req user c.session).userId = .str user.id
      unfold stranded
      split
      · rfl
      · rfl
  | granted user role activities matched stands reads completes recorded same answer =>
    refine ⟨fun r member => ?_, .inr ⟨user, reads.1, matched, ?_⟩⟩
    · rw [answer, idle, List.nil_append, List.mem_singleton] at member
      rw [member]
      exact .absent rfl
    · exact Session.userId_of_core (Ctx.session_of_core same)

theorem Leaves.of_wire {t : Ctx} (pages : ∀ r ∈ t.responses.head?, PageOf p secrets req s r)
    (wire : t.wire = (.arr ((s.sessions req.sid).getD {}).agents,
      pushed p req ((s.sessions req.sid).getD {})))
    (userId : t.session.userId = (entrySession p req s).userId) : Leaves p secrets req s t where
  pages := pages
  shown := congrArg Prod.fst wire
  flashed := by rw [show t.session.agents = _ from congrArg Prod.snd wire]
  alone := fun _ => congrArg Prod.snd wire
  userId := .inl userId

/-- The identifier behind a handler other than the login is the one it was entered with: the member
page shows nobody but the user of the session. -/
theorem Done.userId_entry {handler : Handler} {params : List (String × String)} {c t : Ctx}
    (done : Done p secrets req params c t handler) (other : handler ≠ .postLogin)
    (same : c.session.core = (entrySession p req s).core) :
    t.session.userId = (entrySession p req s).userId := by
  have entered := Session.userId_of_core same
  rcases done.outcome.userId with kept | ⟨login, _⟩ | ⟨_, user, _, truthy, current, id⟩
  · exact kept.trans entered
  · exact absurd login other
  · rw [currentId_of_core same] at current
    exact id.trans (tracked_currentId current truthy).symm

/-- Every request leaves this for the next one. -/
theorem served_leaves : Leaves p secrets req s (served p secrets req s) := by
  have named {t : Ctx} (core : t.core = (Ctx.entry p req s).core) :
      t.session.userId = (entrySession p req s).userId :=
    Session.userId_of_core (Ctx.session_of_core core)
  have answered {t : Ctx} {r : Response} (idle : t.sent = 0) (plain : r.slot = .absent) :
      ∀ r' ∈ (t.answered r).responses.head?, PageOf p secrets req s r' := by
    intro r' first
    rw [head_answered idle] at first
    cases first
    exact .absent plain
  refine served_walk secrets (P := fun t => Leaves p secrets req s t) ?_ ?_ ?_ ?_
  · rintro t ⟨core, wire, ⟨url, first, _⟩, _⟩
    refine .of_wire (fun r isFirst => ?_) wire (named core)
    rw [first] at isFirst
    cases isFirst
    exact .absent rfl
  · intro t enters _
    exact .of_wire (answered (t := t.flashed _ _) enters.idle rfl)
      ((wire_flashed (by decide) _ t).trans enters.wire) (named enters.core)
  · exact fun t body enters => .of_wire (answered enters.idle rfl) enters.wire (named enters.core)
  · intro handler params t enters arrives addressed isGet
    have silent : t.responses = [] := List.eq_nil_of_length_eq_zero enters.idle
    by_cases login : handler = .postLogin
    · subst login
      -- without an agent tracking hands on nothing but `GET`
      have presents : presented p req ≠ none := by
        intro missing
        rcases arrives.opened with page | ⟨agent, found, _⟩
        · have get : req.method = "GET" := by
            rw [redirector, decide_eq_true_eq] at page
            exact page.2
          cases isGet get
        · rw [missing] at found
          cases found
      refine ((postLogin_ends p secrets req _).and ((grows_postLogin p secrets req).ensures _)).mono
        ?_ (fun _ _ never => never.1.elim)
      rintro _ t' ⟨ends, locals, grown⟩
      have server : t.server = s := Ctx.server_of_core enters.core
      have userId := named enters.core
      obtain ⟨pages, userId⟩ := ends.leaves silent server userId arrives addressed
      refine ⟨fun r first => pages r (List.mem_of_mem_head? first), ?_, ?_,
        fun missing => absurd missing presents, ?_⟩
      · rw [locals]
        exact congrArg Prod.fst enters.wire
      · have flashed : t.session.agents = pushed p req ((s.sessions req.sid).getD {}) :=
          congrArg Prod.snd enters.wire
        rw [← flashed]
        exact grown
      · refine userId.imp_right ?_
        rintro ⟨user, works, matched, id⟩
        exact ⟨params, user, arrives, addressed, works, matched, id⟩
    · -- the error handler answers behind whatever the handler has said
      have left {t' : Ctx} (yields : Yields (PageOf p secrets req s) { t with ran := some handler } t')
          (done : Done p secrets req params { t with ran := some handler } t' handler) :
          Leaves p secrets req s t' ∧ Leaves p secrets req s (t'.recovered req) := by
        have pages : ∀ r ∈ t'.responses, PageOf p secrets req s r := by
          intro r member
          refine (yields.2 r member).resolve_left fun old => ?_
          rw [show ({ t with ran := some handler } : Ctx).responses = [] from silent] at old
          cases old
        have session : t.session.core = (entrySession p req s).core :=
          Ctx.session_of_core enters.core
        have userId := done.userId_entry login session
        refine ⟨.of_wire (fun r first => pages r (List.mem_of_mem_head? first))
          (yields.1.trans enters.wire) userId, .of_wire (fun r first => ?_)
          ((wire_flashed (by decide) _ t').trans (yields.1.trans enters.wire)) userId⟩
        rcases List.mem_append.mp (List.mem_of_mem_head? first) with old | new
        · exact pages r old
        · rw [List.mem_singleton.mp new]
          exact .absent rfl
      refine ((handle_yields (enters.core_ran handler) arrives addressed login).and
        (handle_spec p secrets req params handler _)).mono ?_ ?_
      · exact fun _ _ post => (left post.1 post.2).1
      · exact fun _ _ post => (left post.1 post.2.2).2

end Pages

end ChurchManagement
