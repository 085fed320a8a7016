import ChurchManagement.App

namespace ChurchManagement

open Js Effect Express Sequelize

inductive Router
  | index
  | login
  | register
  | member
  | dashboard
  | admin
  deriving DecidableEq, Repr

def Router.routes : Router → List (Route Handler)
  | .index => indexRoutes
  | .login => loginRoutes
  | .register => registerRoutes
  | .member => memberRoutes
  | .dashboard => dashboardRoutes
  | .admin => adminRoutes

/-- The role lists of the gates that a request meets on its way to the router. -/
def Router.gates : Router → List (List String)
  | .index | .login | .register => []
  | .member => [["member", "worker", "admin"]]
  | .dashboard => [["member", "worker", "admin"], ["worker", "admin"]]
  | .admin => [["member", "worker", "admin"], ["worker", "admin"], ["admin"]]

def Handler.router : Handler → Router
  | .getIndex | .postSubscribe | .getSendNotification | .getAccessDenied => .index
  | .getLogin | .postLogin | .getLogout => .login
  | .getRegister | .postRegister => .register
  | .getMemberIndex | .postCreateActivity | .getUpdateUser | .postUpdateUser => .member
  | .getUserActivities | .getDashboard | .postUploadExcel | .getMemberStatistics | .postEvents
  | .getSearchMembers | .getAdvancedSearchMembers | .getUnit => .dashboard
  | .getAdminDashboard | .getAdminUsers | .getAdminActivities => .admin

theorem Router.handler_router (r : Router) : ∀ route ∈ r.routes, route.handler.router = r := by
  cases r <;> decide

section

variable (p : Platform) (secrets : Secrets)

/-- A request that is routed to the handler, with the parameters of the path. -/
def Addressed (req : Request) (handler : Handler) (params : List (String × String)) : Prop :=
  dispatch req.method (p.pathname req.url) handler.router.routes = .found handler params

/-- The agent of a request has data, claims to be authenticated with one of the roles, and carries
an allowed identifier. -/
def Cleared (roles : List String) (req : Request) (s : Server) : Prop :=
  ∃ agent userId role, presented p req = some agent ∧ agent.data.truthy = true ∧
    agent.isAuthenticated.truthy = true ∧ role ∈ roles ∧ agent.role = .str role ∧
    agent.data.prop "userId" = .ok (.str userId) ∧ userId ∈ s.allowedID

/-- What a handler has done when it is left in the context, having been entered in another. -/
def Done (req : Request) (params : List (String × String)) (c t : Ctx) : Handler → Prop
  | .postSubscribe => ∃ rows, t.core =
      ({ c with server := { c.server with subscriptions := rows } } : Ctx).core
  | .postLogin => LoginOutcome p secrets req c t
  | .getLogout => (∃ record, LogsOut p req c record ∧ t.core = (c.loggedOut record).core) ∨
      t.core = c.core ∧ ∀ record, ¬ LogsOut p req c record
  | .postRegister => t.core = c.core ∨ ∃ users, Registers p secrets req c.server.users users ∧
      t.core = ({ c with server := { c.server with users := users } } : Ctx).core
  | .getMemberIndex => t.core = c.core ∨ ∃ user ∈ c.server.users.rows,
      req.fault .User .findByPk = none ∧ (Value.str user.id).truthy = true ∧ currentId p req c.session = some (.str user.id) ∧
      t.core = (c.shown user).core
  | .postCreateActivity => t.core = c.core ∨ ∃ activities, Records p req params c activities ∧
      t.core = (c.recorded activities).core
  | .postUpdateUser => (∃ user, Updates p req params c.server.users.rows user ∧
      t.core = (c.updated user).core) ∨
      t.core = c.core ∧ ∀ user, ¬ Updates p req params c.server.users.rows user
  | _ => t.core = c.core

theorem handle_spec (req : Request) (params : List (String × String)) (handler : Handler) (c : Ctx) :
    Ensures (handle p secrets req params handler) c (fun _ t => Done p secrets req params c t handler)
      (fun _ t => handler ≠ .postLogin ∧ Done p secrets req params c t handler) := by
  have still {x : Act Unit} (kept : Keeps (Same Ctx.core) x) (other : handler ≠ .postLogin) :
      Ensures x c (fun _ t => t.core = c.core)
        (fun _ t => handler ≠ .postLogin ∧ t.core = c.core) :=
    (kept.ensures c).mono (fun _ _ same => same) (fun _ _ same => ⟨other, same⟩)
  cases handler with
  | getIndex => exact still (keeps_render _ _) (by decide)
  | postSubscribe =>
    exact (postSubscribe_spec p req c).mono (fun _ _ done => done) (fun _ _ never => never.elim)
  | getSendNotification => exact still (keeps_getSendNotification req) (by decide)
  | getAccessDenied => exact still (keeps_respond _) (by decide)
  | getLogin => exact still (keeps_render _ _) (by decide)
  | postLogin =>
    exact (postLogin_spec p secrets req c).mono (fun _ _ done => done) (fun _ _ never => never.elim)
  | getLogout =>
    exact (getLogout_spec p req c).mono (fun _ _ done => done)
      (fun _ _ failed => ⟨by decide, .inr failed⟩)
  | getRegister => exact still (keeps_getRegister p req) (by decide)
  | postRegister =>
    exact (postRegister_spec p secrets req c).mono (fun _ _ done => done)
      (fun _ _ never => never.elim)
  | getMemberIndex =>
    exact (getMemberIndex_spec p req c).mono (fun _ _ done => done) (fun _ _ never => never.elim)
  | postCreateActivity =>
    exact (postCreateActivity_spec p req params c).mono (fun _ _ done => done)
      (fun _ _ failed => ⟨by decide, .inl failed⟩)
  | getUpdateUser => exact still (keeps_getUpdateUser p req) (by decide)
  | postUpdateUser =>
    exact (postUpdateUser_spec p req params c).mono (fun _ _ done => done)
      (fun _ _ never => never.elim)
  | getUserActivities => exact still (keeps_getUserActivities p req _) (by decide)
  | getDashboard => exact still (keeps_getDashboard req) (by decide)
  | postUploadExcel => exact still (keeps_postUploadExcel p req) (by decide)
  | getMemberStatistics => exact still (keeps_getMemberStatistics req) (by decide)
  | postEvents => exact still (keeps_respond _) (by decide)
  | getSearchMembers => exact still keeps_searchMembers (by decide)
  | getAdvancedSearchMembers => exact still keeps_searchMembers (by decide)
  | getUnit => exact still keeps_getUnit (by decide)
  | getAdminDashboard => exact still (keeps_getAdminDashboard p req) (by decide)
  | getAdminUsers => exact still (keeps_getAdminUsers req) (by decide)
  | getAdminActivities => exact still (keeps_getAdminActivities req) (by decide)

/-- What a handler does depends on the core of the context it is entered in. -/
theorem Done.of_entry {req : Request} {params : List (String × String)} {c c' t : Ctx}
    {handler : Handler} (done : Done p secrets req params c t handler) (same : c'.core = c.core) :
    Done p secrets req params c' t handler := by
  by_cases login : handler = .postLogin
  · subst login
    exact LoginOutcome.of_entry p secrets done same
  · have through (c : Ctx) : Done p secrets req params c t handler =
        Done p secrets req params c.core t handler := by
      cases handler <;> first | exact absurd rfl login | rfl
    rw [through, same, ← through]
    exact done

theorem Done.of_core {req : Request} {params : List (String × String)} {c t t' : Ctx}
    {handler : Handler} (done : Done p secrets req params c t handler)
    (other : handler ≠ .postLogin) (same : t'.core = t.core) :
    Done p secrets req params c t' handler := by
  cases handler <;> first | exact absurd rfl other | simpa only [Done, same] using done

/-- The handler has been entered and left: its route matched, the request has an agent or is for
a public page, and each gate before the router was skipped or cleared. -/
structure Handled (req : Request) (c₁ t : Ctx) (handler : Handler)
    (params : List (String × String)) : Prop where
  routed : Addressed p req handler params
  opened : (presented p req).isSome = true ∨ redirector req.url req.method = true
  gated : ∀ roles ∈ handler.router.gates, Skips req c₁.session ∨ Cleared p roles req c₁.server
  done : Done p secrets req params { c₁ with ran := some handler } t handler

section Walk

variable (req : Request) (c₁ : Ctx)

/-- How the layers leave a context: as tracking has left it, or through a handler. The flow is
absent when they were left by an exception, which no login is. -/
def Walked (flow : Option Flow) (t : Ctx) : Prop :=
  t.core = c₁.core ∨ flow ≠ some .next ∧ ∃ handler params,
    Handled p secrets req c₁ t handler params ∧ (flow = none → handler ≠ .postLogin)

/-- The layers walk on from the context. -/
abbrev Walks (layers : List (Act Flow)) (t : Ctx) : Prop :=
  Ensures (chain layers) t (fun flow t => Walked p secrets req c₁ (some flow) t)
    (fun _ t => Walked p secrets req c₁ none t)

variable {req c₁}

theorem walks_guards {roles : List String} {rest : List (Act Flow)} {t : Ctx}
    (same : t.core = c₁.core)
    (passed : ∀ t', t'.core = c₁.core → Skips req c₁.session ∨ Cleared p roles req c₁.server →
      Walks p secrets req c₁ rest t') :
    Walks p secrets req c₁ (guards p roles req ++ rest) t := by
  have skips {t : Ctx} (same : t.core = c₁.core) (skip : Skips req t.session) :
      Skips req c₁.session := by
    unfold Skips OwnUpdate at skip ⊢
    rwa [Session.userId_of_core (Ctx.session_of_core same)] at skip
  simp only [guards, List.cons_append, List.nil_append]
  rw [Walks, ensures_chain_cons]
  refine (isAuthenticated_spec p req t).mono ?_ (fun _ _ same' => .inl (same'.trans same))
  intro flow t₁ post
  obtain ⟨same₁, authenticated⟩ := post
  replace same₁ := same₁.trans same
  refine ⟨fun passes => ?_, fun _ => .inl same₁⟩
  rw [ensures_chain_cons]
  refine (isAuthorized_spec p roles req t₁).mono ?_ (fun _ _ same' => .inl (same'.trans same₁))
  intro flow₂ t₂ post
  obtain ⟨same₂, authorized⟩ := post
  replace same₂ := same₂.trans same₁
  refine ⟨fun passes₂ => ?_, fun _ => .inl same₂⟩
  rw [ensures_chain_cons]
  refine (validateAgent_spec p req t₂).mono ?_ (fun _ _ same' => .inl (same'.trans same₂))
  intro flow₃ t₃ post
  obtain ⟨same₃, validated⟩ := post
  replace same₃ := same₃.trans same₂
  refine ⟨fun passes₃ => passed t₃ same₃ ?_, fun _ => .inl same₃⟩
  rcases authenticated passes with skip | ⟨agent, found, data, authentic⟩
  · exact .inl (skips same skip)
  rcases authorized passes₂ with skip | ⟨agent', found', role, listed, isRole⟩
  · exact .inl (skips same₁ skip)
  rcases validated passes₃ with skip | missing | ⟨agent'', userId, found'', read, allowed⟩
  · exact .inl (skips same₂ skip)
  · rw [found] at missing
    cases missing
  · cases Option.some.inj (found.symm.trans found')
    cases Option.some.inj (found.symm.trans found'')
    rw [Ctx.server_of_core same₂] at allowed
    obtain ⟨id, member, rfl⟩ := Server.allows_iff.mp allowed
    exact .inr ⟨agent, id, role, found, data, authentic, listed, isRole, read, member⟩

theorem walks_router {r : Router} {rest : List (Act Flow)} {t : Ctx}
    (same : t.core = c₁.core)
    (opened : (presented p req).isSome = true ∨ redirector req.url req.method = true)
    (gated : ∀ roles ∈ r.gates, Skips req c₁.session ∨ Cleared p roles req c₁.server)
    (missed : Walks p secrets req c₁ rest t) :
    Walks p secrets req c₁ (router p secrets r.routes req :: rest) t := by
  rw [Walks, ensures_chain_cons]
  unfold router
  split
  · exact ⟨fun _ => missed, by simp⟩
  · exact .inl same
  · rename_i handler params found
    obtain ⟨route, member, isHandler, _⟩ := dispatch_found found
    have home : handler.router = r := isHandler ▸ r.handler_router route member
    have handled {t' : Ctx}
        (done : Done p secrets req params { t with ran := some handler } t' handler) :
        Handled p secrets req c₁ t' handler params := by
      refine ⟨by rw [Addressed, home]; exact found, opened, home ▸ gated, done.of_entry p secrets ?_⟩
      have others : ({ c₁.core with ran := some handler } : Ctx) =
          { t.core with ran := some handler } := by rw [same]
      exact others
    simp only [ensures_bind, ensures_modify]
    refine (handle_spec p secrets req params handler _).mono ?_ ?_
    · intro _ t' done
      exact ⟨by simp, fun _ => .inr ⟨by simp, handler, params, handled done, by simp⟩⟩
    · intro _ t' post
      obtain ⟨other, done⟩ := post
      exact .inr ⟨by simp, handler, params, handled done, fun _ => other⟩

end Walk

/-- The context that a request has behind `trackUserActivity`. -/
def Ctx.entry (req : Request) (s : Server) : Ctx :=
  { server := s, session := tracked p req ((s.sessions req.sid).getD {}) }

theorem walks_layers (req : Request) (s : Server) :
    Walks p secrets req (Ctx.entry p req s) (layers p secrets req) (Ctx.start req s) := by
  simp only [layers, publicLayers, List.cons_append, List.nil_append]
  rw [Walks, ensures_chain_cons]
  refine ⟨fun _ => ?_, fun impossible => by cases impossible⟩
  rw [ensures_chain_cons]
  refine (trackUserActivity_spec p req _).mono ?_ (fun _ _ impossible => impossible.elim)
  intro flow t post
  obtain ⟨same, opens⟩ := post
  replace same : t.core = (Ctx.entry p req s).core :=
    same.trans (Ctx.core_session rfl (tracked_core p req rfl))
  refine ⟨fun passes => ?_, fun _ => .inl same⟩
  have opened := opens passes
  refine walks_router p secrets (r := .index) same opened (by simp [Router.gates]) ?_
  refine walks_router p secrets (r := .login) same opened (by simp [Router.gates]) ?_
  refine walks_router p secrets (r := .register) same opened (by simp [Router.gates]) ?_
  simp only [List.append_assoc]
  refine walks_guards p secrets same fun t same member => ?_
  refine walks_router p secrets (r := .member) same opened (by simpa [Router.gates]) ?_
  refine walks_guards p secrets same fun t same worker => ?_
  refine walks_router p secrets (r := .dashboard) same opened (by simp [Router.gates, member, worker]) ?_
  refine walks_guards p secrets same fun t same admin => ?_
  refine walks_router p secrets (r := .admin) same opened
    (by simp [Router.gates, member, worker, admin]) ?_
  exact .inl same

/-- What one request can do: tracking its session, and then at most one handler. -/
theorem served_spec (req : Request) (s : Server) :
    (served p secrets req s).core = (Ctx.entry p req s).core ∨ ∃ handler params,
      Handled p secrets req (Ctx.entry p req s) (served p secrets req s) handler params := by
  have whole : Ensures (app p secrets req) (Ctx.start req s)
      (fun _ t => Walked p secrets req (Ctx.entry p req s) (some .ended) t)
      (fun _ t => Walked p secrets req (Ctx.entry p req s) (some .ended) t) := by
    unfold app
    rw [ensures_attempt, ensures_bind]
    refine (walks_layers p secrets req s).mono ?_ ?_
    · intro flow t walked
      cases flow with
      | next =>
        rcases walked with same | ⟨impossible, _⟩
        · exact .inl same
        · exact absurd rfl impossible
      | ended => exact walked
    · rintro _ t (same | ⟨_, handler, params, handled, other⟩)
      · exact .inl same
      · exact .inr ⟨by simp, handler, params, ⟨handled.routed, handled.opened, handled.gated,
          handled.done.of_core p secrets (other rfl) rfl⟩, by simp⟩
  rcases whole.final with same | ⟨_, handler, params, handled, _⟩
  · exact .inl same
  · exact .inr ⟨handler, params, handled⟩

/-- The ways a handler can leave the core, one for each write it makes. -/
inductive Outcome (req : Request) (params : List (String × String)) (c t : Ctx) : Handler → Prop
  | quiet {handler : Handler} (left : t.core = c.core) : Outcome req params c t handler
  | subscribed (rows : Table SubscriptionColumn)
      (left : t.core = ({ c with server := { c.server with subscriptions := rows } } : Ctx).core) :
      Outcome req params c t .postSubscribe
  | identified (user : User) (matched : Matches p req c.server.users.rows user)
      (stuck : ¬ Completes p secrets req c.server user)
      (left : t.core = (c.identified p user).core) : Outcome req params c t .postLogin
  | promoted (user : User) (role : String) (matched : Matches p req c.server.users.rows user)
      (stands : tokenRole secrets (loginToken p req) = some role) (reads : LoginReads req)
      (stuck : ¬ Completes p secrets req c.server user)
      (left : t.core = ((c.identified p user).promoted role).core) :
      Outcome req params c t .postLogin
  | granted (user : User) (role : String) (activities : Table ActivityColumn)
      (matched : Matches p req c.server.users.rows user)
      (stands : tokenRole secrets (loginToken p req) = some role) (reads : LoginReads req)
      (completes : Completes p secrets req c.server user)
      (recorded : AgentRecorded p req user.id role (agentRow p c.server.activities.rows user.id)
        c.server.activities activities)
      (answer : t.responses.getLast? = some (loginResponse p req user role))
      (left : t.core = (((c.identified p user).promoted role).granted user.id activities).core) :
      Outcome req params c t .postLogin
  | loggedOut (record : LoginUserAgent) (logsOut : LogsOut p req c record)
      (left : t.core = (c.loggedOut record).core) : Outcome req params c t .getLogout
  | registered (users : Table UserColumn) (registers : Registers p secrets req c.server.users users)
      (left : t.core = ({ c with server := { c.server with users := users } } : Ctx).core) :
      Outcome req params c t .postRegister
  | shown (user : User) (member : user ∈ c.server.users.rows)
      (reads : req.fault .User .findByPk = none) (truthy : (Value.str user.id).truthy = true)
      (current : currentId p req c.session = some (.str user.id))
      (left : t.core = (c.shown user).core) : Outcome req params c t .getMemberIndex
  | recorded (activities : Table ActivityColumn) (records : Records p req params c activities)
      (left : t.core = (c.recorded activities).core) : Outcome req params c t .postCreateActivity
  | updated (user : User) (updates : Updates p req params c.server.users.rows user)
      (left : t.core = (c.updated user).core) : Outcome req params c t .postUpdateUser

section Parts

variable {p secrets} {req : Request} {params : List (String × String)} {c t : Ctx}
  {handler : Handler}

theorem Done.outcome (done : Done p secrets req params c t handler) :
    Outcome p secrets req params c t handler := by
  cases handler with
  | postSubscribe =>
    obtain ⟨rows, left⟩ := done
    exact .subscribed rows left
  | postLogin =>
    rcases done with ⟨_, left, _⟩ | ⟨user, _, matched, stuck, left, _⟩ |
      ⟨user, role, _, matched, stands, reads, stuck, left, _⟩ |
      ⟨user, role, activities, matched, stands, reads, completes, recorded, left, answer⟩
    · exact .quiet left
    · exact .identified user matched stuck left
    · exact .promoted user role matched stands reads stuck left
    · exact .granted user role activities matched stands reads completes recorded answer left
  | getLogout =>
    rcases done with ⟨record, logsOut, left⟩ | ⟨left, _⟩
    · exact .loggedOut record logsOut left
    · exact .quiet left
  | postRegister =>
    rcases done with left | ⟨users, registers, left⟩
    · exact .quiet left
    · exact .registered users registers left
  | getMemberIndex =>
    rcases done with left | ⟨user, member, reads, truthy, current, left⟩
    · exact .quiet left
    · exact .shown user member reads truthy current left
  | postCreateActivity =>
    rcases done with left | ⟨activities, records, left⟩
    · exact .quiet left
    · exact .recorded activities records left
  | postUpdateUser =>
    rcases done with ⟨user, updates, left⟩ | ⟨left, _⟩
    · exact .updated user updates left
    · exact .quiet left
  | _ => exact .quiet done

theorem Outcome.ran (outcome : Outcome p secrets req params c t handler) : t.ran = c.ran := by
  cases outcome <;> rename_i left <;> exact (Ctx.ran_of_core left :)

theorem Handled.ran (handled : Handled p secrets req c t handler params) : t.ran = some handler :=
  handled.done.outcome.ran

/-- The handler that is recorded was entered through its route and its gates. -/
theorem handled_of_ran {s : Server} (ran : (served p secrets req s).ran = some handler) :
    ∃ params, Handled p secrets req (Ctx.entry p req s) (served p secrets req s) handler params := by
  rcases served_spec p secrets req s with same | ⟨other, params, handled⟩
  · have none := Ctx.ran_of_core same
    rw [ran] at none
    cases none
  · cases Option.some.inj (handled.ran.symm.trans ran)
    exact ⟨params, handled⟩

/-- Nothing writes the agent records. -/
theorem Outcome.userAgents (outcome : Outcome p secrets req params c t handler) :
    t.server.userAgents = c.server.userAgents := by
  cases outcome <;> rename_i left <;>
    exact (congrArg Server.userAgents (Ctx.server_of_core left) :)

theorem Outcome.allowedID (outcome : Outcome p secrets req params c t handler) :
    t.server.allowedID = c.server.allowedID ∨ handler = .postLogin ∧ ∃ user role,
      Matches p req c.server.users.rows user ∧
      tokenRole secrets (loginToken p req) = some role ∧
      t.responses.getLast? = some (loginResponse p req user role) ∧
      t.server.allowedID = c.server.allowedID ++ [user.id] := by
  cases outcome with
  | granted user role activities matched stands reads completes recorded answer left =>
    exact .inr ⟨rfl, user, role, matched, stands, answer,
      (congrArg Server.allowedID (Ctx.server_of_core left) :)⟩
  | _ => rename_i left; exact .inl (congrArg Server.allowedID (Ctx.server_of_core left) :)

theorem Outcome.users (outcome : Outcome p secrets req params c t handler) :
    t.server.users = c.server.users ∨
      handler = .postRegister ∧ Registers p secrets req c.server.users t.server.users ∨
      handler = .postUpdateUser ∧ ∃ user, Updates p req params c.server.users.rows user ∧
        t.server.users = c.server.users.save user := by
  cases outcome with
  | registered users registers left =>
    have same : t.server.users = users := (congrArg Server.users (Ctx.server_of_core left) :)
    exact .inr (.inl ⟨rfl, same ▸ registers⟩)
  | updated user updates left =>
    exact .inr (.inr ⟨rfl, user, updates, (congrArg Server.users (Ctx.server_of_core left) :)⟩)
  | _ => rename_i left; exact .inl (congrArg Server.users (Ctx.server_of_core left) :)

theorem Outcome.activities (outcome : Outcome p secrets req params c t handler) :
    t.server.activities = c.server.activities ∨
      (handler = .postLogin ∧ ∃ user role, Matches p req c.server.users.rows user ∧
        Completes p secrets req c.server user ∧
        AgentRecorded p req user.id role (agentRow p c.server.activities.rows user.id)
          c.server.activities t.server.activities) ∨
      (handler = .getLogout ∧ ∃ record, LogsOut p req c record ∧
        t.server.activities = c.server.activities.destroy record) ∨
      handler = .postCreateActivity ∧ Records p req params c t.server.activities := by
  cases outcome with
  | granted user role activities matched stands reads completes recorded answer left =>
    have same : t.server.activities = activities := (congrArg Server.activities (Ctx.server_of_core left) :)
    exact .inr (.inl ⟨rfl, user, role, matched, completes, same ▸ recorded⟩)
  | loggedOut record logsOut left =>
    exact .inr (.inr (.inl ⟨rfl, record, logsOut, (congrArg Server.activities (Ctx.server_of_core left) :)⟩))
  | recorded activities records left =>
    have same : t.server.activities = activities := (congrArg Server.activities (Ctx.server_of_core left) :)
    exact .inr (.inr (.inr ⟨rfl, same ▸ records⟩))
  | _ => rename_i left; exact .inl (congrArg Server.activities (Ctx.server_of_core left) :)

theorem Outcome.userId (outcome : Outcome p secrets req params c t handler) :
    t.session.userId = c.session.userId ∨
      (handler = .postLogin ∧ ∃ user, Matches p req c.server.users.rows user ∧
        t.session.userId = .str user.id ∧ (¬ Completes p secrets req c.server user ∨
          ∃ role, tokenRole secrets (loginToken p req) = some role ∧
            t.responses.getLast? = some (loginResponse p req user role))) ∨
      handler = .getMemberIndex ∧ ∃ user ∈ c.server.users.rows,
        (Value.str user.id).truthy = true ∧ currentId p req c.session = some (.str user.id) ∧
        t.session.userId = .str user.id := by
  cases outcome with
  | identified user matched stuck left =>
    have id := Session.userId_of_core (Ctx.session_of_core left)
    exact .inr (.inl ⟨rfl, user, matched, id, .inl stuck⟩)
  | promoted user role matched stands reads stuck left =>
    have id := Session.userId_of_core (Ctx.session_of_core left)
    exact .inr (.inl ⟨rfl, user, matched, id, .inl stuck⟩)
  | granted user role activities matched stands reads completes recorded answer left =>
    have id := Session.userId_of_core (Ctx.session_of_core left)
    exact .inr (.inl ⟨rfl, user, matched, id, .inr ⟨role, stands, answer⟩⟩)
  | shown user member reads truthy current left =>
    have id := Session.userId_of_core (Ctx.session_of_core left)
    exact .inr (.inr ⟨rfl, user, member, truthy, current, id⟩)
  | _ => rename_i left; exact .inl (Session.userId_of_core (Ctx.session_of_core left) :)

/-- The worker flag is set by the two role branches of the login only. -/
theorem Outcome.isWorker (outcome : Outcome p secrets req params c t handler)
    (worker : t.session.isWorker.truthy = true) : c.session.isWorker.truthy = true ∨
      handler = .postLogin ∧ ∃ user role, Matches p req c.server.users.rows user ∧
        tokenRole secrets (loginToken p req) = some role ∧ (role = "admin" ∨ role = "worker") := by
  have flag {c : Ctx} (left : t.core = c.core) : c.session.isWorker.truthy = true := by
    have same := congrArg Session.isWorker (Ctx.session_of_core left)
    exact same ▸ worker
  cases outcome with
  | promoted user role matched stands reads stuck left =>
    exact .inr ⟨rfl, user, role, matched, stands, of_decide_eq_true (flag left)⟩
  | granted user role activities matched stands reads completes recorded answer left =>
    exact .inr ⟨rfl, user, role, matched, stands, of_decide_eq_true (flag left)⟩
  | shown user member reads truthy current left => cases flag left
  | _ => rename_i left; exact .inl (flag left :)

end Parts

end

end ChurchManagement
