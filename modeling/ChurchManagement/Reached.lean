import ChurchManagement.Outcome

namespace ChurchManagement

open Js Effect Express Sequelize

section Gates

variable {p : Platform} {req : Request} {c : Ctx} {agent : Agent}

/-- The identifier of the session can be put into a URL. An object with a `toString` of its own
cannot, and the skip list throws on it. -/
def Readable (session : Session) : Prop :=
  (session.userId.orElse (.str "id")).toText.isSome = true

theorem middleCorrect_returns (middleware : String) (readable : Readable c.session) :
    Ensures (middleCorrect middleware req) c (fun _ t => t = c) (fun _ _ => False) := by
  obtain ⟨text, built⟩ := Option.isSome_iff_exists.mp readable
  unfold middleCorrect
  simp only [ensures_bind, ensures_get, ensures_ite, ensures_pure, ensures_orThrow, built]
  exact ⟨fun _ => trivial, fun _ => ⟨fun _ _ => trivial, fun none => by cases none⟩⟩

theorem isAuthenticated_passes (found : presented p req = some agent)
    (data : agent.data.truthy = true) (authentic : agent.isAuthenticated.truthy = true)
    (readable : Readable c.session) :
    Ensures (isAuthenticated p req) c (fun flow _ => flow = .next) (fun _ _ => False) := by
  unfold isAuthenticated
  rw [ensures_attempt, ensures_bind]
  refine (middleCorrect_returns "authenticate" readable).mono ?_ (fun _ _ never => never.elim)
  rintro nt t rfl
  rw [ensures_ite]
  refine ⟨fun _ => rfl, fun _ => ?_⟩
  rw [ensures_bind]
  refine (getAgent_spec p req t).mono ?_ (fun _ _ never => never.elim)
  intro _ t' post
  obtain ⟨rfl, _⟩ := post
  simp only [found, data, authentic, Bool.not_true, Bool.or_self, Bool.false_eq_true, if_false]
  exact rfl

theorem isAuthorized_passes {roles : List String} {role : String}
    (found : presented p req = some agent) (data : agent.data.truthy = true) (named : role ≠ "")
    (isRole : agent.role = .str role) (listed : role ∈ roles) (readable : Readable c.session) :
    Ensures (isAuthorized p roles req) c (fun flow _ => flow = .next) (fun _ _ => False) := by
  have truthy : agent.role.truthy = true := by
    rw [isRole]
    exact Value.truthy_str.mpr named
  have any : (roles.any fun role => agent.role.strictEq (.str role)) = true :=
    List.any_eq_true.mpr ⟨role, listed, Value.strictEq_str_iff.mpr isRole⟩
  unfold isAuthorized
  rw [ensures_bind]
  refine (middleCorrect_returns "authorize" readable).mono ?_ (fun _ _ never => never.elim)
  rintro nt t rfl
  rw [ensures_ite]
  refine ⟨fun _ => rfl, fun _ => ?_⟩
  rw [ensures_attempt, ensures_bind]
  refine (getAgent_spec p req t).mono ?_ (fun _ _ never => never.elim)
  intro _ t' post
  obtain ⟨rfl, _⟩ := post
  simp only [found, ensures_bind, ensures_orThrow, ensures_ite, Option.some.injEq, forall_eq', data,
    truthy, any, Bool.and_self, true_implies, not_true_eq_false, false_implies, and_true]
  exact ⟨rfl, fun none => by cases none⟩

theorem validateAgent_passes {userId : Value} (found : presented p req = some agent)
    (read : agent.data.prop "userId" = .ok userId) (allowed : c.server.allows userId = true)
    (readable : Readable c.session) :
    Ensures (validateAgent p req) c (fun flow _ => flow = .next) (fun _ _ => False) := by
  unfold validateAgent
  rw [ensures_bind]
  refine (middleCorrect_returns "validate" readable).mono ?_ (fun _ _ never => never.elim)
  rintro nt t rfl
  rw [ensures_ite]
  refine ⟨fun _ => rfl, fun _ => ?_⟩
  rw [ensures_bind]
  refine (getAgent_spec p req t).mono ?_ (fun _ _ never => never.elim)
  intro _ t' post
  obtain ⟨rfl, same⟩ := post
  simp only [found, ensures_bind, ensures_prop, ensures_get, ensures_ite, Ctx.server_of_core same]
  refine ⟨fun id reads => ?_, fun _ threw => ?_⟩
  · cases Except.ok.inj (read.symm.trans reads)
    exact ⟨fun _ => rfl, fun refused => absurd allowed refused⟩
  · cases read.symm.trans threw

theorem trackUserActivity_passes {userId : Value} (found : presented p req = some agent)
    (read : agent.data.prop "userId" = .ok userId) :
    Ensures (trackUserActivity p req) c (fun flow _ => flow = .next) (fun _ _ => False) := by
  unfold trackUserActivity
  rw [ensures_attempt, ensures_bind, ensures_get, ensures_ite]
  refine ⟨fun _ => ?_, fun _ => ?_⟩
  · rw [ensures_bind]
    refine (getAgent_spec p req c).mono ?_ (fun _ _ never => never.elim)
    intro _ t post
    obtain ⟨rfl, _⟩ := post
    simp only [found, ensures_bind, ensures_flash, ensures_prop, ensures_setSession]
    refine ⟨fun _ _ => rfl, fun _ threw => ?_⟩
    cases read.symm.trans threw
  · rw [ensures_bind]
    refine (getAgent_spec p req c).mono ?_ (fun _ _ never => never.elim)
    intro _ t post
    obtain ⟨rfl, _⟩ := post
    simp only [found]
    exact rfl

end Gates

/-- The routers that a request passes by on its way to the router. -/
def Router.before : Router → List Router
  | .index => []
  | .login => [.index]
  | .register => [.index, .login]
  | .member => [.index, .login, .register]
  | .dashboard => [.index, .login, .register, .member]
  | .admin => [.index, .login, .register, .member, .dashboard]

/-- A request that has passed by all routers before one meets it on its way. -/
theorem Router.on_way {r home : Router} (passed : ∀ r' ∈ r.before, r' ≠ home) :
    r = home ∨ r ∈ home.before := by
  revert passed
  cases r <;> cases home <;> decide

theorem Router.gates_on_way {r home : Router} (passed : ∀ r' ∈ r.before, r' ≠ home) :
    ∀ roles ∈ r.gates, roles ∈ home.gates := by
  revert passed
  cases r <;> cases home <;> decide

section

variable (p : Platform) (secrets : Secrets)

/-- The request is routed to the handler, and no router before it has a route for the request. -/
structure Routed (req : Request) (handler : Handler) (params : List (String × String)) : Prop where
  addressed : Addressed p req handler params
  missed : ∀ r ∈ handler.router.before,
    dispatch req.method (p.pathname req.url) r.routes = .missed

/-- The handler is entered behind the layers. -/
abbrev Reaches (handler : Handler) (layers : List (Act Flow)) (t : Ctx) : Prop :=
  Ensures (chain layers) t (fun flow t => flow = .ended ∧ t.ran = some handler)
    (fun _ t => t.ran = some handler)

variable {p} {req : Request} {handler : Handler} {params : List (String × String)}
  {rest : List (Act Flow)} {t c₁ : Ctx}

theorem reaches_router {r : Router} (routed : Routed p req handler params)
    (passed : ∀ r' ∈ r.before, r' ≠ handler.router)
    (onward : r ≠ handler.router → Reaches handler rest t) :
    Reaches handler (router p secrets r.routes req :: rest) t := by
  rw [Reaches, ensures_chain_cons]
  unfold router
  by_cases home : r = handler.router
  · rw [home, show dispatch _ _ handler.router.routes = _ from routed.addressed]
    simp only [ensures_bind, ensures_modify]
    refine (handle_spec p secrets req params handler _).mono ?_ ?_
    · intro _ t' done
      exact ⟨by simp, fun _ => ⟨trivial, done.outcome.ran⟩⟩
    · intro _ t' post
      obtain ⟨_, done⟩ := post
      exact done.outcome.ran
  · rw [routed.missed r ((Router.on_way passed).resolve_left home)]
    exact ⟨fun _ => onward home, by simp⟩

theorem reaches_guards {roles : List String} (named : "" ∉ roles) (same : t.core = c₁.core)
    (cleared : Cleared p roles req c₁.server) (readable : Readable c₁.session)
    (onward : ∀ t', t'.core = c₁.core → Reaches handler rest t') :
    Reaches handler (guards p roles req ++ rest) t := by
  obtain ⟨agent, userId, role, found, data, authentic, listed, isRole, read, member⟩ := cleared
  have readableAt {t : Ctx} (same : t.core = c₁.core) : Readable t.session := by
    rwa [Readable, Session.userId_of_core (Ctx.session_of_core same)]
  have noted : role ≠ "" := fun empty => named (empty ▸ listed)
  simp only [guards, List.cons_append, List.nil_append]
  rw [Reaches, ensures_chain_cons]
  refine ((isAuthenticated_passes found data authentic (readableAt same)).and
    (isAuthenticated_spec p req t)).mono ?_ (fun _ _ never => never.1.elim)
  intro flow t₁ post
  obtain ⟨passes, same₁, _⟩ := post
  replace same₁ := same₁.trans same
  refine ⟨fun _ => ?_, fun stops => by cases passes.symm.trans stops⟩
  rw [ensures_chain_cons]
  refine ((isAuthorized_passes found data noted isRole listed (readableAt same₁)).and
    (isAuthorized_spec p roles req t₁)).mono ?_ (fun _ _ never => never.1.elim)
  intro flow₂ t₂ post
  obtain ⟨passes₂, same₂, _⟩ := post
  replace same₂ := same₂.trans same₁
  refine ⟨fun _ => ?_, fun stops => by cases passes₂.symm.trans stops⟩
  rw [ensures_chain_cons]
  have allowed : t₂.server.allows (.str userId) = true := by
    rw [Ctx.server_of_core same₂]
    exact Server.allows_iff.mpr ⟨userId, member, rfl⟩
  refine ((validateAgent_passes found read allowed (readableAt same₂)).and
    (validateAgent_spec p req t₂)).mono ?_ (fun _ _ never => never.1.elim)
  intro flow₃ t₃ post
  obtain ⟨passes₃, same₃, _⟩ := post
  exact ⟨fun _ => onward t₃ (same₃.trans same₂), fun stops => by cases passes₃.symm.trans stops⟩

theorem reaches_layers {agent : Agent} {userId : Value} {s : Server}
    (routed : Routed p req handler params)
    (found : presented p req = some agent) (read : agent.data.prop "userId" = .ok userId)
    (cleared : ∀ roles ∈ handler.router.gates, Cleared p roles req s)
    (readable : Readable (Ctx.entry p req s).session) :
    Reaches handler (layers p secrets req) (Ctx.start req s) := by
  simp only [layers, publicLayers, List.cons_append, List.nil_append]
  rw [Reaches, ensures_chain_cons]
  refine ⟨fun _ => ?_, fun impossible => by cases impossible⟩
  rw [ensures_chain_cons]
  refine ((trackUserActivity_passes found read).and (trackUserActivity_spec p req _)).mono ?_
    (fun _ _ never => never.1.elim)
  intro flow t post
  obtain ⟨passes, same, _⟩ := post
  replace same : t.core = (Ctx.entry p req s).core :=
    same.trans (Ctx.core_session rfl (tracked_core p req rfl))
  refine ⟨fun _ => ?_, fun stops => by cases passes.symm.trans stops⟩
  refine reaches_router secrets (r := .index) routed (by simp [Router.before]) fun index => ?_
  refine reaches_router secrets (r := .login) routed (by simp [Router.before, index]) fun login => ?_
  refine reaches_router secrets (r := .register) routed (by simp [Router.before, index, login])
    fun register => ?_
  simp only [List.append_assoc]
  have member : ∀ r' ∈ Router.before .member, r' ≠ handler.router := by
    simp [Router.before, index, login, register]
  refine reaches_guards (by decide) same
    (cleared _ (Router.gates_on_way member _ (by simp [Router.gates]))) readable fun t same => ?_
  refine reaches_router secrets (r := .member) routed member fun notMember => ?_
  have dashboard : ∀ r' ∈ Router.before .dashboard, r' ≠ handler.router := by
    simp [Router.before, index, login, register, notMember]
  refine reaches_guards (by decide) same
    (cleared _ (Router.gates_on_way dashboard _ (by simp [Router.gates]))) readable fun t same => ?_
  refine reaches_router secrets (r := .dashboard) routed dashboard fun notDashboard => ?_
  have admin : ∀ r' ∈ Router.before .admin, r' ≠ handler.router := by
    simp [Router.before, index, login, register, notMember, notDashboard]
  refine reaches_guards (by decide) same
    (cleared _ (Router.gates_on_way admin _ (by simp [Router.gates]))) readable fun t same => ?_
  refine reaches_router secrets (r := .admin) routed admin fun notAdmin => ?_
  -- no router is left
  exfalso
  revert index login register notMember notDashboard notAdmin
  cases handler.router <;> simp

/-- The gates let through every request that is cleared at all of them. -/
theorem ran_of_cleared {agent : Agent} {userId : Value} {s : Server}
    (routed : Routed p req handler params)
    (found : presented p req = some agent) (read : agent.data.prop "userId" = .ok userId)
    (cleared : ∀ roles ∈ handler.router.gates, Cleared p roles req s)
    (readable : Readable (Ctx.entry p req s).session) :
    (served p secrets req s).ran = some handler := by
  refine Ensures.final (x := app p secrets req) (s := Ctx.start req s)
    (P := fun t => t.ran = some handler) ?_
  unfold app
  rw [ensures_attempt, ensures_bind]
  refine (reaches_layers secrets routed found read cleared readable).mono ?_ (fun _ _ ran => ran)
  intro flow t post
  obtain ⟨rfl, ran⟩ := post
  exact ran

end

end ChurchManagement
