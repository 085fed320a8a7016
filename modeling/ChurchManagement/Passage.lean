import ChurchManagement.Answers

namespace ChurchManagement

open Js Effect Express Sequelize

section Ways

variable (p : Platform) (req : Request)

/-- Where `res.redirect(req.get("referer") || fallback)` leads. -/
def backTo (fallback : String) : String := (req.referer.filter (· != "")).getD fallback

/-- `trackUserActivity` hands on the public pages, and requests with an agent. Where the session
takes its identifier from the agent, the agent must have data to read it from. -/
def Opened (session : Session) : Prop :=
  redirector req.url req.method = true ∨ ∃ agent, presented p req = some agent ∧
    (session.userId.truthy = true ∨ ∃ id, agent.data.prop "userId" = .ok id)

/-- The agent that a gate asks for, up to its identifier. -/
def Entitled (roles : List String) (agent : Agent) : Prop :=
  presented p req = some agent ∧ agent.data.truthy = true ∧ agent.isAuthenticated.truthy = true ∧
    ∃ role ∈ roles, agent.role = .str role

variable (s : Server)

/-- The session that the layers behind `trackUserActivity` see. -/
def entrySession : Session := (Ctx.entry p req s).session

/-- The gate for the roles hands the request on. -/
def Passes (roles : List String) : Prop :=
  Skips req (entrySession p req s) ∨
    Cleared p roles req s ∧ Readable (entrySession p req s)

/-- The gate for the roles cannot look up the record of the agent. -/
def LookupFails (roles : List String) : Prop :=
  ¬ Skips req (entrySession p req s) ∧ Readable (entrySession p req s) ∧
    ∃ agent userId, Entitled p req roles agent ∧ agent.data.prop "userId" = .ok userId ∧
      s.allows userId = false ∧
      (req.fault .UserAgent .findOne ≠ none ∨ p.whereEq userId = none)

/-- The request gets past tracking, and no router before this one has a route for it. -/
structure Nears (r : Router) : Prop where
  opened : Opened p req ((s.sessions req.sid).getD {})
  missed : ∀ r' ∈ r.before, dispatch req.method (p.pathname req.url) r'.routes = .missed

/-- The request gets to the router. -/
structure Arrives (r : Router) : Prop extends Nears p req s r where
  passed : ∀ roles ∈ r.gates, Passes p req s roles

/-- The tables that an admin page reads. -/
def adminQueries : Handler → List TableName
  | .getAdminDashboard => [.User, .Activity]
  | .getAdminUsers => [.User]
  | .getAdminActivities => [.Activity]
  | _ => []

/-- The request is sent away from the page it asks for. -/
inductive TurnedAway : Prop
  | unopened (closed : ¬ Opened p req ((s.sessions req.sid).getD {}))
  | gate (r : Router) (roles : List String) (nears : Nears p req s r) (listed : roles ∈ r.gates)
      (refused : ¬ Passes p req s roles)
  | logout (params : List (String × String)) (userId : Value) (arrives : Arrives p req s .login)
      (addressed : Addressed p req .getLogout params)
      (current : currentId p req (entrySession p req s) = some userId)
      (falsy : userId.truthy = false)
  | query (handler : Handler) (params : List (String × String)) (table : TableName)
      (arrives : Arrives p req s handler.router) (addressed : Addressed p req handler params)
      (listed : table ∈ adminQueries handler) (fault : req.fault table .findAll ≠ none)

/-- The request ends in the centralized error handler. -/
inductive Throws : Prop
  | undecodable (r : Router) (error : String) (arrives : Arrives p req s r)
      (failed : dispatch req.method (p.pathname req.url) r.routes = .failed error)
  | lookup (r : Router) (roles : List String) (nears : Nears p req s r) (listed : roles ∈ r.gates)
      (fails : LookupFails p req s roles)
  | search (handler : Handler) (params : List (String × String))
      (arrives : Arrives p req s .dashboard) (addressed : Addressed p req handler params)
      (listed : handler ∈ [Handler.getSearchMembers, .getAdvancedSearchMembers])
  | logout (params : List (String × String)) (arrives : Arrives p req s .login)
      (addressed : Addressed p req .getLogout params)
      (named : ∀ userId, currentId p req (entrySession p req s) = some userId →
        userId.truthy = true)
      (missing : ∀ record, ¬ LogsOut p req (Ctx.entry p req s) record)

end Ways

section Wire

/-- The agents that the flash of a session holds. -/
def Session.agents (s : Session) : List Value :=
  (s.flash.filter fun entry => entry.1 == "agent").map Prod.snd

/-- The agents on their way to pages: those that the flash has left for this one, and those that it
holds for the next. -/
def Ctx.wire (c : Ctx) : Value × List Value := (Value.field "agent" c.locals, c.session.agents)

/-- The agents of a flash after a message of that kind; a falsy message clears them. -/
def pushAgent (msg : Value) (agents : List Value) : List Value :=
  if msg.truthy then agents ++ [msg] else []

theorem agents_flashed (msg : Value) (c : Ctx) :
    (c.flashed "agent" msg).session.agents = pushAgent msg c.session.agents := by
  unfold Ctx.flashed Session.agents pushAgent
  split
  · simp
  · simp [List.filter_filter]

/-- Reading the flash empties it. -/
theorem agents_drained (c : Ctx) : (exec flashLocals c).2.session.agents = [] := by
  change ((c.session.flash.filter fun entry =>
    !(["success_msg", "error_msg", "agent"].contains entry.1)).filter fun entry =>
      entry.1 == "agent").map Prod.snd = []
  simp +contextual [List.filter_filter]

theorem wire_flashed {key : String} (other : key ≠ "agent") (msg : Value) (c : Ctx) :
    (c.flashed key msg).wire = c.wire := by
  unfold Ctx.wire Ctx.flashed Session.agents
  dsimp only
  split
  · simp [other]
  · rw [List.filter_filter]
    congr 3
    funext entry
    by_cases same : entry.1 = "agent"
    · simp [same, Ne.symm other]
    · simp [same]

theorem flash_wire {key : String} (other : key ≠ "agent") (msg : Value) :
    Keeps (Same Ctx.wire) (flash key msg) := wire_flashed other msg

theorem respond_wire (r : Response) : Keeps (Same Ctx.wire) (respond r) := fun _ => rfl

variable (p : Platform) (req : Request)

theorem getAgent_wire : Keeps (Same Ctx.wire) (getAgent p req) :=
  keeps_getAgent p req (fun _ _ => rfl) fun _ => flash_wire (by decide) _

theorem middleCorrect_wire (middleware : String) :
    Keeps (Same Ctx.wire) (middleCorrect middleware req) :=
  keeps_bind keeps_get fun _ => keeps_ite (keeps_bind (keeps_pure _) fun _ => keeps_pure _)
    (keeps_bind (keeps_orThrow _ _ _) fun _ => keeps_bind (keeps_pure _) fun _ => keeps_pure _)

theorem nextOrLogin_wire : Keeps (Same Ctx.wire) (nextOrLogin req) :=
  keeps_ite (keeps_pure _) (keeps_bind (respond_wire _) fun _ => keeps_pure _)

theorem isAuthenticated_wire : Keeps (Same Ctx.wire) (isAuthenticated p req) := by
  have back (msg : Value) : Keeps (Same Ctx.wire) (do
      flash "error_msg" msg
      redirectBack req "/"
      ended) :=
    keeps_bind (flash_wire (by decide) _) fun _ => keeps_bind (respond_wire _) fun _ => keeps_pure _
  refine keeps_attempt (keeps_bind (middleCorrect_wire req _) fun _ => keeps_ite (keeps_pure _) ?_)
    fun _ => back _
  refine keeps_bind (getAgent_wire p req) fun found => ?_
  split
  · exact back _
  · exact keeps_ite (back _) (keeps_pure _)

theorem isAuthorized_wire (roles : List String) :
    Keeps (Same Ctx.wire) (isAuthorized p roles req) := by
  have denied : Keeps (Same Ctx.wire) (do
      redirect "/access-denied"
      ended) := keeps_bind (respond_wire _) fun _ => keeps_pure _
  refine keeps_bind (middleCorrect_wire req _) fun _ => keeps_ite (keeps_pure _) ?_
  refine keeps_attempt (keeps_bind (getAgent_wire p req) fun _ =>
    keeps_bind (keeps_orThrow _ _ _) fun _ => keeps_ite (keeps_ite (keeps_pure _) ?_) ?_) fun _ => ?_
  · exact keeps_bind (flash_wire (by decide) _) fun _ =>
      keeps_bind (flash_wire (by decide) _) fun _ => denied
  · exact keeps_bind (flash_wire (by decide) _) fun _ => denied
  · exact keeps_bind (flash_wire (by decide) _) fun _ => nextOrLogin_wire req

theorem validateAgent_wire : Keeps (Same Ctx.wire) (validateAgent p req) := by
  have refused (msg : Value) : Keeps (Same Ctx.wire) (do flash "error_msg" msg; nextOrLogin req) :=
    keeps_bind (flash_wire (by decide) _) fun _ => nextOrLogin_wire req
  refine keeps_bind (middleCorrect_wire req _) fun _ => keeps_ite (keeps_pure _) ?_
  refine keeps_bind (getAgent_wire p req) fun found => ?_
  split
  · exact keeps_pure _
  · refine keeps_bind (keeps_prop _ _ _) fun _ => keeps_bind keeps_get fun _ =>
      keeps_ite (keeps_pure _) ?_
    refine keeps_bind (keeps_db _ _ _ _) fun _ => keeps_bind (keeps_whereColumn _ _ _) fun _ =>
      keeps_bind keeps_get fun _ => ?_
    dsimp only
    split
    · exact refused _
    · exact keeps_ite (refused _) (keeps_pure _)

/-- The agent that tracking flashes: the object of the one presented, or the token of a new one. -/
def pushed (session : Session) : List Value :=
  match presented p req with
  | some agent => [agent.toJSON]
  | none => pushAgent (.str (getAgentData (agentDataOf (session.userId.orElse (.str req.v4)) req)
      (.bool false) .null .null)) []

end Wire

section Middlewares

variable {p : Platform} {req : Request}

theorem head_answered {t : Ctx} {r : Response} (idle : t.sent = 0) :
    (t.answered r).responses.head? = some r := by
  have none : t.responses = [] := List.eq_nil_of_length_eq_zero idle
  rw [Ctx.answered, none]
  rfl

theorem skipSwitch_granted {middleware : String} (isUrl reqGet skipLogin : Bool)
    (known : middleware ∈ ["authenticate", "validate", "authorize"]) :
    skipSwitch middleware isUrl reqGet true skipLogin = true := by
  simp only [List.mem_cons, List.not_mem_nil, or_false] at known
  rcases known with rfl | rfl | rfl <;> simp [skipSwitch]

/-- The three gates skip on the skip list and only there, and the list is built unless the
identifier of the session cannot be read. -/
theorem middleCorrect_exact {middleware : String} (c : Ctx)
    (known : middleware ∈ ["authenticate", "validate", "authorize"]) :
    Ensures (middleCorrect middleware req) c
      (fun nt t => t = c ∧ (nt = true ∧ Skips req c.session ∨
        nt = false ∧ ¬ Skips req c.session ∧ Readable c.session))
      (fun _ t => t = c ∧ ¬ Skips req c.session ∧ ¬ Readable c.session) := by
  unfold middleCorrect
  simp only [ensures_bind, ensures_get, ensures_ite, ensures_pure, ensures_orThrow]
  have isListed : (decide (req.url = "/" ∨ req.url = "/login" ∨ req.url = "/register") = true ∨
      req.url = "/memberIndex") ↔ req.url ∈ ["/", "/login", "/register", "/memberIndex"] := by
    simp only [decide_eq_true_eq, List.mem_cons, List.not_mem_nil, or_false, or_assoc]
  rw [isListed]
  refine ⟨fun listed => ⟨trivial, .inl ⟨skipSwitch_granted _ _ _ known, .inl listed⟩⟩,
    fun unlisted => ⟨fun text built => ⟨trivial, ?_⟩, fun unreadable => ⟨trivial, ?_, ?_⟩⟩⟩
  · by_cases own : req.url = "/update-user/" ++ text
    · refine .inl ⟨?_, .inr ⟨text, built, own⟩⟩
      rw [decide_eq_true own]
      exact skipSwitch_granted _ _ _ known
    · refine .inr ⟨?_, ?_, ?_⟩
      · by_contra granted
        rcases skipSwitch_sound (Bool.not_eq_false _ ▸ granted) with url | skipped | login
        · exact unlisted (isListed.mp (.inl url))
        · exact own (of_decide_eq_true skipped)
        · exact unlisted (by simp [of_decide_eq_true login])
      · rintro (listed | ⟨text', built', url⟩)
        · exact unlisted listed
        · cases Option.some.inj (built.symm.trans built')
          exact own url
      · rw [Readable, built]
        rfl
  · rintro (listed | ⟨text, built, _⟩)
    · exact unlisted listed
    · cases unreadable.symm.trans built
  · rw [Readable, unreadable]
    simp

theorem getAgent_quiet (c : Ctx) :
    Ensures (getAgent p req) c
      (fun agent t => agent = presented p req ∧ t.core = c.core ∧ t.sent = c.sent ∧ t.wire = c.wire)
      (fun _ _ => False) := by
  refine ((getAgent_spec p req c).and (((getAgent_silent p req).ensures c).and
    ((getAgent_wire p req).ensures c))).mono ?_ ?_
  · intro agent t post
    obtain ⟨⟨found, same⟩, quiet, wired⟩ := post
    exact ⟨found, same, quiet, wired⟩
  · intro _ _ post
    exact post.1

/-- The ending of the middlewares hands on the public pages without a word, and answers everything
else. -/
theorem nextOrLogin_answer {c : Ctx} (idle : c.sent = 0) :
    Ensures (nextOrLogin req) c
      (fun flow t => t.wire = c.wire ∧
        (flow = .next ∧ redirector req.url req.method = true ∧ t.sent = 0 ∨
        flow = .ended ∧ redirector req.url req.method = false ∧
          t.responses.head? = some (.redirect 302 (backTo req "/login"))))
      (fun _ _ => False) := by
  unfold nextOrLogin
  rw [ensures_ite]
  refine ⟨fun page => ⟨rfl, .inl ⟨rfl, page, idle⟩⟩, fun other => ⟨rfl, .inr ⟨rfl, ?_, ?_⟩⟩⟩
  · exact Bool.eq_false_iff.mpr other
  · exact head_answered idle

theorem newUserAgent_quiet (id : Value) (c : Ctx) :
    Ensures (newUserAgent id req) c
      (fun _ t => t.sent = c.sent ∧ t.wire = (c.wire.1, pushAgent (.str (getAgentData
        (agentDataOf id req) (.bool false) .null .null)) c.session.agents))
      (fun _ _ => False) := by
  unfold newUserAgent
  generalize getAgentData _ _ _ _ = agent
  exact ⟨rfl, congrArg (Prod.mk _) (agents_flashed (.str agent) c)⟩

/-- Tracking hands a request on without a word, or sends it back. Either way it flashes one agent. -/
theorem trackUserActivity_answer {c : Ctx} (idle : c.sent = 0) (empty : c.session.agents = []) :
    Ensures (trackUserActivity p req) c
      (fun flow t => t.wire = (c.wire.1, pushed p req c.session) ∧
        (flow = .next ∧ Opened p req c.session ∧ t.sent = 0 ∨
        flow = .ended ∧ ¬ Opened p req c.session ∧
          t.responses.head? = some (.redirect 302 (backTo req "/login"))))
      (fun _ _ => False) := by
  -- what is left to the public pages when there is no agent to go by
  have page {t : Ctx} {err : String → Ctx → Prop} (quiet : t.sent = 0)
      (wired : t.wire = (c.wire.1, pushed p req c.session))
      (nobody : ∀ agent, presented p req = some agent → ¬ (c.session.userId.truthy = true ∨
        ∃ id, agent.data.prop "userId" = .ok id)) :
      Ensures (nextOrLogin req) t
        (fun flow t => t.wire = (c.wire.1, pushed p req c.session) ∧
          (flow = .next ∧ Opened p req c.session ∧ t.sent = 0 ∨
          flow = .ended ∧ ¬ Opened p req c.session ∧
            t.responses.head? = some (.redirect 302 (backTo req "/login")))) err := by
    refine (nextOrLogin_answer quiet).mono ?_ (fun _ _ never => never.elim)
    rintro flow t' ⟨kept, ⟨isNext, public', quiet'⟩ | ⟨isEnd, closed, first⟩⟩
    · exact ⟨kept.trans wired, .inl ⟨isNext, .inl public', quiet'⟩⟩
    · refine ⟨kept.trans wired, .inr ⟨isEnd, ?_, first⟩⟩
      rintro (public' | ⟨agent, found, named⟩)
      · rw [closed] at public'
        cases public'
      · exact nobody agent found named
  have presents {t : Ctx} {agent : Agent} (found : presented p req = some agent)
      (wired : t.wire = c.wire) :
      (t.flashed "agent" agent.toJSON).wire = (c.wire.1, pushed p req c.session) := by
    have none : t.session.agents = [] := (congrArg Prod.snd wired).trans empty
    have one := agents_flashed agent.toJSON t
    rw [none, show pushAgent agent.toJSON [] = [agent.toJSON] from rfl] at one
    rw [Ctx.wire, one, pushed, found]
    exact congrArg (Prod.mk · _) (congrArg Prod.fst wired)
  have makes {t t' : Ctx} (missing : presented p req = none) (wired : t.wire = c.wire) {id : Value}
      (isId : c.session.userId.orElse (.str req.v4) = id)
      (made : t'.wire = (t.wire.1, pushAgent (.str (getAgentData (agentDataOf id req) (.bool false)
        .null .null)) t.session.agents)) : t'.wire = (c.wire.1, pushed p req c.session) := by
    have none : t.session.agents = [] := (congrArg Prod.snd wired).trans empty
    rw [made, none, wired, pushed, missing, isId]
  unfold trackUserActivity
  rw [ensures_attempt, ensures_bind, ensures_get, ensures_ite]
  refine ⟨fun absent => ?_, fun identified => ?_⟩
  · have falsy : ¬ c.session.userId.truthy = true := by simpa using absent
    rw [ensures_bind]
    refine (getAgent_quiet c).mono ?_ (fun _ _ never => never.elim)
    rintro _ t ⟨rfl, _, quiet, wired⟩
    replace quiet := quiet.trans idle
    split
    · rename_i agent found
      simp only [ensures_bind, ensures_flash, ensures_prop, ensures_setSession]
      refine ⟨fun id read => ⟨presents found wired, .inl ⟨rfl, .inr ⟨agent, found, .inr ⟨id, read⟩⟩,
        quiet⟩⟩, fun _ threw => page quiet ?_ ?_⟩
      · exact (wire_flashed (by decide) _ _).trans (presents found wired)
      · intro other found' named
        cases Option.some.inj (found.symm.trans found')
        rcases named with truthy | ⟨id, read⟩
        · exact falsy truthy
        · cases threw.symm.trans read
    · rename_i missing
      rw [ensures_bind]
      refine (newUserAgent_quiet _ t).mono ?_ (fun _ _ never => never.elim)
      rintro _ t' ⟨quiet', made⟩
      refine page (quiet'.trans quiet) (makes missing wired (if_neg falsy) made) ?_
      intro agent found
      cases missing.symm.trans found
  · have truthy : c.session.userId.truthy = true := by simpa using identified
    rw [ensures_bind]
    refine (getAgent_quiet c).mono ?_ (fun _ _ never => never.elim)
    rintro _ t ⟨rfl, _, quiet, wired⟩
    replace quiet := quiet.trans idle
    split
    · rename_i agent found
      exact ⟨presents found wired, .inl ⟨rfl, .inr ⟨agent, found, .inl truthy⟩, quiet⟩⟩
    · rename_i missing
      rw [ensures_bind]
      refine (newUserAgent_quiet _ t).mono ?_ (fun _ _ never => never.elim)
      rintro _ t' ⟨quiet', made⟩
      refine page (t := t'.flashed _ _) (quiet'.trans quiet)
        ((wire_flashed (by decide) _ _).trans (makes missing wired (if_pos truthy) made)) ?_
      intro agent found
      cases missing.symm.trans found

/-- The part of a gate that `isAuthenticated` checks. -/
def Authentic (p : Platform) (req : Request) (session : Session) : Prop :=
  Readable session ∧ ∃ agent, presented p req = some agent ∧ agent.data.truthy = true ∧
    agent.isAuthenticated.truthy = true

theorem isAuthenticated_answer {c : Ctx} (idle : c.sent = 0) :
    Ensures (isAuthenticated p req) c
      (fun flow t => flow = .next ∧ t.sent = 0 ∧ (Skips req c.session ∨
          ¬ Skips req c.session ∧ Authentic p req c.session) ∨
        flow = .ended ∧ t.responses.head? = some (.redirect 302 (backTo req "/")) ∧
          ¬ Skips req c.session ∧ ¬ Authentic p req c.session)
      (fun _ _ => False) := by
  unfold isAuthenticated
  rw [ensures_attempt, ensures_bind]
  refine (middleCorrect_exact c (by decide)).mono ?_ ?_
  · rintro nt t ⟨rfl, ⟨rfl, skips⟩ | ⟨rfl, noSkip, readable⟩⟩
    · exact .inl ⟨rfl, idle, .inl skips⟩
    · simp only [Bool.false_eq_true, if_false]
      rw [ensures_bind]
      refine (getAgent_quiet t).mono ?_ (fun _ _ never => never.elim)
      rintro _ t' ⟨rfl, _, quiet, _⟩
      replace quiet := quiet.trans idle
      split
      · rename_i missing
        refine .inr ⟨rfl, head_answered (t := t'.flashed _ _) quiet, noSkip, ?_⟩
        rintro ⟨_, agent, found, _⟩
        cases missing.symm.trans found
      · rename_i agent found
        rw [ensures_ite]
        refine ⟨fun refused => .inr ⟨rfl, head_answered (t := t'.flashed _ _) quiet, noSkip, ?_⟩,
          fun checked => .inl ⟨rfl, quiet, .inr ⟨noSkip, readable, agent, found, ?_⟩⟩⟩
        · rintro ⟨_, agent', found', data, authentic⟩
          cases Option.some.inj (found.symm.trans found')
          simp [data, authentic] at refused
        · simpa using checked
  · rintro e t ⟨rfl, noSkip, unreadable⟩
    exact .inr ⟨rfl, head_answered (t := t.flashed _ _) idle, noSkip, fun authentic =>
      unreadable authentic.1⟩

theorem isAuthorized_answer {roles : List String} {c : Ctx} (idle : c.sent = 0)
    (entered : Skips req c.session ∨ Authentic p req c.session) (named : "" ∉ roles) :
    Ensures (isAuthorized p roles req) c
      (fun flow t => flow = .next ∧ t.sent = 0 ∧
          (Skips req c.session ∨ ∃ agent, Entitled p req roles agent) ∨
        flow = .ended ∧ t.responses.head? = some (.redirect 302 "/access-denied") ∧
          ¬ Skips req c.session ∧ ∀ agent, ¬ Entitled p req roles agent)
      (fun _ _ => False) := by
  unfold isAuthorized
  rw [ensures_bind]
  refine (middleCorrect_exact c (by decide)).mono ?_ ?_
  · rintro nt t ⟨rfl, ⟨rfl, skips⟩ | ⟨rfl, noSkip, readable⟩⟩
    · exact .inl ⟨rfl, idle, .inl skips⟩
    · obtain ⟨_, agent, found, data, authentic⟩ := entered.resolve_left noSkip
      simp only [Bool.false_eq_true, if_false]
      rw [ensures_attempt, ensures_bind]
      refine (getAgent_quiet t).mono ?_ (fun _ _ never => never.elim)
      rintro _ t' ⟨rfl, _, quiet, _⟩
      replace quiet := quiet.trans idle
      have denied (refused : ¬ ∃ role ∈ roles, agent.role = .str role) :
          ∀ other, ¬ Entitled p req roles other := by
        rintro other ⟨found', _, _, listed⟩
        cases Option.some.inj (found.symm.trans found')
        exact refused listed
      simp only [found, ensures_bind, ensures_orThrow, ensures_ite, Option.some.injEq, forall_eq',
        data, Bool.true_and, reduceCtorEq, false_implies, and_true]
      refine ⟨fun truthy => ⟨fun any => .inl ⟨rfl, quiet, .inr ⟨agent, found, data, authentic, ?_⟩⟩,
        fun unlisted => .inr ⟨rfl, ?_, noSkip, denied ?_⟩⟩,
        fun falsy => .inr ⟨rfl, ?_, noSkip, denied ?_⟩⟩
      · obtain ⟨role, member, equal⟩ := List.any_eq_true.mp any
        exact ⟨role, member, Value.strictEq_str_iff.mp equal⟩
      · exact head_answered (t := (t'.flashed _ _).flashed _ _) quiet
      · rintro ⟨role, member, isRole⟩
        exact unlisted (List.any_eq_true.mpr ⟨role, member, Value.strictEq_str_iff.mpr isRole⟩)
      · exact head_answered (t := t'.flashed _ _) quiet
      · rintro ⟨role, member, isRole⟩
        rw [isRole] at falsy
        exact named (by rwa [not_not.mp (mt Value.truthy_str.mpr falsy)] at member)
  · rintro _ t ⟨rfl, noSkip, unreadable⟩
    exact unreadable (entered.resolve_left noSkip).1

/-- The check of the identifier clears an agent, sends it back, or fails on the lookup of its
record. -/
theorem validateAgent_answer {roles : List String} {c : Ctx} (idle : c.sent = 0)
    (entered : Skips req c.session ∨ Readable c.session ∧ ∃ agent, Entitled p req roles agent) :
    Ensures (validateAgent p req) c
      (fun flow t => flow = .next ∧ t.sent = 0 ∧
          (Skips req c.session ∨ Cleared p roles req c.server) ∨
        flow = .ended ∧ t.responses.head? = some (.redirect 302 (backTo req "/login")) ∧
          ¬ Skips req c.session ∧ ¬ Cleared p roles req c.server)
      (fun _ t => t.sent = 0 ∧ ¬ Skips req c.session ∧ ∃ agent userId, Entitled p req roles agent ∧
        agent.data.prop "userId" = .ok userId ∧ c.server.allows userId = false ∧
        (req.fault .UserAgent .findOne ≠ none ∨ p.whereEq userId = none)) := by
  unfold validateAgent
  rw [ensures_bind]
  refine (middleCorrect_exact c (by decide)).mono ?_ ?_
  · rintro nt t ⟨rfl, ⟨rfl, skips⟩ | ⟨rfl, noSkip, readable⟩⟩
    · exact .inl ⟨rfl, idle, .inl skips⟩
    · obtain ⟨_, agent, entitled⟩ := entered.resolve_left noSkip
      obtain ⟨found, data, authentic, role, listed, isRole⟩ := id entitled
      simp only [Bool.false_eq_true, if_false]
      rw [ensures_bind]
      refine (getAgent_quiet t).mono ?_ (fun _ _ never => never.elim)
      rintro _ t' ⟨rfl, same, quiet, _⟩
      replace quiet := quiet.trans idle
      have server := Ctx.server_of_core same
      -- the public pages are on the skip list, so the others are all sent back
      have refused {d : Ctx} {userId : Value} {err : String → Ctx → Prop} (quiet' : d.sent = 0)
          (read : agent.data.prop "userId" = .ok userId) (unknown : t.server.allows userId = false) :
          Ensures (nextOrLogin req) d
            (fun flow d => flow = .next ∧ d.sent = 0 ∧
                (Skips req t.session ∨ Cleared p roles req t.server) ∨
              flow = .ended ∧ d.responses.head? = some (.redirect 302 (backTo req "/login")) ∧
                ¬ Skips req t.session ∧ ¬ Cleared p roles req t.server) err := by
        refine (nextOrLogin_answer quiet').mono ?_ (fun _ _ never => never.elim)
        rintro flow t₃ ⟨_, ⟨_, public', _⟩ | ⟨isEnd, _, first⟩⟩
        · exact absurd (.of_redirector public' _) noSkip
        · refine .inr ⟨isEnd, first, noSkip, ?_⟩
          rintro ⟨other, id, _, found', _, _, _, _, read', member⟩
          cases Option.some.inj (found.symm.trans found')
          cases Except.ok.inj (read.symm.trans read')
          have allowed := Server.allows_iff.mpr ⟨id, member, rfl⟩
          rw [unknown] at allowed
          cases allowed
      simp only [found, ensures_bind, ensures_prop, ensures_get, ensures_ite, ensures_db,
        ensures_whereColumn, server]
      refine ⟨fun userId read => ⟨fun allowed => .inl ⟨rfl, quiet, .inr ?_⟩, fun notAllowed => ?_⟩,
        fun _ threw => ?_⟩
      · obtain ⟨id, member, rfl⟩ := Server.allows_iff.mp allowed
        exact ⟨agent, id, role, found, data, authentic, listed, isRole, read, member⟩
      · have unknown : t.server.allows userId = false := Bool.eq_false_iff.mpr notAllowed
        refine ⟨fun e fault => ⟨quiet, noSkip, agent, userId, entitled, read, unknown, .inl ?_⟩,
          fun _ => ⟨fun cond _ => ?_, fun invalid =>
            ⟨quiet, noSkip, agent, userId, entitled, read, unknown, .inr invalid⟩⟩⟩
        · simp [fault]
        · split
          · exact refused (d := t'.flashed _ _) quiet read unknown
          · rw [ensures_ite]
            refine ⟨fun _ => refused (d := t'.flashed _ _) quiet read unknown,
              fun equal => absurd ?_ equal⟩
            simp [Value.strictEq]
      · have falsy := Value.falsy_of_error threw
        rw [data] at falsy
        cases falsy
  · rintro _ t ⟨rfl, noSkip, unreadable⟩
    exact absurd (entered.resolve_left noSkip).1 unreadable

end Middlewares

section Walk

/-- The handlers of the routes for `GET`. -/
def Handler.isGet : Handler → Bool
  | .postSubscribe | .postLogin | .postRegister | .postCreateActivity | .postUpdateUser
  | .postUploadExcel | .postEvents => false
  | _ => true

theorem Router.get_handler (r : Router) : ∀ route ∈ r.routes, route.method = "GET" →
    route.handler.isGet = true := by
  cases r <;> decide

variable (p : Platform) (secrets : Secrets) (req : Request) (s : Server)

/-- A context on its way through the layers behind tracking: nothing is answered yet, and only what
tracking does has been done. -/
structure Enters (t : Ctx) : Prop where
  idle : t.sent = 0
  core : t.core = (Ctx.entry p req s).core
  wire : t.wire = (.arr ((s.sessions req.sid).getD {}).agents,
    pushed p req ((s.sessions req.sid).getD {}))

/-- A context that a middleware has ended: the request is turned away. -/
structure Stops (t : Ctx) : Prop where
  core : t.core = (Ctx.entry p req s).core
  wire : t.wire = (.arr ((s.sessions req.sid).getD {}).agents,
    pushed p req ((s.sessions req.sid).getD {}))
  first : ∃ url, t.responses.head? = some (.redirect 302 url) ∧
    (url = backTo req "/" ∨ url = backTo req "/login" ∨ url = "/access-denied")
  turned : TurnedAway p req s

variable {p req s} {ok : Flow → Ctx → Prop} {err : String → Ctx → Prop}

theorem Enters.skips {t : Ctx} (enters : Enters p req s t) :
    Skips req t.session ↔ Skips req (entrySession p req s) := by
  rw [entrySession, Skips, Skips, OwnUpdate, OwnUpdate,
    Session.userId_of_core (Ctx.session_of_core enters.core)]

theorem Enters.readable {t : Ctx} (enters : Enters p req s t) :
    Readable t.session ↔ Readable (entrySession p req s) := by
  rw [entrySession, Readable, Readable, Session.userId_of_core (Ctx.session_of_core enters.core)]

theorem Enters.core_ran {t : Ctx} (enters : Enters p req s t) (handler : Handler) :
    ({ t with ran := some handler } : Ctx).core =
      ({ Ctx.entry p req s with ran := some handler } : Ctx).core := by
  have parts : ({ t.core with ran := some handler } : Ctx) =
      { (Ctx.entry p req s).core with ran := some handler } := by rw [enters.core]
  exact parts

theorem currentId_of_core {session session' : Session} (same : session'.core = session.core) :
    currentId p req session' = currentId p req session := by
  simp only [currentId, Session.userId_of_core same]

/-- A router answers through one of its handlers, hands on, or fails on a parameter. -/
theorem ensures_router {r : Router} {rest : List (Act Flow)} {t : Ctx}
    (arrives : Arrives p req s r)
    (fails : ∀ e, Throws p req s → err e t)
    (handles : ∀ handler params, Arrives p req s handler.router → Addressed p req handler params →
      (req.method = "GET" → handler.isGet = true) →
      Ensures (handle p secrets req params handler) { t with ran := some handler }
        (fun _ t => ok .ended t) err)
    (missed : dispatch req.method (p.pathname req.url) r.routes = .missed →
      Ensures (chain rest) t ok err) :
    Ensures (chain (router p secrets r.routes req :: rest)) t ok err := by
  rw [ensures_chain_cons]
  unfold router
  split
  · rename_i none
    exact ⟨fun _ => missed none, by simp⟩
  · rename_i error failed
    exact fails error (.undecodable r error arrives failed)
  · rename_i handler params found
    obtain ⟨route, member, isHandler, routed, _⟩ := dispatch_found found
    have home : handler.router = r := isHandler ▸ r.handler_router route member
    have isGet (get : req.method = "GET") : handler.isGet = true := by
      rw [← isHandler]
      refine r.get_handler route member ?_
      simpa [Route.handles, get] using routed
    simp only [ensures_bind, ensures_modify]
    refine (handles handler params (home ▸ arrives) (by rw [Addressed, home]; exact found)
      isGet).mono ?_ (fun _ _ left => left)
    intro _ t' answered
    exact ⟨by simp, fun _ => answered⟩

/-- A gate hands on, turns away, or fails on the lookup of a record. -/
theorem ensures_guards {roles : List String} {rest : List (Act Flow)} {t : Ctx} {r : Router}
    (enters : Enters p req s t) (nears : Nears p req s r) (listed : roles ∈ r.gates)
    (named : "" ∉ roles)
    (stops : ∀ t', Stops p req s t' → ok .ended t')
    (fails : ∀ e t', Enters p req s t' → Throws p req s → err e t')
    (passed : ∀ t', Enters p req s t' → Passes p req s roles → Ensures (chain rest) t' ok err) :
    Ensures (chain (guards p roles req ++ rest)) t ok err := by
  have turned (refused : ¬ Passes p req s roles) : TurnedAway p req s :=
    .gate r roles nears listed refused
  simp only [guards, List.cons_append, List.nil_append]
  rw [ensures_chain_cons]
  refine ((isAuthenticated_answer enters.idle).and ((isAuthenticated_spec p req t).and
    ((isAuthenticated_wire p req).ensures t))).mono ?_ (fun _ _ never => never.1.elim)
  rintro flow t₁ ⟨⟨rfl, idle₁, entered⟩ | ⟨rfl, first, noSkip, refused⟩, ⟨same₁, _⟩, wire₁⟩
  swap
  · refine ⟨by simp, fun _ => stops t₁ ⟨same₁.trans enters.core, wire₁.trans enters.wire,
      ⟨_, first, .inl rfl⟩, turned ?_⟩⟩
    rintro (skips | ⟨⟨agent, _, _, found, data, authentic, _⟩, readable⟩)
    · exact noSkip (enters.skips.mpr skips)
    · exact refused ⟨enters.readable.mpr readable, agent, found, data, authentic⟩
  have enters₁ : Enters p req s t₁ := ⟨idle₁, same₁.trans enters.core, wire₁.trans enters.wire⟩
  refine ⟨fun _ => ?_, by simp⟩
  have entered₁ : Skips req t₁.session ∨ Authentic p req t₁.session := by
    rcases entered with skips | ⟨_, readable, agent⟩
    · exact .inl (enters₁.skips.mpr (enters.skips.mp skips))
    · exact .inr ⟨enters₁.readable.mpr (enters.readable.mp readable), agent⟩
  rw [ensures_chain_cons]
  refine ((isAuthorized_answer idle₁ entered₁ named).and ((isAuthorized_spec p roles req t₁).and
    ((isAuthorized_wire p req roles).ensures t₁))).mono ?_ (fun _ _ never => never.1.elim)
  rintro flow t₂ ⟨⟨rfl, idle₂, entitled⟩ | ⟨rfl, first, noSkip, refused⟩, ⟨same₂, _⟩, wire₂⟩
  swap
  · refine ⟨by simp, fun _ => stops t₂ ⟨same₂.trans enters₁.core, wire₂.trans enters₁.wire,
      ⟨_, first, .inr (.inr rfl)⟩, turned ?_⟩⟩
    rintro (skips | ⟨⟨agent, _, role, found, data, authentic, member, isRole, _⟩, _⟩)
    · exact noSkip (enters₁.skips.mpr skips)
    · exact refused agent ⟨found, data, authentic, role, member, isRole⟩
  have enters₂ : Enters p req s t₂ := ⟨idle₂, same₂.trans enters₁.core, wire₂.trans enters₁.wire⟩
  refine ⟨fun _ => ?_, by simp⟩
  have entered₂ : Skips req t₂.session ∨
      Readable t₂.session ∧ ∃ agent, Entitled p req roles agent := by
    rcases entitled with skips | agent
    · exact .inl (enters₂.skips.mpr (enters₁.skips.mp skips))
    · rcases entered₁ with skips | ⟨readable, _⟩
      · exact .inl (enters₂.skips.mpr (enters₁.skips.mp skips))
      · exact .inr ⟨enters₂.readable.mpr (enters₁.readable.mp readable), agent⟩
  have server : t₂.server = s := Ctx.server_of_core enters₂.core
  rw [ensures_chain_cons]
  refine ((validateAgent_answer idle₂ entered₂).and ((validateAgent_spec p req t₂).and
    ((validateAgent_wire p req).ensures t₂))).mono ?_ ?_
  · rintro flow t₃ ⟨⟨rfl, idle₃, cleared⟩ | ⟨rfl, first, noSkip, refused⟩, ⟨same₃, _⟩, wire₃⟩
    · have enters₃ : Enters p req s t₃ :=
        ⟨idle₃, same₃.trans enters₂.core, wire₃.trans enters₂.wire⟩
      refine ⟨fun _ => passed t₃ enters₃ ?_, by simp⟩
      rw [server, enters₂.skips] at cleared
      rw [enters₂.skips, enters₂.readable] at entered₂
      rcases cleared with skips | cleared
      · exact .inl skips
      · rcases entered₂ with skips | ⟨readable, _⟩
        · exact .inl skips
        · exact .inr ⟨cleared, readable⟩
    · refine ⟨by simp, fun _ => stops t₃ ⟨same₃.trans enters₂.core, wire₃.trans enters₂.wire,
        ⟨_, first, .inr (.inl rfl)⟩, turned ?_⟩⟩
      rw [server] at refused
      rintro (skips | ⟨cleared, _⟩)
      · exact noSkip (enters₂.skips.mpr skips)
      · exact refused cleared
  · rintro e t₃ ⟨⟨idle₃, noSkip, lookup⟩, same₃, wire₃⟩
    rw [server] at lookup
    have readable := (entered₂.resolve_left noSkip).1
    rw [enters₂.skips] at noSkip
    exact fails e t₃ ⟨idle₃, same₃.trans enters₂.core, wire₃.trans enters₂.wire⟩
      (.lookup r roles nears listed ⟨noSkip, enters₂.readable.mp readable, lookup⟩)

/-- Tracking ends the request or hands it on, and which of the two is known in advance. -/
theorem ensures_entry {rest : List (Act Flow)}
    (closed : ∀ t, Stops p req s t → ¬ Opened p req ((s.sessions req.sid).getD {}) →
      t.responses.head? = some (.redirect 302 (backTo req "/login")) → ok .ended t)
    (opened : ∀ t, Enters p req s t → Opened p req ((s.sessions req.sid).getD {}) →
      Ensures (chain rest) t ok err) :
    Ensures (chain (flashLocals :: trackUserActivity p req :: rest)) (Ctx.start req s) ok err := by
  rw [ensures_chain_cons]
  refine ⟨fun _ => ?_, fun impossible => by cases impossible⟩
  rw [ensures_chain_cons]
  refine ((trackUserActivity_answer rfl (agents_drained _)).and
    (trackUserActivity_spec p req _)).mono ?_ (fun _ _ never => never.1.elim)
  rintro flow t ⟨⟨wire, answer⟩, same, _⟩
  replace same : t.core = (Ctx.entry p req s).core :=
    same.trans (Ctx.core_session rfl (tracked_core p req rfl))
  rcases answer with ⟨rfl, isOpen, idle⟩ | ⟨rfl, isClosed, first⟩
  · exact ⟨fun _ => opened t ⟨idle, same, wire⟩ isOpen, by simp⟩
  · have stops : Stops p req s t := ⟨same, wire, ⟨_, first, .inr (.inl rfl)⟩, .unopened isClosed⟩
    exact ⟨by simp, fun _ => closed t stops isClosed first⟩

/-- The way of a request through the layers. -/
theorem ensures_layers
    (stops : ∀ t, Stops p req s t → ok .ended t)
    (fails : ∀ e t, Enters p req s t → Throws p req s → err e t)
    (passes : ∀ t, Enters p req s t → ok .next t)
    (handles : ∀ handler params t, Enters p req s t → Arrives p req s handler.router →
      Addressed p req handler params → (req.method = "GET" → handler.isGet = true) →
      Ensures (handle p secrets req params handler) { t with ran := some handler }
        (fun _ t => ok .ended t) err) :
    Ensures (chain (layers p secrets req)) (Ctx.start req s) ok err := by
  have route {r : Router} {rest : List (Act Flow)} {t : Ctx} (enters : Enters p req s t)
      (arrives : Arrives p req s r)
      (missed : dispatch req.method (p.pathname req.url) r.routes = .missed →
        Ensures (chain rest) t ok err) :
      Ensures (chain (router p secrets r.routes req :: rest)) t ok err :=
    ensures_router secrets arrives (fun e throws => fails e t enters throws)
      (fun handler params => handles handler params t enters) missed
  simp only [layers, publicLayers, List.cons_append, List.nil_append]
  refine ensures_entry (fun t stopped _ _ => stops t stopped) fun t enters opened => ?_
  refine route (r := .index) enters
    ⟨⟨opened, by simp [Router.before]⟩, by simp [Router.gates]⟩ fun index => ?_
  refine route (r := .login) enters
    ⟨⟨opened, by simp [Router.before, index]⟩, by simp [Router.gates]⟩ fun login => ?_
  refine route (r := .register) enters
    ⟨⟨opened, by simp [Router.before, index, login]⟩, by simp [Router.gates]⟩ fun register => ?_
  simp only [List.append_assoc]
  have member : Nears p req s .member := ⟨opened, by simp [Router.before, index, login, register]⟩
  refine ensures_guards enters member (by simp [Router.gates]) (by decide) stops fails
    fun t enters asMember => ?_
  refine route (r := .member) enters ⟨member, by simpa [Router.gates]⟩ fun notMember => ?_
  have dashboard : Nears p req s .dashboard :=
    ⟨opened, by simp [Router.before, index, login, register, notMember]⟩
  have forWorkers : ["worker", "admin"] ∈ Router.gates .dashboard := by simp [Router.gates]
  refine ensures_guards enters dashboard forWorkers (by decide) stops fails
    fun t enters asWorker => ?_
  refine route (r := .dashboard) enters ⟨dashboard, by simp [Router.gates, asMember, asWorker]⟩
    fun notDashboard => ?_
  have admin : Nears p req s .admin :=
    ⟨opened, by simp [Router.before, index, login, register, notMember, notDashboard]⟩
  have forAdmins : ["admin"] ∈ Router.gates .admin := by simp [Router.gates]
  refine ensures_guards enters admin forAdmins (by decide) stops fails fun t enters asAdmin => ?_
  refine route (r := .admin) enters ⟨admin, by simp [Router.gates, asMember, asWorker, asAdmin]⟩
    fun _ => ?_
  exact passes t enters

/-- The context that the centralized error handler leaves behind. -/
def Ctx.recovered (req : Request) (c : Ctx) : Ctx :=
  (c.flashed "error_msg" (.str "An unexpected error occurred. Please try again.")).answered
    (.redirect 302 req.url)

/-- What holds of every way a request can go holds of the context it ends with. -/
theorem served_walk {P : Ctx → Prop}
    (stops : ∀ t, Stops p req s t → P t)
    (fails : ∀ t, Enters p req s t → Throws p req s → P (t.recovered req))
    (passes : ∀ t body, Enters p req s t → P (t.answered (.send 404 body)))
    (handles : ∀ handler params t, Enters p req s t → Arrives p req s handler.router →
      Addressed p req handler params → (req.method = "GET" → handler.isGet = true) →
      Ensures (handle p secrets req params handler) { t with ran := some handler }
        (fun _ t => P t) (fun _ t => P (t.recovered req))) :
    P (served p secrets req s) := by
  refine Ensures.final (x := app p secrets req) (s := Ctx.start req s) (P := P) ?_
  have walked : Ensures (chain (layers p secrets req)) (Ctx.start req s)
      (fun flow t => flow = .ended ∧ P t ∨ flow = .next ∧ ∀ body, P (t.answered (.send 404 body)))
      (fun _ t => P (t.recovered req)) := by
    refine ensures_layers secrets (fun t stopped => .inl ⟨rfl, stops t stopped⟩)
      (fun _ t enters throws => fails t enters throws)
      (fun t enters => .inr ⟨rfl, fun body => passes t body enters⟩) ?_
    intro handler params t enters arrives addressed isGet
    exact (handles handler params t enters arrives addressed isGet).mono
      (fun _ _ done => .inl ⟨rfl, done⟩) (fun _ _ failed => failed)
  unfold app
  rw [ensures_attempt, ensures_bind]
  refine walked.mono ?_ (fun _ _ failed => failed)
  rintro flow t (⟨rfl, done⟩ | ⟨rfl, lost⟩)
  · exact done
  · exact lost _

end Walk

end ChurchManagement
