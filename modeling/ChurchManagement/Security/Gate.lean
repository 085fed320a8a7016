import ChurchManagement.Security.AgentService

namespace ChurchManagement

open Js Effect Sequelize

variable (p : Platform)

/-- The agent that `getAgent` returns for a request, whatever the session. -/
def presented (req : Request) : Option Agent :=
  let userAgentRecord := p.query req.url "agent"
  if userAgentRecord.truthy then (decodeAgent p userAgentRecord).toOption else none

/-- The URL is the update URL of the session's own identifier. The whole URL is compared, its
query included. -/
def OwnUpdate (req : Request) (session : Session) : Prop :=
  ∃ text, (session.userId.orElse (.str "id")).toText = some text ∧
    req.url = "/update-user/" ++ text

/-- The URLs on which the skip list lets a session through. -/
def Skips (req : Request) (session : Session) : Prop :=
  req.url ∈ ["/", "/login", "/register", "/memberIndex"] ∨ OwnUpdate req session

/-- The identifier that the member page and the logout go by: the session's own, or the agent's
when the session has none. -/
def currentId (req : Request) (session : Session) : Option Value :=
  if session.userId.truthy then some session.userId
  else (presented p req).bind fun agent => (agent.data.prop "userId").toOption

theorem Server.allows_iff {s : Server} {userId : Value} :
    s.allows userId = true ↔ ∃ id ∈ s.allowedID, userId = .str id := by
  simp [Server.allows, Value.strictEq_str_iff]

theorem presented_bare {req : Request} (bare : '?' ∉ req.url.toList) : presented p req = none := by
  simp [presented, p.query_bare _ _ bare]

/-- An agent that is written into the query without escapes. -/
theorem presented_written {req : Request} {text : List Char} {json : Value}
    (written : p.query req.url "agent" = .str (String.ofList text)) (plain : '%' ∉ text)
    (parsed : Json.parse (String.ofList text) = some json) :
    presented p req = (Agent.fromJSON json).toOption := by
  have filled : String.ofList text ≠ "" := by
    intro empty
    rw [empty] at parsed
    cases parsed
  have decoded : decodeURIComponent (String.ofList text) = some (String.ofList text) :=
    decodeURIComponent_plain (by rwa [String.toList_ofList])
  simp [presented, written, decodeAgent, Value.truthy_str.mpr filled, decoded, parsed]

theorem getAgent_spec (req : Request) (c : Ctx) :
    Ensures (getAgent p req) c (fun agent t => agent = presented p req ∧ t.core = c.core)
      (fun _ _ => False) := by
  unfold getAgent presented
  simp only [ensures_ite, ensures_pure]
  refine ⟨fun truthy => ?_, fun falsy => ⟨by simp [falsy], trivial⟩⟩
  rw [if_pos truthy]
  split
  · rename_i decoded
    rw [decoded]
    exact ⟨rfl, rfl⟩
  · rename_i decoded
    rw [decoded]
    exact ⟨rfl, rfl⟩

theorem skipSwitch_sound {middleware : String} {isUrl reqGet skipAuthorize skipLogin : Bool}
    (granted : skipSwitch middleware isUrl reqGet skipAuthorize skipLogin = true) :
    isUrl = true ∨ skipAuthorize = true ∨ skipLogin = true := by
  unfold skipSwitch at granted
  split at granted <;> simp only [Bool.or_eq_true, Bool.and_eq_true, Bool.false_eq_true] at granted
  · rcases granted with ⟨url, _⟩ | url | skipped | ⟨login, _⟩
    exacts [.inl url, .inl url, .inr (.inl skipped), .inr (.inr login)]
  · rcases granted with url | skipped | ⟨login, _⟩
    exacts [.inl url, .inr (.inl skipped), .inr (.inr login)]
  · exact .inr (granted.imp_right And.left)
  · exact .inr (.inr granted.1)

/-- Whichever middleware asks, a skip is granted only on the skip list. -/
theorem middleCorrect_spec (middleware : String) (req : Request) (c : Ctx) :
    Ensures (middleCorrect middleware req) c (fun nt t => t = c ∧ (nt = true → Skips req c.session))
      (fun _ t => t = c) := by
  have granted (skip : Bool) (known : skip = true → Skips req c.session)
      (holds : skipSwitch middleware (decide (req.url = "/" ∨ req.url = "/login" ∨
        req.url = "/register")) (req.method = "GET") skip (req.url = "/login") = true) :
      Skips req c.session := by
    rcases skipSwitch_sound holds with url | skipped | login
    · exact .inl (by simpa using (of_decide_eq_true url).imp_right (Or.imp_right Or.inl))
    · exact known skipped
    · exact .inl (by simp [of_decide_eq_true login])
  unfold middleCorrect
  simp only [ensures_bind, ensures_get, ensures_ite, ensures_pure, ensures_orThrow]
  refine ⟨fun listed => ⟨trivial, granted true fun _ => ?_⟩,
    fun _ => ⟨fun text built => ⟨trivial, granted _ fun same => ?_⟩, fun _ => trivial⟩⟩
  · rcases listed with url | url
    · exact .inl (by simpa using (of_decide_eq_true url).imp_right (Or.imp_right Or.inl))
    · exact .inl (by simp [url])
  · exact .inr ⟨text, built, of_decide_eq_true same⟩

/-- The public pages are on the skip list. -/
theorem Skips.of_redirector {req : Request} (page : redirector req.url req.method = true)
    (session : Session) : Skips req session := by
  obtain ⟨url, _⟩ := of_decide_eq_true page
  exact .inl (by simpa using url.imp_right (Or.imp_right Or.inl))

theorem nextOrLogin_spec (req : Request) (c : Ctx) :
    Ensures (nextOrLogin req) c
      (fun flow t => t.core = c.core ∧ (flow = .next ↔ redirector req.url req.method = true))
      (fun _ _ => False) := by
  unfold nextOrLogin
  rw [ensures_ite]
  refine ⟨fun page => ⟨rfl, by simp [page]⟩, fun other => ?_⟩
  exact ⟨rfl, by simp [other]⟩

/-- Only two kinds of requests pass `isAuthenticated`: those on the skip list, and those whose
agent has data and claims to be authenticated. -/
theorem isAuthenticated_spec (req : Request) (c : Ctx) :
    Ensures (isAuthenticated p req) c
      (fun flow t => t.core = c.core ∧ (flow = .next → Skips req c.session ∨
        ∃ agent, presented p req = some agent ∧ agent.data.truthy = true ∧
          agent.isAuthenticated.truthy = true))
      (fun _ t => t.core = c.core) := by
  unfold isAuthenticated
  rw [ensures_attempt, ensures_bind]
  refine (middleCorrect_spec "authenticate" req c).mono ?_ ?_
  · intro nt t post
    obtain ⟨rfl, skips⟩ := post
    rw [ensures_ite]
    refine ⟨fun granted => ⟨rfl, fun _ => .inl (skips granted)⟩, fun _ => ?_⟩
    rw [ensures_bind]
    refine (getAgent_spec p req t).mono ?_ (fun _ _ impossible => impossible.elim)
    intro agent c' post
    obtain ⟨rfl, same⟩ := post
    split
    · exact ⟨same, by simp⟩
    · rename_i agent found
      rw [ensures_ite]
      refine ⟨fun _ => ⟨same, by simp⟩, fun checked => ⟨same, fun _ => .inr ⟨agent, found, ?_⟩⟩⟩
      simpa using checked
  · rintro e t rfl
    exact ⟨rfl, by simp⟩

theorem isAuthorized_spec (roles : List String) (req : Request) (c : Ctx) :
    Ensures (isAuthorized p roles req) c
      (fun flow t => t.core = c.core ∧ (flow = .next → Skips req c.session ∨
        ∃ agent, presented p req = some agent ∧ ∃ role ∈ roles, agent.role = .str role))
      (fun _ t => t.core = c.core) := by
  unfold isAuthorized
  rw [ensures_bind]
  refine (middleCorrect_spec "authorize" req c).mono ?_ (fun _ _ same => congrArg Ctx.core same)
  intro nt t post
  obtain ⟨rfl, skips⟩ := post
  rw [ensures_ite]
  refine ⟨fun granted => ⟨rfl, fun _ => .inl (skips granted)⟩, fun _ => ?_⟩
  rw [ensures_attempt, ensures_bind]
  refine (getAgent_spec p req t).mono ?_ (fun _ _ impossible => impossible.elim)
  intro agent c' post
  obtain ⟨rfl, same⟩ := post
  simp only [ensures_bind, ensures_orThrow, ensures_ite]
  refine ⟨fun agent found => ⟨fun _ => ⟨fun listed => ⟨same, fun _ => .inr ⟨agent, found, ?_⟩⟩,
    fun _ => ⟨same, by simp⟩⟩, fun _ => ⟨same, by simp⟩⟩, fun _ => ?_⟩
  · obtain ⟨role, member, equal⟩ := List.any_eq_true.mp listed
    exact ⟨role, member, Value.strictEq_str_iff.mp equal⟩
  · -- the catch branch lets only the public pages through
    rw [ensures_flash]
    refine (nextOrLogin_spec req _).mono ?_ (fun _ _ impossible => impossible.elim)
    intro flow t' post
    obtain ⟨same', page⟩ := post
    exact ⟨same'.trans same, fun passed => .inl (.of_redirector (page.mp passed) _)⟩

/-- The record comparison never lets a request through: the object built from the record is not
the object of the agent. What passes is on the skip list, has no agent, or carries an allowed
identifier. -/
theorem validateAgent_spec (req : Request) (c : Ctx) :
    Ensures (validateAgent p req) c
      (fun flow t => t.core = c.core ∧ (flow = .next → Skips req c.session ∨
        presented p req = none ∨ ∃ agent userId, presented p req = some agent ∧
          agent.data.prop "userId" = .ok userId ∧ c.server.allows userId = true))
      (fun _ t => t.core = c.core) := by
  have refused (t : Ctx) (same : t.core = c.core) :
      Ensures (nextOrLogin req) t
        (fun flow t => t.core = c.core ∧ (flow = .next → Skips req c.session ∨
          presented p req = none ∨ ∃ agent userId, presented p req = some agent ∧
            agent.data.prop "userId" = .ok userId ∧ c.server.allows userId = true))
        (fun _ t => t.core = c.core) := by
    refine (nextOrLogin_spec req t).mono ?_ (fun _ _ impossible => impossible.elim)
    intro flow t' post
    obtain ⟨same', page⟩ := post
    exact ⟨same'.trans same, fun passed => .inl (.of_redirector (page.mp passed) _)⟩
  unfold validateAgent
  rw [ensures_bind]
  refine (middleCorrect_spec "validate" req c).mono ?_ (fun _ _ same => congrArg Ctx.core same)
  intro nt t post
  obtain ⟨rfl, skips⟩ := post
  rw [ensures_ite]
  refine ⟨fun granted => ⟨rfl, fun _ => .inl (skips granted)⟩, fun _ => ?_⟩
  rw [ensures_bind]
  refine (getAgent_spec p req t).mono ?_ (fun _ _ impossible => impossible.elim)
  intro agent c' post
  obtain ⟨rfl, same⟩ := post
  split
  · rename_i missing
    exact ⟨same, fun _ => .inr (.inl missing)⟩
  · rename_i agent found
    simp only [ensures_bind, ensures_prop, ensures_get, ensures_ite, ensures_db,
      ensures_whereColumn]
    have server := Ctx.server_of_core same
    refine ⟨fun userId read => ⟨fun allowed => ⟨same, fun _ => .inr (.inr ⟨agent, userId, found,
      read, server ▸ allowed⟩)⟩, fun _ => ⟨fun _ _ => same, fun _ => ⟨fun cond _ => ?_,
      fun _ => same⟩⟩⟩, fun _ _ => same⟩
    split
    · exact refused _ same
    · rw [ensures_ite]
      refine ⟨fun _ => refused _ same, fun equal => absurd ?_ equal⟩
      simp [Value.strictEq]

/-- The session behind `trackUserActivity`, up to what it shows to the client. A client that
presents an agent in a session without identifier chooses the identifier itself. -/
def tracked (req : Request) (s : Session) : Session :=
  match presented p req with
  | some agent =>
    if s.userId.truthy then s
    else
      match agent.data.prop "userId" with
      | .ok id => { s with userId := id }
      | .error _ => s
  | none =>
    { s with userId := s.userId.orElse (.str req.v4), role := .null, lastActivity := .null }

theorem tracked_new {req : Request} {s : Session} {agent : Agent} {id : Value}
    (found : presented p req = some agent) (read : agent.data.prop "userId" = .ok id)
    (new : s.userId.truthy = false) : tracked p req s = { s with userId := id } := by
  simp [tracked, found, read, new]

theorem tracked_core (req : Request) {s s' : Session} (same : s'.core = s.core) :
    (tracked p req s').core = (tracked p req s).core := by
  have id := Session.userId_of_core same
  simp only [tracked, id]
  split
  · split
    · exact same
    · split
      · simp_all [Session.core]
      · exact same
  · simp_all [Session.core]

theorem newUserAgent_spec (id : Value) (req : Request) (c : Ctx) :
    Ensures (newUserAgent id req) c
      (fun _ t => t.core = ({ c with session := { c.session with
        userId := id, role := .null, lastActivity := .null } } : Ctx).core)
      (fun _ _ => False) := by
  unfold newUserAgent
  generalize getAgentData _ _ _ _ = agent
  exact rfl

/-- What `trackUserActivity` does to the session, and what it lets through: requests with a
decodable agent, and the public pages. Its own catch leaves no exception. -/
theorem trackUserActivity_spec (req : Request) (c : Ctx) :
    Ensures (trackUserActivity p req) c
      (fun flow t => t.core = ({ c with session := tracked p req c.session } : Ctx).core ∧
        (flow = .next → (presented p req).isSome = true ∨ redirector req.url req.method = true))
      (fun _ _ => False) := by
  have page (t : Ctx) (err : String → Ctx → Prop)
      (same : t.core = ({ c with session := tracked p req c.session } : Ctx).core) :
      Ensures (nextOrLogin req) t
        (fun flow t => t.core = ({ c with session := tracked p req c.session } : Ctx).core ∧
          (flow = .next → (presented p req).isSome = true ∨
            redirector req.url req.method = true)) err := by
    refine (nextOrLogin_spec req t).mono ?_ (fun _ _ impossible => impossible.elim)
    intro flow t' post
    obtain ⟨same', iff⟩ := post
    exact ⟨same'.trans same, fun passed => .inr (iff.mp passed)⟩
  unfold trackUserActivity
  rw [ensures_attempt, ensures_bind, ensures_get, ensures_ite]
  refine ⟨fun absent => ?_, fun identified => ?_⟩
  · have falsy : c.session.userId.truthy = false := by simpa using absent
    rw [ensures_bind]
    refine (getAgent_spec p req c).mono ?_ (fun _ _ impossible => impossible.elim)
    intro agent c' post
    obtain ⟨rfl, same⟩ := post
    split
    · rename_i agent found
      simp only [ensures_bind, ensures_flash, ensures_prop, ensures_setSession]
      refine ⟨fun id read => ⟨?_, fun _ => .inl (by simp [found])⟩, fun e threw => page _ _ ?_⟩
      · simp only [tracked, found, falsy, read, Bool.false_eq_true, if_false]
        refine Ctx.core_session same ?_
        have session := Ctx.session_of_core same
        simp_all [Session.core, Ctx.flashed]
      · simp only [tracked, found, falsy, threw, Bool.false_eq_true, if_false]
        exact same
    · rename_i missing
      rw [ensures_bind]
      refine (newUserAgent_spec _ req c').mono ?_ (fun _ _ impossible => impossible.elim)
      intro _ t made
      refine page t _ (made.trans ?_)
      simp only [tracked, missing, Value.orElse, falsy, Bool.false_eq_true, if_false]
      refine Ctx.core_session same ?_
      have session := Ctx.session_of_core same
      simp_all [Session.core]
  · have truthy : c.session.userId.truthy = true := by simpa using identified
    rw [ensures_bind]
    refine (getAgent_spec p req c).mono ?_ (fun _ _ impossible => impossible.elim)
    intro agent c' post
    obtain ⟨rfl, same⟩ := post
    split
    · rename_i agent found
      refine ⟨?_, fun _ => .inl (by simp [found])⟩
      simp only [tracked, found, truthy, if_true]
      exact same
    · rename_i missing
      rw [ensures_bind]
      refine (newUserAgent_spec _ req c').mono ?_ (fun _ _ impossible => impossible.elim)
      intro _ t made
      refine page (t.flashed _ _) _ (made.trans ?_)
      simp only [tracked, missing, Value.orElse, truthy, if_true]
      refine Ctx.core_session same ?_
      have session := Ctx.session_of_core same
      simp_all [Session.core]

end ChurchManagement
