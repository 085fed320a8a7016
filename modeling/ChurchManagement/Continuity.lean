import ChurchManagement.PageAgents
import ChurchManagement.Visitor

namespace ChurchManagement

open Js Effect Express Sequelize History

section Site

/-- A request that reaches tracking, or one for a file, which `express.static` answers before. -/
inductive Visit
  | page (req : Request)
  | asset (sid : String)

/-- The server, and for each session the agent that its last page has in its links and forms. -/
structure Site where
  server : Server
  shown : String → Option String

/-- A file is served behind the middleware that reads the flash. -/
def serveAsset (sid : String) (s : Server) : Server :=
  let c := (exec flashLocals { server := s, session := (s.sessions sid).getD {} }).2
  { s with sessions := Function.update s.sessions sid (some c.session) }

variable (p : Platform) (secrets : Secrets)

/-- The client stays on its page until it gets another one with links, or its session ends. -/
def browse : Visit → Site → Site
  | .page req, site =>
    let c := served p secrets req site.server
    { server := serve p secrets req site.server
      shown := Function.update site.shown req.sid
        (if c.destroyed then none else c.pageAgent.or (site.shown req.sid)) }
  | .asset sid, site => { site with server := serveAsset sid site.server }

/-- The value of a link as the framework reads it from the query of the request. -/
def transmitted (link : String) : String := (decodeURIComponent link).getD link

/-- The session under the name, which is new when none is stored. -/
def Server.sessionAt (s : Server) (sid : String) : Session := (s.sessions sid).getD {}

/-- The request carries the agent of the page it comes from. -/
def Faithful (e : Event Visit Site) : Prop :=
  ∀ req, e.input = .page req → p.query req.url "agent" =
    (e.before.shown req.sid).elim .undefined fun link => .str (transmitted link)

/-- Once the session has a page, the request has an agent that names the session's identifier, and
what is posted to the login reaches its handler. -/
def Continuous (e : Event Visit Site) : Prop :=
  ∀ req, e.input = .page req → (e.before.shown req.sid).isSome = true →
    (∃ agent, (exec (getAgent p req) (Ctx.start req e.before.server)).1 = .ok (some agent) ∧
      agent.data.prop "userId" = .ok (e.before.server.sessionAt req.sid).userId) ∧
    (req.method = "POST" → p.pathname req.url = "/login" →
      (served p secrets req e.before.server).ran = some .postLogin)

/-- What a new token is written from has no percent sign. -/
structure PlainClient (req : Request) : Prop where
  v4 : req.v4 ≠ "" ∧ '%' ∉ req.v4.toList
  ip : '%' ∉ req.ip.toList
  userAgent : req.userAgent = .undefined ∨
    ∃ text, req.userAgent = .str text ∧ '%' ∉ text.toList

/-- What a request needs for the agents to go on: a token that can be read back when it gets a new
one, one token and nothing else in the flash when it is shown a page that prints the flash, no table
of users to be shown, and no login as somebody else. -/
structure Continues (req : Request) (s : Server) : Prop where
  plain : presented p req = none → PlainClient req
  flash : ∀ handler params, Arrives p req s handler.router → Addressed p req handler params →
    FromFlash p secrets req s params handler → ∃ text, (s.sessionAt req.sid).agents = [.str text]
  rows : ∀ handler params, Arrives p req s handler.router → Addressed p req handler params →
    ¬ FromRows req s handler
  login : ∀ params user, Arrives p req s .login → Addressed p req .postLogin params →
    req.fault .User .findOne = none → Matches p req s.users.rows user →
    (s.sessionAt req.sid).userId = .str user.id

end Site

section Tokens

variable (p : Platform)

/-- A link whose agent is read with the identifier. -/
structure Speaks (link : String) (id : Value) : Prop where
  filled : transmitted link ≠ ""
  plain : '%' ∉ (transmitted link).toList
  named : ∃ agent, decodeAgent p (.str (transmitted link)) = .ok agent ∧
    agent.data.prop "userId" = .ok id

variable {p}

theorem transmitted_plain {text : String} (plain : '%' ∉ text.toList) : transmitted text = text := by
  rw [transmitted, decodeURIComponent_plain plain]
  rfl

/-- A page that prints what the request has carried speaks like the link that led to it. -/
theorem Speaks.again {link : String} {id : Value} (speaks : Speaks p link id) :
    Speaks p (transmitted link) id := by
  have same := transmitted_plain speaks.plain
  refine ⟨?_, ?_, ?_⟩
  · rw [same]
    exact speaks.filled
  · rw [same]
    exact speaks.plain
  · rw [same]
    exact speaks.named

theorem Speaks.presented {req : Request} {link : String} {id : Value} (speaks : Speaks p link id)
    (carried : p.query req.url "agent" = .str (transmitted link)) :
    ∃ agent, presented p req = some agent ∧ agent.data.prop "userId" = .ok id := by
  obtain ⟨agent, decoded, read⟩ := speaks.named
  exact ⟨agent, (presented_text_iff p carried speaks.filled).mpr decoded, read⟩

theorem Agent.Written.speaks {agent : Agent} (written : agent.Written)
    (free : Json.PercentFree (.obj agent.fields)) {id : Value}
    (read : agent.data.prop "userId" = .ok id) {link : String}
    (text : transmitted link = Json.stringify (.obj agent.fields)) : Speaks p link id := by
  refine ⟨?_, ?_, agent, ?_, read⟩
  · have starts := Json.stringify_obj agent.fields []
    rw [List.append_nil, ← text] at starts
    intro empty
    rw [empty] at starts
    cases starts
  · rw [text]
    exact (Json.stringify_percent _ written.representable.printable).mpr free
  · rw [text]
    exact (written.decode_iff p).mpr free

/-- The token that tracking makes names the identifier it was made for. -/
theorem speaks_token {id : String} (plain : '%' ∉ id.toList) {req : Request}
    (client : PlainClient req) :
    Speaks p (getAgentData (agentDataOf (.str id) req) (.bool false) .null .null) (.str id) := by
  have decoded : transmitted (getAgentData (agentDataOf (.str id) req) (.bool false) .null .null) =
      Json.stringify (Agent.toJSON ⟨agentDataOf (.str id) req, .bool false, .null, .null⟩) := by
    rw [transmitted, getAgentData, decodeURIComponent_encode]
    rfl
  rcases client.userAgent with absent | ⟨text, isText, plainText⟩
  · -- a missing header is left out of the text
    let agent : Agent :=
      ⟨.obj [("userId", .str id), ("ipAddress", .str req.ip)], .bool false, .null, .null⟩
    have written : agent.Written :=
      ⟨⟨⟨trivial, trivial, trivial⟩, show ["userId", "ipAddress"].Nodup by decide, trivial, trivial,
        trivial⟩, ⟨trivial, trivial⟩, ⟨trivial, trivial⟩, ⟨trivial, trivial⟩⟩
    have keys : '%' ∉ "data".toList ∧ '%' ∉ "isAuthenticated".toList ∧ '%' ∉ "role".toList ∧
        '%' ∉ "lastActivity".toList ∧ '%' ∉ "userId".toList ∧ '%' ∉ "ipAddress".toList := by decide
    obtain ⟨data, isAuthenticated, role, lastActivity, userId, ipAddress⟩ := keys
    have free : Json.PercentFree (.obj agent.fields) :=
      ⟨data, ⟨userId, plain, ipAddress, client.ip, trivial⟩, isAuthenticated, trivial, role, trivial,
        lastActivity, trivial, trivial⟩
    refine written.speaks free rfl (decoded.trans ?_)
    rw [agentDataOf, absent]
    rfl
  · have written : (clientAgent id req.ip text false none .null).Written :=
      clientAgent_written ⟨trivial, trivial⟩
    have free : Json.PercentFree (.obj (clientAgent id req.ip text false none .null).fields) :=
      clientAgent_free.mpr ⟨plain, client.ip, plainText, by simp, trivial⟩
    refine written.speaks free rfl (decoded.trans ?_)
    rw [agentDataOf, isText, ← written.toJSON_eq]
    rfl

end Tokens

section Linked

variable (p : Platform)

/-- What a session and its page hold between two requests: the links of the page and the only token
of the flash name the identifier of the session. -/
structure Linked (session : Session) (shown : Option String) : Prop where
  userId : session.userId = .undefined ∨
    ∃ id, session.userId = .str id ∧ id ≠ "" ∧ '%' ∉ id.toList
  flash : ∀ text, session.agents = [.str text] →
    session.userId.truthy = true ∧ Speaks p text session.userId
  page : ∀ link ∈ shown, Speaks p link session.userId

variable {p} {secrets : Secrets} {req : Request} {s : Server} {shown : Option String}

theorem linked_new : Linked p {} none where
  userId := .inl rfl
  flash := by
    intro text impossible
    cases impossible
  page := by simp

/-- Reading the flash takes nothing but the messages from a session. -/
theorem Linked.drained {sid : String} (linked : Linked p (s.sessionAt sid) shown) :
    Linked p ((serveAsset sid s).sessionAt sid) shown := by
  have session : (serveAsset sid s).sessionAt sid =
      (exec flashLocals { server := s, session := s.sessionAt sid }).2.session := by
    simp [Server.sessionAt, serveAsset]
  have userId : ((serveAsset sid s).sessionAt sid).userId = (s.sessionAt sid).userId := by
    rw [session]
    rfl
  refine ⟨?_, ?_, ?_⟩
  · rw [userId]
    exact linked.userId
  · intro text only
    rw [session, agents_drained] at only
    cases only
  · rw [userId]
    exact linked.page

/-- The identifier behind tracking, for a request without an agent. -/
theorem Linked.entry_new (linked : Linked p (s.sessionAt req.sid) shown)
    (missing : presented p req = none) (client : PlainClient req) :
    ∃ id, (entrySession p req s).userId = .str id ∧ id ≠ "" ∧ '%' ∉ id.toList ∧
      (s.sessionAt req.sid).userId.orElse (.str req.v4) = .str id := by
  have entered : (entrySession p req s).userId =
      (s.sessionAt req.sid).userId.orElse (.str req.v4) := by
    change (tracked p req (s.sessionAt req.sid)).userId = _
    simp only [tracked, missing]
  rw [entered]
  rcases linked.userId with new | ⟨id, known, filled, plain⟩
  · refine ⟨req.v4, ?_, client.v4.1, client.v4.2, ?_⟩ <;> rw [new] <;> rfl
  · have kept := Value.orElse_of_truthy (Value.truthy_str.mpr filled) (.str req.v4)
    exact ⟨id, known ▸ kept, filled, plain, known ▸ kept⟩

/-- The identifier behind tracking, for a request whose agent names the session. -/
theorem entry_named {agent : Agent} (found : presented p req = some agent)
    (read : agent.data.prop "userId" = .ok (s.sessionAt req.sid).userId) :
    (entrySession p req s).userId = (s.sessionAt req.sid).userId := by
  change (tracked p req (s.sessionAt req.sid)).userId = _
  simp only [tracked, found, read]
  split
  · rfl
  · rfl

/-- Without an agent a request gets to the public pages only. -/
theorem Arrives.page {r : Router} {handler : Handler} {params : List (String × String)}
    (arrives : Arrives p req s r) (addressed : Addressed p req handler params)
    (missing : presented p req = none) : (req.url, handler) ∈ publicPages := by
  rcases arrives.opened with page | ⟨agent, found, _⟩
  · exact (addressed.page page).2
  · rw [missing] at found
    cases found

theorem printed_only (text : String) : printed (.arr [.str text]) = text := by
  simp [printed, Value.toText, Value.itemTexts, Value.joinComma]

/-- The links of a page come from the flash or, on the member page, from the query. -/
theorem Leaves.link {t : Ctx} (leaves : Leaves p secrets req s t)
    (continues : Continues p secrets req s) {link : String} (isLink : t.pageAgent = some link) :
    (s.sessionAt req.sid).agents = [.str link] ∨
      link = printed (p.query req.url "agent") ∧ presented p req ≠ none := by
  unfold Ctx.pageAgent at isLink
  cases first : t.responses.head? with
  | none =>
    rw [first] at isLink
    cases isLink
  | some r =>
    rw [first] at isLink
    cases leaves.pages r (by rw [first]; rfl) with
    | absent plain =>
      cases r with
      | render status view vars =>
        change agentSlot view = .absent at plain
        simp only [plain] at isLink
        cases isLink
      | redirect status url => cases isLink
      | send status body => cases isLink
    | flash arrives addressed shows slot hidden =>
      obtain ⟨text, only⟩ := continues.flash _ _ arrives addressed shows
      simp only [slot, hidden, leaves.shown] at isLink
      change some (printed (.arr (s.sessionAt req.sid).agents)) = some link at isLink
      rw [only, printed_only, Option.some.injEq] at isLink
      exact .inl (isLink ▸ only)
    | query arrives addressed given =>
      simp only [agentSlot, given] at isLink
      refine .inr ⟨(Option.some.inj isLink).symm, fun missing => ?_⟩
      have page := arrives.page addressed missing
      simp [publicPages] at page
    | rows arrives addressed slot shows =>
      have empty := shows.resolve_left (continues.rows _ _ arrives addressed)
      simp only [slot, empty, if_true] at isLink
      cases isLink

theorem Leaves.userId_entry {t : Ctx} (leaves : Leaves p secrets req s t)
    (continues : Continues p secrets req s) :
    t.session.userId = (entrySession p req s).userId ∨
      t.session.userId = (s.sessionAt req.sid).userId ∧ presented p req ≠ none := by
  rcases leaves.userId with kept | ⟨params, user, arrives, addressed, works, matched, id⟩
  · exact .inl kept
  · refine .inr ⟨?_, fun missing => ?_⟩
    · rw [id, continues.login params user arrives addressed works matched]
    · have page := arrives.page addressed missing
      simp [publicPages] at page

theorem pushed_presented {agent : Agent} (found : presented p req = some agent) (session : Session) :
    pushed p req session = [agent.toJSON] := by
  simp only [pushed, found]

theorem pushed_new (missing : presented p req = none) {session : Session} {id : Value}
    (drawn : session.userId.orElse (.str req.v4) = id) : pushed p req session =
      [.str (getAgentData (agentDataOf id req) (.bool false) .null .null)] := by
  simp only [pushed, missing, drawn]
  rw [pushAgent, if_pos (Value.truthy_str.mpr (getAgentData_ne _ _ _ _)), List.nil_append]

/-- A request without a page before it gets a token for the next page. -/
theorem Leaves.linked_first {t : Ctx} (leaves : Leaves p secrets req s t)
    (continues : Continues p secrets req s) (linked : Linked p (s.sessionAt req.sid) none)
    (carried : p.query req.url "agent" = .undefined) : Linked p t.session t.pageAgent := by
  have missing : presented p req = none := by
    rw [presented, carried]
    rfl
  have client := continues.plain missing
  obtain ⟨id, entered, filled, plain, drawn⟩ := linked.entry_new missing client
  have userId : t.session.userId = .str id := by
    rcases leaves.userId_entry continues with kept | ⟨_, found⟩
    · exact kept.trans entered
    · exact absurd missing found
  rw [← userId] at drawn
  refine ⟨.inr ⟨id, userId, filled, plain⟩, ?_, ?_⟩
  · intro text only
    rw [leaves.alone missing] at only
    have token : pushed p req (s.sessionAt req.sid) = _ := pushed_new missing drawn
    have isText := List.cons.inj (only.symm.trans token)
    rw [Value.str.inj isText.1, userId]
    exact ⟨Value.truthy_str.mpr filled, speaks_token plain client⟩
  · intro link isLink
    rcases leaves.link continues isLink with only | ⟨_, found⟩
    · obtain ⟨known, speaks⟩ := linked.flash link only
      rw [Value.orElse_of_truthy known] at drawn
      rw [← drawn]
      exact speaks
    · exact absurd missing found

/-- A request that follows a link leaves an object in the flash, and the link or one as good. -/
theorem Leaves.linked_next {t : Ctx} {link : String} (leaves : Leaves p secrets req s t)
    (continues : Continues p secrets req s) (linked : Linked p (s.sessionAt req.sid) (some link))
    (carried : p.query req.url "agent" = .str (transmitted link)) :
    Linked p t.session (t.pageAgent.or (some link)) := by
  have speaks := linked.page link rfl
  obtain ⟨agent, found, read⟩ := speaks.presented carried
  have userId : t.session.userId = (s.sessionAt req.sid).userId := by
    rcases leaves.userId_entry continues with kept | ⟨same, _⟩
    · exact kept.trans (entry_named found read)
    · exact same
  refine ⟨?_, ?_, ?_⟩
  · rw [userId]
    exact linked.userId
  · intro text only
    have pushes := leaves.flashed
    rw [pushed_presented found, only] at pushes
    cases (List.cons_prefix_cons.mp pushes).1
  · rw [userId]
    intro link' isLink
    cases page : t.pageAgent with
    | none =>
      rw [page] at isLink
      cases isLink
      exact speaks
    | some new =>
      rw [page] at isLink
      cases isLink
      rcases leaves.link continues page with only | ⟨same, _⟩
      · exact (linked.flash _ only).2
      · rw [same, carried]
        exact speaks.again

end Linked

section Runs

variable {p : Platform} {secrets : Secrets} {req : Request} {s : Server}

/-- What tracking hands on of the posts to the login gets to its handler. -/
theorem served_postLogin (isOpen : Opened p req (s.sessionAt req.sid)) (post : req.method = "POST")
    (path : p.pathname req.url = "/login") :
    (served p secrets req s).ran = some .postLogin := by
  have missed : dispatch req.method (p.pathname req.url) indexRoutes = .missed := by
    rw [post, path]
    decide
  have found : dispatch req.method (p.pathname req.url) loginRoutes = .found .postLogin [] := by
    rw [post, path]
    decide
  refine Ensures.final (x := app p secrets req) (s := Ctx.start req s)
    (P := fun t => t.ran = some .postLogin) ?_
  unfold app
  rw [ensures_attempt, ensures_bind]
  have walked : Ensures (chain (layers p secrets req)) (Ctx.start req s)
      (fun flow t => flow = .ended ∧ t.ran = some .postLogin) (fun _ _ => False) := by
    simp only [layers, publicLayers, List.cons_append, List.nil_append]
    refine ensures_entry (fun t _ closed _ => absurd isOpen closed) fun t _ _ => ?_
    rw [ensures_chain_cons]
    simp only [router, missed, found]
    refine ⟨fun _ => ?_, fun impossible => by cases impossible⟩
    rw [ensures_chain_cons]
    simp only [ensures_bind, ensures_modify]
    refine (handle_spec p secrets req [] .postLogin _).mono ?_ (fun _ _ never => never.1 rfl)
    intro _ t' done
    exact ⟨by simp, fun _ => ⟨trivial, done.outcome.ran⟩⟩
  refine walked.mono ?_ (fun _ _ never => never.elim)
  rintro flow t ⟨rfl, ran⟩
  exact ran

variable (p) in
/-- Every session is linked to its page. -/
def Site.Linked (site : Site) : Prop :=
  ∀ sid, ChurchManagement.Linked p (site.server.sessionAt sid) (site.shown sid)

theorem Site.Linked.page {site : Site} (linked : site.Linked p)
    (faithful : Faithful p ⟨.page req, site⟩) (continues : Continues p secrets req site.server) :
    (browse p secrets (.page req) site).Linked p := by
  have leaves : Leaves p secrets req site.server (served p secrets req site.server) := served_leaves
  have carried := faithful req rfl
  intro sid
  by_cases own : sid = req.sid
  · subst own
    have before := linked req.sid
    by_cases ended : (served p secrets req site.server).destroyed = true
    · simp only [browse, Server.sessionAt, serve, Function.update_self, ended, if_true]
      exact linked_new
    · simp only [browse, Server.sessionAt, serve, Function.update_self, ended]
      cases shown : site.shown req.sid with
      | none =>
        rw [shown] at before carried
        rw [Option.or_none]
        exact leaves.linked_first continues before carried
      | some link =>
        rw [shown] at before carried
        exact leaves.linked_next continues before carried
  · simp only [browse, Server.sessionAt, serve, Function.update_of_ne own]
    exact linked sid

theorem Site.Linked.asset {site : Site} (linked : site.Linked p) (sid : String) :
    (browse p secrets (.asset sid) site).Linked p := by
  intro sid'
  by_cases own : sid' = sid
  · subst own
    exact (linked sid').drained
  · simp only [browse, Server.sessionAt, serveAsset, Function.update_of_ne own]
    exact linked sid'

/-- A request from a linked page has an agent of its session. -/
theorem Site.Linked.continuous {site : Site} (linked : site.Linked p) {input : Visit}
    (faithful : Faithful p ⟨input, site⟩) : Continuous p secrets ⟨input, site⟩ := by
  intro req isPage seen
  obtain ⟨link, shown⟩ := Option.isSome_iff_exists.mp seen
  have carried := faithful req isPage
  rw [shown] at carried
  obtain ⟨agent, found, read⟩ := ((linked req.sid).page link shown).presented carried
  refine ⟨⟨agent, ?_, read⟩, fun post path => served_postLogin ?_ post path⟩
  · rw [getAgent_result, found]
  · exact .inr ⟨agent, found, .inr ⟨_, read⟩⟩

theorem browse_shown {site : Site} (alive : (served p secrets req site.server).destroyed = false) :
    (browse p secrets (.page req) site).shown req.sid =
      (served p secrets req site.server).pageAgent.or (site.shown req.sid) := by
  simp [browse, alive]

/-- A request without an agent leaves one new token in the flash. -/
theorem browse_agents {site : Site} (missing : presented p req = none)
    (alive : (served p secrets req site.server).destroyed = false) :
    ((browse p secrets (.page req) site).server.sessionAt req.sid).agents =
      pushed p req (site.server.sessionAt req.sid) := by
  have leaves : Leaves p secrets req site.server (served p secrets req site.server) := served_leaves
  simp only [browse, Server.sessionAt, serve_stored p secrets alive, Option.getD_some]
  exact leaves.alone missing

theorem linked_start {start : Site} (started : start.server.Started)
    (unseen : ∀ sid, start.shown sid = none) : start.Linked p := by
  intro sid
  rw [Server.sessionAt, started.2 sid, unseen sid]
  exact linked_new

theorem linked_of_reach {start site : Site} {log : List (Event Visit Site)}
    (started : start.server.Started) (unseen : ∀ sid, start.shown sid = none)
    (reach : Reach (browse p secrets) start log site)
    (faithful : Always (fun _ e => Faithful p e) log)
    (continues : Always (fun _ e => ∀ req, e.input = .page req →
      Continues p secrets req e.before.server) log) : site.Linked p := by
  refine reach.invariant_state (linked_start started unseen) ?_ (faithful.and continues)
  intro _ site input meets linked
  cases input with
  | page req => exact linked.page meets.1 (meets.2 req rfl)
  | asset sid => exact linked.asset sid

/-- In a run whose clients follow the links of their pages and whose requests before the last all
meet the condition, every request from a page has an agent of its session, wherever files are asked
for in between. -/
theorem agents_continue {start site : Site} {log : List (Event Visit Site)}
    (started : start.server.Started) (unseen : ∀ sid, start.shown sid = none)
    (reach : Reach (browse p secrets) start log site)
    (faithful : Always (fun _ e => Faithful p e) log)
    (continues : Always (fun _ e => ∀ req, e.input = .page req →
      Continues p secrets req e.before.server) log.tail) :
    Always (fun _ e => Continuous p secrets e) log := by
  induction reach with
  | start => trivial
  | next input previous ih =>
    refine ⟨(linked_of_reach started unseen previous faithful.2 continues).continuous faithful.1,
      ih faithful.2 ?_⟩
    cases previous with
    | start => trivial
    | next => exact continues.2

end Runs

section Samples

open Reference

/-- The site before anybody has come. -/
def entrance : Site := ⟨start, fun _ => none⟩

/-- The site after a visitor has opened the login page. -/
def opened : Site := browse platform keys (.page (request "s1" "GET" "/login")) entrance

/-- The login page is opened, and its form is sent with the empty agent that it has. -/
def formlessLog : List (Event Visit Site) :=
  [⟨.page (request "s1" "POST" "/login?agent="), opened⟩,
    ⟨.page (request "s1" "GET" "/login"), entrance⟩]

/-- The flash is read before tracking fills it, so the first page has an empty agent, and its form
does not reach the login. -/
theorem login_form_without_agent :
    Reach (browse platform keys) entrance formlessLog
        (browse platform keys (.page (request "s1" "POST" "/login?agent=")) opened) ∧
      Always (fun _ e => Faithful platform e) formlessLog ∧
      opened.shown "s1" = some "" ∧
      (served platform keys (request "s1" "POST" "/login?agent=") opened.server).ran = none ∧
      ¬ Always (fun _ e => Continuous platform keys e) formlessLog := by
  have shown : opened.shown "s1" = some "" := by decide +kernel
  have missing : presented platform (request "s1" "POST" "/login?agent=") = none := by
    decide +kernel
  refine ⟨.next _ (.next _ .start), ⟨?_, ?_, trivial⟩, shown, ?_, ?_⟩
  · intro req isPage
    cases isPage
    change platform.query "/login?agent=" "agent" = (opened.shown "s1").elim _ _
    rw [shown]
    decide +kernel
  · intro req isPage
    cases isPage
    exact platform.query_bare _ _ (by decide)
  · decide +kernel
  · intro always
    obtain ⟨⟨agent, found, _⟩, _⟩ := always.1 _ rfl (congrArg Option.isSome shown)
    rw [getAgent_result, missing] at found
    cases found

/-- The token that the visitor is given when the member page turns it away. -/
def token : String :=
  getAgentData (agentDataOf (.str (request "s1" "GET" "/memberIndex").v4)
    (request "s1" "GET" "/memberIndex")) (.bool false) .null .null

/-- The site after a visitor has asked for a file and was turned away from the member page. -/
def turnedAway : Site :=
  browse platform keys (.page (request "s1" "GET" "/memberIndex"))
    (browse platform keys (.asset "s1") entrance)

/-- The site after the visitor was shown the login page instead. -/
def invited : Site := browse platform keys (.page (request "s1" "GET" "/login")) turnedAway

theorem request_plain (sid method url : String) : PlainClient (request sid method url) :=
  have v4 : "0d8a1c7e-4b1f-4f0e-8c66-3a5b9e2d7c40" ≠ "" ∧
      '%' ∉ "0d8a1c7e-4b1f-4f0e-8c66-3a5b9e2d7c40".toList := by decide
  have ip : '%' ∉ "127.0.0.1".toList := by decide
  ⟨v4, ip, .inl rfl⟩

/-- The form of that page, as the member has filled it in. -/
def submitted : Request :=
  { loginWith "" with url := "/login" ++ "?agent=" ++ token }

theorem bare_missing {method url : String} (bare : '?' ∉ url.toList) :
    presented platform (request "s1" method url) = none := presented_bare platform bare

/-- The member page is closed to a visitor. -/
theorem memberIndex_closed {r : Router} {s : Server} :
    ¬ Arrives platform (request "s1" "GET" "/memberIndex") s r := by
  intro arrives
  have missing : presented platform (request "s1" "GET" "/memberIndex") = none := bare_missing (by decide)
  rcases arrives.opened with page | ⟨agent, found, _⟩
  · exact absurd page (by change ¬ redirector "/memberIndex" "GET" = true; decide)
  · rw [missing] at found
    cases found

theorem memberIndex_continues (s : Server) :
    Continues platform keys (request "s1" "GET" "/memberIndex") s where
  plain _ := request_plain _ _ _
  flash _ _ arrives := absurd arrives memberIndex_closed
  rows _ _ arrives := absurd arrives memberIndex_closed
  login _ _ arrives := absurd arrives memberIndex_closed

theorem turnedAway_agents : (turnedAway.server.sessionAt "s1").agents = [.str token] := by
  have missing : presented platform (request "s1" "GET" "/memberIndex") = none := bare_missing (by decide)
  have alive : (served platform keys (request "s1" "GET" "/memberIndex")
      (browse platform keys (.asset "s1") entrance).server).destroyed = false := by decide +kernel
  refine (browse_agents missing alive).trans (pushed_new missing ?_)
  decide +kernel

theorem login_continues : Continues platform keys (request "s1" "GET" "/login") turnedAway.server := by
  have missing : presented platform (request "s1" "GET" "/login") = none := bare_missing (by decide)
  refine ⟨fun _ => request_plain _ _ _, fun _ _ _ _ _ => ⟨token, turnedAway_agents⟩, ?_, ?_⟩
  · rintro handler params arrives addressed ⟨listed, _⟩
    have page := arrives.page addressed missing
    simp only [List.mem_cons, List.not_mem_nil, or_false] at listed
    rcases listed with rfl | rfl <;> simp [publicPages] at page
  · intro params user arrives addressed
    have page := arrives.page addressed missing
    simp [publicPages] at page

theorem invited_shown : invited.shown "s1" = some token := by
  have missing : presented platform (request "s1" "GET" "/login") = none := bare_missing (by decide)
  have alive : (served platform keys (request "s1" "GET" "/login")
      turnedAway.server).destroyed = false := by decide +kernel
  have nothing : turnedAway.shown "s1" = none := by decide +kernel
  have isPage : invited.shown "s1" =
      (served platform keys (request "s1" "GET" "/login") turnedAway.server).pageAgent := by
    have page : invited.shown "s1" = (served platform keys (request "s1" "GET" "/login")
        turnedAway.server).pageAgent.or (turnedAway.shown "s1") := browse_shown alive
    rw [page, nothing, Option.or_none]
  have isSome : (invited.shown "s1").isSome = true := by decide +kernel
  obtain ⟨link, shown⟩ := Option.isSome_iff_exists.mp isSome
  have leaves : Leaves platform keys (request "s1" "GET" "/login") turnedAway.server _ := served_leaves
  rcases leaves.link login_continues (isPage.symm.trans shown) with only | ⟨_, found⟩
  · have same := List.cons.inj (only.symm.trans turnedAway_agents)
    rw [shown, Value.str.inj same.1]
  · exact absurd missing found

theorem submitted_path : platform.pathname submitted.url = "/login" := by
  have isUrl : submitted.url.toList = "/login".toList ++ '?' :: ("agent=".toList ++ token.toList) := by
    change ("/login" ++ "?agent=" ++ token).toList = _
    rw [String.toList_append, String.toList_append, List.append_assoc]
    rfl
  exact pathname_query (by decide) isUrl

/-- The query has the agent that the page has printed. -/
theorem submitted_carries : platform.query submitted.url "agent" = .str (transmitted token) := by
  have plain : '?' ∉ "/login".toList := by decide
  have decoded : transmitted token = Json.stringify (Agent.toJSON ⟨agentDataOf
      (.str (request "s1" "GET" "/memberIndex").v4) (request "s1" "GET" "/memberIndex"), .bool false,
      .null, .null⟩) := by
    rw [transmitted, token, getAgentData, decodeURIComponent_encode]
    rfl
  rw [decoded, show platform.query = query from rfl,
    show submitted.url = "/login" ++ "?agent=" ++ token from rfl, token, getAgentData,
    query_encoded plain]

def visitorLog : List (Event Visit Site) :=
  [⟨.page submitted, invited⟩, ⟨.page (request "s1" "GET" "/login"), turnedAway⟩,
    ⟨.page (request "s1" "GET" "/memberIndex"), browse platform keys (.asset "s1") entrance⟩,
    ⟨.asset "s1", entrance⟩]

theorem visitorLog_faithful : Always (fun _ e => Faithful platform e) visitorLog := by
  have nothing : turnedAway.shown "s1" = none := by decide +kernel
  refine ⟨?_, ?_, ?_, ?_, trivial⟩ <;> intro req isPage <;> cases isPage
  · change platform.query submitted.url "agent" = (invited.shown "s1").elim _ _
    rw [invited_shown]
    exact submitted_carries
  · change platform.query "/login" "agent" = (turnedAway.shown "s1").elim _ _
    rw [nothing]
    exact platform.query_bare _ _ (by decide)
  · exact platform.query_bare _ _ (by decide)

theorem visitorLog_continues : Always (fun _ e => ∀ req, e.input = .page req →
    Continues platform keys req e.before.server) visitorLog.tail := by
  refine ⟨?_, ?_, ?_, trivial⟩ <;> intro req isPage <;> cases isPage
  · exact login_continues
  · exact memberIndex_continues _

/-- The form of a login page that follows a redirect reaches the login when it is filled in. -/
theorem login_form_reaches_login :
    (served platform keys submitted invited.server).ran = some .postLogin := by
  have reach : Reach (browse platform keys) entrance visitorLog
      (browse platform keys (.page submitted) invited) :=
    .next _ (.next _ (.next _ (.next _ .start)))
  have always := agents_continue start_started (fun _ => rfl) reach visitorLog_faithful
    visitorLog_continues
  have seen : (invited.shown "s1").isSome = true := congrArg Option.isSome invited_shown
  exact (always.1 submitted rfl seen).2 rfl submitted_path

end Samples

end ChurchManagement
