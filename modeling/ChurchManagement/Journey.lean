import ChurchManagement.Access
import ChurchManagement.ActivityOrder
import ChurchManagement.BookKeeping
import ChurchManagement.Continuity
import ChurchManagement.MemberRace
import ChurchManagement.Privileges

namespace ChurchManagement

open Js Effect Express Sequelize History Refinement Congregation

section Handlers

variable {p : Platform} {secrets : Secrets} {req : Request} {s : Server} {handler : Handler}
  {params : List (String × String)}

/-- A request ends as the handler that has run leaves it. -/
theorem served_through {P : Ctx → Prop} (ran : (served p secrets req s).ran = some handler)
    (addressed : Addressed p req handler params)
    (handles : ∀ t, Enters p req s t → Ensures (handle p secrets req params handler)
      { t with ran := some handler } (fun _ t => P t) (fun _ t => P (t.recovered req))) :
    P (served p secrets req s) := by
  have unran {t : Ctx} (same : t.core = (Ctx.entry p req s).core) : t.ran ≠ some handler := by
    rw [Ctx.ran_of_core same]
    exact nofun
  refine served_walk secrets (P := fun t => t.ran = some handler → P t) ?_ ?_ ?_ ?_ ran
  · exact fun t stops ran => absurd ran (unran stops.core)
  · exact fun t enters _ ran => absurd ran (unran enters.core)
  · exact fun t _ enters ran => absurd ran (unran enters.core)
  · intro other params' t enters _ addressed' _
    by_cases same : other = handler
    · subst same
      obtain ⟨_, rfl⟩ := Dispatch.found.inj (addressed'.symm.trans addressed)
      exact (handles t enters).mono (fun _ _ known _ => known) (fun _ _ known _ => known)
    · refine (handle_spec p secrets req params' other _).mono ?_ ?_
      · intro _ t' done ran
        exact absurd (Option.some.inj (done.outcome.ran.symm.trans ran)) same
      · rintro _ t' ⟨_, done⟩ ran
        exact absurd (Option.some.inj (done.outcome.ran.symm.trans ran)) same

theorem Enters.unanswered {t : Ctx} (enters : Enters p req s t) : t.responses = [] :=
  List.eq_nil_of_length_eq_zero enters.idle

/-- The one answer of the handler is the answer to the request. -/
theorem served_answer {r : Response} (ran : (served p secrets req s).ran = some handler)
    (addressed : Addressed p req handler params)
    (answers : ∀ t, Enters p req s t → Ensures (handle p secrets req params handler)
      { t with ran := some handler } (fun _ t' => t'.responses = t.responses ++ [r])
      (fun _ _ => False)) :
    (served p secrets req s).responses = [r] := by
  refine served_through (P := fun t => t.responses = [r]) ran addressed fun t enters => ?_
  refine (answers t enters).mono (fun _ t' answer => ?_) (fun _ _ never => never.elim)
  rw [answer, enters.unanswered, List.nil_append]

end Handlers

section Logins

variable {p : Platform} {secrets : Secrets} {s : Server} {user : User} {role : String}

/-- What a login that ended in success has left behind. -/
theorem LogsIn.left {login : Request} (logsIn : LogsIn p secrets ⟨login, s⟩ user role) :
    ∃ activities, AgentRecorded p login user.id role (agentRow p s.activities.rows user.id)
        s.activities activities ∧
      (served p secrets login s).core = ((({ Ctx.entry p login s with ran := some .postLogin } :
        Ctx).identified p user).promoted role |>.granted user.id activities).core := by
  obtain ⟨ran, matched, stands, answer⟩ := logsIn
  obtain ⟨params, handled⟩ := handled_of_ran ran
  have shown {msg : String} (shows : (served p secrets login s).responses.getLast? =
      some (.render 200 "login" [("error_msg", .str msg)])) : False := by
    cases shows.symm.trans answer
  cases handled.done with
  | refused msg same shows => exact (shown shows).elim
  | identified user' msg matched' stuck same shows => exact (shown shows).elim
  | promoted user' role' msg matched' stands' reads stuck same shows => exact (shown shows).elim
  | granted user' role' activities matched' stands' reads completes recorded left answer' =>
    cases matched'.unique matched
    cases Option.some.inj (stands'.symm.trans stands)
    exact ⟨activities, recorded, left⟩

theorem LogsIn.allowedID {login : Request} (logsIn : LogsIn p secrets ⟨login, s⟩ user role) :
    (serve p secrets login s).allowedID = s.allowedID ++ [user.id] := by
  obtain ⟨activities, _, left⟩ := logsIn.left
  exact congrArg Server.allowedID (Ctx.server_of_core left)

theorem LogsIn.users {login : Request} (logsIn : LogsIn p secrets ⟨login, s⟩ user role) :
    (serve p secrets login s).users = s.users := by
  obtain ⟨activities, _, left⟩ := logsIn.left
  rw [serve_users, Ctx.server_of_core left]
  rfl

/-- The session of a login names its user. -/
theorem LogsIn.session {login : Request} (logsIn : LogsIn p secrets ⟨login, s⟩ user role) :
    ∃ session, (serve p secrets login s).sessions login.sid = some session ∧
      session.userId = .str user.id := by
  obtain ⟨activities, _, left⟩ := logsIn.left
  have alive : (served p secrets login s).destroyed = false := (congrArg Ctx.destroyed left :)
  exact ⟨_, serve_stored p secrets alive, Session.userId_of_core (Ctx.session_of_core left)⟩

/-- The request brings an agent that says it is the user, logged in with the role. -/
def Brings (p : Platform) (req : Request) (id role : String) : Prop :=
  ∃ agent, presented p req = some agent ∧ agent.data.truthy = true ∧
    agent.isAuthenticated.truthy = true ∧ agent.role = .str role ∧
    agent.data.prop "userId" = .ok (.str id)

/-- Once a user has logged in with a role, at any later time and in any session: what brings an
agent of the user with the role reaches the handler it is routed to exactly if all gates on the way
list the role. -/
theorem login_opens_gates {start : Server} {log : Log} {e : Event Request Server} {req : Request}
    {handler : Handler} {params : List (String × String)} (reach : Runs p secrets start log s)
    (earlier : e ∈ log) (logsIn : LogsIn p secrets e user role) (brings : Brings p req user.id role)
    (routed : Routed p req handler params) (readable : Readable (Ctx.entry p req s).session)
    (noSkip : ¬ Skips req (Ctx.entry p req s).session) :
    (served p secrets req s).ran = some handler ↔ ∀ roles ∈ handler.router.gates, role ∈ roles := by
  obtain ⟨agent, found, data, authentic, isRole, read⟩ := brings
  have allowed : user.id ∈ s.allowedID := by
    obtain ⟨later, before, isLog, _⟩ := reach.split earlier
    subst isLog
    have grows : Later (serve p secrets e.input e.before).book s.book :=
      serve_refines.kept (fun _ _ _ taken => taken.later) reach.since
    refine grows.admitted.subset ?_
    change user.id ∈ (serve p secrets e.input e.before).allowedID
    rw [logsIn.allowedID]
    exact List.mem_append_right _ List.mem_cons_self
  constructor
  · intro ran roles gate
    obtain ⟨params', handled⟩ := handled_of_ran ran
    obtain ⟨agent', _, role', found', _, _, listed, isRole', _⟩ :=
      (handled.gated roles gate).resolve_left noSkip
    cases Option.some.inj (found.symm.trans found')
    cases Value.str.inj (isRole.symm.trans isRole')
    exact listed
  · intro listed
    exact ran_of_cleared secrets routed found read (fun roles gate =>
      ⟨agent, user.id, role, found, data, authentic, listed roles gate, isRole, read, allowed⟩) readable

end Logins

section MemberGates

open Reference

theorem member_logsIn : ∃ user, LogsIn platform keys ⟨loginWith "", start⟩ user "member" ∧
    user.id = adaId := by
  obtain ⟨user, role, logsIn, id⟩ := login_logsIn "" (by decide)
  have stands : tokenRole keys (loginToken platform (loginWith "")) = some "member" := by
    decide +kernel
  cases Option.some.inj (logsIn.2.2.1.symm.trans stands)
  exact ⟨user, logsIn, id⟩

theorem visit_not_skips {sid method path role : String} {session : Session} {a b : Char}
    {rest : List Char} (starts : path.toList = a :: b :: rest) (other : [a, b] ≠ ['/', 'u']) :
    ¬ Skips (visit sid method path role) session := by
  rintro (listed | ⟨text, _, url⟩)
  · have bare : ∀ url ∈ ["/", "/login", "/register", "/memberIndex"], '?' ∉ url.toList := by decide
    refine bare _ listed ?_
    rw [visit_url]
    exact List.mem_append_right _ List.mem_cons_self
  · have texts := congrArg String.toList url
    rw [visit_url, starts, String.toList_append] at texts
    have first := congrArg (List.take 2) texts
    exact other first

/-- The member gets to her page, and not to the dashboard of the admins. -/
theorem member_gates :
    (served platform keys (visit "s1" "GET" "/memberIndex" "member") (loggedIn "")).ran =
      some .getMemberIndex ∧
    (served platform keys (visit "s1" "GET" "/admin/dashboard" "member") (loggedIn "")).ran ≠
      some .getAdminDashboard := by
  obtain ⟨user, logsIn, id⟩ := member_logsIn
  have brings {path : String} (plain : path.toList.all plainChar = true) :
      Brings platform (visit "s1" "GET" path "member") user.id "member" :=
    ⟨_, presented_visit "s1" "GET" plain (by decide), rfl, rfl, rfl, by rw [id]; rfl⟩
  have routed {path : String} {handler : Handler} {params : List (String × String)}
      (leads : Leads "GET" path handler params) :
      Routed platform (visit "s1" "GET" path "member") handler params := by
    refine ⟨?_, ?_⟩
    · rw [Addressed, pathname_visit "s1" "GET" leads.1]
      exact leads.2.1
    · rw [pathname_visit "s1" "GET" leads.1]
      exact leads.2.2
  have readable {path : String} (plain : path.toList.all plainChar = true) :
      Readable (Ctx.entry platform (visit "s1" "GET" path "member") (loggedIn "")).session := by
    obtain ⟨session, stored, isId⟩ :=
      Option.map_eq_some_iff.mp (loggedIn_state "" (by decide)).2
    refine readable_visit "s1" "GET" plain (by decide) (.inr ⟨adaId, ?_⟩)
    rw [show (visit "s1" "GET" path "member").sid = "s1" from rfl, stored]
    exact isId
  constructor
  · exact (login_opens_gates (login_run "") List.mem_cons_self logsIn (brings memberIndex_leads.1)
      (routed memberIndex_leads) (readable memberIndex_leads.1)
      (visit_not_skips rfl (by decide))).mpr (by decide)
  · intro ran
    exact absurd ((login_opens_gates (login_run "") List.mem_cons_self logsIn
      (brings adminDashboard_leads.1) (routed adminDashboard_leads) (readable adminDashboard_leads.1)
      (visit_not_skips rfl (by decide))).mp ran) (by decide)

end MemberGates

section Pages

variable {p : Platform} {secrets : Secrets} {req : Request} {s : Server} {user : User}

/-- The page of a member. -/
def memberPage (p : Platform) (req : Request) (user : User) (activities : Table ActivityColumn) :
    Response :=
  .render 200 "memberIndex" [("user", user.toJSON),
    ("activities", .arr ((listed user.id activities).map Row.toJSON)),
    ("agent", p.query req.url "agent")]

theorem getMemberIndex_page {c : Ctx} (works : ∀ table op, req.fault table op = none)
    (identified : c.session.userId = .str user.id) (filled : user.id ≠ "")
    (member : user ∈ c.server.users.rows) :
    Ensures (getMemberIndex p req) c
      (fun _ t => t.responses = c.responses ++ [memberPage p req user c.server.activities])
      (fun _ _ => False) := by
  have truthy : (Value.str user.id).truthy = true := Value.truthy_str.mpr filled
  unfold getMemberIndex memberId
  simp only [ensures_attempt, ensures_bind, ensures_get, ensures_ite, ensures_pure, identified, truthy,
    Bool.not_true, Bool.false_eq_true, true_implies, false_implies, not_false_eq_true, not_true_eq_false,
    true_and, and_true]
  unfold showMember
  rw [ensures_bind]
  obtain ⟨found, looked, missing⟩ := findByPk_str p.toOrm user.id c.server.users.rows
  refine (findUser_spec p req (.str user.id) c).mono ?_ ?_
  · rintro found' t ⟨rfl, _, looked'⟩
    cases Option.some.inj (looked.symm.trans looked')
    split
    · exact absurd rfl (missing rfl user member)
    · rename_i other
      obtain ⟨member', key⟩ := findByPk_some p.toOrm looked
      cases Table.eq_of_id member' member (Value.str.inj key).symm
      simp only [ensures_bind, ensures_setSession, ensures_whereColumn, ensures_db, ensures_get,
        ensures_render, p.whereEq_text, Option.some.injEq, forall_eq']
      refine ⟨⟨fun _ fault => ?_, fun _ => rfl⟩, fun never => by cases never⟩
      cases (works _ _).symm.trans fault
  · rintro _ t ⟨rfl, failed⟩
    cases looked.symm.trans (failed (works _ _))

/-- A request that gets to the member page is shown the page of its session's user. -/
theorem served_memberPage (ran : (served p secrets req s).ran = some .getMemberIndex)
    (works : ∀ table op, req.fault table op = none)
    (identified : (Ctx.entry p req s).session.userId = .str user.id) (filled : user.id ≠ "")
    (member : user ∈ s.users.rows) :
    (served p secrets req s).responses = [memberPage p req user s.activities] := by
  obtain ⟨params, handled⟩ := handled_of_ran ran
  refine served_answer ran handled.routed fun t enters => ?_
  have server : t.server = s := Ctx.server_of_core enters.core
  have session : t.session.userId = .str user.id :=
    (Session.userId_of_core (Ctx.session_of_core enters.core)).trans identified
  rw [← server] at member ⊢
  exact getMemberIndex_page (c := { t with ran := some .getMemberIndex }) works session filled member

theorem getDashboard_fails (req : Request) (c : Ctx) :
    Ensures (getDashboard req) c
      (fun _ t => t.responses = c.responses ++ [.send 500 (.str "An error occurred while fetching data.")])
      (fun _ _ => False) := by
  unfold getDashboard
  simp only [ensures_attempt, ensures_bind, ensures_db, ensures_undeclared]
  exact ⟨fun _ _ => rfl, fun _ => ⟨fun _ _ => rfl, fun _ => rfl⟩⟩

/-- The page of the admins. -/
def adminPage (p : Platform) (req : Request) (s : Server) : Response :=
  .render 200 "admin/dashboard" [("users", .arr (s.users.rows.map Row.toJSON)),
    ("activities", .arr (s.activities.rows.map Row.toJSON)), ("agent", p.query req.url "agent")]

theorem getAdminDashboard_page {c : Ctx} (works : ∀ table op, req.fault table op = none) :
    Ensures (getAdminDashboard p req) c
      (fun _ t => t.responses = c.responses ++ [adminPage p req c.server]) (fun _ _ => False) := by
  unfold getAdminDashboard
  simp only [ensures_attempt, ensures_bind, ensures_db, ensures_get, ensures_render]
  have answered {table : TableName} {op : DbOp} {e : String} (fault : req.fault table op = some e) :
      False := by
    cases (works table op).symm.trans fault
  exact ⟨fun _ fault => (answered fault).elim,
    fun _ => ⟨fun _ fault => (answered fault).elim, fun _ => rfl⟩⟩

end Pages

section Landing

variable {p : Platform} {secrets : Secrets} {s : Server} {user : User} {role : String}
  {login next : Request}

/-- What the token of a login is written from can be represented and has no percent sign. -/
structure PlainLogin (p : Platform) (login : Request) (user : User) : Prop where
  id : '%' ∉ user.id.toList
  ip : '%' ∉ login.ip.toList
  userAgent : login.userAgent = .undefined ∨
    ∃ text, login.userAgent = .str text ∧ '%' ∉ text.toList
  now : Json.Representable (.obj p.now) ∧ Json.PercentFree (.obj p.now)

/-- A text that an agent was written to is read back as the agent. -/
theorem presented_fields {agent : Agent} (written : agent.Written)
    (free : Json.PercentFree (.obj agent.fields))
    (carried : p.query next.url "agent" = .str (Json.stringify (.obj agent.fields))) :
    presented p next = some agent := by
  have filled : Json.stringify (.obj agent.fields) ≠ "" := by
    have starts := Json.stringify_obj agent.fields []
    rw [List.append_nil] at starts
    intro empty
    rw [empty] at starts
    cases starts
  exact (presented_text_iff p carried filled).mpr ((written.decode_iff p).mpr free)

/-- The token that a login hands out is read back as the user with the role. -/
theorem brings_token (plain : PlainLogin p login user) (plainRole : '%' ∉ role.toList)
    (carried : p.query next.url "agent" = .str (transmitted (getAgentData
      (agentDataOf (.str user.id) login) (.bool true) (.str role) (.obj p.now)))) :
    Brings p next user.id role := by
  have decoded : transmitted (getAgentData (agentDataOf (.str user.id) login) (.bool true)
      (.str role) (.obj p.now)) = Json.stringify (Agent.toJSON ⟨agentDataOf (.str user.id) login,
        .bool true, .str role, .obj p.now⟩) := by
    rw [transmitted, getAgentData, decodeURIComponent_encode]
    rfl
  rw [decoded] at carried
  rcases plain.userAgent with absent | ⟨text, isText, plainText⟩
  · -- a missing header is left out of the text
    let agent : Agent := ⟨.obj [("userId", .str user.id), ("ipAddress", .str login.ip)], .bool true,
      .str role, .obj p.now⟩
    have written : agent.Written :=
      ⟨⟨⟨trivial, trivial, trivial⟩, show ["userId", "ipAddress"].Nodup by decide, trivial, trivial,
        trivial⟩, ⟨trivial, trivial⟩, ⟨trivial, trivial⟩, plain.now.1⟩
    have keys : '%' ∉ "data".toList ∧ '%' ∉ "isAuthenticated".toList ∧ '%' ∉ "role".toList ∧
        '%' ∉ "lastActivity".toList ∧ '%' ∉ "userId".toList ∧ '%' ∉ "ipAddress".toList := by decide
    obtain ⟨data, isAuthenticated, isRole, lastActivity, userId, ipAddress⟩ := keys
    have free : Json.PercentFree (.obj agent.fields) :=
      ⟨data, ⟨userId, plain.id, ipAddress, plain.ip, trivial⟩, isAuthenticated, trivial, isRole,
        plainRole, lastActivity, plain.now.2, trivial⟩
    rw [agentDataOf, absent] at carried
    exact ⟨agent, presented_fields written free carried, rfl, rfl, rfl, rfl⟩
  · have written : (clientAgent user.id login.ip text true (some role) (.obj p.now)).Written :=
      clientAgent_written plain.now.1
    have free : Json.PercentFree
        (.obj (clientAgent user.id login.ip text true (some role) (.obj p.now)).fields) :=
      clientAgent_free.mpr ⟨plain.id, plain.ip, plainText,
        fun r isRole => Option.some.inj isRole ▸ plainRole, plain.now.2⟩
    rw [agentDataOf, isText] at carried
    have text := congrArg (fun json => Value.str (Json.stringify json)) written.toJSON_eq
    exact ⟨_, presented_fields written free (carried.trans text), rfl, rfl, rfl, rfl⟩

/-- The client follows the redirect of a login: it asks for the page of the role in the session of
the login, with the token of the redirect. -/
structure FollowsLogin (p : Platform) (login : Request) (user : User) (role : String)
    (next : Request) : Prop where
  sid : next.sid = login.sid
  method : next.method = "GET"
  path : p.pathname next.url = rolePage role
  carried : p.query next.url "agent" = .str (transmitted (getAgentData
    (agentDataOf (.str user.id) login) (.bool true) (.str role) (.obj p.now)))
  works : ∀ table op, next.fault table op = none

/-- Where a login of the role ends. The page of the workers reads a name that is not declared. -/
def landing (p : Platform) (next : Request) (user : User) (s : Server) (role : String) : Response :=
  if role = "admin" then adminPage p next s
  else if role = "worker" then .send 500 (.str "An error occurred while fetching data.")
  else memberPage p next user s.activities

def landingHandler (role : String) : Handler :=
  if role = "admin" then .getAdminDashboard
  else if role = "worker" then .getDashboard
  else .getMemberIndex

/-- The page of a role is behind gates that list the role. -/
theorem rolePage_routed (listed : role ∈ ["admin", "worker", "member"]) (method : next.method = "GET")
    (path : p.pathname next.url = rolePage role) :
    Routed p next (landingHandler role) [] ∧
      ∀ roles ∈ (landingHandler role).router.gates, role ∈ roles := by
  have found : ∀ role ∈ ["admin", "worker", "member"],
      dispatch "GET" (rolePage role) (landingHandler role).router.routes =
        .found (landingHandler role) [] ∧
      (∀ r ∈ (landingHandler role).router.before,
        dispatch "GET" (rolePage role) r.routes = .missed) ∧
      ∀ roles ∈ (landingHandler role).router.gates, role ∈ roles := by decide
  obtain ⟨addressed, missed, gates⟩ := found role listed
  refine ⟨⟨?_, ?_⟩, gates⟩
  · rw [Addressed, method, path]
    exact addressed
  · rw [method, path]
    exact missed

/-- A login that ended in success is followed by the member's own page, the admin's dashboard, or,
for a worker, an error. -/
theorem login_lands (logsIn : LogsIn p secrets ⟨login, s⟩ user role) (filled : user.id ≠ "")
    (plain : PlainLogin p login user) (follows : FollowsLogin p login user role next) :
    (served p secrets next (serve p secrets login s)).responses =
      [landing p next user (serve p secrets login s) role] := by
  have listed : role ∈ ["admin", "worker", "member"] := tokenRole_listed logsIn.2.2.1
  have plainRole : ∀ role ∈ ["admin", "worker", "member"], '%' ∉ role.toList := by decide
  obtain ⟨routed, gates⟩ := rolePage_routed listed follows.method follows.path
  obtain ⟨agent, found, data, authentic, isRole, read⟩ :=
    brings_token plain (plainRole role listed) follows.carried
  have identified : (Ctx.entry p next (serve p secrets login s)).session.userId = .str user.id := by
    obtain ⟨session, stored, id⟩ := logsIn.session
    rw [Ctx.entry, follows.sid, stored]
    simp only [Option.getD_some, tracked, found, id, Value.truthy_str.mpr filled, if_true]
  have allowed : user.id ∈ (serve p secrets login s).allowedID := by
    rw [logsIn.allowedID]
    exact List.mem_append_right _ List.mem_cons_self
  have ran : (served p secrets next (serve p secrets login s)).ran = some (landingHandler role) := by
    refine ran_of_cleared secrets routed found read (fun roles gate => ⟨agent, user.id, role, found,
      data, authentic, gates roles gate, isRole, read, allowed⟩) ?_
    rw [Readable, identified, Value.orElse_of_truthy (Value.truthy_str.mpr filled)]
    rfl
  have member : user ∈ (serve p secrets login s).users.rows := by
    rw [logsIn.users]
    exact Matches.mem p logsIn.2.1
  generalize serve p secrets login s = s' at ran identified member ⊢
  simp only [List.mem_cons, List.not_mem_nil, or_false] at listed
  rcases listed with rfl | rfl | rfl
  · refine served_answer ran routed.addressed fun t enters => ?_
    have server : t.server = s' := Ctx.server_of_core enters.core
    rw [← server]
    exact getAdminDashboard_page (c := { t with ran := some .getAdminDashboard }) follows.works
  · exact served_answer ran routed.addressed fun t _ =>
      getDashboard_fails next { t with ran := some .getDashboard }
  · exact served_memberPage ran follows.works identified filled member

end Landing

section MemberLanding

open Reference

/-- The request that the browser makes when it follows the redirect of the member's login. -/
def landingVisit : Request :=
  request "s1" "GET" ("/memberIndex" ++ "?agent=" ++ getAgentData
    (agentDataOf (.str adaId) (loginWith "")) (.bool true) (.str "member") (.obj platform.now))

theorem landingVisit_follows {user : User} (id : user.id = adaId) :
    FollowsLogin platform (loginWith "") user "member" landingVisit where
  sid := rfl
  method := rfl
  path := pathname_query (by decide) (agent_url "/memberIndex" _)
  carried := by
    have plain : '?' ∉ "/memberIndex".toList := by decide
    rw [show platform.query = query from rfl, show landingVisit.url = "/memberIndex" ++ "?agent=" ++ _ from rfl,
      id, transmitted, getAgentData, decodeURIComponent_encode, Option.getD_some, query_encoded plain]
  works _ _ := rfl

/-- The member is shown her page after the login. -/
theorem member_lands : ∃ user : User, user.id = adaId ∧
    (served platform keys landingVisit (loggedIn "")).responses =
      [memberPage platform landingVisit user (loggedIn "").activities] := by
  obtain ⟨user, logsIn, id⟩ := member_logsIn
  have plainId : '%' ∉ adaId.toList := by decide
  have plain : PlainLogin platform (loginWith "") user := by
    refine ⟨by rwa [id], by decide, .inl rfl, ?_, ?_⟩
    · exact ⟨⟨trivial, trivial, trivial⟩, show ["options", "_length"].Nodup by decide,
        ⟨List.nodup_nil, trivial⟩, trivial, trivial⟩
    · exact ⟨by decide, trivial, by decide, List.not_mem_nil, trivial⟩
  exact ⟨user, id, login_lands logsIn (by rw [id]; decide) plain (landingVisit_follows id)⟩

end MemberLanding

section Activities

variable {p : Platform} {secrets : Secrets} {req : Request} {s : Server}
  {params : List (String × String)}

/-- The handler has added the row. -/
def AddsRow (p : Platform) (req : Request) (params : List (String × String)) (c t : Ctx)
    (row : Activity) : Prop :=
  ∃ found, Performs p req params c found ∧ Makes p req params found row ∧
    c.server.activities.insert row = some t.server.activities

theorem Performs.of_core {c c' : Ctx} {found : Value × User} (same : c'.core = c.core)
    (performs : Performs p req params c' found) : Performs p req params c found := by
  obtain ⟨owner, looked, response⟩ := performs
  have session := Ctx.session_of_core same
  have userId := Session.userId_of_core session
  have isWorker : c'.session.isWorker = c.session.isWorker := (congrArg Session.isWorker session :)
  rw [userId, isWorker] at owner
  rw [userId, Ctx.server_of_core same] at looked
  exact ⟨owner, looked, response⟩

/-- Nothing but the addition of a row is acknowledged. -/
theorem postCreateActivity_acknowledges (c : Ctx) :
    Ensures (postCreateActivity p req params) c
      (fun _ t => t.Acknowledged → c.Acknowledged ∨ ∃ row, AddsRow p req params c t row)
      (fun _ t => t.Acknowledged → c.Acknowledged) := by
  rw [postCreateActivity_steps, ensures_attempt, ensures_bind]
  refine (activityFind_spec p req params c).mono ?_ (fun _ _ same => same.2)
  rintro found t ⟨same, performs⟩
  cases found with
  | none => exact fun told => .inl (same.2 told)
  | some found =>
    rw [← ensures_attempt]
    refine (activityCreate_spec p req params found t).mono ?_
      (fun _ _ uncommitted told => same.2 (uncommitted.2 told))
    rintro _ t' ⟨_, row, activities, makes, inserted, left⟩ _
    have added : t'.server.activities = activities :=
      congrArg Server.activities (Ctx.server_of_core left)
    rw [Ctx.server_of_core same.1] at inserted
    exact .inr ⟨row, found, performs found rfl, makes, added ▸ inserted⟩

/-- A request that was told that its activity is recorded has added a row. -/
theorem served_acknowledged (ran : (served p secrets req s).ran = some .postCreateActivity)
    (addressed : Addressed p req .postCreateActivity params)
    (told : (served p secrets req s).Acknowledged) :
    ∃ row, AddsRow p req params (Ctx.entry p req s) (served p secrets req s) row := by
  refine served_through (P := fun t => t.Acknowledged →
    ∃ row, AddsRow p req params (Ctx.entry p req s) t row) ran addressed (fun t enters => ?_) told
  have silent : ¬ ({ t with ran := some .postCreateActivity } : Ctx).Acknowledged := by
    change created ∉ t.responses
    rw [enters.unanswered]
    exact List.not_mem_nil
  refine (postCreateActivity_acknowledges { t with ran := some .postCreateActivity }).mono ?_ ?_
  · intro _ t' added told
    obtain ⟨row, found, performs, makes, inserted⟩ := (added told).resolve_left silent
    have server : t.server = s := Ctx.server_of_core enters.core
    exact ⟨row, found, Performs.of_core enters.core performs, makes, server ▸ inserted⟩
  · intro _ t' unadded told
    exact absurd (unadded (acknowledged_other (r := .redirect 302 req.url) nofun _ told)) silent

/-- An activity that was acknowledged has been recorded as the request says, and from then on it
stays in the table until a logout removes it, and as long as it stays it is shown to its user on
the member page. -/
theorem acknowledged_activity_shown {start : Server} {later earlier : Log} {e : Event Request Server}
    (reach : Runs p secrets start (later ++ e :: earlier) s)
    (ran : (after p secrets e).ran = some .postCreateActivity)
    (told : (after p secrets e).Acknowledged) :
    ∃ params row found, Addressed p e.input .postCreateActivity params ∧
      Performs p e.input params (Ctx.entry p e.input e.before) found ∧
      Makes p e.input params found row ∧
      ((∃ e' ∈ later, (after p secrets e').ran = some .getLogout ∧ ∃ record, record.id = row.id ∧
        LogsOut p e'.input (Ctx.entry p e'.input e'.before) record) ∨
      row ∈ s.activities.rows ∧ ∀ req user, (served p secrets req s).ran = some .getMemberIndex →
        (∀ table op, req.fault table op = none) → user ∈ s.users.rows → user.id ≠ "" →
        (Ctx.entry p req s).session.userId = .str user.id → row.get .USERID = .str user.id →
        ∃ shown, (served p secrets req s).responses = [.render 200 "memberIndex"
          [("user", user.toJSON), ("activities", .arr shown), ("agent", p.query req.url "agent")]] ∧
          row.toJSON ∈ shown) := by
  obtain ⟨params, handled⟩ := handled_of_ran ran
  obtain ⟨row, found, performs, makes, inserted⟩ := served_acknowledged ran handled.routed told
  refine ⟨params, row, found, handled.routed, performs, makes, ?_⟩
  have added : row ∈ (serve p secrets e.input e.before).activities.rows := by
    rw [serve_activities, Table.insert_rows inserted]
    exact List.mem_append_right _ List.mem_cons_self
  obtain ⟨deeds, explains, trace⟩ := serve_refines.trace reach.since
  rcases note_fate trace (Table.lookup_of_mem added) with stands | struck
  · have present := (Table.mem_of_lookup stands).1
    refine .inr ⟨present, fun req user ran works member filled identified owner => ?_⟩
    refine ⟨_, served_memberPage ran works identified filled member, List.mem_map_of_mem ?_⟩
    rw [listed, orderDesc, List.mem_insertionSort, List.mem_filter]
    exact ⟨present, decide_eq_true owner⟩
  · obtain ⟨e', inLater, ran', record, same, logsOut⟩ := explains.mem struck
    exact .inl ⟨e', inLater, ran', record, same, logsOut⟩

end Activities

section MemberNotes

open Reference

/-- A member, already let in, answers that she has prayed. -/
def noting : Request :=
  { request "s1" "POST" ("/create-activity/a/Prayer?location=x&agent=\x7b\"data\":" ++
      "\x7b\"userId\":\"a\"\x7d,\"isAuthenticated\":1,\"role\":\"member\"\x7d") with
    body := .obj [("response", .str "Yes")] }

def present : Server :=
  { start with
    users := ⟨[{ ada with id := "a" }], by simp⟩
    allowedID := ["a"]
    sessions := fun _ => some { userId := .str "a" } }

/-- Then she opens her page. -/
def reading : Request :=
  request "s1" "GET" ("/memberIndex?agent=\x7b\"data\":" ++
    "\x7b\"userId\":\"a\"\x7d,\"isAuthenticated\":1,\"role\":\"member\"\x7d")

/-- The activity that was acknowledged is on the page. -/
theorem noting_shown : ∃ params row found, Makes platform noting params found row ∧
    ∃ user shown, (served platform keys reading (serve platform keys noting present)).responses =
      [.render 200 "memberIndex" [("user", user), ("activities", .arr shown),
        ("agent", platform.query reading.url "agent")]] ∧ row.toJSON ∈ shown := by
  have told : (served platform keys noting present).ran = some .postCreateActivity ∧
      created ∈ (served platform keys noting present).responses := by decide +kernel
  have left : (∃ user ∈ (serve platform keys noting present).users.rows, user.id = "a") ∧
      (∀ row ∈ (serve platform keys noting present).activities.rows, row.get .USERID = .str "a") ∧
      (served platform keys reading (serve platform keys noting present)).ran = some .getMemberIndex ∧
      (Ctx.entry platform reading (serve platform keys noting present)).session.userId = .str "a" := by
    decide +kernel
  have reach : Runs platform keys present ([] ++ ⟨noting, present⟩ :: [])
      (serve platform keys noting present) := .next _ .start
  obtain ⟨⟨user, member, id⟩, owner, opens, identified⟩ := left
  obtain ⟨params, row, found, _, _, makes, struck | ⟨stands, shows⟩⟩ :=
    acknowledged_activity_shown reach told.1 told.2
  · obtain ⟨_, never, _⟩ := struck
    cases never
  · rw [← id] at identified owner
    obtain ⟨shown, page, member⟩ := shows reading user opens (fun _ _ => rfl) member
      (by rw [id]; decide) identified (owner row stands)
    exact ⟨params, row, found, makes, _, shown, page, member⟩

end MemberNotes

end ChurchManagement
