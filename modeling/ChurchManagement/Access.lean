import ChurchManagement.Reference

namespace ChurchManagement

open Js Effect Express Sequelize History

section Paths

variable {p : Platform} {req : Request} {handler : Handler} {params : List (String × String)}

theorem Addressed.route (addressed : Addressed p req handler params) :
    ∃ route ∈ handler.router.routes, (matchPath route.path (p.pathname req.url)).isSome = true := by
  obtain ⟨route, member, _, _, fits⟩ := dispatch_found addressed
  exact ⟨route, member, fits⟩

/-- A public page is none of the protected routes. -/
theorem Addressed.not_page (addressed : Addressed p req handler params)
    (guarded : handler.router = .member ∨ handler.router = .dashboard ∨ handler.router = .admin) :
    req.url ∉ ["/", "/login", "/register"] := by
  intro page
  obtain ⟨route, member, fits⟩ := addressed.route
  have plain : p.pathname req.url = req.url := by
    refine p.pathname_plain _ ?_
    simp only [List.mem_cons, List.not_mem_nil, or_false] at page
    rcases page with url | url | url <;> rw [url] <;> decide
  have missed : ∀ url ∈ ["/", "/login", "/register"], ∀ r ∈ [Router.member, .dashboard, .admin],
      ∀ route ∈ r.routes, matchPath route.path url = none := by decide
  rw [plain, missed _ page _ (by simpa using guarded) route member] at fits
  cases fits

/-- The routes for workers and admins are not on the skip list. -/
theorem Addressed.not_skipped (addressed : Addressed p req handler params)
    (guarded : handler.router = .dashboard ∨ handler.router = .admin) (session : Session) :
    ¬ Skips req session := by
  obtain ⟨route, member, fits⟩ := addressed.route
  rintro (listed | ⟨text, _, url⟩)
  · have plain : p.pathname req.url = req.url := by
      refine p.pathname_plain _ ?_
      simp only [List.mem_cons, List.not_mem_nil, or_false] at listed
      rcases listed with url | url | url | url <;> rw [url] <;> decide
    have missed : ∀ url ∈ ["/", "/login", "/register", "/memberIndex"],
        ∀ r ∈ [Router.dashboard, .admin], ∀ route ∈ r.routes,
        matchPath route.path url = none := by decide
    rw [plain, missed _ listed _ (by simpa using guarded) route member] at fits
    cases fits
  · have others : ∀ r ∈ [Router.dashboard, .admin], ∀ route ∈ r.routes, ∃ text ∈
        ["activities", "dashboard", "upload-excel", "member-statistics", "events",
          "search-members", "advanced-search-members", "unit", "admin"],
        route.path.head? = some (.lit text) := by decide
    obtain ⟨first, listed, head⟩ := others _ (by simpa using guarded) route member
    obtain ⟨pattern, path⟩ := List.head?_eq_some_iff.mp head
    obtain ⟨raw, fit⟩ := Option.isSome_iff_exists.mp fits
    rw [path] at fit
    obtain ⟨rest, start⟩ := p.pathname_start "/update-user/" text (by decide) (by decide) (by decide)
      (by decide)
    rw [← url] at start
    have parts : "/update-user/".toList ++ rest = '/' :: "update-user".toList ++ '/' :: rest := rfl
    have same := matchPath_lit fit (start.symm.trans parts) (by decide)
    have different : ∀ first ∈ ["activities", "dashboard", "upload-excel", "member-statistics",
        "events", "search-members", "advanced-search-members", "unit", "admin"],
        sameText "update-user".toList first.toList = false := by decide
    rw [different first listed] at same
    cases same

end Paths

section Runs

variable {p : Platform} {secrets : Secrets}

/-- The handlers for workers and admins run only for a cleared agent. -/
theorem cleared_of_ran {req : Request} {s : Server} {handler : Handler}
    (ran : (served p secrets req s).ran = some handler)
    (guarded : handler.router = .dashboard ∨ handler.router = .admin) :
    ∀ roles ∈ handler.router.gates, Cleared p roles req s := by
  obtain ⟨params, handled⟩ := handled_of_ran ran
  intro roles gate
  rcases handled.gated roles gate with skips | cleared
  · exact absurd skips (handled.routed.not_skipped guarded _)
  · exact cleared

/-- The request presents an agent on the update URL of its own session, which the skip list lets
through. -/
def SkipsGate (p : Platform) (e : Event Request Server) : Prop :=
  (presented p e.input).isSome = true ∧
    OwnUpdate e.input (Ctx.entry p e.input e.before).session

/-- Without that skip, every protected handler runs only for a cleared agent. -/
theorem cleared_unless_skipped {req : Request} {s : Server} {handler : Handler}
    (ran : (served p secrets req s).ran = some handler)
    (guarded : handler.router = .member ∨ handler.router = .dashboard ∨ handler.router = .admin)
    (gated : ¬ SkipsGate p ⟨req, s⟩) : ∀ roles ∈ handler.router.gates, Cleared p roles req s := by
  obtain ⟨params, handled⟩ := handled_of_ran ran
  have present : (presented p req).isSome = true := by
    refine handled.opened.resolve_right fun page => handled.routed.not_page guarded ?_
    simpa using (of_decide_eq_true page).1
  intro roles gate
  rcases handled.gated roles gate with (listed | own) | cleared
  · have bare : '?' ∉ req.url.toList := by
      simp only [List.mem_cons, List.not_mem_nil, or_false] at listed
      rcases listed with url | url | url | url <;> rw [url] <;> decide
    rw [presented_bare p bare] at present
    cases present
  · exact absurd ⟨present, own⟩ gated
  · exact cleared

/-- Whenever a handler for workers or admins runs, its request carries an agent with data that
claims to be authenticated in a fitting role and names an allowed user, and every allowed user
has logged in before and is in the table. -/
theorem protected_handlers_cleared {start s : Server} {log : Log} (started : start.Started)
    (reach : Runs p secrets start log s) :
    Always (fun earlier e =>
      (∀ handler, (after p secrets e).ran = some handler →
        (handler.router = .dashboard → Cleared p ["worker", "admin"] e.input e.before) ∧
        (handler.router = .admin → Cleared p ["admin"] e.input e.before)) ∧
      ∀ id ∈ e.before.allowedID, (∃ user ∈ e.before.users.rows, user.id = id) ∧
        ∃ login ∈ earlier, ∃ user role, LogsIn p secrets login user role ∧ user.id = id) log := by
  refine reach.always (fun log s req reach _ _ => ⟨fun handler ran => ⟨fun dashboard => ?_,
    fun admin => ?_⟩, fun id allowed => ?_⟩) (always_trivial log)
  · exact cleared_of_ran ran (.inl dashboard) _ (by simp [dashboard, Router.gates])
  · exact cleared_of_ran ran (.inr admin) _ (by simp [admin, Router.gates])
  · obtain ⟨login, earlier, user, role, logsIn, rfl⟩ := Runs.allowedID started reach id allowed
    exact ⟨Runs.keeps_user reach earlier (Matches.mem p logsIn.2.1), login, earlier, user, role,
      logsIn, rfl⟩

open Reference in
theorem adminDashboard_leads : Leads "GET" "/admin/dashboard" .getAdminDashboard [] := by
  decide +kernel

open Reference in
/-- An admin who has logged in opens the page for admins. -/
theorem admin_dashboard_cleared :
    (served platform keys (visit "s1" "GET" "/admin/dashboard" "admin")
      (loggedIn "admin-key")).ran = some .getAdminDashboard ∧
    Cleared platform ["admin"] (visit "s1" "GET" "/admin/dashboard" "admin")
      (loggedIn "admin-key") := by
  have ran : (served platform keys (visit "s1" "GET" "/admin/dashboard" "admin")
      (loggedIn "admin-key")).ran = some .getAdminDashboard :=
    ran_visit_loggedIn (by decide) adminDashboard_leads (by decide) (by decide)
  have known := protected_handlers_cleared start_started
    (.next (visit "s1" "GET" "/admin/dashboard" "admin") (login_run "admin-key"))
  exact ⟨ran, (known.1.1 _ ran).2 rfl⟩

/-- A login before has handed the role to the user. -/
def Issued (p : Platform) (secrets : Secrets) (log : Log) (id role : String) : Prop :=
  ∃ login ∈ log, ∃ user, LogsIn p secrets login user role ∧ user.id = id

/-- The user has logged in before with one of the tokens. -/
def LoggedInWith (p : Platform) (secrets : Secrets) (log : Log) (id : String)
    (tokens : List String) : Prop :=
  ∃ login ∈ log, ∃ user role token, LogsIn p secrets login user role ∧ user.id = id ∧
    token ∈ tokens ∧ loginToken p login.input = .str token

/-- The agent of a request claims no role for an allowed user above those that logins have handed
to the user: it is not forged. -/
def Genuine (p : Platform) (secrets : Secrets) (earlier : Log) (e : Event Request Server) : Prop :=
  ∀ agent id, presented p e.input = some agent → agent.data.prop "userId" = .ok (.str id) →
    id ∈ e.before.allowedID →
    (agent.role = .str "admin" → Issued p secrets earlier id "admin") ∧
    (agent.role = .str "worker" →
      Issued p secrets earlier id "worker" ∨ Issued p secrets earlier id "admin")

/-- The user of a request that reaches a handler for admins has logged in with the token for
admins, and one that reaches a handler for workers with that token or the one for workers. -/
def Unescalated (p : Platform) (secrets : Secrets) (earlier : Log) (e : Event Request Server) :
    Prop :=
  ∀ handler, (after p secrets e).ran = some handler →
    (handler.router = .admin → ∃ agent id, presented p e.input = some agent ∧
      agent.data.prop "userId" = .ok (.str id) ∧
      LoggedInWith p secrets earlier id [secrets.ADMIN_AUTH_TOKEN]) ∧
    (handler.router = .dashboard → ∃ agent id, presented p e.input = some agent ∧
      agent.data.prop "userId" = .ok (.str id) ∧
      LoggedInWith p secrets earlier id [secrets.WORKER_AUTH_TOKEN, secrets.ADMIN_AUTH_TOKEN])

theorem Issued.admin {log : Log} {id : String} {tokens : List String}
    (issued : Issued p secrets log id "admin") (listed : secrets.ADMIN_AUTH_TOKEN ∈ tokens) :
    LoggedInWith p secrets log id tokens := by
  obtain ⟨login, member, user, logsIn, same⟩ := issued
  exact ⟨login, member, user, "admin", _, logsIn, same, listed,
    (tokenRole_admin logsIn.2.2.1).1⟩

theorem Issued.worker {log : Log} {id : String} {tokens : List String}
    (issued : Issued p secrets log id "worker") (listed : secrets.WORKER_AUTH_TOKEN ∈ tokens) :
    LoggedInWith p secrets log id tokens := by
  obtain ⟨login, member, user, logsIn, same⟩ := issued
  exact ⟨login, member, user, "worker", _, logsIn, same, listed,
    (tokenRole_worker logsIn.2.2.1).1⟩

/-- Without forged agents nobody gains a role. -/
theorem genuine_agents_unescalated {start s : Server} {log : Log}
    (reach : Runs p secrets start log s) (genuine : Always (Genuine p secrets) log) :
    Always (Unescalated p secrets) log := by
  refine reach.always (fun log s req _ _ genuine handler ran => ⟨fun admin => ?_,
    fun dashboard => ?_⟩) genuine
  · obtain ⟨agent, id, role, found, _, _, listed, isRole, read, allowed⟩ :=
      cleared_of_ran ran (.inr admin) ["admin"] (by simp [admin, Router.gates])
    cases List.mem_singleton.mp listed
    exact ⟨agent, id, found, read, ((genuine agent id found read allowed).1 isRole).admin (by simp)⟩
  · obtain ⟨agent, id, role, found, _, _, listed, isRole, read, allowed⟩ :=
      cleared_of_ran ran (.inl dashboard) ["worker", "admin"] (by simp [dashboard, Router.gates])
    have known := genuine agent id found read allowed
    refine ⟨agent, id, found, read, ?_⟩
    simp only [List.mem_cons, List.not_mem_nil, or_false] at listed
    rcases listed with rfl | rfl
    · rcases known.2 isRole with worker | admin
      · exact worker.worker (by simp)
      · exact admin.admin (by simp)
    · exact (known.1 isRole).admin (by simp)

open Reference in
/-- A member who has logged in without a token and presents an agent with another role opens the
page for admins. -/
theorem forged_role_escalates :
    Runs platform keys start
      [⟨visit "s1" "GET" "/admin/dashboard" "admin", loggedIn ""⟩, ⟨loginWith "", start⟩]
      (serve platform keys (visit "s1" "GET" "/admin/dashboard" "admin") (loggedIn "")) ∧
    ¬ Always (Unescalated platform keys)
      [⟨visit "s1" "GET" "/admin/dashboard" "admin", loggedIn ""⟩, ⟨loginWith "", start⟩] := by
  have ran : (served platform keys (visit "s1" "GET" "/admin/dashboard" "admin")
      (loggedIn "")).ran = some .getAdminDashboard :=
    ran_visit_loggedIn (by decide) adminDashboard_leads (by decide) (by decide)
  have noToken : loginToken platform (loginWith "") = .str "" := by decide +kernel
  refine ⟨.next _ (login_run ""), fun unescalated => ?_⟩
  obtain ⟨_, _, _, _, login, member, _, _, token, _, _, listed, given⟩ :=
    (unescalated.1 _ ran).1 rfl
  cases List.mem_singleton.mp member
  cases List.mem_singleton.mp listed
  rw [noToken] at given
  exact absurd given (by decide)

open Reference in
/-- An admin's own agent is genuine. -/
theorem admin_agent_unescalated :
    Unescalated platform keys [⟨loginWith "admin-key", start⟩]
      ⟨visit "s1" "GET" "/admin/dashboard" "admin", loggedIn "admin-key"⟩ := by
  have token : tokenRole keys (loginToken platform (loginWith "admin-key")) = some "admin" := by
    decide +kernel
  have issued : Issued platform keys [⟨loginWith "admin-key", start⟩] adaId "admin" := by
    obtain ⟨user, role, login, same⟩ := login_logsIn "admin-key" (by decide)
    cases Option.some.inj (token.symm.trans login.2.2.1)
    exact ⟨_, List.mem_cons_self, user, login, same⟩
  refine (genuine_agents_unescalated (.next (visit "s1" "GET" "/admin/dashboard" "admin")
    (login_run "admin-key")) ⟨fun agent id _ _ member => ?_, fun _ _ _ _ member => ?_, trivial⟩).1
  · rw [show (loggedIn "admin-key").allowedID = _ from (loggedIn_state "admin-key" (by decide)).1] at member
    cases List.mem_singleton.mp member
    exact ⟨fun _ => issued, fun _ => .inr issued⟩
  · cases member

/-- A member handler runs only for an agent with data that claims to be authenticated and names an
allowed user. -/
def MembersOnly (p : Platform) (secrets : Secrets) (e : Event Request Server) : Prop :=
  ∀ handler, (after p secrets e).ran = some handler → handler.router = .member →
    ∃ agent id, presented p e.input = some agent ∧ agent.data.truthy = true ∧
      agent.isAuthenticated.truthy = true ∧ agent.data.prop "userId" = .ok (.str id) ∧
      id ∈ e.before.allowedID

/-- As long as no request uses the skip, the member handlers run for members only. -/
theorem members_only_without_skips {start s : Server} {log : Log}
    (reach : Runs p secrets start log s) (gated : Always (fun _ e => ¬ SkipsGate p e) log) :
    Always (fun _ e => MembersOnly p secrets e) log := by
  refine reach.always (fun log s req _ _ gated handler ran member => ?_) gated
  obtain ⟨agent, id, _, found, data, authentic, _, _, read, allowed⟩ :=
    cleared_unless_skipped ran (.inl member) gated ["member", "worker", "admin"]
      (by simp [member, Router.gates])
  exact ⟨agent, id, found, data, authentic, read, allowed⟩

section Samples

open Reference

/-- A request that makes the identifier of its session the rest of a URL. -/
def planting : Request :=
  request "s1" "GET" "/?agent=\x7b\"data\":\x7b\"userId\":\"x?agent=[]\"\x7d\x7d"

/-- The URL is the identifier that was planted. -/
def skipping : Request := request "s1" "POST" "/update-user/x?agent=[]"

/-- A visitor reaches the update of a member with an agent that has no data at all. -/
theorem planted_identifier_skips_gate :
    Runs platform keys start
      [⟨skipping, serve platform keys planting start⟩, ⟨planting, start⟩]
      (serve platform keys skipping (serve platform keys planting start)) ∧
    ¬ Always (fun _ e => MembersOnly platform keys e)
      [⟨skipping, serve platform keys planting start⟩, ⟨planting, start⟩] := by
  have ran : (served platform keys skipping (serve platform keys planting start)).ran =
      some .postUpdateUser := by decide +kernel
  have noData : (presented platform skipping).all (fun agent => !agent.data.truthy) = true := by
    decide +kernel
  refine ⟨.next _ (.next _ .start), fun members => ?_⟩
  obtain ⟨agent, _, found, data, _⟩ := members.1 _ ran rfl
  rw [found] at noData
  simp [data] at noData

theorem not_skipsGate {e : Event Request Server}
    (other : e.input.url.toList.take 2 ≠ ['/', 'u']) : ¬ SkipsGate platform e := by
  rintro ⟨_, text, _, url⟩
  rw [url, String.toList_append] at other
  exact other rfl

theorem visit_not_skipsGate {sid method path role : String} {s : Server} {a b : Char}
    {rest : List Char} (start : path.toList = a :: b :: rest) (other : [a, b] ≠ ['/', 'u']) :
    ¬ SkipsGate platform ⟨visit sid method path role, s⟩ := by
  refine not_skipsGate ?_
  simp only [visit, request, String.toList_append, start]
  exact other

theorem memberIndex_leads : Leads "GET" "/memberIndex" .getMemberIndex [] := by decide +kernel

/-- A member who has logged in opens the page for members. -/
theorem member_page_for_member :
    (served platform keys (visit "s1" "GET" "/memberIndex" "member") (loggedIn "")).ran =
      some .getMemberIndex ∧
    MembersOnly platform keys ⟨visit "s1" "GET" "/memberIndex" "member", loggedIn ""⟩ :=
  ⟨ran_visit_loggedIn (by decide) memberIndex_leads (by decide) (by decide), (members_only_without_skips
    (.next (visit "s1" "GET" "/memberIndex" "member") (login_run ""))
    ⟨visit_not_skipsGate rfl (by decide), not_skipsGate (by decide +kernel), trivial⟩).1⟩

end Samples

end Runs

end ChurchManagement
