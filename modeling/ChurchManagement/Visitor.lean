import ChurchManagement.Reference

namespace ChurchManagement

open Js Effect Express Sequelize

variable {p : Platform} {secrets : Secrets}

/-- The pages open to everybody, with their handlers. -/
def publicPages : List (String × Handler) :=
  [("/", .getIndex), ("/login", .getLogin), ("/register", .getRegister)]

/-- A `GET` for a public page reaches the handler of that page and no other. -/
theorem publicPages_target : ∀ page ∈ publicPages,
    ∀ r ∈ [Router.index, .login, .register, .member, .dashboard, .admin],
    (dispatch "GET" page.1 r.routes).target ∈ [none, some page.2] := by
  decide

theorem Addressed.page {req : Request} {handler : Handler} {params : List (String × String)}
    (addressed : Addressed p req handler params) (open' : redirector req.url req.method = true) :
    req.method = "GET" ∧ (req.url, handler) ∈ publicPages := by
  obtain ⟨url, get⟩ : (req.url = "/" ∨ req.url = "/login" ∨ req.url = "/register") ∧
    req.method = "GET" := of_decide_eq_true open'
  obtain ⟨page, listed, same⟩ : ∃ page ∈ publicPages, page.1 = req.url := by
    rcases url with url | url | url <;> simp [publicPages, url]
  have plain : p.pathname req.url = req.url := by
    refine p.pathname_plain _ ?_
    rcases url with url | url | url <;> rw [url] <;> decide
  have target := publicPages_target page listed handler.router (by cases handler <;> decide)
  rw [Addressed, get, plain, ← same] at addressed
  rw [addressed] at target
  simp only [Dispatch.target, List.mem_cons, reduceCtorEq, Option.some.injEq, List.not_mem_nil,
    or_false, false_or] at target
  exact ⟨get, by rw [target, ← same]; exact listed⟩

/-- The pages open to everybody change nothing. -/
theorem Done.page {req : Request} {params : List (String × String)} {c t : Ctx} {url : String}
    {handler : Handler} (done : Done p secrets req params c t handler)
    (page : (url, handler) ∈ publicPages) : t.core = c.core := by
  simp only [publicPages, List.mem_cons, Prod.mk.injEq, List.not_mem_nil, or_false] at page
  rcases page with ⟨_, rfl⟩ | ⟨_, rfl⟩ | ⟨_, rfl⟩ <;> exact done

/-- A request without a decodable agent leaves the core as tracking does, and is answered by a
public page if by any handler. -/
theorem visitor_core (secrets : Secrets) {req : Request} (s : Server)
    (nobody : presented p req = none) :
    ∃ ran, (served p secrets req s).core = ({ Ctx.entry p req s with ran := ran } : Ctx).core ∧
      (ran = none ∨ req.method = "GET" ∧ ∃ handler, (req.url, handler) ∈ publicPages ∧
        ran = some handler) := by
  rcases served_spec p secrets req s with idle | ⟨handler, params, handled⟩
  · exact ⟨none, idle, .inl rfl⟩
  · have open' := handled.opened.resolve_left (by simp [nobody])
    obtain ⟨get, page⟩ := handled.routed.page open'
    exact ⟨some handler, handled.done.page page, .inr ⟨get, handler, page, rfl⟩⟩

/-- A request without a decodable agent is answered by a public page or by no handler, writes no
table, keeps the identifier of its session or draws one, and takes its role. -/
theorem visitor_served (secrets : Secrets) (req : Request) (s : Server)
    (nobody : presented p req = none) :
    ((served p secrets req s).ran = none ∨ req.method = "GET" ∧
      ∃ handler, (req.url, handler) ∈ publicPages ∧ (served p secrets req s).ran = some handler) ∧
    (serve p secrets req s).users = s.users ∧ (serve p secrets req s).activities = s.activities ∧
    (serve p secrets req s).userAgents = s.userAgents ∧
    (serve p secrets req s).subscriptions = s.subscriptions ∧
    ∃ session, (serve p secrets req s).sessions req.sid = some session ∧ session.role = .null ∧
      session.userId = ((s.sessions req.sid).getD {}).userId.orElse (.str req.v4) := by
  obtain ⟨ran, same, answered⟩ := visitor_core secrets s nobody
  have server : (served p secrets req s).server = s := Ctx.server_of_core same
  have isRan : (served p secrets req s).ran = ran := Ctx.ran_of_core same
  have alive : (served p secrets req s).destroyed = false := (congrArg Ctx.destroyed same :)
  have session : (served p secrets req s).session.core =
      (tracked p req ((s.sessions req.sid).getD {})).core := Ctx.session_of_core same
  simp only [isRan, serve_users, serve_activities, serve_userAgents, serve_subscriptions, server,
    true_and]
  refine ⟨answered, (served p secrets req s).session, ?_, ?_, ?_⟩
  · exact serve_stored p secrets alive
  · have role : (served p secrets req s).session.role = _ := (congrArg Session.role session :)
    rw [role]
    simp [tracked, nobody, Session.core]
  · rw [Session.userId_of_core session]
    simp [tracked, nobody]

open Reference in
/-- A first visit of the front page. -/
theorem front_page_visited :
    (served platform keys (request "s1" "GET" "/") start).ran = some .getIndex ∧
    (serve platform keys (request "s1" "GET" "/") start).users = start.users ∧
    ∃ session, (serve platform keys (request "s1" "GET" "/") start).sessions "s1" = some session ∧
      session.role = .null ∧ session.userId = .str "0d8a1c7e-4b1f-4f0e-8c66-3a5b9e2d7c40" := by
  have nobody : presented platform (request "s1" "GET" "/") = none :=
    presented_bare platform (by decide)
  have visited := visitor_served keys (request "s1" "GET" "/") start nobody
  exact ⟨by decide +kernel, visited.2.1, visited.2.2.2.2.2⟩

end ChurchManagement
