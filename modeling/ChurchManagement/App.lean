import Mathlib.Logic.Function.Basic
import ChurchManagement.Routes.Index
import ChurchManagement.Routes.Login
import ChurchManagement.Routes.Register
import ChurchManagement.Routes.MemberIndex
import ChurchManagement.Routes.Dashboard
import ChurchManagement.Routes.Admin

namespace ChurchManagement

open Js Effect Express

def indexRoutes : List (Route Handler) :=
  [⟨"GET", [.lit ""], .getIndex⟩, ⟨"POST", [.lit "subscribe"], .postSubscribe⟩,
    ⟨"GET", [.lit "send-notification"], .getSendNotification⟩,
    ⟨"GET", [.lit "access-denied"], .getAccessDenied⟩]

def loginRoutes : List (Route Handler) :=
  [⟨"GET", [.lit "login"], .getLogin⟩, ⟨"POST", [.lit "login"], .postLogin⟩,
    ⟨"GET", [.lit "logout"], .getLogout⟩]

def registerRoutes : List (Route Handler) :=
  [⟨"GET", [.lit "register"], .getRegister⟩, ⟨"POST", [.lit "register"], .postRegister⟩]

def memberRoutes : List (Route Handler) :=
  [⟨"GET", [.lit "memberIndex"], .getMemberIndex⟩,
    ⟨"POST", [.lit "create-activity", .param "userId", .param "activityType"],
      .postCreateActivity⟩,
    ⟨"GET", [.lit "update-user"], .getUpdateUser⟩,
    ⟨"POST", [.lit "update-user", .param "userId"], .postUpdateUser⟩]

def dashboardRoutes : List (Route Handler) :=
  [⟨"GET", [.lit "activities", .lit "users", .param "userId"], .getUserActivities⟩,
    ⟨"GET", [.lit "dashboard"], .getDashboard⟩,
    ⟨"POST", [.lit "upload-excel"], .postUploadExcel⟩,
    ⟨"GET", [.lit "member-statistics"], .getMemberStatistics⟩,
    ⟨"POST", [.lit "events"], .postEvents⟩,
    ⟨"GET", [.lit "search-members"], .getSearchMembers⟩,
    ⟨"GET", [.lit "advanced-search-members"], .getAdvancedSearchMembers⟩,
    ⟨"GET", [.lit "unit", .param "unitName"], .getUnit⟩]

def adminRoutes : List (Route Handler) :=
  [⟨"GET", [.lit "admin", .lit "dashboard"], .getAdminDashboard⟩,
    ⟨"GET", [.lit "admin", .lit "users"], .getAdminUsers⟩,
    ⟨"GET", [.lit "admin", .lit "activities"], .getAdminActivities⟩]

section

variable (p : Platform) (secrets : Secrets)

def handle (req : Request) (params : List (String × String)) : Handler → Act Unit
  | .getIndex => getIndex req
  | .postSubscribe => postSubscribe p req
  | .getSendNotification => getSendNotification req
  | .getAccessDenied => getAccessDenied
  | .getLogin => getLogin
  | .postLogin => postLogin p secrets req
  | .getLogout => getLogout p req
  | .getRegister => getRegister p req
  | .postRegister => postRegister p secrets req
  | .getMemberIndex => getMemberIndex p req
  | .postCreateActivity => postCreateActivity p req params
  | .getUpdateUser => getUpdateUser p req
  | .postUpdateUser => postUpdateUser p req params
  | .getUserActivities => getUserActivities p req (param params "userId")
  | .getDashboard => getDashboard req
  | .postUploadExcel => postUploadExcel p req
  | .getMemberStatistics => getMemberStatistics req
  | .postEvents => postEvents
  | .getSearchMembers => getSearchMembers
  | .getAdvancedSearchMembers => getAdvancedSearchMembers
  | .getUnit => getUnit
  | .getAdminDashboard => getAdminDashboard p req
  | .getAdminUsers => getAdminUsers req
  | .getAdminActivities => getAdminActivities req

/-- A mounted router: the matching route's handler answers, and no handler calls `next`. -/
def router (routes : List (Route Handler)) (req : Request) : Act Flow :=
  match dispatch req.method (p.pathname req.url) routes with
  | .missed => next
  | .failed error => throw error
  | .found handler params => do
    modify fun c => { c with ran := some handler }
    handle p secrets req params handler
    ended

/-- The middleware that moves the flash messages into `res.locals`. -/
def flashLocals : Act Flow := do
  let keys := ["success_msg", "error_msg", "agent"]
  modify fun c => { c with
    locals := keys.map fun key =>
      (key, .arr ((c.session.flash.filter fun entry => entry.1 == key).map Prod.snd))
    session := { c.session with
      flash := c.session.flash.filter fun entry => !keys.contains entry.1 } }
  next

/-- The layers in front of the protected routers. -/
def publicLayers (req : Request) : List (Act Flow) :=
  [flashLocals, trackUserActivity p req, router p secrets indexRoutes req,
    router p secrets loginRoutes req, router p secrets registerRoutes req]

/-- The gate mounted before a protected router. -/
def guards (roles : List String) (req : Request) : List (Act Flow) :=
  [isAuthenticated p req, isAuthorized p roles req, validateAgent p req]

def layers (req : Request) : List (Act Flow) :=
  publicLayers p secrets req ++
    (guards p ["member", "worker", "admin"] req ++ [router p secrets memberRoutes req] ++
    (guards p ["worker", "admin"] req ++ [router p secrets dashboardRoutes req] ++
    (guards p ["admin"] req ++ [router p secrets adminRoutes req])))

/-- What holds of every middleware and of every router holds of all layers. -/
theorem forall_mem_layers {P : Act Flow → Prop} {req : Request} (drains : P flashLocals)
    (tracks : P (trackUserActivity p req)) (authenticates : P (isAuthenticated p req))
    (authorizes : ∀ roles, P (isAuthorized p roles req)) (validates : P (validateAgent p req))
    (routes : ∀ table ∈ [indexRoutes, loginRoutes, registerRoutes, memberRoutes, dashboardRoutes,
      adminRoutes], P (router p secrets table req)) : ∀ layer ∈ layers p secrets req, P layer := by
  have gate (roles : List String) : ∀ layer ∈ guards p roles req, P layer := by
    intro layer member
    simp only [guards, List.mem_cons, List.not_mem_nil, or_false] at member
    rcases member with rfl | rfl | rfl
    · exact authenticates
    · exact authorizes roles
    · exact validates
  simp only [List.forall_mem_cons] at routes
  obtain ⟨index, login, register, member, dashboard, admin, _⟩ := routes
  have front : ∀ layer ∈ publicLayers p secrets req, P layer := by
    intro layer member
    simp only [publicLayers, List.mem_cons, List.not_mem_nil, or_false] at member
    rcases member with rfl | rfl | rfl | rfl | rfl
    · exact drains
    · exact tracks
    · exact index
    · exact login
    · exact register
  simp only [layers, List.forall_mem_append, List.forall_mem_singleton]
  exact ⟨front, ⟨gate _, member⟩, ⟨gate _, dashboard⟩, gate _, admin⟩

/-- The centralized error handler. The redirect replaces the status 500 set before it. -/
def errorHandler (req : Request) : Act Unit := do
  flash "error_msg" (.str "An unexpected error occurred. Please try again.")
  redirect req.url

/-- The whole application: a request that no layer answers gets the framework's 404. -/
def app (req : Request) : Act Unit :=
  attempt (do
    match ← chain (layers p secrets req) with
    | .next => respond (.send 404 (.str ("Cannot " ++ req.method ++ " " ++ req.url)))
    | .ended => pure ())
  fun _ => errorHandler req

/-- The context a request starts with: the stored session, or an empty one. -/
def Ctx.start (req : Request) (s : Server) : Ctx :=
  { server := s, session := (s.sessions req.sid).getD {} }

/-- The context a request ends with. -/
def served (req : Request) (s : Server) : Ctx := (exec (app p secrets req) (Ctx.start req s)).2

/-- The server after a request: its session is saved again unless it was destroyed. -/
def serve (req : Request) (s : Server) : Server :=
  let c := served p secrets req s
  let saved := if c.destroyed then none else some c.session
  { c.server with sessions := Function.update s.sessions req.sid saved }

@[simp] theorem serve_users (req : Request) (s : Server) :
    (serve p secrets req s).users = (served p secrets req s).server.users := rfl

@[simp] theorem serve_activities (req : Request) (s : Server) :
    (serve p secrets req s).activities = (served p secrets req s).server.activities := rfl

@[simp] theorem serve_userAgents (req : Request) (s : Server) :
    (serve p secrets req s).userAgents = (served p secrets req s).server.userAgents := rfl

@[simp] theorem serve_subscriptions (req : Request) (s : Server) :
    (serve p secrets req s).subscriptions = (served p secrets req s).server.subscriptions := rfl

@[simp] theorem serve_allowedID (req : Request) (s : Server) :
    (serve p secrets req s).allowedID = (served p secrets req s).server.allowedID := rfl

theorem serve_stored {req : Request} {s : Server}
    (alive : (served p secrets req s).destroyed = false) :
    (serve p secrets req s).sessions req.sid = some (served p secrets req s).session := by
  simp [serve, alive]

/-- A session that is in the store after a request was there before, or is the request's own. -/
theorem serve_session {req : Request} {s : Server} {sid : String} {session : Session}
    (stored : (serve p secrets req s).sessions sid = some session) :
    sid ≠ req.sid ∧ s.sessions sid = some session ∨
      sid = req.sid ∧ session = (served p secrets req s).session := by
  by_cases own : sid = req.sid
  · subst own
    simp only [serve, Function.update_self] at stored
    split at stored
    · cases stored
    · exact .inr ⟨rfl, (Option.some.inj stored).symm⟩
  · simp only [serve, Function.update_of_ne own] at stored
    exact .inl ⟨own, stored⟩

end

end ChurchManagement
