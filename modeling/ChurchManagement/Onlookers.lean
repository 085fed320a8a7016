import ChurchManagement.Passage
import ChurchManagement.Reference

namespace ChurchManagement

open Js Effect Express Sequelize

/-- The context among other stored sessions, with other messages pushed. -/
def Ctx.among (push : List (Value × String) → List (Value × String))
    (sessions : String → Option Session) (c : Ctx) : Ctx :=
  { c with server := { c.server with sessions := sessions }, pushed := push c.pushed }

/-- The program neither looks at nor changes the stored sessions and what has been pushed. -/
abbrev Aside (push : List (Value × String) → List (Value × String)) {α : Type} (x : Act α) : Prop :=
  Frames (Ctx.among push) x

variable {push : List (Value × String) → List (Value × String)}

section Steps

variable {α : Type}

theorem flash_aside (key : String) (msg : Value) : Aside push (flash key msg) :=
  frames_modify fun _ _ => rfl

theorem respond_aside (r : Response) : Aside push (respond r) := frames_modify fun _ _ => rfl

theorem flash_respond_aside (key : String) (msg : Value) (r : Response) :
    Aside push (do flash key msg; respond r) := frames_bind (flash_aside _ _) fun _ => respond_aside _

theorem setSession_aside (f : Session → Session) : Aside push (setSession f) :=
  frames_modify fun _ _ => rfl

theorem setServer_aside {f : Server → Server}
    (commutes : ∀ sessions s, f { s with sessions := sessions } = { f s with sessions := sessions }) :
    Aside push (setServer f) := by
  refine frames_modify fun sessions c => ?_
  exact congrArg (fun server => ({ c with server := server, pushed := push c.pushed } : Ctx))
    (commutes sessions c.server)

theorem orThrow_aside (e : String) (o : Option α) : Aside push (orThrow e o) := by
  cases o with
  | some a => exact frames_pure a
  | none => exact frames_throw e

theorem db_aside (req : Request) (table : TableName) (op : DbOp) : Aside push (db req table op) := by
  unfold db
  split
  · exact frames_throw _
  · exact frames_pure _

theorem prop_aside (key : String) (v : Value) : Aside push (prop key v) := by
  unfold prop
  split
  · exact frames_pure _
  · exact frames_throw _

theorem asString_aside (v : Value) : Aside push (asString v) := by
  unfold asString
  split
  · exact frames_pure _
  · exact frames_throw _

theorem whereColumn_aside (p : Platform) (v : Value) : Aside push (whereColumn p v) := orThrow_aside _ _

theorem undeclared_aside (name : String) : Aside push (undeclared name : Act α) := frames_throw _

end Steps

section Middlewares

variable (p : Platform) (req : Request)

theorem getAgent_aside : Aside push (getAgent p req) := by
  unfold getAgent
  refine frames_ite ?_ (frames_pure _)
  split
  · exact frames_bind (setSession_aside _) fun _ => frames_pure _
  · exact frames_bind (flash_aside _ _) fun _ => frames_pure _

theorem middleCorrect_aside (middleware : String) : Aside push (middleCorrect middleware req) :=
  frames_get_bind (fun _ _ => rfl) fun _ =>
    frames_ite (frames_bind (frames_pure _) fun _ => frames_pure _)
      (frames_bind (orThrow_aside _ _) fun _ => frames_bind (frames_pure _) fun _ => frames_pure _)

theorem redirectBack_aside (fallback : String) : Aside push (do redirectBack req fallback; ended) :=
  frames_bind (respond_aside _) fun _ => frames_pure _

theorem nextOrLogin_aside : Aside push (nextOrLogin req) :=
  frames_ite (frames_pure _) (redirectBack_aside req _)

theorem isAuthenticated_aside : Aside push (isAuthenticated p req) := by
  have refused (msg : Value) : Aside push (do
      flash "error_msg" msg
      redirectBack req "/"
      ended) := frames_bind (flash_aside _ _) fun _ => redirectBack_aside req _
  refine frames_attempt (frames_bind (middleCorrect_aside req _) fun nt =>
    frames_ite (frames_pure _) (frames_bind (getAgent_aside p req) fun found => ?_))
    fun _ => refused _
  split
  · exact refused _
  · exact frames_ite (refused _) (frames_pure _)

theorem isAuthorized_aside (roles : List String) : Aside push (isAuthorized p roles req) := by
  have denied : Aside push (do redirect "/access-denied"; ended) :=
    frames_bind (respond_aside _) fun _ => frames_pure _
  refine frames_bind (middleCorrect_aside req _) fun nt => frames_ite (frames_pure _)
    (frames_attempt (frames_bind (getAgent_aside p req) fun found =>
      frames_bind (orThrow_aside _ _) fun agent => ?_)
    fun _ => frames_bind (flash_aside _ _) fun _ => nextOrLogin_aside req)
  refine frames_ite (frames_ite (frames_pure _) ?_) ?_
  · exact frames_bind (flash_aside _ _) fun _ => frames_bind (flash_aside _ _) fun _ => denied
  · exact frames_bind (flash_aside _ _) fun _ => denied

theorem newUserAgent_aside (id : Value) : Aside push (newUserAgent id req) :=
  frames_bind (flash_aside _ _) fun _ => setSession_aside _

theorem trackUserActivity_aside : Aside push (trackUserActivity p req) := by
  refine frames_attempt (frames_get_bind (fun _ _ => rfl) fun c => frames_ite ?_ ?_)
    fun _ => frames_bind (flash_aside _ _) fun _ => nextOrLogin_aside req
  · refine frames_bind (getAgent_aside p req) fun found => ?_
    split
    · exact frames_bind (flash_aside _ _) fun _ => frames_bind (prop_aside _ _) fun _ =>
        frames_bind (setSession_aside _) fun _ => frames_pure _
    · exact frames_bind (newUserAgent_aside req _) fun _ => nextOrLogin_aside req
  · refine frames_bind (getAgent_aside p req) fun found => ?_
    split
    · exact frames_bind (flash_aside _ _) fun _ => frames_pure _
    · exact frames_bind (newUserAgent_aside req _) fun _ =>
        frames_bind (flash_aside _ _) fun _ => nextOrLogin_aside req

theorem validateAgent_aside : Aside push (validateAgent p req) := by
  have refused (msg : Value) : Aside push (do flash "error_msg" msg; nextOrLogin req) :=
    frames_bind (flash_aside _ _) fun _ => nextOrLogin_aside req
  refine frames_bind (middleCorrect_aside req _) fun nt => frames_ite (frames_pure _)
    (frames_bind (getAgent_aside p req) fun found => ?_)
  split
  · exact frames_pure _
  · refine frames_bind (prop_aside _ _) fun _ => frames_get_bind (fun _ _ => rfl) fun _ =>
      frames_ite (frames_pure _) (frames_bind (db_aside _ _ _) fun _ =>
      frames_bind (whereColumn_aside _ _) fun _ => frames_get_bind (fun _ _ => rfl) fun _ => ?_)
    dsimp only
    split
    · exact refused _
    · exact frames_ite (refused _) (frames_pure _)

theorem flashLocals_aside : Aside push flashLocals :=
  frames_bind (frames_modify fun _ _ => rfl) fun _ => frames_pure _

end Middlewares

section Handlers

variable (p : Platform) (secrets : Secrets) (req : Request)

theorem saveSubscription_aside (ip : String) (subscription : Value) :
    Aside push (saveSubscription p req ip subscription) := by
  refine frames_attempt (frames_bind (whereColumn_aside _ _) fun _ =>
    frames_bind (db_aside _ _ _) fun _ => frames_get_bind (fun _ _ => rfl) fun _ => ?_)
    fun _ => frames_pure _
  dsimp only
  split
  · exact frames_bind (prop_aside _ _) fun _ => frames_bind (prop_aside _ _) fun _ =>
      frames_bind (prop_aside _ _) fun _ => frames_bind (db_aside _ _ _) fun _ =>
      frames_bind (orThrow_aside _ _) fun _ => setServer_aside fun _ _ => rfl
  · exact frames_bind (prop_aside _ _) fun _ => frames_bind (prop_aside _ _) fun _ =>
      frames_bind (prop_aside _ _) fun _ => frames_bind (db_aside _ _ _) fun _ =>
      frames_bind (orThrow_aside _ _) fun _ => frames_get_bind (fun _ _ => rfl) fun _ =>
      frames_bind (orThrow_aside _ _) fun _ => setServer_aside fun _ _ => rfl

theorem createAgent_aside (userId : String) (userAgentRecord : Option LoginUserAgent)
    (role : String) : Aside push (createAgent p req userId userAgentRecord role) := by
  have granted (agent : String) : Aside push (do
      setServer fun s => { s with allowedID := s.allowedID ++ [userId] }
      flash "agent" (.str agent)
      return agent) :=
    frames_bind (setServer_aside fun _ _ => rfl) fun _ => frames_bind (flash_aside _ _) fun _ =>
      frames_pure _
  unfold createAgent
  cases userAgentRecord with
  | some record =>
    exact frames_bind (db_aside _ _ _) fun _ => frames_bind (orThrow_aside _ _) fun _ =>
      frames_bind (setServer_aside fun _ _ => rfl) fun _ => granted _
  | none =>
    exact frames_bind (db_aside _ _ _) fun _ => frames_bind (orThrow_aside _ _) fun _ =>
      frames_get_bind (fun _ _ => rfl) fun _ => frames_bind (orThrow_aside _ _) fun _ =>
      frames_bind (setServer_aside fun _ _ => rfl) fun _ => granted _

theorem loginRole_aside (user : User) (name : String) (userAgentRecord : Option LoginUserAgent)
    (authToken : Value) : Aside push (loginRole p secrets req user name userAgentRecord authToken) := by
  have branch (f : Session → Session) (role welcome page : String) : Aside push (do
      setSession f
      enter p req user.id userAgentRecord role welcome page) :=
    frames_bind (setSession_aside f) fun _ =>
      frames_bind (createAgent_aside p req user.id userAgentRecord role) fun _ =>
      frames_bind (setSession_aside _) fun _ => flash_respond_aside _ _ _
  exact frames_ite (branch _ _ _ _) (frames_ite (branch _ _ _ _) (frames_ite (branch _ _ _ _)
    (flash_respond_aside _ _ _)))

theorem postLogin_aside : Aside push (postLogin p secrets req) := by
  refine frames_attempt (frames_ite (flash_respond_aside _ _ _) ?_) fun _ =>
    flash_respond_aside _ _ _
  refine frames_bind (prop_aside _ _) fun _ => frames_bind (whereColumn_aside _ _) fun _ =>
    frames_bind (db_aside _ _ _) fun _ => frames_get_bind (fun _ _ => rfl) fun _ => ?_
  dsimp only
  split
  · exact flash_respond_aside _ _ _
  · refine frames_bind (asString_aside _) fun _ => frames_bind (prop_aside _ _) fun _ =>
      frames_bind (asString_aside _) fun _ => frames_ite (flash_respond_aside _ _ _) ?_
    exact frames_bind (setSession_aside _) fun _ => frames_bind (whereColumn_aside _ _) fun _ =>
      frames_bind (db_aside _ _ _) fun _ => frames_get_bind (fun _ _ => rfl) fun _ =>
      frames_bind (prop_aside _ _) fun _ => loginRole_aside p secrets req _ _ _ _

theorem logoutOf_aside (userId : Value) : Aside push (logoutOf p req userId) := by
  refine frames_ite ?_ (flash_respond_aside _ _ _)
  exact frames_bind (whereColumn_aside _ _) fun _ => frames_bind (db_aside _ _ _) fun _ =>
    frames_get_bind (fun _ _ => rfl) fun _ => frames_bind (orThrow_aside _ _) fun _ =>
    frames_bind (db_aside _ _ _) fun _ => frames_bind (setServer_aside fun _ _ => rfl) fun _ =>
    frames_bind (frames_modify fun _ _ => rfl) fun _ => respond_aside _

theorem getLogout_aside : Aside push (getLogout p req) :=
  frames_get_bind (fun _ _ => rfl) fun _ => frames_bind (getAgent_aside p req) fun _ =>
    frames_bind (orThrow_aside _ _) fun _ =>
    frames_ite (frames_bind (frames_pure _) fun _ => logoutOf_aside p req _)
      (frames_bind (prop_aside _ _) fun _ => logoutOf_aside p req _)

theorem postRegister_aside : Aside push (postRegister p secrets req) := by
  refine frames_attempt ?_ fun _ => flash_respond_aside _ _ _
  dsimp only
  split
  · exact flash_respond_aside _ _ _
  · refine frames_bind (prop_aside _ _) fun _ => frames_ite (flash_respond_aside _ _ _) ?_
    refine frames_bind (prop_aside _ _) fun _ => frames_bind (prop_aside _ _) fun _ =>
      frames_bind (whereColumn_aside _ _) fun _ => frames_bind (whereColumn_aside _ _) fun _ =>
      frames_bind (db_aside _ _ _) fun _ => frames_get_bind (fun _ _ => rfl) fun _ => ?_
    split
    · exact flash_respond_aside _ _ _
    · exact frames_bind (db_aside _ _ _) fun _ => frames_bind (orThrow_aside _ _) fun _ =>
        frames_get_bind (fun _ _ => rfl) fun _ => frames_bind (orThrow_aside _ _) fun _ =>
        frames_bind (setServer_aside fun _ _ => rfl) fun _ => frames_bind (flash_aside _ _) fun _ =>
        frames_bind (orThrow_aside _ _) fun _ => respond_aside _

theorem findUser_aside (id : Value) : Aside push (findUser p req id) :=
  frames_bind (db_aside _ _ _) fun _ => frames_get_bind (fun _ _ => rfl) fun _ => orThrow_aside _ _

theorem getMemberIndex_aside : Aside push (getMemberIndex p req) := by
  have found : Aside push (memberId p req) :=
    frames_get_bind (fun _ _ => rfl) fun _ => frames_ite (frames_pure _)
      (frames_bind (getAgent_aside p req) fun _ => frames_bind (orThrow_aside _ _) fun _ =>
        prop_aside _ _)
  refine frames_attempt (frames_bind found fun userId => frames_ite (flash_respond_aside _ _ _)
    (frames_bind (findUser_aside p req userId) fun user => ?_)) fun _ => flash_respond_aside _ _ _
  split
  · exact flash_respond_aside _ _ _
  · exact frames_bind (setSession_aside _) fun _ => frames_bind (whereColumn_aside _ _) fun _ =>
      frames_bind (db_aside _ _ _) fun _ => frames_get_bind (fun _ _ => rfl) fun _ =>
      respond_aside _

theorem recordActivity_aside (userId activityType : String) :
    Aside push (recordActivity p req userId activityType) := by
  refine frames_bind (prop_aside _ _) fun _ => frames_get_bind (fun _ _ => rfl) fun _ =>
    frames_ite (flash_respond_aside _ _ _) (frames_bind (findUser_aside p req _) fun user => ?_)
  split
  · exact frames_bind (flash_aside _ _) fun _ => undeclared_aside _
  · exact frames_bind (db_aside _ _ _) fun _ => frames_bind (orThrow_aside _ _) fun _ =>
      frames_get_bind (fun _ _ => rfl) fun _ => frames_bind (orThrow_aside _ _) fun _ =>
      frames_bind (setServer_aside fun _ _ => rfl) fun _ => flash_respond_aside _ _ _

theorem postCreateActivity_aside (params : List (String × String)) :
    Aside push (postCreateActivity p req params) := by
  have record : Aside push _ := recordActivity_aside p req (param params "userId") (param params "activityType")
  exact frames_attempt (frames_bind (prop_aside _ _) fun _ => frames_ite
    (frames_ite (frames_bind (flash_aside _ _) fun _ => record) (flash_respond_aside _ _ _)) record)
    fun _ => frames_bind (flash_aside _ _) fun _ => undeclared_aside _

theorem postUpdateUser_aside (params : List (String × String)) :
    Aside push (postUpdateUser p req params) := by
  have owner : Aside push (do
      let session := (← get).session
      if !session.userId.strictEq (.str (param params "userId")) && !session.isWorker.truthy then
        updateError "invalid authentication you are not allowed to access this" : Act Unit) :=
    frames_get_bind (fun _ _ => rfl) fun _ => frames_ite (flash_respond_aside _ _ _) (frames_pure _)
  have refusals : Aside push (updateRefusals p req (param params "userId")) := by
    unfold updateRefusals
    split
    · exact frames_bind (flash_respond_aside _ _ _) fun _ => owner
    · exact owner
  refine frames_attempt (frames_bind refusals fun _ => frames_bind (findUser_aside p req _)
    fun found => ?_) fun _ => flash_respond_aside _ _ _
  split
  · exact frames_bind (flash_respond_aside _ _ _) fun _ => frames_throw _
  · exact frames_bind (db_aside _ _ _) fun _ => frames_bind (orThrow_aside _ _) fun _ =>
      frames_bind (setServer_aside fun _ _ => rfl) fun _ => flash_respond_aside _ _ _

theorem postUploadExcel_aside : Aside push (postUploadExcel p req) := by
  refine frames_attempt ?_ fun _ => undeclared_aside _
  split
  · exact undeclared_aside _
  · exact frames_ite (undeclared_aside _) (frames_bind (db_aside _ _ _) fun _ =>
      frames_get_bind (fun _ _ => rfl) fun _ => frames_bind (orThrow_aside _ _) fun _ =>
      frames_bind (setServer_aside fun _ _ => rfl) fun _ => undeclared_aside _)

/-- Only the broadcast pushes messages, and it adds them to those that have been pushed. -/
theorem handle_aside (params : List (String × String)) (handler : Handler)
    (adds : handler = .getSendNotification → ∀ sent calls, push (sent ++ calls) = push sent ++ calls) :
    Aside push (handle p secrets req params handler) := by
  have query (table : TableName) (op : DbOp) : Aside push (db req table op) := db_aside _ _ _
  cases handler with
  | getIndex => exact respond_aside _
  | postSubscribe => exact frames_bind (saveSubscription_aside p req _ _) fun _ => respond_aside _
  | getSendNotification =>
    exact frames_attempt (frames_bind (query _ _) fun _ => frames_get_bind (fun _ _ => rfl) fun _ =>
      frames_bind (frames_modify fun sessions c => congrArg (fun pushed => ({ c with
        server := { c.server with sessions := sessions }, pushed := pushed } : Ctx))
        (adds rfl c.pushed _).symm) fun _ => respond_aside _) fun _ => respond_aside _
  | getAccessDenied => exact respond_aside _
  | getLogin => exact respond_aside _
  | postLogin => exact postLogin_aside p secrets req
  | getLogout => exact getLogout_aside p req
  | getRegister =>
    exact frames_get_bind (fun _ _ => rfl) fun _ => frames_ite (respond_aside _) (respond_aside _)
  | postRegister => exact postRegister_aside p secrets req
  | getMemberIndex => exact getMemberIndex_aside p req
  | postCreateActivity => exact postCreateActivity_aside p req params
  | getUpdateUser =>
    exact frames_get_bind (fun _ _ => rfl) fun _ => frames_ite (respond_aside _) (respond_aside _)
  | postUpdateUser => exact postUpdateUser_aside p req params
  | getUserActivities =>
    exact frames_attempt (frames_bind (whereColumn_aside _ _) fun _ => frames_bind (query _ _) fun _ =>
      frames_get_bind (fun _ _ => rfl) fun _ => respond_aside _) fun _ => respond_aside _
  | getDashboard =>
    exact frames_attempt (frames_bind (query _ _) fun _ => frames_bind (query _ _) fun _ =>
      undeclared_aside _) fun _ => respond_aside _
  | postUploadExcel => exact postUploadExcel_aside p req
  | getMemberStatistics =>
    exact frames_attempt (frames_bind (query _ _) fun _ => undeclared_aside _)
      fun _ => respond_aside _
  | postEvents => exact respond_aside _
  | getSearchMembers | getAdvancedSearchMembers =>
    exact frames_attempt (frames_throw _) fun _ => undeclared_aside _
  | getUnit => exact frames_attempt (undeclared_aside _) fun _ => respond_aside _
  | getAdminDashboard =>
    exact frames_attempt (frames_bind (query _ _) fun _ => frames_bind (query _ _) fun _ =>
      frames_get_bind (fun _ _ => rfl) fun _ => respond_aside _) fun _ => flash_respond_aside _ _ _
  | getAdminUsers =>
    exact frames_attempt (frames_bind (query _ _) fun _ => frames_get_bind (fun _ _ => rfl) fun _ =>
      respond_aside _) fun _ => flash_respond_aside _ _ _
  | getAdminActivities =>
    exact frames_attempt (frames_bind (query _ _) fun _ => frames_get_bind (fun _ _ => rfl) fun _ =>
      respond_aside _) fun _ => flash_respond_aside _ _ _

theorem router_aside (r : Router) (adds : ∀ params, Addressed p req .getSendNotification params →
    ∀ sent calls, push (sent ++ calls) = push sent ++ calls) :
    Aside push (router p secrets r.routes req) := by
  unfold router
  split
  · exact frames_pure _
  · exact frames_throw _
  · rename_i handler params found
    obtain ⟨route, member, isHandler, _⟩ := dispatch_found found
    have home : handler.router = r := isHandler ▸ r.handler_router route member
    have broadcasts : handler = .getSendNotification →
        ∀ sent calls, push (sent ++ calls) = push sent ++ calls := by
      rintro rfl
      exact adds params (by rw [Addressed, home]; exact found)
    exact frames_bind (frames_modify fun _ _ => rfl) fun _ =>
      frames_bind (handle_aside p secrets req params handler broadcasts) fun _ => frames_pure _

end Handlers

section Served

variable (p : Platform) (secrets : Secrets)

theorem app_aside (req : Request) (adds : ∀ params, Addressed p req .getSendNotification params →
    ∀ sent calls, push (sent ++ calls) = push sent ++ calls) : Aside push (app p secrets req) := by
  have mounted : ∀ table ∈ [indexRoutes, loginRoutes, registerRoutes, memberRoutes, dashboardRoutes,
      adminRoutes], Aside push (router p secrets table req) := by
    have each (r : Router) := router_aside p secrets req r adds
    simp only [List.forall_mem_cons]
    exact ⟨each .index, each .login, each .register, each .member, each .dashboard, each .admin,
      List.forall_mem_nil _⟩
  have walked := frames_chain (forall_mem_layers p secrets flashLocals_aside
    (trackUserActivity_aside p req) (isAuthenticated_aside p req) (isAuthorized_aside p req)
    (validateAgent_aside p req) mounted)
  refine frames_attempt (frames_bind walked fun flow => ?_) fun _ => flash_respond_aside _ _ _
  cases flow with
  | next => exact respond_aside _
  | ended => exact frames_pure _

/-- What a request does depends on no stored session but its own. -/
theorem served_among (req : Request) (s : Server) {sessions : String → Option Session}
    (own : sessions req.sid = s.sessions req.sid) :
    served p secrets req { s with sessions := sessions } =
      (served p secrets req s).among id sessions := by
  have start : Ctx.start req { s with sessions := sessions } =
      (Ctx.start req s).among id sessions := by
    simp only [Ctx.start, Ctx.among, own, id]
  have aside : Aside id (app p secrets req) := app_aside p secrets req fun _ _ _ _ => rfl
  rw [served, start, aside sessions (Ctx.start req s)]
  rfl

/-- A request for a page that is neither the logout nor the broadcast. -/
structure Quiet (req : Request) : Prop where
  get : req.method = "GET"
  stays : ∀ params, ¬ Addressed p req .getLogout params
  silent : ∀ params, ¬ Addressed p req .getSendNotification params

theorem Addressed.isGet {p : Platform} {req : Request} {handler : Handler}
    {params : List (String × String)} (addressed : Addressed p req handler params)
    (get : req.method = "GET") : handler.isGet = true := by
  obtain ⟨route, member, isHandler, routed, _⟩ := dispatch_found addressed
  rw [← isHandler]
  refine handler.router.get_handler route member ?_
  simpa [Route.handles, get] using routed

/-- A request for a page changes nothing but its own session. -/
theorem Quiet.still {p : Platform} {req : Request} (quiet : Quiet p req) (s : Server) :
    (served p secrets req s).server = s := by
  rcases served_spec p secrets req s with idle | ⟨handler, params, handled⟩
  · exact Ctx.server_of_core idle
  · have isGet := handled.routed.isGet quiet.1
    cases handled.done.outcome with
    | quiet left => exact Ctx.server_of_core left
    | shown user member reads truthy current left => exact (Ctx.server_of_core left :)
    | loggedOut record logsOut left => exact absurd handled.routed (quiet.stays params)
    | _ => cases isGet

/-- It pushes no message: the application does the same to whatever has been pushed before. -/
theorem Quiet.pushes {p : Platform} {req : Request} (quiet : Quiet p req) (s : Server) :
    (served p secrets req s).pushed = [] := by
  have aside : Aside (fun _ => []) (app p secrets req) :=
    app_aside p secrets req fun params broadcast => absurd broadcast (quiet.silent params)
  have same := aside s.sessions (Ctx.start req s)
  exact congrArg (fun run => run.2.pushed) same

/-- The two servers differ in the sessions of the onlookers only. -/
structure SameFor (watches : String → Bool) (s s' : Server) : Prop where
  users : s'.users = s.users
  activities : s'.activities = s.activities
  userAgents : s'.userAgents = s.userAgents
  subscriptions : s'.subscriptions = s.subscriptions
  allowedID : s'.allowedID = s.allowedID
  sessions : ∀ sid, watches sid = false → s'.sessions sid = s.sessions sid

variable {watches : String → Bool} {s s' : Server} {req : Request}

theorem SameFor.eq (same : SameFor watches s s') : s' = { s with sessions := s'.sessions } := by
  rw [← same.users, ← same.activities, ← same.userAgents, ← same.subscriptions, ← same.allowedID]

/-- A request of somebody else is answered the same on both servers. -/
theorem SameFor.answered (same : SameFor watches s s') (other : watches req.sid = false) :
    served p secrets req s' = (served p secrets req s).among id s'.sessions := by
  conv_lhs => rw [same.eq]
  exact served_among p secrets req s (same.sessions req.sid other)

/-- What is stored for one session on both servers leaves the others as much the same. -/
theorem SameFor.update (same : SameFor watches s s') (own : String) (saved : Option Session) :
    ∀ sid, watches sid = false →
      Function.update s'.sessions own saved sid = Function.update s.sessions own saved sid := by
  intro sid unwatched
  by_cases isOwn : sid = own
  · rw [isOwn, Function.update_self, Function.update_self]
  · rw [Function.update_of_ne isOwn, Function.update_of_ne isOwn]
    exact same.sessions sid unwatched

theorem SameFor.updateWatched (same : SameFor watches s s') {own : String}
    (watching : watches own = true) (saved : Option Session) :
    ∀ sid, watches sid = false → s'.sessions sid = Function.update s.sessions own saved sid := by
  intro sid unwatched
  have apart : sid ≠ own := by
    rintro rfl
    rw [watching] at unwatched
    cases unwatched
  rw [Function.update_of_ne apart]
  exact same.sessions sid unwatched

theorem SameFor.step (same : SameFor watches s s') (other : watches req.sid = false) :
    SameFor watches (serve p secrets req s) (serve p secrets req s') := by
  have answered := same.answered p secrets other
  refine ⟨?_, ?_, ?_, ?_, ?_, ?_⟩
  · rw [serve_users, answered]
    rfl
  · rw [serve_activities, answered]
    rfl
  · rw [serve_userAgents, answered]
    rfl
  · rw [serve_subscriptions, answered]
    rfl
  · rw [serve_allowedID, answered]
    rfl
  · simp only [serve, answered]
    exact same.update req.sid _

/-- A page view of an onlooker is not noticed by the others. -/
theorem SameFor.watch (same : SameFor watches s s') (watching : watches req.sid = true)
    (quiet : Quiet p req) : SameFor watches (serve p secrets req s) s' := by
  have still := quiet.still secrets s
  refine ⟨?_, ?_, ?_, ?_, ?_, ?_⟩
  · rw [serve_users, still, same.users]
  · rw [serve_activities, still, same.activities]
  · rw [serve_userAgents, still, same.userAgents]
  · rw [serve_subscriptions, still, same.subscriptions]
  · rw [serve_allowedID, still, same.allowedID]
  · simp only [serve]
    exact same.updateWatched watching _

/-- The rate limiter in front of the application. It turns a request away, and answers it, by what
has arrived before it. -/
structure Limiter where
  limits : List Request → Request → Bool
  refusal : Response

/-- The context that a request ends with when it arrives after others. -/
def Limiter.served (limiter : Limiter) (earlier : List Request) (req : Request) (s : Server) : Ctx :=
  if limiter.limits earlier req then (Ctx.start req s).answered limiter.refusal
  else ChurchManagement.served p secrets req s

/-- The server after it. The session store is in front of the limiter. -/
def Limiter.serve (limiter : Limiter) (earlier : List Request) (req : Request) (s : Server) : Server :=
  if limiter.limits earlier req then
    { s with sessions := Function.update s.sessions req.sid (some (Ctx.start req s).session) }
  else ChurchManagement.serve p secrets req s

/-- A request with its answers and the messages that it has pushed. -/
structure Exchange where
  req : Request
  responses : List Response
  pushed : List (Value × String)

/-- The exchanges of requests that arrive one after the other. -/
def transcript (limiter : Limiter) : List Request → List Request → Server → List Exchange
  | _, [], _ => []
  | earlier, req :: rest, s =>
    let c := limiter.served p secrets earlier req s
    ⟨req, c.responses, c.pushed⟩ ::
      transcript limiter (earlier ++ [req]) rest (limiter.serve p secrets earlier req s)

def serveAll (limiter : Limiter) : List Request → List Request → Server → Server
  | _, [], s => s
  | earlier, req :: rest, s =>
    serveAll limiter (earlier ++ [req]) rest (limiter.serve p secrets earlier req s)

/-- The requests of those who do not only watch. -/
def others (watches : String → Bool) (reqs : List Request) : List Request :=
  reqs.filter fun req => !watches req.sid

/-- The limiter decides on each request of the others as if nobody had watched. -/
def Limiter.Unmoved (limiter : Limiter) (watches : String → Bool) (reqs : List Request) : Prop :=
  ∀ earlier req later, reqs = earlier ++ req :: later → watches req.sid = false →
    limiter.limits (others watches earlier) req = limiter.limits earlier req

variable {limiter : Limiter}

theorem others_watch {reqs : List Request} (watching : watches req.sid = true) :
    others watches (req :: reqs) = others watches reqs :=
  List.filter_cons_of_neg (by rw [watching]; exact Bool.false_ne_true)

theorem others_keep {reqs : List Request} (other : watches req.sid = false) :
    others watches (req :: reqs) = req :: others watches reqs :=
  List.filter_cons_of_pos (by rw [other]; rfl)

theorem others_append (reqs reqs' : List Request) :
    others watches (reqs ++ reqs') = others watches reqs ++ others watches reqs' :=
  List.filter_append _ _

/-- A limiter that turns none of the others away is not moved. -/
theorem Limiter.unmoved_of_admits {reqs : List Request} (admits : ∀ earlier req later,
    reqs = earlier ++ req :: later → watches req.sid = false →
      limiter.limits (others watches earlier) req = false ∧ limiter.limits earlier req = false) :
    limiter.Unmoved watches reqs := by
  intro earlier req later split other
  obtain ⟨without, among⟩ := admits earlier req later split other
  rw [without, among]

/-- A limiter that counts the requests of each address is not moved by those of other addresses. -/
theorem Limiter.unmoved_of_apart {reqs : List Request}
    (counts : ∀ earlier earlier' req, earlier.filter (fun old => old.ip == req.ip) =
      earlier'.filter (fun old => old.ip == req.ip) →
        limiter.limits earlier req = limiter.limits earlier' req)
    (apart : ∀ req ∈ reqs, ∀ old ∈ reqs, watches req.sid = false → watches old.sid = true →
      old.ip ≠ req.ip) : limiter.Unmoved watches reqs := by
  rintro earlier req later rfl other
  refine counts _ _ req ?_
  rw [others, List.filter_filter]
  refine List.filter_congr fun old member => ?_
  cases watching : watches old.sid with
  | false => rw [Bool.not_false, Bool.and_true]
  | true =>
    have away : (old.ip == req.ip) = false := beq_eq_false_iff_ne.mpr (apart req
      (List.mem_append_right _ List.mem_cons_self) old (List.mem_append_left _ member) other watching)
    rw [away, Bool.false_and]

/-- A request of somebody else gets the same answers and pushes the same messages. -/
theorem SameFor.exchanged {earlier earlier' : List Request} (same : SameFor watches s s')
    (other : watches req.sid = false)
    (unmoved : limiter.limits earlier' req = limiter.limits earlier req) :
    limiter.served p secrets earlier' req s' =
      (limiter.served p secrets earlier req s).among id s'.sessions := by
  rw [Limiter.served, Limiter.served, unmoved]
  split
  · conv_lhs => rw [same.eq]
    simp only [Ctx.start, Ctx.among, Ctx.answered, same.sessions req.sid other, id]
  · exact same.answered p secrets other

theorem SameFor.limited {earlier earlier' : List Request} (same : SameFor watches s s')
    (other : watches req.sid = false)
    (unmoved : limiter.limits earlier' req = limiter.limits earlier req) :
    SameFor watches (limiter.serve p secrets earlier req s)
      (limiter.serve p secrets earlier' req s') := by
  rw [Limiter.serve, Limiter.serve, unmoved]
  split
  · simp only [Ctx.start, same.sessions req.sid other]
    exact ⟨same.users, same.activities, same.userAgents, same.subscriptions, same.allowedID,
      same.update req.sid _⟩
  · exact same.step p secrets other

/-- An onlooker's request is not noticed by the others, whether it is turned away or not. -/
theorem SameFor.watchLimited {earlier : List Request} (same : SameFor watches s s')
    (watching : watches req.sid = true) (quiet : Quiet p req) :
    SameFor watches (limiter.serve p secrets earlier req s) s' := by
  rw [Limiter.serve]
  split
  · exact ⟨same.users, same.activities, same.userAgents, same.subscriptions, same.allowedID,
      same.updateWatched watching _⟩
  · exact same.watch p secrets watching quiet

theorem Limiter.served_pushes (limiter : Limiter) {earlier : List Request} (quiet : Quiet p req)
    (s : Server) : (limiter.served p secrets earlier req s).pushed = [] := by
  rw [Limiter.served]
  split
  · rfl
  · exact quiet.pushes secrets s

theorem SameFor.run {reqs : List Request} (earlier : List Request) (same : SameFor watches s s')
    (quiet : ∀ req ∈ reqs, watches req.sid = true → Quiet p req)
    (unmoved : limiter.Unmoved watches (earlier ++ reqs)) :
    transcript p secrets limiter (others watches earlier) (others watches reqs) s' =
      (transcript p secrets limiter earlier reqs s).filter (fun entry => !watches entry.req.sid) ∧
    SameFor watches (serveAll p secrets limiter earlier reqs s)
      (serveAll p secrets limiter (others watches earlier) (others watches reqs) s') ∧
    ∀ entry ∈ transcript p secrets limiter earlier reqs s, watches entry.req.sid = true →
      entry.pushed = [] := by
  induction reqs generalizing s s' earlier with
  | nil => exact ⟨rfl, same, List.forall_mem_nil _⟩
  | cons req rest ih =>
    obtain ⟨first, quietRest⟩ := List.forall_mem_cons.mp quiet
    have shifted : limiter.Unmoved watches ((earlier ++ [req]) ++ rest) := by
      rwa [List.append_assoc]
    rw [transcript, serveAll]
    cases watching : watches req.sid with
    | true =>
      obtain ⟨answers, later, silent⟩ :=
        ih _ (same.watchLimited p secrets watching (first watching)) quietRest shifted
      have before : others watches (earlier ++ [req]) = others watches earlier := by
        rw [others_append, others_watch watching]
        exact List.append_nil _
      rw [before] at answers later
      rw [others_watch watching, List.filter_cons_of_neg (by simp [watching])]
      refine ⟨answers, later, List.forall_mem_cons.mpr ⟨fun _ => ?_, silent⟩⟩
      exact limiter.served_pushes p secrets (first watching) s
    | false =>
      have decides := unmoved earlier req rest rfl watching
      obtain ⟨answers, later, silent⟩ :=
        ih _ (same.limited p secrets watching decides) quietRest shifted
      have before : others watches (earlier ++ [req]) = others watches earlier ++ [req] := by
        rw [others_append, others_keep watching]
        rfl
      rw [before] at answers later
      rw [others_keep watching, List.filter_cons_of_pos (by simp [watching]), transcript, serveAll,
        same.exchanged p secrets watching decides]
      refine ⟨congrArg _ answers, later, List.forall_mem_cons.mpr ⟨fun own => ?_, silent⟩⟩
      rw [watching] at own
      cases own

/-- Sessions that only look at pages are invisible, as long as the limiter decides on the others as
if nobody had watched: without their requests, the others get the same answers and push the same
messages, the server ends with the same tables and the same sessions of the others, and the onlookers
themselves have pushed nothing. -/
theorem onlookers_invisible (limiter : Limiter) (watches : String → Bool) (reqs : List Request)
    (s : Server) (quiet : ∀ req ∈ reqs, watches req.sid = true → Quiet p req)
    (unmoved : limiter.Unmoved watches reqs) :
    transcript p secrets limiter [] (others watches reqs) s =
      (transcript p secrets limiter [] reqs s).filter (fun entry => !watches entry.req.sid) ∧
    SameFor watches (serveAll p secrets limiter [] reqs s)
      (serveAll p secrets limiter [] (others watches reqs) s) ∧
    ∀ entry ∈ transcript p secrets limiter [] reqs s, watches entry.req.sid = true →
      entry.pushed = [] :=
  SameFor.run p secrets [] ⟨rfl, rfl, rfl, rfl, rfl, fun _ _ => rfl⟩ quiet unmoved

end Served

section Samples

open Reference

/-- A hundred requests of one address are let through. -/
def hundred : Limiter where
  limits earlier req := 100 ≤ (earlier.filter fun old => old.ip == req.ip).length
  refusal := .send 429 (.str "Too many requests, please try again later.")

/-- A visitor at another address looks at two pages while the member logs in. -/
def watched : List Request :=
  [{ request "s2" "GET" "/" with ip := "127.0.0.2" }, loginWith "",
    { request "s2" "GET" "/login" with ip := "127.0.0.2" }]

theorem watched_quiet : ∀ req ∈ watched, (req.sid == "s2") = true → Quiet platform req := by
  have missed : ∀ url ∈ ["/", "/login"],
      (dispatch "GET" (platform.pathname url) Router.login.routes).target ≠ some .getLogout ∧
      (dispatch "GET" (platform.pathname url) Router.index.routes).target ≠
        some .getSendNotification := by
    decide +kernel
  have quiet (url : String) (listed : url ∈ ["/", "/login"]) :
      Quiet platform { request "s2" "GET" url with ip := "127.0.0.2" } := by
    obtain ⟨stays, silent⟩ := missed url listed
    exact ⟨rfl, fun params addressed => stays (congrArg Dispatch.target addressed),
      fun params addressed => silent (congrArg Dispatch.target addressed)⟩
  intro req member
  simp only [watched, List.mem_cons, List.not_mem_nil, or_false] at member
  rcases member with rfl | rfl | rfl
  · exact fun _ => quiet "/" (by simp)
  · exact fun other => absurd other (by decide)
  · exact fun _ => quiet "/login" (by simp)

theorem watched_unmoved : hundred.Unmoved (· == "s2") watched := by
  refine Limiter.unmoved_of_apart (fun earlier earlier' req same => ?_) (by decide)
  simp only [hundred, same]

/-- The member's login is answered as if nobody had looked. -/
theorem watched_login_answered :
    transcript platform keys hundred [] [loginWith ""] start =
      (transcript platform keys hundred [] watched start).filter fun entry =>
        !(entry.req.sid == "s2") :=
  (onlookers_invisible platform keys hundred (· == "s2") watched start watched_quiet
    watched_unmoved).1

end Samples

end ChurchManagement
