import ChurchManagement.FirstAnswer

namespace ChurchManagement

open Js Effect Express Sequelize

/-- The update handler is the one that may answer more than once. -/
def Ctx.updating (c : Ctx) : Prop := c.ran = some .postUpdateUser

abbrev Discreet (layer : Act Flow) : Prop := Layered Ctx.sent Ctx.updating layer

section Middlewares

variable (p : Platform) (req : Request)

theorem middleCorrect_silent (middleware : String) :
    Keeps (Same Ctx.sent) (middleCorrect middleware req) :=
  keeps_bind keeps_get fun _ => keeps_ite (keeps_bind (keeps_pure _) fun _ => keeps_pure _)
    (keeps_bind (keeps_orThrow _ _ _) fun _ => keeps_bind (keeps_pure _) fun _ => keeps_pure _)

theorem redirectBack_discreet (fallback : String) : Discreet (do redirectBack req fallback; ended) :=
  (respond_once _).layered

theorem nextOrLogin_discreet : Discreet (nextOrLogin req) :=
  layered_ite layered_next (redirectBack_discreet req _)

theorem isAuthenticated_discreet : Discreet (isAuthenticated p req) := by
  have refused (msg : Value) : Discreet (do
      flash "error_msg" msg
      redirectBack req "/"
      ended) := layered_bind (flash_silent _ _) fun _ => redirectBack_discreet req _
  refine layered_attempt (layered_bind (middleCorrect_silent req _) fun nt =>
    layered_ite layered_next (layered_bind (getAgent_silent p req) fun found => ?_))
    fun _ => refused _
  split
  · exact refused _
  · exact layered_ite (refused _) layered_next

theorem isAuthorized_discreet (roles : List String) : Discreet (isAuthorized p roles req) := by
  have denied : Discreet (do redirect "/access-denied"; ended) := (respond_once _).layered
  refine layered_bind (middleCorrect_silent req _) fun nt => layered_ite layered_next
    (layered_attempt (layered_bind (getAgent_silent p req) fun found =>
      layered_bind (keeps_orThrow _ _ _) fun agent => ?_)
    fun _ => layered_bind (flash_silent _ _) fun _ => nextOrLogin_discreet req)
  refine layered_ite (layered_ite layered_next ?_) ?_
  · exact layered_bind (flash_silent _ _) fun _ => layered_bind (flash_silent _ _) fun _ => denied
  · exact layered_bind (flash_silent _ _) fun _ => denied

theorem newUserAgent_silent (id : Value) : Keeps (Same Ctx.sent) (newUserAgent id req) :=
  keeps_bind (flash_silent _ _) fun _ => setSession_silent _

theorem trackUserActivity_discreet : Discreet (trackUserActivity p req) := by
  have failed : Discreet (do flash "error_msg" (.str "internal server error"); nextOrLogin req) :=
    layered_bind (flash_silent _ _) fun _ => nextOrLogin_discreet req
  refine layered_attempt (layered_bind keeps_get fun c => layered_ite ?_ ?_) fun _ => failed
  · refine layered_bind (getAgent_silent p req) fun found => ?_
    split
    · exact layered_bind (flash_silent _ _) fun _ => layered_bind (keeps_prop _ _ _) fun _ =>
        layered_bind (setSession_silent _) fun _ => layered_next
    · exact layered_bind (newUserAgent_silent req _) fun _ => nextOrLogin_discreet req
  · refine layered_bind (getAgent_silent p req) fun found => ?_
    split
    · exact layered_bind (flash_silent _ _) fun _ => layered_next
    · exact layered_bind (newUserAgent_silent req _) fun _ =>
        layered_bind (flash_silent _ _) fun _ => nextOrLogin_discreet req

theorem validateAgent_discreet : Discreet (validateAgent p req) := by
  have refused (msg : Value) : Discreet (do flash "error_msg" msg; nextOrLogin req) :=
    layered_bind (flash_silent _ _) fun _ => nextOrLogin_discreet req
  refine layered_bind (middleCorrect_silent req _) fun nt => layered_ite layered_next
    (layered_bind (getAgent_silent p req) fun found => ?_)
  split
  · exact layered_next
  · refine layered_bind (keeps_prop _ _ _) fun _ => layered_bind keeps_get fun _ =>
      layered_ite layered_next (layered_bind (keeps_db _ _ _ _) fun _ =>
      layered_bind (keeps_whereColumn _ _ _) fun _ => layered_bind keeps_get fun _ => ?_)
    dsimp only
    split
    · exact refused _
    · exact layered_ite (refused _) layered_next

theorem flashLocals_discreet : Discreet flashLocals :=
  layered_bind (keeps_modify fun _ => rfl) fun _ => layered_next

end Middlewares

section Handlers

variable (p : Platform) (secrets : Secrets) (req : Request)

theorem saveSubscription_silent (ip : String) (subscription : Value) :
    Keeps (Same Ctx.sent) (saveSubscription p req ip subscription) := by
  refine keeps_attempt (keeps_bind (keeps_whereColumn _ _ _) fun _ => keeps_bind (keeps_db _ _ _ _)
    fun _ => keeps_bind keeps_get fun _ => ?_) fun _ => keeps_pure _
  dsimp only
  split
  · exact keeps_bind (keeps_prop _ _ _) fun _ => keeps_bind (keeps_prop _ _ _) fun _ =>
      keeps_bind (keeps_prop _ _ _) fun _ => keeps_bind (keeps_db _ _ _ _) fun _ =>
      keeps_bind (keeps_orThrow _ _ _) fun _ => setServer_silent _
  · exact keeps_bind (keeps_prop _ _ _) fun _ => keeps_bind (keeps_prop _ _ _) fun _ =>
      keeps_bind (keeps_prop _ _ _) fun _ => keeps_bind (keeps_db _ _ _ _) fun _ =>
      keeps_bind (keeps_orThrow _ _ _) fun _ => keeps_bind keeps_get fun _ =>
      keeps_bind (keeps_orThrow _ _ _) fun _ => setServer_silent _

theorem postUploadExcel_silent : Keeps (Same Ctx.sent) (postUploadExcel p req) := by
  refine keeps_attempt ?_ fun _ => keeps_undeclared _ _
  split
  · exact keeps_undeclared _ _
  · exact keeps_ite (keeps_undeclared _ _) (keeps_bind (keeps_db _ _ _ _) fun _ =>
      keeps_bind keeps_get fun _ => keeps_bind (keeps_orThrow _ _ _) fun _ =>
      keeps_bind (setServer_silent _) fun _ => keeps_undeclared _ _)

/-- Every handler but the update gives at most one answer, and none when it throws. -/
theorem handle_once {handler : Handler} (params : List (String × String))
    (other : handler ≠ .postUpdateUser) : Once Ctx.sent (handle p secrets req params handler) := by
  have query (table : TableName) (op : DbOp) : Keeps (Same Ctx.sent) (db req table op) :=
    keeps_db _ _ _ _
  cases handler with
  | getIndex => exact respond_once _
  | postSubscribe => exact once_bind (saveSubscription_silent p req _ _) fun _ => respond_once _
  | getSendNotification =>
    exact once_attempt (once_bind (query _ _) fun _ => once_bind keeps_get fun _ =>
      once_bind (keeps_modify fun _ => rfl) fun _ => respond_once _) fun _ => respond_once _
  | getAccessDenied => exact respond_once _
  | getLogin => exact respond_once _
  | postLogin => exact postLogin_once p secrets req
  | getLogout => exact getLogout_once p req
  | getRegister =>
    exact once_bind keeps_get fun _ => once_ite (respond_once _) (respond_once _)
  | postRegister => exact postRegister_once p secrets req
  | getMemberIndex => exact getMemberIndex_once p req
  | postCreateActivity => exact postCreateActivity_once p req params
  | getUpdateUser =>
    exact once_bind keeps_get fun _ => once_ite (respond_once _) (respond_once _)
  | postUpdateUser => exact absurd rfl other
  | getUserActivities =>
    exact once_attempt (once_bind (keeps_whereColumn _ _ _) fun _ => once_bind (query _ _) fun _ =>
      once_bind keeps_get fun _ => respond_once _) fun _ => respond_once _
  | getDashboard =>
    exact once_attempt (once_bind (query _ _) fun _ => once_bind (query _ _) fun _ =>
      (keeps_undeclared _ _).once) fun _ => respond_once _
  | postUploadExcel => exact (postUploadExcel_silent p req).once
  | getMemberStatistics =>
    exact once_attempt (once_bind (query _ _) fun _ => (keeps_undeclared _ _).once)
      fun _ => respond_once _
  | postEvents => exact respond_once _
  | getSearchMembers | getAdvancedSearchMembers =>
    exact once_attempt (keeps_throw _).once fun _ => (keeps_undeclared _ _).once
  | getUnit => exact once_attempt (keeps_undeclared _ _).once fun _ => respond_once _
  | getAdminDashboard =>
    exact once_attempt (once_bind (query _ _) fun _ => once_bind (query _ _) fun _ =>
      once_bind keeps_get fun _ => respond_once _) fun _ => flash_respond_once _ _ _
  | getAdminUsers =>
    exact once_attempt (once_bind (query _ _) fun _ => once_bind keeps_get fun _ => respond_once _)
      fun _ => flash_respond_once _ _ _
  | getAdminActivities =>
    exact once_attempt (once_bind (query _ _) fun _ => once_bind keeps_get fun _ => respond_once _)
      fun _ => flash_respond_once _ _ _

theorem router_discreet (routes : List (Route Handler)) :
    Discreet (router p secrets routes req) := by
  unfold router
  split
  · exact layered_next
  · exact layered_throw _
  · rename_i handler params _
    by_cases update : handler = .postUpdateUser
    · -- the update never throws, so it ends in an exempt context
      subst update
      intro c
      rw [ensures_bind, ensures_modify, ensures_bind]
      refine (postUpdateUser_spec p req params _).mono ?_ (fun _ _ never => never.elim)
      rintro _ t (⟨user, _, left⟩ | ⟨left, _⟩)
      · exact .inl ⟨rfl, Ctx.ran_of_core left⟩
      · exact .inl ⟨rfl, Ctx.ran_of_core left⟩
    · exact layered_bind (keeps_modify fun _ => rfl) fun _ =>
        (handle_once p secrets req params update).layered

theorem layers_discreet : ∀ layer ∈ layers p secrets req, Discreet layer :=
  forall_mem_layers p secrets flashLocals_discreet (trackUserActivity_discreet p req)
    (isAuthenticated_discreet p req) (isAuthorized_discreet p req) (validateAgent_discreet p req)
    fun table _ => router_discreet p secrets req table

end Handlers

section Served

variable (p : Platform) (secrets : Secrets) (req : Request) (s : Server)

/-- No layer and no error handler adds an answer to one that was given before. -/
theorem served_once : (served p secrets req s).updating ∨ (served p secrets req s).sent ≤ 1 := by
  refine Ensures.final (x := app p secrets req) (s := Ctx.start req s)
    (P := fun t => t.updating ∨ t.sent ≤ 1) ?_
  have idle : (Ctx.start req s).sent = 0 := rfl
  unfold app
  rw [ensures_attempt, ensures_bind]
  refine (layered_chain (layers_discreet p secrets req) (Ctx.start req s)).mono ?_ ?_
  · rintro flow t (⟨rfl, updating⟩ | ⟨most, same⟩)
    · exact .inl updating
    · cases flow with
      | ended => exact .inr (by omega)
      | next =>
        refine .inr ?_
        have one : (t.answered (.send 404 (.str ("Cannot " ++ req.method ++ " " ++ req.url)))).sent =
          t.sent + 1 := List.length_append
        have none := same rfl
        omega
  · intro e t same
    have one : (t.recovered req).sent = t.sent + 1 := List.length_append
    exact .inr (show (t.recovered req).sent ≤ 1 by omega)

variable {p req} in
theorem UpdateSettled.of_same {userId : String} {c c' : Ctx}
    (settled : UpdateSettled p req userId c) (session : c'.session.core = c.session.core)
    (server : c'.server = c.server) : UpdateSettled p req userId c' := by
  have worker : c'.session.isWorker = c.session.isWorker := (congrArg Session.isWorker session :)
  refine ⟨settled.accepted, ?_, ?_⟩
  · rw [MayUpdate, Session.userId_of_core session, worker]
    exact settled.allowed
  · rw [server]
    exact settled.known

/-- An update answers once exactly when it has nothing to refuse. -/
theorem served_update {params : List (String × String)}
    (addressed : Addressed p req .postUpdateUser params)
    (ran : (served p secrets req s).ran = some .postUpdateUser) :
    (served p secrets req s).sent ≤ 1 ↔
      UpdateSettled p req (param params "userId") (Ctx.entry p req s) := by
  have absent {t : Ctx} (same : t.core = (Ctx.entry p req s).core) :
      t.ran ≠ some .postUpdateUser := by
    rw [Ctx.ran_of_core same]
    exact nofun
  refine served_walk secrets (P := fun t => t.ran = some .postUpdateUser → (t.sent ≤ 1 ↔
    UpdateSettled p req (param params "userId") (Ctx.entry p req s))) ?_ ?_ ?_ ?_ ran
  · exact fun t stops updates => absurd updates (absent stops.core)
  · exact fun t enters _ updates => absurd updates (absent enters.core)
  · exact fun t _ enters updates => absurd updates (absent enters.core)
  · intro handler params' t enters _ addressed' _
    by_cases update : handler = .postUpdateUser
    · subst update
      cases (addressed.symm.trans addressed' : Dispatch.found _ _ = .found _ _)
      have idle : ({ t with ran := some .postUpdateUser } : Ctx).sent = 0 := enters.idle
      have sent := postUpdateUser_sent p req params { t with ran := some .postUpdateUser }
      rw [idle] at sent
      have counted := ensures_of_final (P := fun t' : Ctx => t'.sent ≤ 0 + 1 ↔
        UpdateSettled p req (param params "userId") { t with ran := some .postUpdateUser }) sent
      refine (counted.and (postUpdateUser_spec p req params _)).mono ?_
        (fun _ _ never => never.2.elim)
      intro _ t' post _
      have session := Ctx.session_of_core enters.core
      have server := Ctx.server_of_core enters.core
      exact post.1.trans ⟨fun settled => settled.of_same session.symm server.symm,
        fun settled => settled.of_same session server⟩
    · have stays (t' : Ctx) (done : Done p secrets req params' { t with ran := some handler } t'
          handler) : t'.ran ≠ some .postUpdateUser := by
        rw [done.outcome.ran]
        exact fun same => update (Option.some.inj same)
      refine (handle_spec p secrets req params' handler _).mono ?_ ?_
      · exact fun _ t' done updates => absurd updates (stays t' done)
      · exact fun _ t' post updates => absurd updates (stays t' post.2)

/-- Every request gets exactly one answer, whatever the middlewares, the handler, the catches and
the error handler do, except that an update that has something to refuse gets more. -/
theorem answered_exactly_once :
    ((served p secrets req s).ran ≠ some .postUpdateUser →
      (served p secrets req s).responses.length = 1) ∧
    ∀ params, Addressed p req .postUpdateUser params →
      (served p secrets req s).ran = some .postUpdateUser →
      ((served p secrets req s).responses.length = 1 ↔
        UpdateSettled p req (param params "userId") (Ctx.entry p req s)) := by
  have least : 1 ≤ (served p secrets req s).sent := by
    have told : Told p req s (served p secrets req s) := served_told secrets
    obtain ⟨r, first, _⟩ := told
    exact List.length_pos_of_mem (List.mem_of_head? first)
  refine ⟨fun other => ?_, fun params addressed ran => ?_⟩
  · have most := (served_once p secrets req s).resolve_left other
    exact Nat.le_antisymm most least
  · rw [← served_update p secrets req s addressed ran]
    exact ⟨fun one => one.le, fun most => Nat.le_antisymm most least⟩

end Served

end ChurchManagement
