import ChurchManagement.Passage

namespace ChurchManagement

open Js Effect Express Sequelize

section Sends

variable {α β : Type}

/-- Wherever the program returns, the request has an answer. -/
def Sends (x : Act α) : Prop :=
  ∀ c, Ensures x c (fun _ t => t.responses ≠ []) (fun _ _ => True)

theorem sends_respond (r : Response) : Sends (respond r) := by
  intro c
  exact List.append_ne_nil_of_right_ne_nil _ (List.cons_ne_nil _ _)

theorem sends_throw (e : String) : Sends (throw e : Act α) := fun _ => trivial

theorem sends_bind {x : Act α} {f : α → Act β} (rest : ∀ a, Sends (f a)) : Sends (x >>= f) := by
  intro c
  rw [ensures_bind]
  have entered : Ensures x c (fun _ _ => True) (fun _ _ => True) := by
    unfold Ensures
    split <;> trivial
  exact entered.mono (fun a t _ => rest a t) (fun _ _ _ => trivial)

theorem sends_attempt {x : Act α} {handle : String → Act α} (body : Sends x)
    (handler : ∀ e, Sends (handle e)) : Sends (attempt x handle) := by
  intro c
  rw [ensures_attempt]
  exact (body c).mono (fun _ _ sent => sent) (fun e t _ => handler e t)

theorem sends_ite {cond : Prop} [Decidable cond] {x y : Act α} (left : Sends x) (right : Sends y) :
    Sends (if cond then x else y) := by
  split
  · exact left
  · exact right

end Sends

section Posts

variable (p : Platform) (secrets : Secrets) (req : Request)

theorem sends_flash_respond (key : String) (msg : Value) (r : Response) :
    Sends (do flash key msg; respond r) := sends_bind fun _ => sends_respond r

theorem sends_postLogin : Sends (postLogin p secrets req) := by
  intro c
  refine (postLogin_ends p secrets req c).mono ?_ (fun _ _ never => never.elim)
  rintro _ t (⟨msg, _, rfl⟩ | ⟨_, msg, _, _, _, rfl⟩ | ⟨_, _, _, _, _, _, _, _, _, answer⟩)
  · exact List.append_ne_nil_of_right_ne_nil _ (List.cons_ne_nil _ _)
  · exact List.append_ne_nil_of_right_ne_nil _ (List.cons_ne_nil _ _)
  · rw [answer]
    exact List.append_ne_nil_of_right_ne_nil _ (List.cons_ne_nil _ _)

theorem sends_postRegister : Sends (postRegister p secrets req) := by
  refine sends_attempt ?_ fun _ => sends_flash_respond _ _ _
  dsimp only
  split
  · exact sends_flash_respond _ _ _
  · refine sends_bind fun _ => sends_ite (sends_flash_respond _ _ _) ?_
    refine sends_bind fun _ => sends_bind fun _ => sends_bind fun _ => sends_bind fun _ =>
      sends_bind fun _ => sends_bind fun _ => ?_
    split
    · exact sends_flash_respond _ _ _
    · exact sends_bind fun _ => sends_bind fun _ => sends_bind fun _ => sends_bind fun _ =>
        sends_bind fun _ => sends_bind fun _ => sends_bind fun _ => sends_respond _

theorem sends_recordActivity (userId activityType : String) :
    Sends (recordActivity p req userId activityType) := by
  refine sends_bind fun _ => sends_bind fun _ => sends_ite (sends_flash_respond _ _ _)
    (sends_bind fun found => ?_)
  split
  · exact sends_bind fun _ => sends_throw _
  · exact sends_bind fun _ => sends_bind fun _ => sends_bind fun _ => sends_bind fun _ =>
      sends_bind fun _ => sends_flash_respond _ _ _

theorem sends_postCreateActivity (params : List (String × String)) :
    Sends (postCreateActivity p req params) := by
  have record := sends_recordActivity p req (param params "userId") (param params "activityType")
  refine sends_attempt (sends_bind fun _ => sends_ite (sends_ite (sends_bind fun _ => record)
    (sends_flash_respond _ _ _)) record) fun _ => sends_bind fun _ => sends_throw _

theorem sends_postUpdateUser (params : List (String × String)) :
    Sends (postUpdateUser p req params) := by
  refine sends_attempt (sends_bind fun _ => sends_bind fun found => ?_) fun _ =>
    sends_flash_respond _ _ _
  split
  · exact sends_bind fun _ => sends_throw _
  · exact sends_bind fun _ => sends_bind fun _ => sends_bind fun _ => sends_flash_respond _ _ _

/-- The upload never returns. -/
theorem sends_postUploadExcel : Sends (postUploadExcel p req) := by
  refine sends_attempt ?_ fun _ => sends_throw _
  split
  · exact sends_throw _
  · exact sends_ite (sends_throw _) (sends_bind fun _ => sends_bind fun _ => sends_bind fun _ =>
      sends_bind fun _ => sends_throw _)

theorem sends_post {handler : Handler} (params : List (String × String))
    (post : handler.isGet = false) : Sends (handle p secrets req params handler) := by
  cases handler with
  | postSubscribe => exact sends_bind fun _ => sends_respond _
  | postLogin => exact sends_postLogin p secrets req
  | postRegister => exact sends_postRegister p secrets req
  | postCreateActivity => exact sends_postCreateActivity p req params
  | postUpdateUser => exact sends_postUpdateUser p req params
  | postUploadExcel => exact sends_postUploadExcel p req
  | postEvents => exact sends_respond _
  | _ => cases post

end Posts

section Told

variable (p : Platform) (req : Request) (s : Server)

/-- What the first answer to a `GET` can be. -/
inductive FirstAnswer : Response → Prop
  | other (r : Response) (method : req.method ≠ "GET") : FirstAnswer r
  | page (r : Response) (stays : ∀ status url, r ≠ .redirect status url) : FirstAnswer r
  | home (url : String) (listed : url ∈ ["/", "/login"]) : FirstAnswer (.redirect 302 url)
  | back (fallback : String) (listed : fallback ∈ ["/", "/login"]) (turned : TurnedAway p req s) :
      FirstAnswer (.redirect 302 (backTo req fallback))
  | away (url : String) (listed : url ∈ ["/access-denied", "/admin/login", "/admin/dashboard"])
      (turned : TurnedAway p req s) : FirstAnswer (.redirect 302 url)
  | again (throws : Throws p req s) : FirstAnswer (.redirect 302 req.url)

/-- The request has an answer, and the first one is one of these. -/
def Told (t : Ctx) : Prop := ∃ r, t.responses.head? = some r ∧ FirstAnswer p req s r

variable {p req s}

theorem Told.answered {t : Ctx} {r : Response} (idle : t.sent = 0) (first : FirstAnswer p req s r) :
    Told p req s (t.answered r) := ⟨r, head_answered idle, first⟩

theorem Told.page {t : Ctx} {r : Response} (idle : t.sent = 0)
    (stays : ∀ status url, r ≠ .redirect status url) : Told p req s (t.answered r) :=
  .answered idle (.page r stays)

/-- For other methods any answer will do. -/
theorem Told.other {t : Ctx} (method : req.method ≠ "GET") (sent : t.responses ≠ []) :
    Told p req s t := by
  obtain ⟨r, rest, isCons⟩ := List.exists_cons_of_ne_nil sent
  exact ⟨r, by rw [isCons]; rfl, .other r method⟩

end Told

section Pages

variable {p : Platform} {req : Request} {s : Server} {c : Ctx}

theorem ensures_respond {r : Response} {ok : Unit → Ctx → Prop} {err : String → Ctx → Prop} :
    Ensures (respond r) c ok err ↔ ok () (c.answered r) := Iff.rfl

/-- A page that never redirects and never throws. -/
abbrev Shows (p : Platform) (req : Request) (s : Server) (x : Act Unit) (c : Ctx) : Prop :=
  Ensures x c (fun _ t => Told p req s t) (fun _ _ => False)

theorem Told.render {t : Ctx} {status : Nat} {view : String} {locals : List (String × Value)}
    (idle : t.sent = 0) : Told p req s (t.answered (.render status view locals)) :=
  .page idle (by simp)

theorem Told.send {t : Ctx} {status : Nat} {body : Value} (idle : t.sent = 0) :
    Told p req s (t.answered (.send status body)) := .page idle (by simp)

theorem getSendNotification_shows (idle : c.sent = 0) :
    Shows p req s (getSendNotification req) c := by
  unfold Shows getSendNotification
  simp only [ensures_attempt, ensures_bind, ensures_db, ensures_get, ensures_modify,
    ensures_respond]
  exact ⟨fun _ _ => .send idle, fun _ => .send (t := { c with pushed := _ }) idle⟩

theorem getRegister_shows (idle : c.sent = 0) : Shows p req s (getRegister p req) c := by
  unfold Shows getRegister
  simp only [ensures_bind, ensures_get, ensures_ite, ensures_render]
  exact ⟨fun _ => .render idle, fun _ => .render idle⟩

theorem getUpdateUser_shows (idle : c.sent = 0) : Shows p req s (getUpdateUser p req) c := by
  unfold Shows getUpdateUser
  simp only [ensures_bind, ensures_get, ensures_ite, ensures_render]
  exact ⟨fun _ => .render idle, fun _ => .render idle⟩

theorem getUserActivities_shows (idle : c.sent = 0) (userId : String) :
    Shows p req s (getUserActivities p req userId) c := by
  unfold Shows getUserActivities
  simp only [ensures_attempt, ensures_bind, ensures_whereColumn, ensures_db, ensures_get,
    ensures_respond]
  exact ⟨fun _ _ => ⟨fun _ _ => .send idle, fun _ => .send idle⟩, fun _ => .send idle⟩

theorem getDashboard_shows (idle : c.sent = 0) : Shows p req s (getDashboard req) c := by
  unfold Shows getDashboard
  simp only [ensures_attempt, ensures_bind, ensures_db, ensures_undeclared, ensures_respond]
  exact ⟨fun _ _ => .send idle, fun _ => ⟨fun _ _ => .send idle, fun _ => .send idle⟩⟩

theorem getMemberStatistics_shows (idle : c.sent = 0) :
    Shows p req s (getMemberStatistics req) c := by
  unfold Shows getMemberStatistics
  simp only [ensures_attempt, ensures_bind, ensures_db, ensures_undeclared, ensures_respond]
  exact ⟨fun _ _ => .send idle, fun _ => .send idle⟩

theorem getUnit_shows (idle : c.sent = 0) : Shows p req s getUnit c := Told.send idle

theorem showMember_shows (idle : c.sent = 0) (userId : Value) :
    Ensures (showMember p req userId) c (fun _ t => Told p req s t) (fun _ t => t.sent = 0) := by
  unfold showMember
  rw [ensures_bind]
  refine ((keeps_findUser p req userId : Keeps (Same Ctx.sent) _).ensures c).mono ?_ (fun _ _ quiet => quiet.trans idle)
  intro found t quiet
  replace quiet : t.sent = 0 := quiet.trans idle
  split
  · exact .send (t := t.flashed _ _) quiet
  · simp only [ensures_bind, ensures_setSession, ensures_whereColumn, ensures_db, ensures_get,
      ensures_render]
    exact ⟨fun _ _ => ⟨fun _ _ => quiet, fun _ => .render (t := { t with session := _ }) quiet⟩,
      fun _ => quiet⟩

/-- The member page sends a session without identifier to the login page, which needs none. -/
theorem getMemberIndex_shows (idle : c.sent = 0) : Shows p req s (getMemberIndex p req) c := by
  unfold Shows getMemberIndex
  rw [ensures_attempt, ensures_bind]
  refine ((memberId_silent p req).ensures c).mono ?_ ?_
  · intro userId t quiet
    replace quiet : t.sent = 0 := quiet.trans idle
    rw [ensures_ite]
    refine ⟨fun _ => .answered (t := t.flashed _ _) quiet (.home "/login" (by simp)), fun _ => ?_⟩
    refine (showMember_shows quiet userId).mono (fun _ _ told => told) ?_
    intro _ t' quiet'
    exact .send (t := t'.flashed _ _) quiet'
  · intro _ t quiet
    exact .send (t := t.flashed _ _) (quiet.trans idle)

/-- A logout leads to the front page, sends back a session without identifier, or fails. -/
theorem getLogout_answer (idle : c.sent = 0) :
    Ensures (getLogout p req) c
      (fun _ t => t.responses.head? = some (.redirect 302 "/") ∨
        t.responses.head? = some (.redirect 302 (backTo req "/login")) ∧
          ∃ userId, currentId p req c.session = some userId ∧ userId.truthy = false)
      (fun _ t => t.sent = 0 ∧ ∀ userId, currentId p req c.session = some userId →
        userId.truthy = true) := by
  have leaves {t : Ctx} {userId : Value} (quiet : t.sent = 0)
      (current : currentId p req c.session = some userId) :
      Ensures (logoutOf p req userId) t
        (fun _ t => t.responses.head? = some (.redirect 302 "/") ∨
          t.responses.head? = some (.redirect 302 (backTo req "/login")) ∧
            ∃ userId, currentId p req c.session = some userId ∧ userId.truthy = false)
        (fun _ t => t.sent = 0 ∧ ∀ userId, currentId p req c.session = some userId →
          userId.truthy = true) := by
    unfold logoutOf
    simp only [ensures_ite, ensures_bind, ensures_whereColumn, ensures_db, ensures_get,
      ensures_orThrow, ensures_setServer, ensures_modify, ensures_redirect, ensures_flash]
    refine ⟨fun truthy => ?_, fun falsy => .inr ⟨head_answered (t := t.flashed _ _) quiet, userId,
      current, Bool.eq_false_iff.mpr falsy⟩⟩
    have failed : t.sent = 0 ∧ ∀ userId, currentId p req c.session = some userId →
        userId.truthy = true := by
      refine ⟨quiet, fun other current' => ?_⟩
      cases Option.some.inj (current.symm.trans current')
      exact truthy
    exact ⟨fun _ _ => ⟨fun _ _ => failed, fun _ => ⟨fun _ _ => ⟨fun _ _ => failed, fun _ =>
      .inl (head_answered (t := { t with server := _, destroyed := true }) quiet)⟩,
      fun _ => failed⟩⟩, fun _ => failed⟩
  unfold getLogout
  rw [ensures_bind, ensures_get, ensures_bind]
  refine (getAgent_quiet c).mono ?_ (fun _ _ never => never.elim)
  rintro _ t ⟨rfl, _, quiet, _⟩
  replace quiet := quiet.trans idle
  simp only [ensures_bind, ensures_orThrow, ensures_ite, ensures_pure, ensures_prop]
  refine ⟨fun agent found => ⟨fun truthy => leaves quiet (if_pos truthy), fun falsy =>
    ⟨fun userId read => leaves quiet ?_, fun _ threw => ⟨quiet, ?_⟩⟩⟩, fun missing => ⟨quiet, ?_⟩⟩
  · rw [currentId, if_neg falsy, found, Option.bind_some, read]
    rfl
  · intro userId current
    rw [currentId, if_neg falsy, found, Option.bind_some, threw] at current
    cases current
  · intro userId current
    unfold currentId at current
    split at current
    · rename_i truthy
      cases Option.some.inj current
      exact truthy
    · rw [missing] at current
      cases current

/-- The answer of a handler, or of the error handler behind it. -/
abbrev Answers (p : Platform) (req : Request) (s : Server) {α : Type} (x : Act α) (c : Ctx) : Prop :=
  Ensures x c (fun _ t => Told p req s t)
    (fun _ t => req.method ≠ "GET" ∨ t.sent = 0 ∧ Throws p req s)

theorem adminError_told {handler : Handler} {params : List (String × String)} {table : TableName}
    {page msg e : String} (idle : c.sent = 0) (arrives : Arrives p req s handler.router)
    (addressed : Addressed p req handler params) (listed : table ∈ adminQueries handler)
    (fault : req.fault table .findAll = some e)
    (target : page ∈ ["/access-denied", "/admin/login", "/admin/dashboard"]) :
    Told p req s ((c.flashed "error_msg" (.str msg)).answered (.redirect 302 page)) := by
  refine .answered (t := c.flashed _ _) idle (.away page target ?_)
  exact .query handler params table arrives addressed listed (by simp [fault])

/-- The first answer of each handler. -/
theorem handle_answers (secrets : Secrets) {handler : Handler} {params : List (String × String)}
    (idle : c.sent = 0)
    (same : c.core = ({ Ctx.entry p req s with ran := some handler } : Ctx).core)
    (isGet : req.method = "GET" → handler.isGet = true)
    (arrives : Arrives p req s handler.router) (addressed : Addressed p req handler params) :
    Answers p req s (handle p secrets req params handler) c := by
  have shows {x : Act Unit} (page : Shows p req s x c) : Answers p req s x c :=
    page.mono (fun _ _ told => told) (fun _ _ never => never.elim)
  by_cases post : handler.isGet = false
  · -- every answer of the other handlers will do
    have method : req.method ≠ "GET" := by
      intro get
      rw [post] at isGet
      cases isGet get
    exact (sends_post p secrets req params post c).mono (fun _ _ sent => .other method sent)
      (fun _ _ _ => .inl method)
  · cases handler with
    | getIndex | getAccessDenied | getLogin => exact shows (Told.render idle)
    | getSendNotification => exact shows (getSendNotification_shows idle)
    | getLogout =>
      refine ((getLogout_answer idle).and (getLogout_spec p req c)).mono ?_ ?_
      · rintro _ t ⟨home | ⟨back, userId, current, falsy⟩, _⟩
        · exact ⟨_, home, .home "/" (by simp)⟩
        · rw [currentId_of_core (Ctx.session_of_core same)] at current
          exact ⟨_, back, .back "/login" (by simp) (.logout params userId arrives addressed current
            falsy)⟩
      · rintro _ t ⟨⟨quiet, named⟩, _, missing⟩
        rw [currentId_of_core (Ctx.session_of_core same)] at named
        refine .inr ⟨quiet, .logout params arrives addressed named fun record logsOut => ?_⟩
        refine missing record ?_
        rw [LogsOut, currentId_of_core (Ctx.session_of_core same), Ctx.server_of_core same]
        exact logsOut
    | getRegister => exact shows (getRegister_shows idle)
    | getMemberIndex => exact shows (getMemberIndex_shows idle)
    | getUpdateUser => exact shows (getUpdateUser_shows idle)
    | getUserActivities => exact shows (getUserActivities_shows idle _)
    | getDashboard => exact shows (getDashboard_shows idle)
    | getMemberStatistics => exact shows (getMemberStatistics_shows idle)
    | getSearchMembers | getAdvancedSearchMembers =>
      exact .inr ⟨idle, .search _ params arrives addressed (by simp)⟩
    | getUnit => exact shows (getUnit_shows idle)
    | getAdminDashboard =>
      refine shows ?_
      unfold Shows handle getAdminDashboard
      simp only [ensures_attempt, ensures_bind, ensures_db, ensures_get, ensures_render]
      refine ⟨fun e fault => ?_, fun _ => ⟨fun e fault => ?_, fun _ => .render idle⟩⟩
      · exact adminError_told idle arrives addressed (by simp [adminQueries]) fault (by simp)
      · exact adminError_told idle arrives addressed (by simp [adminQueries]) fault (by simp)
    | getAdminUsers =>
      refine shows ?_
      unfold Shows handle getAdminUsers
      simp only [ensures_attempt, ensures_bind, ensures_db, ensures_get, ensures_render]
      refine ⟨fun e fault => ?_, fun _ => .render idle⟩
      exact adminError_told idle arrives addressed (by simp [adminQueries]) fault (by simp)
    | getAdminActivities =>
      refine shows ?_
      unfold Shows handle getAdminActivities
      simp only [ensures_attempt, ensures_bind, ensures_db, ensures_get, ensures_render]
      refine ⟨fun e fault => ?_, fun _ => .render idle⟩
      exact adminError_told idle arrives addressed (by simp [adminQueries]) fault (by simp)
    | _ => exact absurd rfl post

end Pages

section Served

variable (secrets : Secrets) {p : Platform} {req : Request} {s : Server}

/-- Every request is answered, and the first answer to a `GET` is a page, a way home, a way back
for a request that is turned away, or the same URL again for one that fails. -/
theorem served_told : Told p req s (served p secrets req s) := by
  have recovered {t : Ctx} (left : req.method ≠ "GET" ∨ t.sent = 0 ∧ Throws p req s) :
      Told p req s (t.recovered req) := by
    rcases left with method | ⟨idle, throws⟩
    · exact .other method (List.append_ne_nil_of_right_ne_nil _ (List.cons_ne_nil _ _))
    · exact .answered (t := t.flashed _ _) idle (.again throws)
  refine served_walk secrets (P := fun t => Told p req s t) ?_ ?_ ?_ ?_
  · rintro t ⟨_, _, ⟨url, first, target⟩, turned⟩
    refine ⟨_, first, ?_⟩
    rcases target with rfl | rfl | rfl
    · exact .back "/" (by simp) turned
    · exact .back "/login" (by simp) turned
    · exact .away _ (by simp) turned
  · exact fun t enters throws => recovered (.inr ⟨enters.idle, throws⟩)
  · exact fun t body enters => .send enters.idle
  · intro handler params t enters arrives addressed isGet
    exact (handle_answers secrets (c := { t with ran := some handler }) enters.idle
      (enters.core_ran handler) isGet arrives addressed).mono (fun _ _ told => told)
      (fun _ _ left => recovered left)

/-- A request that tracking does not hand on is sent back. -/
theorem served_closed (closed : ¬ Opened p req ((s.sessions req.sid).getD {})) :
    (served p secrets req s).responses.head? = some (.redirect 302 (backTo req "/login")) := by
  refine Ensures.final (x := app p secrets req) (s := Ctx.start req s)
    (P := fun t => t.responses.head? = some (.redirect 302 (backTo req "/login"))) ?_
  unfold app
  rw [ensures_attempt, ensures_bind]
  simp only [layers, publicLayers, List.cons_append, List.nil_append]
  refine ensures_entry ?_ fun t _ isOpen => absurd isOpen closed
  intro t _ _ first
  exact first

/-- The front page and the login page are shown to everybody. -/
theorem served_home (get : req.method = "GET") (home : req.url ∈ ["/", "/login"]) :
    ∃ view locals, (served p secrets req s).responses.head? = some (.render 200 view locals) := by
  have isOpen : Opened p req ((s.sessions req.sid).getD {}) := by
    refine .inl ?_
    simp only [List.mem_cons, List.not_mem_nil, or_false] at home
    rcases home with url | url <;> simp [redirector, url, get]
  have plain : p.pathname req.url = req.url := by
    refine p.pathname_plain _ ?_
    simp only [List.mem_cons, List.not_mem_nil, or_false] at home
    rcases home with url | url <;> rw [url] <;> decide
  have shown {t : Ctx} {view : String} {locals : List (String × Value)} (idle : t.sent = 0) :
      ∃ view' locals', (t.answered (.render 200 view locals)).responses.head? =
        some (.render 200 view' locals') := ⟨view, locals, head_answered idle⟩
  refine Ensures.final (x := app p secrets req) (s := Ctx.start req s)
    (P := fun t => ∃ view locals, t.responses.head? = some (.render 200 view locals)) ?_
  unfold app
  rw [ensures_attempt, ensures_bind]
  simp only [layers, publicLayers, List.cons_append, List.nil_append]
  refine ensures_entry (fun t _ closed _ => absurd isOpen closed) fun t enters _ => ?_
  have idle := enters.idle
  simp only [List.mem_cons, List.not_mem_nil, or_false] at home
  rw [ensures_chain_cons]
  rcases home with url | url
  · have found : dispatch req.method (p.pathname req.url) indexRoutes = .found .getIndex [] := by
      rw [plain, get, url]
      decide
    simp only [router, found]
    exact ⟨by simp, fun _ => shown (t := { t with ran := _ }) idle⟩
  · have missed : dispatch req.method (p.pathname req.url) indexRoutes = .missed := by
      rw [plain, get, url]
      decide
    have found : dispatch req.method (p.pathname req.url) loginRoutes = .found .getLogin [] := by
      rw [plain, get, url]
      decide
    simp only [router, missed, found]
    refine ⟨fun _ => ?_, fun impossible => by cases impossible⟩
    rw [ensures_chain_cons]
    exact ⟨by simp, fun _ => shown (t := { t with ran := _ }) idle⟩

end Served

end ChurchManagement
