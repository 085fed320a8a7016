import ChurchManagement.Reference

namespace ChurchManagement

open Js Effect Express Sequelize History

section Tracking

variable {p : Platform} {req : Request} {s : Session}

theorem tracked_isWorker : (tracked p req s).isWorker = s.isWorker := by
  unfold tracked
  split
  · split
    · rfl
    · split <;> rfl
  · rfl

/-- Where the identifier behind tracking comes from: the session had it, an agent chose it for a
session without one, or it was drawn. -/
theorem tracked_userId (p : Platform) (req : Request) (s : Session) : (tracked p req s).userId = s.userId ∨
    s.userId.truthy = false ∧
      ((∃ agent, presented p req = some agent ∧
        agent.data.prop "userId" = .ok (tracked p req s).userId) ∨
      presented p req = none ∧ (tracked p req s).userId = .str req.v4) := by
  unfold tracked
  split
  · rename_i agent found
    split
    · exact .inl rfl
    · rename_i falsy
      split
      · rename_i id read
        exact .inr ⟨by simpa using falsy, .inl ⟨agent, found, read⟩⟩
      · exact .inl rfl
  · rename_i missing
    by_cases truthy : s.userId.truthy = true
    · exact .inl (Value.orElse_of_truthy truthy _)
    · exact .inr ⟨by simpa using truthy, .inr ⟨missing, by simp [Value.orElse, truthy]⟩⟩

/-- Behind tracking, the identifier that a page goes by is the one of the session. -/
theorem tracked_currentId {id : Value} (current : currentId p req (tracked p req s) = some id)
    (truthy : id.truthy = true) : (tracked p req s).userId = id := by
  by_cases known : (tracked p req s).userId.truthy = true
  · rw [currentId, if_pos known] at current
    exact Option.some.inj current
  · rw [currentId, if_neg known, Option.bind_eq_some_iff] at current
    obtain ⟨agent, found, read⟩ := current
    cases value : agent.data.prop "userId" with
    | error e =>
      rw [value] at read
      cases read
    | ok other =>
      rw [value] at read
      cases read
      unfold tracked at known ⊢
      simp only [found, value] at known ⊢
      split at known
      · exact absurd ‹_› known
      · exact absurd truthy known

end Tracking

section Runs

variable {p : Platform} {secrets : Secrets}

/-- The request is a login in the session that matched a user and had the token of a worker or of
an admin. -/
def WorkerLogin (p : Platform) (secrets : Secrets) (sid : String) (e : Event Request Server) :
    Prop :=
  e.input.sid = sid ∧ (after p secrets e).ran = some .postLogin ∧ ∃ user token,
    Matches p e.input e.before.users.rows user ∧ loginToken p e.input = .str token ∧ token ≠ "" ∧
    (token = secrets.WORKER_AUTH_TOKEN ∨ token = secrets.ADMIN_AUTH_TOKEN)

/-- The session at the start of a request is a stored one, or empty. -/
theorem session_cases (s : Server) (sid : String) :
    (∃ session, s.sessions sid = some session ∧ (s.sessions sid).getD {} = session) ∨
      s.sessions sid = none ∧ (s.sessions sid).getD {} = {} := by
  cases stored : s.sessions sid with
  | some session => exact .inl ⟨session, rfl, rfl⟩
  | none => exact .inr ⟨rfl, rfl⟩

theorem entry_isWorker {req : Request} {s : Server} {P : Prop}
    (worker : (Ctx.entry p req s).session.isWorker.truthy = true)
    (known : ∀ session, s.sessions req.sid = some session → session.isWorker.truthy = true → P) :
    P := by
  simp only [Ctx.entry, tracked_isWorker] at worker
  rcases session_cases s req.sid with ⟨session, stored, same⟩ | ⟨_, empty⟩
  · exact known session stored (same ▸ worker)
  · rw [empty] at worker
    cases worker

theorem Runs.isWorker {start s : Server} {log : Log} (started : start.Started)
    (reach : Runs p secrets start log s) {sid : String} {session : Session}
    (stored : s.sessions sid = some session) (worker : session.isWorker.truthy = true) :
    ∃ e ∈ log, WorkerLogin p secrets sid e := by
  induction reach generalizing sid session with
  | start =>
    rw [started.2 sid] at stored
    cases stored
  | @next log s req previous ih =>
    have before {sid : String} {session : Session} (stored : s.sessions sid = some session)
        (worker : session.isWorker.truthy = true) :
        ∃ e ∈ (⟨req, s⟩ :: log : Log), WorkerLogin p secrets sid e := by
      obtain ⟨e, earlier, login⟩ := ih stored worker
      exact ⟨e, List.mem_cons_of_mem _ earlier, login⟩
    have kept (worker : (Ctx.entry p req s).session.isWorker.truthy = true) :
        ∃ e ∈ (⟨req, s⟩ :: log : Log), WorkerLogin p secrets req.sid e :=
      entry_isWorker worker fun _ stored flag => before stored flag
    rcases serve_session p secrets stored with ⟨_, old⟩ | ⟨rfl, rfl⟩
    · exact before old worker
    · rcases served_spec p secrets req s with idle | ⟨handler, params, handled⟩
      · have same := congrArg Session.isWorker (Ctx.session_of_core idle)
        exact kept (same ▸ worker)
      · rcases handled.done.outcome.isWorker worker with flag |
          ⟨rfl, user, role, matched, stands, isRole⟩
        · exact kept flag
        · refine ⟨_, List.mem_cons_self, rfl, handled.ran, user, ?_⟩
          rcases isRole with rfl | rfl
          · obtain ⟨token, nonempty⟩ := tokenRole_admin stands
            exact ⟨_, matched, token, nonempty, .inr rfl⟩
          · obtain ⟨token, nonempty⟩ := tokenRole_worker stands
            exact ⟨_, matched, token, nonempty, .inl rfl⟩

/-- The row that `create-activity` adds belongs to the path's user, who is the session's unless the
session is a worker's. -/
theorem Records.row {req : Request} {params : List (String × String)} {c : Ctx}
    {activities : Table ActivityColumn} (records : Records p req params c activities) :
    ∃ row, activities.rows = c.server.activities.rows ++ [row] ∧
      (p.store .uuid c.session.userId = some (row.get .USERID) ∨
        c.session.isWorker.truthy = true) := by
  obtain ⟨owner, user, response, row, _, _, made, inserted⟩ := records
  refine ⟨row, Table.insert_rows inserted, owner.imp_left fun own => ?_⟩
  have stored := write_get p.toOrm made .USERID
  rw [own]
  exact stored

/-- A session with the worker flag has logged in with the token of a worker or admin, and so has
every session that has recorded an activity for somebody else. -/
theorem worker_flag_needs_login {start s : Server} {log : Log} (started : start.Started)
    (reach : Runs p secrets start log s) :
    (∀ sid session, s.sessions sid = some session → session.isWorker.truthy = true →
      ∃ e ∈ log, WorkerLogin p secrets sid e) ∧
    Always (fun earlier e => (after p secrets e).ran = some .postCreateActivity →
      ∀ row ∈ (after p secrets e).server.activities.rows, row ∉ e.before.activities.rows →
        p.store .uuid (after p secrets e).session.userId ≠ some (row.get .USERID) →
        ∃ login ∈ earlier, WorkerLogin p secrets e.input.sid login) log := by
  refine ⟨fun sid session stored worker => Runs.isWorker started reach stored worker,
    reach.always (fun log s req reach _ _ ran row member new foreign => ?_) (always_trivial log)⟩
  obtain ⟨params, handled⟩ := handled_of_ran ran
  have outcome := handled.done.outcome
  have id : (served p secrets req s).session.userId = (Ctx.entry p req s).session.userId := by
    rcases outcome.userId with same | ⟨login, _⟩ | ⟨page, _⟩
    · exact same
    · cases login
    · cases page
  rcases outcome.activities with same | ⟨login, _⟩ | ⟨logout, _⟩ | ⟨_, records⟩
  · exact absurd (same ▸ member) new
  · cases login
  · cases logout
  · obtain ⟨added, rows, owner⟩ := records.row
    replace member : row ∈ s.activities.rows ++ [added] := rows ▸ member
    cases List.mem_singleton.mp ((List.mem_append.mp member).resolve_left new)
    rcases owner with own | worker
    · rw [after, id] at foreign
      exact absurd own foreign
    · exact entry_isWorker worker fun session stored flag => Runs.isWorker started reach stored flag

open Reference in
/-- A worker's login sets the flag. -/
theorem worker_login_flagged :
    (served platform keys (loginWith "worker-key") start).session.isWorker = .bool true ∧
    ∃ e ∈ [⟨loginWith "worker-key", start⟩], WorkerLogin platform keys "s1" e := by
  have left : (served platform keys (loginWith "worker-key") start).session.isWorker = .bool true ∧
      (served platform keys (loginWith "worker-key") start).destroyed = false := by decide +kernel
  have stored := serve_stored platform keys left.2
  exact ⟨left.1, (worker_flag_needs_login start_started (login_run "worker-key")).1 "s1" _ stored
    (by rw [left.1]; rfl)⟩

/-- A login of the user has ended in success in the session. -/
def LoggedIn (p : Platform) (secrets : Secrets) (log : Log) (sid id : String) : Prop :=
  ∃ e ∈ log, e.input.sid = sid ∧ ∃ user role, LogsIn p secrets e user role ∧ user.id = id

/-- The identifiers drawn for a request are new: the one for a session names no user, and no
session has the one for a user. -/
def Fresh (p : Platform) (e : Event Request Server) : Prop :=
  (∀ user ∈ e.before.users.rows, user.id ≠ e.input.v4) ∧
    (Ctx.entry p e.input e.before).session.userId ≠ .str (e.input.rowId 0) ∧
    ∀ sid session, e.before.sessions sid = some session →
      session.userId ≠ .str (e.input.rowId 0)

/-- The request does not make its session that of a user without a login: an agent that names a
user comes with a session that has an identifier, and a login that matches a user comes to its
end. -/
structure Honest (p : Platform) (secrets : Secrets) (e : Event Request Server) : Prop where
  unclaimed : ∀ agent, presented p e.input = some agent → ∀ user ∈ e.before.users.rows,
    agent.data.prop "userId" = .ok (.str user.id) →
    ((e.before.sessions e.input.sid).getD {}).userId.truthy = true
  completed : ∀ params, Addressed p e.input .postLogin params → ∀ user,
    Matches p e.input e.before.users.rows user → Completes p secrets e.input e.before user

/-- Every session that has the identifier of a user is one in which the user has logged in. -/
def Identified (p : Platform) (secrets : Secrets) (log : Log) (s : Server) : Prop :=
  ∀ sid session, s.sessions sid = some session → ∀ user ∈ s.users.rows,
    session.userId = .str user.id → LoggedIn p secrets log sid user.id

theorem LoggedIn.later {log : Log} {sid id : String} (login : LoggedIn p secrets log sid id)
    (e : Event Request Server) : LoggedIn p secrets (e :: log) sid id := by
  obtain ⟨old, member, rest⟩ := login
  exact ⟨old, List.mem_cons_of_mem _ member, rest⟩

/-- Tracking gives no session the identifier of a user, whether the user is there already or the
request adds it. -/
theorem Identified.entry {log : Log} {req : Request} {s : Server}
    (identified : Identified p secrets log s) (fresh : Fresh p ⟨req, s⟩)
    (honest : Honest p secrets ⟨req, s⟩) {id : String}
    (known : (∃ user ∈ s.users.rows, user.id = id) ∨ id = req.rowId 0)
    (names : (Ctx.entry p req s).session.userId = .str id) :
    LoggedIn p secrets log req.sid id := by
  rcases known with ⟨user, member, rfl⟩ | rfl
  · change (tracked p req ((s.sessions req.sid).getD {})).userId = .str user.id at names
    rcases tracked_userId p req ((s.sessions req.sid).getD {}) with
      same | ⟨falsy, ⟨agent, found, read⟩ | ⟨_, drawn⟩⟩
    · rw [same] at names
      rcases session_cases s req.sid with ⟨session, stored, isSession⟩ | ⟨_, empty⟩
      · exact identified _ session stored user member (isSession ▸ names)
      · rw [empty] at names
        cases names
    · rw [names] at read
      have truthy := honest.unclaimed agent found user member read
      rw [falsy] at truthy
      cases truthy
    · rw [names] at drawn
      exact absurd (Value.str.inj drawn) (fresh.1 user member)
  · exact absurd names fresh.2.1

theorem Identified.served {log : Log} {req : Request} {s : Server}
    (identified : Identified p secrets log s) (fresh : Fresh p ⟨req, s⟩)
    (honest : Honest p secrets ⟨req, s⟩) {id : String}
    (known : (∃ user ∈ s.users.rows, user.id = id) ∨ id = req.rowId 0)
    (names : (served p secrets req s).session.userId = .str id) :
    LoggedIn p secrets (⟨req, s⟩ :: log) req.sid id := by
  rcases served_spec p secrets req s with idle | ⟨handler, params, handled⟩
  · rw [Session.userId_of_core (Ctx.session_of_core idle)] at names
    exact (identified.entry fresh honest known names).later _
  · rcases handled.done.outcome.userId with same | ⟨rfl, found, matched, set, ending⟩ |
      ⟨rfl, shown, _, truthy, current, set⟩
    · rw [same] at names
      exact (identified.entry fresh honest known names).later _
    · rw [set, Value.str.injEq] at names
      rcases ending with stuck | ⟨role, stands, answer⟩
      · exact absurd (honest.completed params handled.routed found matched) stuck
      · exact ⟨_, List.mem_cons_self, rfl, found, role, ⟨handled.ran, matched, stands, answer⟩, names⟩
    · -- the member page keeps the identifier that tracking has left
      rw [set] at names
      have kept := tracked_currentId current truthy
      exact (identified.entry fresh honest known (kept.trans names)).later _

/-- In a run without claimed identifiers and unfinished logins, every session with the identifier
of a user has logged in as that user. -/
theorem honest_sessions_identified {start s : Server} {log : Log} (started : start.Started)
    (reach : Runs p secrets start log s) (fresh : Always (fun _ e => Fresh p e) log)
    (honest : Always (fun _ e => Honest p secrets e) log) : Identified p secrets log s := by
  refine reach.invariant ?_ ?_ (fresh.and honest)
  · intro sid session stored
    rw [started.2 sid] at stored
    cases stored
  · intro log s req _ _ ⟨fresh, honest⟩ identified sid session stored user member names
    have origin := served_user_origin p secrets req s member
    rcases serve_session p secrets stored with ⟨_, old⟩ | ⟨rfl, rfl⟩
    · rcases origin with ⟨before, present, same⟩ | drawn
      · rw [← same] at names ⊢
        exact (identified sid session old before present names).later _
      · rw [drawn] at names
        exact absurd names (fresh.2.2 sid session old)
    · exact identified.served fresh honest origin names

section Samples

open Reference

/-- A first request whose agent names the member. -/
def claiming : Request :=
  request "s1" "GET" ("/?agent=\x7b\"data\":\x7b\"userId\":\"" ++ adaId ++ "\"\x7d\x7d")

/-- A visitor's session has the identifier of the member, who has never logged in. -/
theorem claimed_identifier_without_login :
    Runs platform keys start [⟨claiming, start⟩] (serve platform keys claiming start) ∧
    ¬ Identified platform keys [⟨claiming, start⟩] (serve platform keys claiming start) := by
  have left : (served platform keys claiming start).ran = some .getIndex ∧
      (served platform keys claiming start).session.userId = .str adaId ∧
      (served platform keys claiming start).destroyed = false := by decide +kernel
  obtain ⟨ran, names, alive⟩ := left
  have stored := serve_stored platform keys alive
  refine ⟨.next _ .start, fun identified => ?_⟩
  obtain ⟨user, member, same⟩ := served_keeps_user platform keys claiming start ada_mem
  rw [show adaId = user.id from same.symm] at names
  rw [← serve_users] at member
  obtain ⟨e, only, _, _, _, login, _⟩ := identified _ _ stored user member names
  cases List.mem_singleton.mp only
  have never := ran.symm.trans login.1
  simp at never

theorem login_fresh : Fresh platform ⟨loginWith "", start⟩ := by
  refine ⟨fun user member => ?_, by decide +kernel, fun _ _ stored => by cases stored⟩
  rw [List.mem_singleton.mp member]
  decide

theorem login_completes : Completes platform keys (loginWith "") start ada := by
  have role : tokenRole keys (loginToken platform (loginWith "")) = some "member" := by
    decide +kernel
  have made : (create platform.toOrm ((loginWith "").rowId 0) (("USERID", .str ada.id) ::
      agentRecord platform (loginWith "") "member") : Option Activity).isSome = true := by
    decide +kernel
  obtain ⟨record, made⟩ := Option.isSome_iff_exists.mp made
  exact ⟨rfl, "member", _, role, rfl, record, made, dif_pos (by simp [start])⟩

theorem login_honest : Honest platform keys ⟨loginWith "", start⟩ where
  unclaimed agent found user _ read := by
    have nobody : (presented platform (loginWith "")).all
        (fun agent => decide (agent.data = .obj [])) = true := by decide +kernel
    rw [found] at nobody
    rw [of_decide_eq_true nobody] at read
    cases read
  completed _ _ user matched := by
    cases List.mem_singleton.mp (Matches.mem platform matched)
    exact login_completes

/-- A login makes the session the member's. -/
theorem login_identifies : LoggedIn platform keys [⟨loginWith "", start⟩] "s1" adaId := by
  obtain ⟨session, stored, names⟩ := Option.map_eq_some_iff.mp (loggedIn_state "" (by decide)).2
  obtain ⟨user, member, same⟩ := served_keeps_user platform keys (loginWith "") start ada_mem
  rw [show adaId = user.id from same.symm] at names ⊢
  rw [← serve_users] at member
  exact honest_sessions_identified start_started (login_run "") ⟨login_fresh, trivial⟩
    ⟨login_honest, trivial⟩ "s1" _ stored user member names

end Samples

end Runs

end ChurchManagement
