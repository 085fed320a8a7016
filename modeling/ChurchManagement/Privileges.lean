import ChurchManagement.Reference

namespace ChurchManagement

open Js Effect Express Sequelize History

/-- The fields of a session that say what it may do. -/
structure Rights where
  role : Value
  isWorker : Value
  isAdmin : Value

def Session.rights (s : Session) : Rights := ⟨s.role, s.isWorker, s.isAdmin⟩

/-- The flags say what the role says. -/
structure Rights.Agree (rights : Rights) : Prop where
  worker : rights.isWorker = .bool true ↔
    rights.role = .str "worker" ∨ rights.role = .str "admin"
  admin : rights.isAdmin = .bool true ↔ rights.role = .str "admin"

section Writes

variable {p : Platform} {secrets : Secrets} {req : Request} {params : List (String × String)}
  {c t : Ctx} {handler : Handler}

theorem Session.rights_of_core {s s' : Session} (same : s'.core = s.core) : s'.rights = s.rights := by
  have role := congrArg Session.role same
  have isWorker := congrArg Session.isWorker same
  have isAdmin := congrArg Session.isAdmin same
  exact Rights.mk.injEq .. ▸ ⟨role, isWorker, isAdmin⟩

/-- A login that reads the record promotes the session, the member page takes the worker flag, and
nothing else writes the rights. -/
theorem Outcome.rights (outcome : Outcome p secrets req params c t handler) :
    t.session.rights = c.session.rights ∨
      (handler = .postLogin ∧ LoginReads req ∧ ∃ user role, Matches p req c.server.users.rows user ∧
        tokenRole secrets (loginToken p req) = some role ∧
        t.session.rights = (c.session.promoted role).rights) ∨
      handler = .getMemberIndex ∧ req.fault .User .findByPk = none ∧ ∃ user ∈ c.server.users.rows,
        (Value.str user.id).truthy = true ∧ currentId p req c.session = some (.str user.id) ∧
        t.session.rights = { c.session.rights with isWorker := .bool false } := by
  cases outcome with
  | promoted user role matched stands reads stuck left =>
    have rights := Session.rights_of_core (Ctx.session_of_core left)
    exact .inr (.inl ⟨rfl, reads, user, role, matched, stands, rights⟩)
  | granted user role activities matched stands reads completes recorded answer left =>
    have rights := Session.rights_of_core (Ctx.session_of_core left)
    exact .inr (.inl ⟨rfl, reads, user, role, matched, stands, rights⟩)
  | shown user member reads truthy current left =>
    have rights := Session.rights_of_core (Ctx.session_of_core left)
    exact .inr (.inr ⟨rfl, reads, user, member, truthy, current, rights⟩)
  | _ => rename_i left; exact .inl (Session.rights_of_core (Ctx.session_of_core left) :)

theorem tracked_rights (p : Platform) (req : Request) (s : Session) :
    (tracked p req s).rights =
      if (presented p req).isSome then s.rights else { s.rights with role := .null } := by
  unfold tracked
  cases presented p req with
  | none => rfl
  | some agent =>
    simp only [Option.isSome_some, if_true]
    split
    · rfl
    · split <;> rfl

/-- The role of a token is one of three. -/
theorem tokenRole_listed {token : Value} {role : String}
    (stands : tokenRole secrets token = some role) : role ∈ ["admin", "worker", "member"] := by
  unfold tokenRole at stands
  split at stands
  · cases stands
    simp
  · split at stands
    · cases stands
      simp
    · split at stands
      · cases stands
        simp
      · cases stands

end Writes

section Agreement

theorem Rights.Agree.forget {rights : Rights} (agree : rights.Agree)
    (plain : ¬ (rights.role = .str "worker" ∨ rights.role = .str "admin")) :
    ({ rights with role := .null } : Rights).Agree := by
  refine ⟨⟨fun worker => absurd (agree.worker.mp worker) plain, by simp⟩,
    ⟨fun admin => absurd (.inr (agree.admin.mp admin)) plain, by simp⟩⟩

theorem Rights.Agree.show {rights : Rights} (agree : rights.Agree)
    (plain : ¬ (rights.role = .str "worker" ∨ rights.role = .str "admin")) :
    ({ rights with isWorker := .bool false } : Rights).Agree :=
  ⟨⟨by simp, fun privileged => absurd privileged plain⟩, agree.admin⟩

/-- A promotion sets the admin flag and never takes it back. -/
theorem Rights.Agree.promote {s : Session} {role : String} (agree : s.rights.Agree)
    (listed : role ∈ ["admin", "worker", "member"])
    (lasting : s.role = .str "admin" → role = "admin") : (s.promoted role).rights.Agree := by
  have plain (other : role ≠ "admin") : ¬ s.isAdmin = .bool true :=
    fun admin => other (lasting (agree.admin.mp admin))
  simp only [List.mem_cons, List.not_mem_nil, or_false] at listed
  rcases listed with rfl | rfl | rfl
  · exact ⟨by simp [Session.rights, Session.promoted], by simp [Session.rights, Session.promoted]⟩
  · exact ⟨by simp [Session.rights, Session.promoted],
      by simpa [Session.rights, Session.promoted] using plain (by decide)⟩
  · exact ⟨by simp [Session.rights, Session.promoted],
      by simpa [Session.rights, Session.promoted] using plain (by decide)⟩

end Agreement

section Requests

variable {p : Platform} {secrets : Secrets}

/-- The session that a request is attached to. -/
def Server.sessionOf (s : Server) (req : Request) : Session := (s.sessions req.sid).getD {}

/-- The session is one of a worker or an admin. -/
def Session.Privileged (s : Session) : Prop := s.role = .str "worker" ∨ s.role = .str "admin"

/-- The request does not move the role and the flags of its session apart. A privileged session
is used with a decodable agent only and not for the member page of a user that is found, and a
session of an admin not for a login in another role. -/
structure RightsKept (p : Platform) (secrets : Secrets) (e : Event Request Server) : Prop where
  agent : (e.before.sessionOf e.input).Privileged → (presented p e.input).isSome = true
  page : (e.before.sessionOf e.input).Privileged → ∀ params,
    Addressed p e.input .getMemberIndex params →
    (∀ roles ∈ Router.member.gates, Skips e.input (Ctx.entry p e.input e.before).session ∨
      Cleared p roles e.input e.before) →
    e.input.fault .User .findByPk = none → ∀ user ∈ e.before.users.rows,
      (Value.str user.id).truthy = true →
      currentId p e.input (Ctx.entry p e.input e.before).session ≠ some (.str user.id)
  login : (e.before.sessionOf e.input).role = .str "admin" → (presented p e.input).isSome = true →
    ∀ params, Addressed p e.input .postLogin params → LoginReads e.input →
    ∀ user role, Matches p e.input e.before.users.rows user →
      tokenRole secrets (loginToken p e.input) = some role → role = "admin"

theorem RightsKept.entry {req : Request} {s : Server} (kept : RightsKept p secrets ⟨req, s⟩)
    (agree : (s.sessionOf req).rights.Agree) : (Ctx.entry p req s).session.rights.Agree := by
  have tracks := tracked_rights p req (s.sessionOf req)
  replace tracks : (Ctx.entry p req s).session.rights = _ := tracks
  rw [tracks]
  split
  · exact agree
  · rename_i absent
    exact agree.forget fun privileged => absent (kept.agent privileged)

theorem RightsKept.served {req : Request} {s : Server} (kept : RightsKept p secrets ⟨req, s⟩)
    (agree : (s.sessionOf req).rights.Agree) : (served p secrets req s).session.rights.Agree := by
  have entered := kept.entry agree
  have role (privileged : (Ctx.entry p req s).session.rights.role ≠ .null) :
      (Ctx.entry p req s).session.rights = (s.sessionOf req).rights ∧
        (presented p req).isSome = true := by
    have tracks : (Ctx.entry p req s).session.rights = _ := tracked_rights p req (s.sessionOf req)
    rw [tracks] at privileged ⊢
    split at privileged
    · rename_i present
      exact ⟨if_pos present, present⟩
    · exact absurd rfl privileged
  rcases served_spec p secrets req s with idle | ⟨handler, params, handled⟩
  · rw [Session.rights_of_core (Ctx.session_of_core idle)]
    exact entered
  · rcases handled.done.outcome.rights with same | ⟨rfl, reads, user, stood, matched, stands, left⟩ |
      ⟨rfl, reads, user, member, truthy, current, left⟩
    · rw [same]
      exact entered
    · rw [left]
      refine Rights.Agree.promote entered (tokenRole_listed stands) fun admin => ?_
      obtain ⟨same, present⟩ := role (by
        intro none
        cases admin.symm.trans none)
      exact kept.login ((congrArg Rights.role same).symm.trans admin) present params handled.routed
        reads user stood matched stands
    · rw [left]
      refine entered.show fun privileged => ?_
      obtain ⟨same, _⟩ := role (by
        intro none
        rcases privileged with isRole | isRole <;> cases isRole.symm.trans none)
      replace privileged : (s.sessionOf req).Privileged := by
        rwa [show (Ctx.entry p req s).session.rights.role = (s.sessionOf req).role from
          congrArg Rights.role same] at privileged
      exact kept.page privileged params handled.routed handled.gated reads user member truthy current

/-- The flags of all sessions agree. -/
def Server.RightsAgree (s : Server) : Prop :=
  ∀ sid session, s.sessions sid = some session → session.rights.Agree

theorem Server.RightsAgree.serve {req : Request} {s : Server} (agree : s.RightsAgree)
    (kept : RightsKept p secrets ⟨req, s⟩) : (serve p secrets req s).RightsAgree := by
  intro sid session stored
  rcases serve_session p secrets stored with ⟨_, before⟩ | ⟨rfl, rfl⟩
  · exact agree sid session before
  · refine kept.served ?_
    unfold Server.sessionOf
    cases stored : s.sessions req.sid with
    | none => exact ⟨by simp [Session.rights], by simp [Session.rights]⟩
    | some session => exact agree req.sid session stored

/-- The flags of every session agree with its role as long as no request moves them apart. -/
theorem rights_agree {start s : Server} {log : Log} (started : start.Started)
    (reach : Runs p secrets start log s)
    (kept : Always (fun _ e => RightsKept p secrets e) log) :
    ∀ sid session, s.sessions sid = some session → session.rights.Agree := by
  have first : start.RightsAgree := by
    intro sid session stored
    rw [started.2 sid] at stored
    cases stored
  have agree : s.RightsAgree :=
    reach.invariant_state first (fun _ _ _ kept agree => agree.serve kept) kept
  exact agree

section Samples

open Reference

/-- The front page, opened from a bookmark without an agent, takes the role from the session of an
admin and leaves the flags. -/
theorem bookmark_parts_rights :
    start.Started ∧
    Runs platform keys start
      [⟨request "s1" "GET" "/", loggedIn "admin-key"⟩, ⟨loginWith "admin-key", start⟩]
      (serve platform keys (request "s1" "GET" "/") (loggedIn "admin-key")) ∧
    ¬ ∀ sid session,
      (serve platform keys (request "s1" "GET" "/") (loggedIn "admin-key")).sessions sid =
        some session → session.rights.Agree := by
  refine ⟨start_started, .next _ (login_run "admin-key"), fun agree => ?_⟩
  have parted : ((serve platform keys (request "s1" "GET" "/") (loggedIn "admin-key")).sessions
      "s1").map (fun session => (session.role, session.isAdmin)) = some (.null, .bool true) := by
    decide +kernel
  obtain ⟨session, stored, fields⟩ := Option.map_eq_some_iff.mp parted
  obtain ⟨role, isAdmin⟩ := Prod.mk.inj fields
  have admin := (agree "s1" session stored).admin.mp isAdmin
  cases admin.symm.trans role

/-- The login of an admin gives a session whose flags agree. -/
theorem admin_login_agrees :
    (loggedIn "admin-key").sessions "s1" ≠ none ∧ ∀ sid session,
      (loggedIn "admin-key").sessions sid = some session → session.rights.Agree := by
  refine ⟨fun none => ?_, rights_agree start_started (login_run "admin-key") ⟨?_, trivial⟩⟩
  · have state := (loggedIn_state "admin-key" (by decide)).2
    rw [none] at state
    cases state
  have plain : ¬ (start.sessionOf (loginWith "admin-key")).Privileged := by
    rintro (worker | admin)
    · cases worker
    · cases admin
  refine ⟨fun privileged => absurd privileged plain, fun privileged => absurd privileged plain, ?_⟩
  intro admin
  cases admin

end Samples

end Requests

end ChurchManagement
