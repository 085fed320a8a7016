import ChurchManagement.Access

namespace ChurchManagement

open Js Effect Express Sequelize History

section

variable {p : Platform} {secrets : Secrets}

/-- The request presents an agent of the user. -/
def Carries (p : Platform) (e : Event Request Server) (id : String) : Prop :=
  ∃ agent, presented p e.input = some agent ∧ agent.data.prop "userId" = .ok (.str id)

/-- The logout handler has run for an agent of the user. -/
def LogoutOf (p : Platform) (secrets : Secrets) (e : Event Request Server) (id : String) : Prop :=
  (after p secrets e).ran = some .getLogout ∧ Carries p e id

/-- A logout destroys its session, and from then on the agents of its user reach no protected
handler before the user logs in again. -/
def Revoked (p : Platform) (secrets : Secrets) (earlier : Log) (e : Event Request Server) : Prop :=
  (∀ id, LogoutOf p secrets e id → (after p secrets e).destroyed = true) ∧
    ∀ id later logout before, earlier = later ++ logout :: before → LogoutOf p secrets logout id →
      (∀ login ∈ later, ∀ user role, LogsIn p secrets login user role → user.id ≠ id) →
      Carries p e id → ∀ handler, (after p secrets e).ran = some handler →
        handler.router ∉ [.member, .dashboard, .admin]

/-- A logout finds an activity of its session's user and nothing keeps the agent's user allowed;
and the request does not use the skip. -/
structure Revocable (p : Platform) (e : Event Request Server) : Prop where
  record : ∀ params id, Addressed p e.input .getLogout params → Carries p e id →
    ∃ record, LogsOut p e.input (Ctx.entry p e.input e.before) record
  unlisted : ∀ params id, Addressed p e.input .getLogout params → Carries p e id →
    id ∉ e.before.allowedID
  gated : ¬ SkipsGate p e

/-- Who is not allowed stays so until a login. -/
theorem Runs.stays_out {start s : Server} {later before : Log} {e : Event Request Server}
    {id : String} (out : id ∉ e.before.allowedID) (reach : Runs p secrets start (later ++ e :: before) s)
    (absent : ∀ login ∈ e :: later, ∀ user role, LogsIn p secrets login user role → user.id ≠ id) :
    id ∉ s.allowedID := by
  have step {req : Request} {s : Server} (out : id ∉ s.allowedID)
      (other : ∀ user role, LogsIn p secrets ⟨req, s⟩ user role → user.id ≠ id) :
      id ∉ (serve p secrets req s).allowedID := by
    rw [serve_allowedID]
    rcases served_allowedID p secrets req s with same | ⟨user, role, login, added⟩
    · rwa [same]
    · rw [added, List.mem_append, List.mem_singleton]
      exact fun member => member.elim out fun new => other user role login new.symm
  induction later generalizing s with
  | nil =>
    cases reach with
    | next req previous => exact step out fun user role => absent _ List.mem_cons_self user role
  | cons last later ih =>
    cases reach with
    | next req previous =>
      refine step (ih previous fun login member => absent login ?_) fun user role =>
        absent _ (by simp) user role
      rcases List.mem_cons.mp member with rfl | old
      · exact List.mem_cons_self
      · exact List.mem_cons_of_mem _ (List.mem_cons_of_mem _ old)

theorem LogoutOf.not_login {e : Event Request Server} {id : String}
    (logout : LogoutOf p secrets e id) (user : User) (role : String) :
    ¬ LogsIn p secrets e user role := by
  rintro ⟨login, _⟩
  rw [logout.1] at login
  cases login

theorem LogoutOf.destroyed {e : Event Request Server} {id : String} (revocable : Revocable p e)
    (logout : LogoutOf p secrets e id) : (after p secrets e).destroyed = true := by
  obtain ⟨params, handled⟩ := handled_of_ran logout.1
  obtain ⟨record, found⟩ := revocable.record params id handled.routed logout.2
  rcases handled.done with ⟨_, _, left⟩ | ⟨_, missing⟩
  · exact (congrArg Ctx.destroyed left :)
  · exact absurd found (missing record)

/-- In a run whose logouts find an activity and no allowed user, and that never uses the skip,
every logout takes its effect. -/
theorem revocable_logouts_revoke {start s : Server} {log : Log}
    (reach : Runs p secrets start log s) (revocable : Always (fun _ e => Revocable p e) log) :
    Always (Revoked p secrets) log := by
  refine reach.always (fun log s req reach assumed revocable => ⟨fun id logout =>
    logout.destroyed revocable, ?_⟩) revocable
  rintro id later logout before rfl out absent ⟨agent, found, names⟩ handler ran guarded
  obtain ⟨params, handled⟩ := handled_of_ran out.1
  have unlisted := assumed.at.unlisted params id handled.routed out.2
  have notAllowed : id ∉ s.allowedID := by
    refine Runs.stays_out unlisted reach fun login member user role logsIn => ?_
    rcases List.mem_cons.mp member with rfl | old
    · exact absurd logsIn (out.not_login user role)
    · exact absent login old user role logsIn
  have isGuarded : handler.router = .member ∨ handler.router = .dashboard ∨
      handler.router = .admin := by simpa using guarded
  obtain ⟨roles, gate⟩ : ∃ roles, roles ∈ handler.router.gates := by
    rcases isGuarded with router | router | router <;> rw [router] <;> exact ⟨_, List.mem_cons_self⟩
  obtain ⟨agent', id', _, found', _, _, _, _, names', allowed⟩ :=
    cleared_unless_skipped ran isGuarded revocable.gated roles gate
  cases Option.some.inj (found.symm.trans found')
  rw [names, Except.ok.injEq, Value.str.injEq] at names'
  exact notAllowed (names' ▸ allowed)

section Samples

open Reference

def leaving : Request := visit "s1" "GET" "/logout" "member"

/-- The member's agent in another session. -/
def returning : Request := visit "s2" "GET" "/memberIndex" "member"

theorem leaving_carries (s : Server) : Carries platform ⟨leaving, s⟩ adaId :=
  ⟨_, presented_visit _ _ (by decide) (by decide), rfl⟩

theorem returning_carries (s : Server) : Carries platform ⟨returning, s⟩ adaId :=
  ⟨_, presented_visit _ _ (by decide) (by decide), rfl⟩

theorem logout_leads : Leads "GET" "/logout" .getLogout [] := by decide +kernel

/-- The logout keeps the member allowed, and the other session is new. -/
theorem returning_ran :
    (served platform keys returning (serve platform keys leaving (loggedIn ""))).ran =
      some .getMemberIndex := by
  have allowed : adaId ∈ (serve platform keys leaving (loggedIn "")).allowedID := by
    have before : adaId ∈ (loggedIn "").allowedID := by
      rw [(loggedIn_state "" (by decide)).1]
      exact List.mem_singleton.mpr rfl
    rw [serve_allowedID]
    rcases served_allowedID platform keys leaving (loggedIn "") with same | ⟨_, _, _, added⟩
    · rwa [same]
    · rw [added]
      exact List.mem_append_left _ before
  exact ran_visit memberIndex_leads (by decide)
    (fun roles gate => ⟨by revert roles; decide, allowed⟩) (.inl rfl)

/-- After login and logout the member's agent still opens the page for members. -/
theorem agent_outlives_logout :
    Runs platform keys start
      [⟨returning, serve platform keys leaving (loggedIn "")⟩, ⟨leaving, loggedIn ""⟩,
        ⟨loginWith "", start⟩]
      (serve platform keys returning (serve platform keys leaving (loggedIn ""))) ∧
    ¬ Always (Revoked platform keys)
      [⟨returning, serve platform keys leaving (loggedIn "")⟩, ⟨leaving, loggedIn ""⟩,
        ⟨loginWith "", start⟩] := by
  have left : (served platform keys leaving (loggedIn "")).ran = some .getLogout :=
    ran_visit_loggedIn (by decide) logout_leads (by decide) (by decide)
  refine ⟨.next _ (.next _ (login_run "")), fun revoked => ?_⟩
  have reached := revoked.1.2 adaId [] _ _ rfl ⟨left, leaving_carries _⟩
    (fun _ none => by cases none) (returning_carries _) _ returning_ran
  exact reached (by decide)

/-- A logout in a new session finds the activity of the agent's user. -/
theorem leaving_logsOut : LogsOut platform leaving (Ctx.entry platform leaving startAttended) attended := by
  have found : presented platform leaving = some _ := presented_visit _ _ (by decide) (by decide)
  have session : tracked platform leaving ((startAttended.sessions leaving.sid).getD {}) =
      { userId := .str adaId } := tracked_new platform found rfl rfl
  have row : findOne platform.toOrm (fun row => decide (row.get ActivityColumn.USERID = .str adaId))
      startAttended.activities.rows = some attended := by
    rw [findOne, startAttended, List.filter_cons_of_pos (by decide)]
    rfl
  refine ⟨Option.isSome_iff_exists.mpr ⟨_, found⟩, .str adaId, _, ?_, by decide, rfl, rfl, row, rfl⟩
  rw [Ctx.entry, session]
  decide

/-- A member who has not logged in since the start is logged out, and the agent opens the page for
members no more. -/
theorem logout_of_attended : (served platform keys leaving startAttended).destroyed = true ∧
    (served platform keys returning (serve platform keys leaving startAttended)).ran ≠
      some .getMemberIndex := by
  have ran : (served platform keys leaving startAttended).ran = some .getLogout :=
    ran_visit logout_leads (by decide) (by decide) (.inl rfl)
  have revocable : Revocable platform ⟨leaving, startAttended⟩ :=
    { record := fun _ _ _ _ => ⟨attended, leaving_logsOut⟩
      unlisted := fun _ _ _ _ => List.not_mem_nil
      gated := visit_not_skipsGate rfl (by decide) }
  have missed : (dispatch "GET" (platform.pathname returning.url) Router.login.routes).target ≠
      some .getLogout := by decide +kernel
  generalize after : serve platform keys leaving startAttended = s
  have elsewhere : ∀ params, ¬ Addressed platform returning .getLogout params :=
    fun params addressed => missed (congrArg Dispatch.target addressed)
  have run : Runs platform keys startAttended [⟨returning, s⟩, ⟨leaving, startAttended⟩]
      (serve platform keys returning s) := .next returning (after ▸ .next leaving .start)
  have revoked := revocable_logouts_revoke run ⟨⟨fun params _ addressed =>
    absurd addressed (elsewhere params), fun params _ addressed =>
      absurd addressed (elsewhere params), visit_not_skipsGate rfl (by decide)⟩, revocable, trivial⟩
  refine ⟨revoked.2.1.1 adaId ⟨ran, leaving_carries _⟩, fun opened => ?_⟩
  exact revoked.1.2 adaId [] _ _ rfl ⟨ran, leaving_carries _⟩ (fun _ none => by cases none)
    (returning_carries _) _ opened (by decide)

end Samples

end

end ChurchManagement
