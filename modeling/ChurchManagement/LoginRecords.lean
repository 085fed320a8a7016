import ChurchManagement.Reference

namespace ChurchManagement

open Js Effect Express Sequelize History

section

variable {p : Platform} {secrets : Secrets}

/-- The rows of a table whose identifier another table does not have. -/
def newRows {Col : Type} [Model Col] (before after : Table Col) : List (Row Col) :=
  after.rows.filter fun row => row.id ∉ before.rows.map Row.id

theorem newRows_self {Col : Type} [Model Col] (table : Table Col) : newRows table table = [] := by
  rw [newRows, List.filter_eq_nil_iff]
  intro row member
  simpa using ⟨row, member, rfl⟩

theorem newRows_insert {Col : Type} [Model Col] {row : Row Col} {before after : Table Col}
    (inserted : before.insert row = some after) : newRows before after = [row] := by
  have fresh := Table.insert_fresh inserted
  have none := newRows_self before
  rw [newRows] at none
  rw [newRows, Table.insert_rows inserted, List.filter_append, none, List.nil_append,
    List.filter_cons_of_pos (by simpa using fresh), List.filter_nil]

/-- The rows that a request has created through `create-activity`. -/
def createdBy (p : Platform) (secrets : Secrets) (e : Event Request Server) : List Activity :=
  if (after p secrets e).ran = some .postCreateActivity then
    newRows e.before.activities (after p secrets e).server.activities
  else []

/-- The activities that the requests of a run have created, the oldest first. -/
def createdActivities (p : Platform) (secrets : Secrets) : Log → List Activity
  | [] => []
  | e :: earlier => createdActivities p secrets earlier ++ createdBy p secrets e

/-- The request leaves the activities alone unless it creates one: a login that comes to its end
is by a user who has an activity, and a logout finds none. -/
structure SparesActivities (p : Platform) (secrets : Secrets) (e : Event Request Server) : Prop where
  login : ∀ params user, Addressed p e.input .postLogin params →
    Matches p e.input e.before.users.rows user → Completes p secrets e.input e.before user →
    (agentRow p e.before.activities.rows user.id).isSome = true
  logout : ∀ params, Addressed p e.input .getLogout params →
    ∀ record, ¬ LogsOut p e.input (Ctx.entry p e.input e.before) record

/-- The table after a request that spares it: the same, or with the one row it creates. -/
theorem SparesActivities.served {req : Request} {s : Server}
    (spares : SparesActivities p secrets ⟨req, s⟩) :
    (served p secrets req s).server.activities = s.activities ∨
      (served p secrets req s).ran = some .postCreateActivity ∧
      ∃ row, s.activities.insert row = some (served p secrets req s).server.activities := by
  rcases served_spec p secrets req s with idle | ⟨handler, params, handled⟩
  · exact .inl (congrArg Server.activities (Ctx.server_of_core idle))
  · rcases handled.done.outcome.activities with same | ⟨rfl, user, role, matched, completes,
      recorded⟩ | ⟨rfl, record, logsOut, _⟩ | ⟨rfl, _, _, _, row, _, _, _, inserted⟩
    · exact .inl same
    · have known := spares.login params user handled.routed matched completes
      obtain ⟨record, found⟩ := Option.isSome_iff_exists.mp known
      change AgentRecorded p req user.id role (agentRow p s.activities.rows user.id) s.activities _
        at recorded
      rw [found] at recorded
      exact .inl recorded.2
    · exact absurd logsOut (spares.logout params handled.routed record)
    · exact .inr ⟨handled.ran, row, inserted⟩

theorem SparesActivities.rows {e : Event Request Server} (spares : SparesActivities p secrets e) :
    (after p secrets e).server.activities.rows =
      e.before.activities.rows ++ createdBy p secrets e := by
  rcases spares.served with same | ⟨ran, row, inserted⟩
  · have none : createdBy p secrets e = [] := by
      rw [createdBy, after, same, newRows_self, ite_self]
    rw [none, List.append_nil, after, same]
  · have one : createdBy p secrets e = [row] := by
      rw [createdBy, after, if_pos ran, newRows_insert inserted]
    rw [one, after, Table.insert_rows inserted]

/-- Along a run that spares them, the activities are those of the start followed by the created
ones, and neither a login nor a logout has touched them. -/
theorem spared_activities_preserved {start s : Server} {log : Log}
    (reach : Runs p secrets start log s)
    (spares : Always (fun _ e => SparesActivities p secrets e) log) :
    s.activities.rows = start.activities.rows ++ createdActivities p secrets log ∧
    Always (fun _ e => (after p secrets e).ran ∈ [some .postLogin, some .getLogout] →
      (after p secrets e).server.activities = e.before.activities) log := by
  constructor
  · induction reach with
    | start => exact (List.append_nil _).symm
    | @next log s req previous ih =>
      rw [createdActivities, ← List.append_assoc, ← ih spares.2]
      exact spares.1.rows
  · refine reach.always (fun _ s req _ _ spares ran => ?_) spares
    rcases spares.served with same | ⟨other, _⟩
    · exact same
    · rw [after, other] at ran
      simp at ran

open Reference in
/-- The login of a member without activities adds one. -/
theorem login_adds_activity :
    Runs platform keys start [⟨loginWith "", start⟩] (loggedIn "") ∧
    (loggedIn "").activities.rows ≠
      start.activities.rows ++ createdActivities platform keys [⟨loginWith "", start⟩] := by
  have one : (loggedIn "").activities.rows.length = 1 := by decide +kernel
  have ran : (served platform keys (loginWith "") start).ran = some .postLogin := by decide +kernel
  have none : createdActivities platform keys [⟨loginWith "", start⟩] = [] := by
    simp [createdActivities, createdBy, after, ran]
  refine ⟨login_run "", fun same => ?_⟩
  rw [same, none] at one
  cases one

open Reference in
/-- The login of a member who has an activity leaves it alone. -/
theorem login_spares_attended :
    (serve platform keys (loginWith "") startAttended).activities.rows = [attended] ++
      createdActivities platform keys [⟨loginWith "", startAttended⟩] := by
  have missed : (dispatch (loginWith "").method (platform.pathname (loginWith "").url)
      Router.login.routes).target = some .postLogin := by decide +kernel
  have spares : SparesActivities platform keys ⟨loginWith "", startAttended⟩ :=
    { login := fun _ user _ matched _ => by
        cases List.mem_singleton.mp (Matches.mem platform matched)
        decide +kernel
      logout := fun _ addressed => by
        rw [show dispatch _ _ Router.login.routes = _ from addressed] at missed
        cases missed }
  have run : Runs platform keys startAttended _ _ := .next (loginWith "") .start
  exact (spared_activities_preserved run ⟨spares, trivial⟩).1

/-- The agent record that `validateAgent` finds for a user agrees with the agent that a login has
handed out. -/
def AgentAgrees (p : Platform) (s : Server) (req : Request) (userId role : String) : Prop :=
  ∃ record : UserAgent,
    findOne p.toOrm (fun row => decide (row.get .USERID = .str userId)) s.userAgents.rows =
      some record ∧
    record.get .ROLE = .str role ∧
    record.get .IPADDRESS = (loginAgent p req userId role).data.propD "ipAddress" ∧
    record.get .USERAGENT = (loginAgent p req userId role).data.propD "userAgent" ∧
    record.get .LASTACTIVITY = (loginAgent p req userId role).lastActivity

theorem Runs.userAgents {start s : Server} {log : Log} (reach : Runs p secrets start log s) :
    s.userAgents = start.userAgents := by
  induction reach with
  | start => rfl
  | @next log s req previous ih =>
    rw [serve_userAgents, ← ih]
    rcases served_spec p secrets req s with idle | ⟨handler, params, handled⟩
    · exact congrArg Server.userAgents (Ctx.server_of_core idle)
    · exact handled.done.outcome.userAgents

/-- A date column never holds the object that a login takes for the time. -/
theorem not_agentAgrees (s : Server) (req : Request) (userId role : String) :
    ¬ AgentAgrees p s req userId role := by
  rintro ⟨record, _, _, _, _, activity⟩
  have holds := record.holds .LASTACTIVITY
  rw [activity] at holds
  simp [Attribute.Holds, Model.declared, loginAgent, DataType.reads] at holds

/-- A login writes no agent record, and no record that is there agrees with the agent it hands
out, neither right after the login nor later. -/
theorem login_agent_never_agrees {start s : Server} {later earlier : Log}
    {login : Event Request Server} {user : User} {role : String}
    (reach : Runs p secrets start (later ++ login :: earlier) s)
    (_ : LogsIn p secrets login user role) :
    s.userAgents = start.userAgents ∧ ¬ AgentAgrees p s login.input user.id role :=
  ⟨reach.userAgents, not_agentAgrees s login.input user.id role⟩

open Reference in
/-- After the member's login there is no agent record to compare her agent with. -/
theorem login_leaves_no_agent_record :
    ∃ user role, LogsIn platform keys ⟨loginWith "", start⟩ user role ∧ user.id = adaId ∧
      (loggedIn "").userAgents.rows = [] ∧
      ¬ AgentAgrees platform (loggedIn "") (loginWith "") user.id role := by
  obtain ⟨user, role, login, same⟩ := login_logsIn "" (by decide)
  refine ⟨user, role, login, same, ?_, not_agentAgrees _ _ _ _⟩
  rw [Runs.userAgents (login_run "")]
  rfl

open Reference in
theorem login_agent_disagrees :
    ∃ user role, LogsIn platform keys ⟨loginWith "", start⟩ user role ∧
      ¬ AgentAgrees platform (loggedIn "") (loginWith "") user.id role := by
  obtain ⟨user, role, login, _⟩ := login_logsIn "" (by decide)
  have run : Runs platform keys start ([] ++ [⟨loginWith "", start⟩]) (loggedIn "") := login_run ""
  exact ⟨user, role, login, (login_agent_never_agrees run login).2⟩

end

end ChurchManagement
