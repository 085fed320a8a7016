import ChurchManagement.History
import ChurchManagement.Outcome

namespace ChurchManagement

open Js Effect Express Sequelize History

/-- A process that has just been started: nobody has logged in and there is no session. -/
def Server.Started (s : Server) : Prop := s.allowedID = [] ∧ ∀ sid, s.sessions sid = none

abbrev Log := List (Event Request Server)

section

variable (p : Platform) (secrets : Secrets)

/-- The context that an event ended with. -/
def after (e : Event Request Server) : Ctx := served p secrets e.input e.before

/-- The runs of the server: any requests in any order, attached to any sessions. -/
abbrev Runs (start : Server) : Log → Server → Prop := Reach (serve p secrets) start

/-- The event is a login that ended in success for the user: the body matched it, the token stands
for the role, and the answer sends the client to the page of the role. -/
def LogsIn (e : Event Request Server) (user : User) (role : String) : Prop :=
  (after p secrets e).ran = some .postLogin ∧ Matches p e.input e.before.users.rows user ∧
    tokenRole secrets (loginToken p e.input) = some role ∧
    (after p secrets e).responses.getLast? = some (loginResponse p e.input user role)

section Request

variable (req : Request) (s : Server)

theorem served_allowedID : (served p secrets req s).server.allowedID = s.allowedID ∨
    ∃ user role, LogsIn p secrets ⟨req, s⟩ user role ∧
      (served p secrets req s).server.allowedID = s.allowedID ++ [user.id] := by
  rcases served_spec p secrets req s with idle | ⟨handler, params, handled⟩
  · exact .inl (congrArg Server.allowedID (Ctx.server_of_core idle))
  · rcases handled.done.outcome.allowedID with same | ⟨rfl, user, role, matched, stands, answer, added⟩
    · exact .inl same
    · exact .inr ⟨user, role, ⟨handled.ran, matched, stands, answer⟩, added⟩

theorem served_users : (served p secrets req s).server.users = s.users ∨
    Registers p secrets req s.users (served p secrets req s).server.users ∨
    ∃ params user, Addressed p req .postUpdateUser params ∧ Updates p req params s.users.rows user ∧
      (served p secrets req s).server.users = s.users.save user := by
  rcases served_spec p secrets req s with idle | ⟨handler, params, handled⟩
  · exact .inl (congrArg Server.users (Ctx.server_of_core idle))
  · rcases handled.done.outcome.users with same | ⟨_, registers⟩ | ⟨rfl, user, updates, saved⟩
    · exact .inl same
    · exact .inr (.inl registers)
    · exact .inr (.inr ⟨params, user, handled.routed, updates, saved⟩)

/-- Users are added and changed, never removed. -/
theorem served_keeps_user {user : User} (member : user ∈ s.users.rows) :
    ∃ user' ∈ (served p secrets req s).server.users.rows, user'.id = user.id := by
  rcases served_users p secrets req s with
    same | ⟨_, added, _, _, _, _, inserted⟩ | ⟨_, changed, _, _, saved⟩
  · rw [same]
    exact ⟨user, member, rfl⟩
  · rw [Table.insert_rows inserted]
    exact ⟨user, List.mem_append_left _ member, rfl⟩
  · rw [saved]
    refine ⟨_, List.mem_map_of_mem member, ?_⟩
    split
    · rename_i same
      exact same.symm
    · rfl

/-- Every user was there before the request or has the identifier drawn for a new one. -/
theorem served_user_origin {user : User} (member : user ∈ (served p secrets req s).server.users.rows) :
    (∃ old ∈ s.users.rows, old.id = user.id) ∨ user.id = req.rowId 0 := by
  rcases served_users p secrets req s with same | ⟨_, added, _, _, _, made, inserted⟩ |
    ⟨_, changed, _, _, saved⟩
  · exact .inl ⟨user, same ▸ member, rfl⟩
  · rw [Table.insert_rows inserted] at member
    rcases List.mem_append.mp member with old | new
    · exact .inl ⟨user, old, rfl⟩
    · cases List.mem_singleton.mp new
      exact .inr (write_id p.toOrm made)
  · rw [saved] at member
    obtain ⟨before, stored', same⟩ := List.mem_map.mp member
    refine .inl ⟨before, stored', ?_⟩
    rw [← same]
    split
    · rename_i equal
      exact equal
    · rfl

end Request

variable {p secrets} {s : Server}

/-- Whoever is allowed has logged in. -/
theorem Runs.allowedID {start : Server} {log : Log} (started : start.Started)
    (reach : Runs p secrets start log s) : ∀ id ∈ s.allowedID, ∃ e ∈ log, ∃ user role,
      LogsIn p secrets e user role ∧ user.id = id := by
  induction reach with
  | start => simp [started.1]
  | @next log s req previous ih =>
    intro id member
    have before (old : id ∈ s.allowedID) : ∃ e ∈ (⟨req, s⟩ :: log : Log), ∃ user role,
        LogsIn p secrets e user role ∧ user.id = id := by
      obtain ⟨e, earlier, login⟩ := ih id old
      exact ⟨e, List.mem_cons_of_mem _ earlier, login⟩
    rcases served_allowedID p secrets req s with
      same | ⟨user, role, login, added⟩
    · exact before (same ▸ member)
    · replace member : id ∈ s.allowedID ++ [user.id] := added ▸ member
      rcases List.mem_append.mp member with old | new
      · exact before old
      · exact ⟨_, List.mem_cons_self, user, role, login, (List.mem_singleton.mp new).symm⟩

theorem Runs.keeps_user {start : Server} {log : Log} (reach : Runs p secrets start log s)
    {e : Event Request Server} (earlier : e ∈ log) {user : User} (member : user ∈ e.before.users.rows) :
    ∃ user' ∈ s.users.rows, user'.id = user.id := by
  induction reach with
  | start => cases earlier
  | @next log s req previous ih =>
    rcases List.mem_cons.mp earlier with rfl | old
    · exact served_keeps_user p secrets _ _ member
    · obtain ⟨user', member', same⟩ := ih old
      obtain ⟨user'', member'', same'⟩ := served_keeps_user p secrets req _ member'
      exact ⟨user'', member'', same'.trans same⟩

end

end ChurchManagement
