import ChurchManagement.Reference

namespace ChurchManagement

open Js Effect Express Sequelize

section Updates

/-- What an update may do to the table: nothing without the permission of the session, and with
it nothing to the rows of other identifiers. -/
def UpdateConfined (session : Session) (userId : String) (before after : Table UserColumn) : Prop :=
  (¬ MayUpdate session userId → after = before) ∧ (MayUpdate session userId →
    List.Forall₂ (fun old new => new.id = old.id ∧ (old.id ≠ userId → new = old)) before.rows
      after.rows)

/-- There is nothing for the update to write: a database call fails, there is no such user, or
the values are rejected or already there. -/
def NothingToWrite (p : Platform) (req : Request) (userId : String) (users : List User) : Prop :=
  req.fault .User .findByPk = none → req.fault .User .update = none →
    ∀ user ∈ users, user.id = userId →
      let values := entries (p.validate updateSchema req.body).value
      user.update p.toOrm values = none ∨
        ∀ col, assigned p.toOrm values user.get col = some (user.get col)

variable {p : Platform} {req : Request} {params : List (String × String)}

theorem nothingToWrite_iff {table : Table UserColumn} :
    NothingToWrite p req (param params "userId") table.rows ↔
      ∀ user, Updates p req params table.rows user → user ∈ table.rows := by
  constructor
  · rintro nothing user ⟨read, works, old, member, id, written⟩
    rcases nothing read works old member id with rejected | same
    · cases rejected.symm.trans written
    · have kept := (old.update_eq_self p.toOrm).mpr same
      cases Option.some.inj (kept.symm.trans written)
      exact member
  · intro kept read works old member id
    cases written : old.update p.toOrm (entries (p.validate updateSchema req.body).value) with
    | none => exact .inl written
    | some user =>
      have present := kept user ⟨read, works, old, member, id, written⟩
      have same : user = old := Table.eq_of_id present member (write_id p.toOrm written)
      rw [same] at written
      exact .inr ((old.update_eq_self p.toOrm).mp written)

/-- The table behind the update handler. -/
theorem postUpdateUser_users (p : Platform) (req : Request) (params : List (String × String))
    (c : Ctx) :
    (∃ user, Updates p req params c.server.users.rows user ∧
      (exec (postUpdateUser p req params) c).2.server.users = c.server.users.save user) ∨
    (exec (postUpdateUser p req params) c).2.server.users = c.server.users ∧
      ∀ user, ¬ Updates p req params c.server.users.rows user := by
  refine Ensures.final (P := fun t => (∃ user, Updates p req params c.server.users.rows user ∧
      t.server.users = c.server.users.save user) ∨ t.server.users = c.server.users ∧
      ∀ user, ¬ Updates p req params c.server.users.rows user)
    ((postUpdateUser_spec p req params c).mono ?_ (fun _ _ never => never.elim))
  rintro _ t (⟨user, updates, left⟩ | ⟨left, none⟩)
  · exact .inl ⟨user, updates, (congrArg Server.users (Ctx.server_of_core left) :)⟩
  · exact .inr ⟨(congrArg Server.users (Ctx.server_of_core left) :), none⟩

/-- The refusal of a session without permission does not stop the update, so the table is safe
only when there is nothing to write. -/
theorem update_confined_iff (p : Platform) (req : Request) (params : List (String × String))
    (c : Ctx) :
    UpdateConfined c.session (param params "userId") c.server.users
        (exec (postUpdateUser p req params) c).2.server.users ↔
      MayUpdate c.session (param params "userId") ∨
        NothingToWrite p req (param params "userId") c.server.users.rows := by
  rw [nothingToWrite_iff]
  rcases postUpdateUser_users p req params c with
    ⟨user, updates, saved⟩ | ⟨same, none⟩
  · have writes := updates
    obtain ⟨_, _, old, member, id, written⟩ := writes
    have named : user.id = param params "userId" := (write_id p.toOrm written).trans id
    rw [saved]
    constructor
    · intro confined
      by_cases allowed : MayUpdate c.session (param params "userId")
      · exact .inl allowed
      · refine .inr fun user' updates' => ?_
        obtain ⟨_, _, old', member', id', written'⟩ := updates'
        cases Table.eq_of_id member' member (id'.trans id.symm)
        cases Option.some.inj (written'.symm.trans written)
        exact Table.mem_of_save member (id.trans named.symm) (confined.1 allowed)
    · rintro (allowed | kept)
      · refine ⟨fun refused => absurd allowed refused, fun _ => ?_⟩
        rw [← named]
        exact Table.save_others user c.server.users
      · rw [Table.save_of_mem (kept user updates)]
        exact ⟨fun _ => rfl, fun _ => List.forall₂_same.mpr fun _ _ => ⟨rfl, fun _ => rfl⟩⟩
  · rw [same]
    refine iff_of_true ⟨fun _ => rfl, fun _ => List.forall₂_same.mpr fun _ _ => ⟨rfl, fun _ => rfl⟩⟩ ?_
    exact .inr fun user updates => absurd updates (none user)

open Reference in
/-- A stranger is refused, and the name of the member has changed all the same. -/
theorem refused_update_writes :
    ¬ UpdateConfined (context "stranger").session adaId (context "stranger").server.users
      (exec (postUpdateUser platform (editing acceptedBody) [("userId", adaId)])
        (context "stranger")).2.server.users := by
  have refused : ¬ MayUpdate (context "stranger").session adaId := by
    simp [MayUpdate, context, adaId]
  intro confined
  have names := congrArg (fun table => table.rows.map fun row => row.get UserColumn.NAME)
    (confined.1 refused)
  revert names
  decide +kernel

end Updates

section Logins

/-- The request has ended with the login page and an error on it. -/
def ShowsLoginError (t : Ctx) : Prop :=
  ∃ msg, t.responses.getLast? = some (.render 200 "login" [("error_msg", .str msg)])

/-- What a failed login must leave as it was. -/
structure LoginUntouched (c t : Ctx) : Prop where
  userId : t.session.userId = c.session.userId
  role : t.session.role = c.session.role
  isWorker : t.session.isWorker = c.session.isWorker
  isAdmin : t.session.isAdmin = c.session.isAdmin
  lastActivity : t.session.lastActivity = c.session.lastActivity
  agent : t.session.agent = c.session.agent
  allowedID : t.server.allowedID = c.server.allowedID

/-- The session says already what a login of the user writes before it can fail: the identifier
and the time, and the role once the token was looked at. -/
def LoginRepeats (p : Platform) (secrets : Secrets) (req : Request) (user : User) (s : Session) :
    Prop :=
  s.userId = .str user.id ∧ s.lastActivity = .obj p.now ∧
    (req.fault .Activity .findOne = none → ∀ role, tokenRole secrets (loginToken p req) = some role →
      s.role = .str role ∧ s.isWorker = .bool (role = "admin" ∨ role = "worker") ∧
      (role = "admin" → s.isAdmin = .bool true))

variable {p : Platform} {secrets : Secrets} {req : Request}

theorem stranded_cases (p : Platform) (secrets : Secrets) (req : Request) (user : User)
    (s : Session) :
    (∃ role, req.fault .Activity .findOne = none ∧ tokenRole secrets (loginToken p req) = some role ∧
      stranded p secrets req user s =
        { s with userId := .str user.id, lastActivity := .obj p.now }.promoted role) ∨
    (req.fault .Activity .findOne = none → tokenRole secrets (loginToken p req) = none) ∧
      stranded p secrets req user s =
        { s with userId := .str user.id, lastActivity := .obj p.now } := by
  unfold stranded
  split
  · rename_i role read stands
    exact .inl ⟨role, read, stands, rfl⟩
  · rename_i never
    refine .inr ⟨fun read => Option.eq_none_iff_forall_ne_some.mpr fun role stands => ?_, rfl⟩
    exact never role read stands

theorem stranded_untouched_iff {c : Ctx} {user : User} {msg : String} :
    LoginUntouched c (({ c with session := stranded p secrets req user c.session } : Ctx).loginShown
      msg) ↔ LoginRepeats p secrets req user c.session := by
  rcases stranded_cases p secrets req user c.session with
    ⟨role, read, stands, left⟩ | ⟨never, left⟩
  · rw [left]
    constructor
    · rintro ⟨userId, isRole, isWorker, isAdmin, lastActivity, _, _⟩
      refine ⟨userId.symm, lastActivity.symm, fun _ other stands' => ?_⟩
      cases Option.some.inj (stands.symm.trans stands')
      refine ⟨isRole.symm, isWorker.symm, fun admin => ?_⟩
      replace isAdmin : (if role = "admin" then .bool true else c.session.isAdmin) =
        c.session.isAdmin := isAdmin
      rw [← isAdmin, if_pos admin]
    · rintro ⟨userId, lastActivity, promoted⟩
      obtain ⟨isRole, isWorker, isAdmin⟩ := promoted read role stands
      refine ⟨userId.symm, isRole.symm, isWorker.symm, ?_, lastActivity.symm, rfl, rfl⟩
      change (if role = "admin" then .bool true else c.session.isAdmin) = c.session.isAdmin
      split
      · rename_i admin
        exact (isAdmin admin).symm
      · rfl
  · rw [left]
    constructor
    · rintro ⟨userId, _, _, _, lastActivity, _, _⟩
      refine ⟨userId.symm, lastActivity.symm, fun read role stands => ?_⟩
      cases stands.symm.trans (never read)
    · rintro ⟨userId, lastActivity, _⟩
      exact ⟨userId.symm, rfl, rfl, rfl, lastActivity.symm, rfl, rfl⟩

/-- A login that fails behind the check of the first name has written the session already. -/
theorem failed_login_untouched_iff (p : Platform) (secrets : Secrets) (req : Request) (c : Ctx) :
    (ShowsLoginError (exec (postLogin p secrets req) c).2 →
        LoginUntouched c (exec (postLogin p secrets req) c).2) ↔
      ∀ user, req.fault .User .findOne = none → Matches p req c.server.users.rows user →
        Completes p secrets req c.server user ∨ LoginRepeats p secrets req user c.session := by
  have ends : LoginEnds p secrets req c (exec (postLogin p secrets req) c).2 :=
    ((postLogin_ends p secrets req c).mono (fun _ _ ends => ends) (fun _ _ never => never.elim)).final
  rcases ends with ⟨msg, unmatched, left⟩ | ⟨user, msg, works, matched, fails, left⟩ |
    ⟨user, role, activities, matched, stands, reads, completes, recorded, same, answer⟩
  · rw [left]
    refine iff_of_true (fun _ => ⟨rfl, rfl, rfl, rfl, rfl, rfl, rfl⟩) fun user works matched => ?_
    exact absurd matched (unmatched works user)
  · rw [left]
    constructor
    · intro untouched user' _ matched'
      cases matched'.unique matched
      exact .inr (stranded_untouched_iff.mp (untouched ⟨msg, Ctx.loginShown_last msg _⟩))
    · intro repeats _
      exact stranded_untouched_iff.mpr ((repeats user works matched).resolve_left fails)
  · refine iff_of_true (fun shown => ?_) fun user' _ matched' => ?_
    · obtain ⟨msg, last⟩ := shown
      rw [answer, List.getLast?_concat] at last
      simp [loginResponse] at last
    · cases matched'.unique matched
      exact .inl completes

open Reference in
/-- A token that is not accepted is noticed after the session was given the member's identifier. -/
theorem refused_token_identifies :
    ¬ (ShowsLoginError (exec (postLogin platform keys (loginWith "no-key")) (context "guest")).2 →
      LoginUntouched (context "guest")
        (exec (postLogin platform keys (loginWith "no-key")) (context "guest")).2) := by
  intro untouched
  have shown : ShowsLoginError
      (exec (postLogin platform keys (loginWith "no-key")) (context "guest")).2 :=
    ⟨"Invalid authorization token.", by decide +kernel⟩
  have same := (untouched shown).userId
  revert same
  decide +kernel

end Logins

end ChurchManagement
