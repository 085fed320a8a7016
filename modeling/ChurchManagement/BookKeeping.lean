import ChurchManagement.Book
import ChurchManagement.Identity
import ChurchManagement.Sequelize.Lookup
import ChurchManagement.UniqueUsers

namespace ChurchManagement

open Js Effect Express Sequelize History Refinement Congregation

/-- The book that the tables and the list of the process stand for. -/
def Server.book (s : Server) : Book String User Activity :=
  ⟨s.users.lookup, s.activities.lookup, s.allowedID⟩

/-- New members share neither name nor phone number with others, a note is signed with the name of
its author, and is about the user in its row. -/
def bookRules : Rules String User Activity where
  apart := Unlike
  signed user row := row.get .PERFORMER = user.get .NAME
  about id row := row.get .USERID = .str id

/-- The row that a login opens: it names the user and is empty otherwise. -/
def LoginRow (p : Platform) (id : String) (row : Activity) : Prop :=
  p.store .uuid (.str id) = some (row.get .USERID) ∧ ∀ col, col ≠ .USERID → row.get col = .null

/-- The row that `create-activity` records for the path, by the user of a session that may do so:
it is made of the path, the name of the user, the local time and the response of the body. -/
def Performed (p : Platform) (req : Request) (session : Session) (params : List (String × String))
    (author : User) (row : Activity) : Prop :=
  session.userId = .str author.id ∧
    (author.id = param params "userId" ∨ session.isWorker.truthy = true) ∧
    p.store .uuid (.str (param params "userId")) = some (row.get .USERID) ∧
    row.get .ACTIVITYTYPE = .str (param params "activityType") ∧
    ∃ response, req.body.prop "response" = .ok response ∧
      create p.toOrm (req.rowId 0)
        [("USERID", .str (param params "userId")), ("PERFORMER", author.get .NAME),
          ("ACTIVITYTYPE", .str (param params "activityType")), ("DATE", .str req.localeDate),
          ("TIME", .str req.localeTime), ("RESPONSE", response)] = some row

/-- The request registers the user: the checked body carries the token, and the row that is made of
it has been added. -/
def RegisteredBy (p : Platform) (secrets : Secrets) (e : Event Request Server) (user : User) : Prop :=
  (after p secrets e).ran = some .postRegister ∧
    (∃ value, p.validate registerSchema e.input.body = ⟨none, value⟩ ∧
      value.prop "authToken" = .ok (.str secrets.AUTH_TOKEN) ∧
      create p.toOrm (e.input.rowId 0) (registeredKeys.map fun key => (key, value.propD key)) =
        some user) ∧
    (after p secrets e).server.users.rows = e.before.users.rows ++ [user]

/-- The request updates the row of the user to the one given. -/
def UpdatedBy (p : Platform) (secrets : Secrets) (e : Event Request Server) (user : User) : Prop :=
  (after p secrets e).ran = some .postUpdateUser ∧
    (∃ params, Addressed p e.input .postUpdateUser params ∧ param params "userId" = user.id ∧
      Updates p e.input params e.before.users.rows user) ∧
    (after p secrets e).server.users = e.before.users.save user

/-- The request that does a deed. -/
def Enacts (p : Platform) (secrets : Secrets) (e : Event Request Server) :
    Deed String User Activity → Prop
  | .enroll id user => RegisteredBy p secrets e user ∧ user.id = id ∧ ValidUser p user
  | .amend id user => UpdatedBy p secrets e user ∧ user.id = id
  | .record key author row => (after p secrets e).ran = some .postCreateActivity ∧ row.id = key ∧
      ∃ user ∈ e.before.users.rows, user.id = author ∧ row.get .PERFORMER = user.get .NAME ∧
      ∃ params, Addressed p e.input .postCreateActivity params ∧
        Performed p e.input (Ctx.entry p e.input e.before).session params user row
  | .welcome id opened => ∃ user role, LogsIn p secrets e user role ∧ user.id = id ∧
      ∀ key row, opened = some (key, row) → row.id = key ∧ LoginRow p id row
  | .strike key => (after p secrets e).ran = some .getLogout ∧ ∃ row, row.id = key ∧
      LogsOut p e.input (Ctx.entry p e.input e.before) row

section

variable {p : Platform} {secrets : Secrets}

theorem Row.name_text (user : User) : ∃ name, user.get .NAME = .str name := by
  have holds := user.holds .NAME
  unfold Attribute.Holds at holds
  split at holds
  · cases holds
  · cases cell : user.get .NAME with
    | str name => exact ⟨name, rfl⟩
    | _ => rw [cell] at holds; cases holds

/-- A row that is made with nothing but a user is empty otherwise. -/
theorem create_loginRow {id userId role : String} {req : Request} {row : Activity}
    (made : create p.toOrm id (("USERID", .str userId) :: agentRecord p req role) = some row) :
    LoginRow p userId row := by
  refine ⟨write_get p.toOrm made .USERID, fun col other => ?_⟩
  have cell := write_get p.toOrm made col
  have absent : Value.field (Model.declared col).name
      (("USERID", .str userId) :: agentRecord p req role) = .undefined := by
    cases col <;> first | exact absurd rfl other | rfl
  rw [assigned, absent] at cell
  have empty : (Model.declared col).defaultValue = .null := by cases col <;> rfl
  exact (Option.some.inj cell).symm.trans empty

/-- The row of an activity is signed and belongs to the path. -/
theorem Records.recorded {req : Request} {params : List (String × String)} {c : Ctx}
    {activities : Table ActivityColumn} (records : Records p req params c activities) :
    ∃ user row, user ∈ c.server.users.rows ∧ c.server.activities.insert row = some activities ∧
      row.get .PERFORMER = user.get .NAME ∧ Performed p req c.session params user row := by
  obtain ⟨owner, user, response, row, found, read, made, inserted⟩ := records
  obtain ⟨member, key⟩ := findByPk_some p.toOrm found
  obtain ⟨name, isName⟩ := Row.name_text user
  have signed := create_stores p.toOrm made .PERFORMER
  have typed := create_stores p.toOrm made .ACTIVITYTYPE
  change Row.Stores p.toOrm row .PERFORMER (user.get .NAME) at signed
  rw [isName] at signed
  refine ⟨user, row, member, inserted, ?_, key, ?_, write_get p.toOrm made .USERID,
    typed.text p.toOrm (.inl rfl), response, read, made⟩
  · rw [isName]
    exact signed.text p.toOrm (.inl rfl)
  · exact owner.imp_left fun own => Value.str.inj (key.symm.trans own)

section Deeds

variable {s : Server}

theorem enroll_allowed {user : User} {users : Table UserColumn}
    (inserted : s.users.insert user = some users) (apart : ∀ row ∈ s.users.rows, Unlike row user) :
    Allowed bookRules s.book (.enroll user.id user) ({ s with users := users } : Server).book := by
  obtain ⟨new, table⟩ := Table.lookup_insert inserted
  simp only [Server.book, table]
  exact .enroll new fun _ row present => apart row (Table.mem_of_lookup present).1

theorem amend_allowed {user old : User} (member : old ∈ s.users.rows) (id : old.id = user.id) :
    Allowed bookRules s.book (.amend user.id user)
      ({ s with users := s.users.save user } : Server).book := by
  have known : s.users.lookup user.id = some old := Table.lookup_eq_some.mpr ⟨member, id⟩
  simp only [Server.book, Table.lookup_save member id]
  exact .amend known

theorem record_allowed {row : Activity} {activities : Table ActivityColumn} {author : User}
    (inserted : s.activities.insert row = some activities) (member : author ∈ s.users.rows)
    (signed : row.get .PERFORMER = author.get .NAME) :
    Allowed bookRules s.book (.record row.id author.id row)
      ({ s with activities := activities } : Server).book := by
  obtain ⟨new, table⟩ := Table.lookup_insert inserted
  simp only [Server.book, table]
  exact .record new (Table.lookup_of_mem member) signed

theorem welcome_allowed {user : User} {row : Activity} (member : user ∈ s.users.rows)
    (present : row ∈ s.activities.rows) (about : row.get .USERID = .str user.id) :
    Allowed bookRules s.book (.welcome user.id none)
      ({ s with allowedID := s.allowedID ++ [user.id] } : Server).book :=
  .welcome (Table.lookup_of_mem member) (Table.lookup_of_mem present) about

theorem open_allowed {user : User} {row : Activity} {activities : Table ActivityColumn}
    (member : user ∈ s.users.rows) (inserted : s.activities.insert row = some activities)
    (none : ∀ other ∈ s.activities.rows, other.get .USERID ≠ .str user.id) :
    Allowed bookRules s.book (.welcome user.id (some (row.id, row)))
      ({ s with activities := activities, allowedID := s.allowedID ++ [user.id] } : Server).book := by
  obtain ⟨new, table⟩ := Table.lookup_insert inserted
  simp only [Server.book, table]
  exact .opens (Table.lookup_of_mem member) new fun _ other present =>
    none other (Table.mem_of_lookup present).1

theorem strike_allowed {row : Activity} (present : row ∈ s.activities.rows) :
    Allowed bookRules s.book (.strike row.id)
      ({ s with activities := s.activities.destroy row } : Server).book := by
  simp only [Server.book, Table.lookup_destroy]
  exact .strike (Table.lookup_of_mem present)

end Deeds

/-- A login welcomes its user, with a row for one who has none. -/
theorem LogsIn.enacts {req : Request} {s : Server} {user : User} {role : String}
    {activities : Table ActivityColumn} (login : LogsIn p secrets ⟨req, s⟩ user role)
    (recorded : AgentRecorded p req user.id role (agentRow p s.activities.rows user.id) s.activities
      activities) :
    ∃ deed, Enacts p secrets ⟨req, s⟩ deed ∧ Allowed bookRules s.book deed
      ({ s with activities := activities, allowedID := s.allowedID ++ [user.id] } : Server).book := by
  have member : user ∈ s.users.rows := Matches.mem p login.2.1
  cases found : agentRow p s.activities.rows user.id with
  | some row =>
    rw [found] at recorded
    obtain ⟨_, rfl⟩ := recorded
    obtain ⟨present, holds⟩ := findOne_some p.toOrm found
    have about : row.get .USERID = .str user.id := by simpa using holds
    exact ⟨.welcome user.id none, ⟨user, role, login, rfl, by simp⟩, welcome_allowed member present about⟩
  | none =>
    rw [found] at recorded
    obtain ⟨_, row, made, inserted⟩ := recorded
    refine ⟨.welcome user.id (some (row.id, row)), ⟨user, role, login, rfl, ?_⟩,
      open_allowed member inserted fun other present => ?_⟩
    · intro key row' isRow
      cases isRow
      exact ⟨rfl, create_loginRow made⟩
    · have missing := findOne_none p.toOrm found other present
      simpa using missing

/-- What a handler does to the book, one deed for each write it makes. -/
theorem Handled.enacts {req : Request} {s : Server} {handler : Handler}
    {params : List (String × String)}
    (handled : Handled p secrets req (Ctx.entry p req s) (served p secrets req s) handler params) :
    (serve p secrets req s).book = s.book ∨ ∃ deed, Enacts p secrets ⟨req, s⟩ deed ∧
      Allowed bookRules s.book deed (serve p secrets req s).book := by
  have ran := handled.ran
  have sees {c : Ctx} (left : (served p secrets req s).core = c.core) :
      (serve p secrets req s).book = c.server.book := by
    rw [← Ctx.server_of_core left]
    rfl
  cases handled.done.outcome with
  | quiet left => exact .inl (sees left)
  | subscribed rows left => exact .inl (sees left)
  | identified user matched stuck left => exact .inl (sees left)
  | promoted user role matched stands reads stuck left => exact .inl (sees left)
  | shown user member reads truthy current left => exact .inl (sees left)
  | granted user role activities matched stands reads completes recorded answer left =>
    have login : LogsIn p secrets ⟨req, s⟩ user role := ⟨ran, matched, stands, answer⟩
    rw [sees left]
    exact .inr (login.enacts recorded)
  | loggedOut record logsOut left =>
    have present : record ∈ s.activities.rows := by
      obtain ⟨_, userId, cond, _, _, _, _, found, _⟩ := logsOut
      exact (findOne_some p.toOrm found).1
    rw [sees left]
    exact .inr ⟨.strike record.id, ⟨ran, record, rfl, logsOut⟩, strike_allowed present⟩
  | registered users registers left =>
    rw [sees left]
    obtain ⟨user, rows, _, valid, _⟩ := registers.row
    obtain ⟨value, added, accepted, token, free, made, inserted⟩ := registers
    have same : added = user := by
      rw [Table.insert_rows inserted] at rows
      simpa using rows
    subst same
    have vacant : Vacant p secrets req s.users.rows value := ⟨accepted, token, free⟩
    have written : (served p secrets req s).server.users = users :=
      congrArg Server.users (Ctx.server_of_core left)
    have grown : (served p secrets req s).server.users.rows = s.users.rows ++ [added] := by
      rw [written]
      exact Table.insert_rows inserted
    have registered : RegisteredBy p secrets ⟨req, s⟩ added :=
      ⟨ran, ⟨value, accepted, token, made⟩, grown⟩
    exact .inr ⟨.enroll added.id added, ⟨registered, rfl, valid⟩,
      enroll_allowed inserted (vacant.unlike made)⟩
  | recorded activities records left =>
    rw [sees left]
    obtain ⟨user, row, member, inserted, signed, recorded⟩ := records.recorded
    exact .inr ⟨.record row.id user.id row,
      ⟨ran, rfl, user, member, rfl, signed, params, handled.routed, recorded⟩,
      record_allowed inserted member signed⟩
  | updated user updates left =>
    rw [sees left]
    obtain ⟨_, _, old, member, key, written⟩ := id updates
    have same : old.id = user.id := (write_id p.toOrm written).symm
    have saved : (served p secrets req s).server.users = s.users.save user :=
      congrArg Server.users (Ctx.server_of_core left)
    exact .inr ⟨.amend user.id user,
      ⟨⟨ran, ⟨params, handled.routed, key.symm.trans same, updates⟩, saved⟩, rfl⟩,
      amend_allowed member same⟩

/-- A request does at most one deed. -/
theorem serve_refines : Refines (serve p secrets) Server.book (Allowed bookRules)
    (Enacts p secrets) := by
  intro req s
  rcases served_spec p secrets req s with idle | ⟨handler, params, handled⟩
  · have same := Ctx.server_of_core idle
    exact .inl (congrArg Server.book same :)
  · exact handled.enacts

/-- Every run of the server is a run of the book, each deed done by one request, in order. -/
theorem runs_refine_book {start s : Server} {log : Log} (reach : Runs p secrets start log s) :
    ∃ deeds, Explains (Enacts p secrets) log deeds ∧
      Trace (Allowed bookRules) start.book deeds s.book :=
  serve_refines.trace reach

open Reference in
/-- A first login does a deed. -/
theorem login_refines_book :
    ∃ deeds, deeds ≠ [] ∧ Explains (Enacts platform keys) [⟨loginWith "", start⟩] deeds ∧
      Trace (Allowed bookRules) start.book deeds (loggedIn "").book := by
  obtain ⟨deeds, explains, trace⟩ := runs_refine_book (login_run "")
  refine ⟨deeds, ?_, explains, trace⟩
  rintro rfl
  have same : (loggedIn "").book = start.book := by
    generalize (loggedIn "").book = b at trace
    cases trace
    rfl
  have admitted := congrArg Book.admitted same
  simp only [Server.book, (loggedIn_state "" (by decide)).1] at admitted
  cases admitted

theorem Server.known_iff {s : Server} {id : String} :
    (s.book.members id).isSome = true ↔ ∃ user ∈ s.users.rows, user.id = id := by
  rw [Option.isSome_iff_exists]
  constructor
  · rintro ⟨user, found⟩
    obtain ⟨member, same⟩ := Table.mem_of_lookup found
    exact ⟨user, member, same⟩
  · rintro ⟨user, member, rfl⟩
    exact ⟨user, Table.lookup_of_mem member⟩

/-- Whoever is allowed is a user; users and admissions stay; and whoever was not a user at the
start has been registered with the token: the row of that identifier was added then. -/
theorem allowed_users_registered {start s : Server} {log : Log} (started : start.Started)
    (reach : Runs p secrets start log s) :
    (∀ id ∈ s.allowedID, ∃ user ∈ s.users.rows, user.id = id) ∧
    (∀ e ∈ log, e.before.allowedID <+: s.allowedID ∧
      ∀ user ∈ e.before.users.rows, ∃ user' ∈ s.users.rows, user'.id = user.id) ∧
    ∀ user ∈ s.users.rows, (∃ first ∈ start.users.rows, first.id = user.id) ∨
      ∃ e ∈ log, ∃ added, added.id = user.id ∧ RegisteredBy p secrets e added := by
  obtain ⟨deeds, explains, trace⟩ := serve_refines.trace reach
  refine ⟨?_, fun e earlier => ?_, fun user member => ?_⟩
  · have first : start.book.Sound := by
      intro id admitted
      rw [Server.book, started.1] at admitted
      cases admitted
    have sound : s.book.Sound := Trace.invariant (P := fun _ b => b.Sound) first
      (fun _ _ _ _ taken known => taken.sound known) trace
    exact fun id allowed => Server.known_iff.mp (sound id allowed)
  · have later : Later e.before.book s.book :=
      serve_refines.since (fun _ _ _ taken => taken.later) reach earlier
    refine ⟨later.admitted, fun user member => ?_⟩
    exact Server.known_iff.mp (later.members user.id (Server.known_iff.mpr ⟨user, member, rfl⟩))
  · have known : (s.book.members user.id).isSome = true := Server.known_iff.mpr ⟨user, member, rfl⟩
    rcases member_origin trace known with old | ⟨entry, enrolled⟩
    · exact .inl (Server.known_iff.mp old)
    · obtain ⟨e, earlier, registered, id, _⟩ := explains.mem enrolled
      exact .inr ⟨e, earlier, entry, id, registered⟩

open Reference in
/-- The member is allowed after a login, and still there. -/
theorem login_allows_user : ∃ user ∈ (loggedIn "").users.rows, user.id = adaId := by
  refine (allowed_users_registered start_started (login_run "")).1 adaId ?_
  rw [(loggedIn_state "" (by decide)).1]
  exact List.mem_singleton.mpr rfl

/-- Every row of a user was there at the start, or is just the one that a registration with the
token or an update of the user has written; and what stands after any event stays as it is, unless a
later update is of the same user. -/
theorem users_accounted {start s : Server} {log : Log} (reach : Runs p secrets start log s) :
    (∀ user ∈ s.users.rows, user ∈ start.users.rows ∨
      (∃ e ∈ log, RegisteredBy p secrets e user ∧ ValidUser p user) ∨
      ∃ e ∈ log, UpdatedBy p secrets e user) ∧
    ∀ later e earlier, log = later ++ e :: earlier →
      ∀ user ∈ (serve p secrets e.input e.before).users.rows, user ∈ s.users.rows ∨
        ∃ e' ∈ later, ∃ user', user'.id = user.id ∧ UpdatedBy p secrets e' user' := by
  refine ⟨fun user member => ?_, ?_⟩
  · obtain ⟨deeds, explains, trace⟩ := serve_refines.trace reach
    rcases entry_origin trace (Table.lookup_of_mem member) with old | enrolled | amended
    · exact .inl (Table.mem_of_lookup old).1
    · obtain ⟨e, inLog, registered, _, valid⟩ := explains.mem enrolled
      exact .inr (.inl ⟨e, inLog, registered, valid⟩)
    · obtain ⟨e, inLog, updated, _⟩ := explains.mem amended
      exact .inr (.inr ⟨e, inLog, updated⟩)
  · rintro later e earlier rfl user member
    obtain ⟨deeds, explains, trace⟩ := serve_refines.trace reach.since
    rcases entry_fate trace (Table.lookup_of_mem member) with stands | ⟨user', amended⟩
    · exact .inl (Table.mem_of_lookup stands).1
    · obtain ⟨e', inLater, updated, id⟩ := explains.mem amended
      exact .inr ⟨e', inLater, user', id, updated⟩

section

open Reference

/-- A new member registers, from a page that was given an agent without data. -/
def enrolling : Request :=
  { loginWith "" with
    url := "/register?agent=\x7b\"data\":\x7b\x7d\x7d"
    body := .obj [("DATE", .str "2024-02-11"), ("NAME", .str "Chidi Eke"), ("SEX", .str "M"),
      ("CAT", .str "NC"), ("PHONENUMBER", .str "08077777777"), ("EMAIL", .str "chidi@example.org"),
      ("authToken", .str "join-key")]
    rowId := fun _ => "row-2" }

def enrolled : Server := serve platform keys enrolling startPair

theorem enrolled_state : (served platform keys enrolling startPair).ran = some .postRegister ∧
    ada ∈ enrolled.users.rows ∧ enrolled.users.rows.length = 3 ∧ enrolled.allowedID = [adaId] ∧
    ((enrolled.sessions "s1").getD {}).userId = .undefined := by decide +kernel

/-- The first member changes her name then. -/
def nameChange : Request := updateWith (namedBody "Ada Eze" "08020000000")

theorem nameChange_ran {s : Server} (allowed : s.allowedID = [adaId])
    (fresh : ((s.sessions "s1").getD {}).userId = .undefined) :
    (served platform keys nameChange s).ran = some .postUpdateUser := by
  refine ran_visit updateUser_leads (by decide) (fun roles gate => ⟨?_, ?_⟩) (.inl fresh)
  · cases List.mem_singleton.mp gate
    decide
  · rw [allowed]
    exact List.mem_singleton_self adaId

theorem nameChange_saved {s : Server} (member : ada ∈ s.users.rows)
    (ran : (served platform keys nameChange s).ran = some .postUpdateUser) :
    ∃ user : User, user.id = adaId ∧ user.get .NAME = .str "Ada Eze" ∧
      (serve platform keys nameChange s).users = s.users.save user := by
  have writes : (ada.update platform.toOrm (entries
      (platform.validate updateSchema (namedBody "Ada Eze" "08020000000")).value)).map
      (fun user => user.get .NAME) = some (.str "Ada Eze") := by decide +kernel
  obtain ⟨user, written, named⟩ := Option.map_eq_some_iff.mp writes
  refine ⟨user, write_id platform.toOrm written, named, ?_⟩
  rw [serve_users]
  exact updateWith_saved _ s member rfl written ran

/-- After a registration and an update there are three rows, and the one of the first member is not
that of the start. -/
theorem renamed_and_enrolled_accounted : ∃ log s, Runs platform keys startPair log s ∧
    log.map (fun e => (after platform keys e).ran) = [some .postUpdateUser, some .postRegister] ∧
    s.users.rows.length = 3 ∧ ada ∉ s.users.rows ∧ ∀ user ∈ s.users.rows,
      user ∈ startPair.users.rows ∨
      (∃ e ∈ log, RegisteredBy platform keys e user ∧ ValidUser platform user) ∨
      ∃ e ∈ log, UpdatedBy platform keys e user := by
  obtain ⟨ran, member, three, allowed, fresh⟩ := enrolled_state
  have first : Runs platform keys startPair [⟨enrolling, startPair⟩] enrolled := .next enrolling .start
  generalize enrolled = s at member three allowed fresh first
  have ran' := nameChange_ran allowed fresh
  obtain ⟨user, id, named, saved⟩ := nameChange_saved member ran'
  have reach : Runs platform keys startPair [⟨nameChange, s⟩, ⟨enrolling, startPair⟩]
      (serve platform keys nameChange s) := .next nameChange first
  refine ⟨_, _, reach, ?_, ?_, fun stays => ?_, (users_accounted reach).1⟩
  · rw [List.map_cons, List.map_cons, List.map_nil, after, after, ran', ran]
  · rw [saved, Table.save, List.length_map, three]
  · rw [saved] at stays
    have isUser : ada = user := Table.eq_of_id stays (Table.mem_save member id.symm) id.symm
    have other : ada.get .NAME ≠ .str "Ada Eze" := by decide
    exact other (isUser ▸ named)

end

end

end ChurchManagement
