import ChurchManagement.Reference

namespace ChurchManagement

open Js Effect Express Sequelize

section Handler

variable (p : Platform) (req : Request) (params : List (String × String))

/-- The value of the query that the activity handler reads the position from. -/
def location : Value := p.query req.url "location"

/-- The location check lets the request through. It is made for a truthy latitude only; without a
location there is nothing to read a latitude from. -/
def Located : Prop :=
  ∃ latitude, (location p req).prop "latitude" = .ok latitude ∧
    (latitude.truthy = true → p.nearby latitude ((location p req).propD "longitude") = true)

/-- The part of the handler behind the location check leads to the table. -/
structure Writes (c : Ctx) (activities : Table ActivityColumn) : Prop where
  read : req.fault .User .findByPk = none
  written : req.fault .Activity .create = none
  records : Records p req params c activities

/-- The ways the handler returns, the tables being those it can lead to: with the row, or with an
error message and no row. -/
inductive ActivityOutcome (tables : Table ActivityColumn → Prop) (c t : Ctx) : Prop
  | recorded (activities : Table ActivityColumn) (leads : tables activities)
      (core : t.core = (c.recorded activities).core)
  | refused (msg : String) (never : ∀ activities, ¬ tables activities) (core : t.core = c.core)
      (answer : t.responses = c.responses ++ [.send 200 (.obj [("error_msg", .str msg)])])

theorem refuses_activity {session : Session} {userId : String} :
    (!session.userId.strictEq (.str userId) && !session.isWorker.truthy) = true ↔
      ¬ (session.userId = .str userId ∨ session.isWorker.truthy = true) := by
  simp [← Value.strictEq_str_iff]

/-- Both lookups of a recorded activity are those of the handler. -/
theorem Records.made {c : Ctx} {activities : Table ActivityColumn} {user : User} {response : Value}
    (records : Records p req params c activities)
    (looked : findByPk p.toOrm c.session.userId c.server.users.rows = some (some user))
    (read : req.body.prop "response" = .ok response) :
    ∃ activity, create p.toOrm (req.rowId 0)
      [("USERID", .str (param params "userId")), ("PERFORMER", user.get .NAME),
        ("ACTIVITYTYPE", .str (param params "activityType")), ("DATE", .str req.localeDate),
        ("TIME", .str req.localeTime), ("RESPONSE", response)] = some activity ∧
      c.server.activities.insert activity = some activities := by
  obtain ⟨_, user', response', activity, looked', read', made, inserted⟩ := records
  cases Option.some.inj (Option.some.inj (looked.symm.trans looked'))
  cases Except.ok.inj (read.symm.trans read')
  exact ⟨activity, made, inserted⟩

theorem recordActivity_outcome (c : Ctx) :
    Ensures (recordActivity p req (param params "userId") (param params "activityType")) c
      (fun _ t => ActivityOutcome (Writes p req params c) c t)
      (fun _ t => (∀ activities, ¬ Writes p req params c activities) ∧ t.core = c.core) := by
  unfold recordActivity
  simp only [ensures_bind, ensures_prop, ensures_get, ensures_ite, refuses_activity]
  refine ⟨fun response read => ⟨fun denied => ?_, fun allowed => ?_⟩, fun _ threw => ⟨?_, trivial⟩⟩
  · exact .refused _ (fun activities writes => denied writes.records.1) rfl rfl
  · refine (findUser_spec p req c.session.userId c).mono ?_ ?_
    · rintro found t ⟨rfl, works, looked⟩
      split
      · refine ⟨fun activities writes => ?_, rfl⟩
        obtain ⟨_, _, _, _, looked', _⟩ := writes.records
        cases looked.symm.trans looked'
      · rename_i user
        simp only [ensures_bind, ensures_db, ensures_get, ensures_orThrow, ensures_setServer]
        refine ⟨fun _ fault => ⟨fun activities writes => ?_, trivial⟩, fun works' =>
          ⟨fun activity made => ⟨fun activities inserted => ?_, fun taken =>
            ⟨fun activities writes => ?_, trivial⟩⟩, fun rejected =>
            ⟨fun activities writes => ?_, trivial⟩⟩⟩
        · cases fault.symm.trans writes.written
        · have records : Records p req params t activities :=
            ⟨not_not.mp allowed, user, response, activity, looked, read, made, inserted⟩
          exact .recorded activities ⟨works, works', records⟩ rfl
        · obtain ⟨activity', made', inserted⟩ := writes.records.made p req params looked read
          cases Option.some.inj (made.symm.trans made')
          cases taken.symm.trans inserted
        · obtain ⟨_, made, _⟩ := writes.records.made p req params looked read
          cases rejected.symm.trans made
    · rintro _ t ⟨rfl, failed⟩
      refine ⟨fun activities writes => ?_, rfl⟩
      obtain ⟨_, user, _, _, looked, _⟩ := writes.records
      cases (failed writes.read).symm.trans looked
  · intro activities writes
    obtain ⟨_, _, _, _, _, read, _⟩ := writes.records
    cases threw.symm.trans read

/-- Nothing that the handler shows to the client decides about the row. -/
theorem writes_of_core {c c' : Ctx} (same : c'.core = c.core) {activities : Table ActivityColumn} :
    Writes p req params c' activities ↔ Writes p req params c activities := by
  have session := Ctx.session_of_core same
  have userId : c'.session.userId = c.session.userId := Session.userId_of_core session
  have isWorker : c'.session.isWorker = c.session.isWorker :=
    (congrArg Session.isWorker session :)
  have records : Records p req params c' activities ↔ Records p req params c activities := by
    simp only [Records, userId, isWorker, Ctx.server_of_core same]
  exact ⟨fun writes => ⟨writes.read, writes.written, records.mp writes.records⟩,
    fun writes => ⟨writes.read, writes.written, records.mpr writes.records⟩⟩

/-- The rest of the handler behind the location check, which has at most flashed a message. -/
theorem recordActivity_located {c c' : Ctx} (located : Located p req) (same : c'.core = c.core)
    (responses : c'.responses = c.responses) :
    Ensures (recordActivity p req (param params "userId") (param params "activityType")) c'
      (fun _ t => ActivityOutcome (fun activities => Located p req ∧ Writes p req params c activities)
        c t)
      (fun _ t => (∀ activities, ¬ (Located p req ∧ Writes p req params c activities)) ∧
        t.core = c.core) := by
  refine (recordActivity_outcome p req params c').mono ?_ ?_
  · rintro _ t (⟨activities, writes, core⟩ | ⟨msg, never, core, answer⟩)
    · have others : (c'.core.recorded activities).core = (c.core.recorded activities).core := by
        rw [same]
      exact .recorded activities ⟨located, (writes_of_core p req params same).mp writes⟩
        (core.trans others)
    · refine .refused msg (fun activities leads => ?_) (core.trans same) (by rw [answer, responses])
      exact never activities ((writes_of_core p req params same).mpr leads.2)
  · rintro _ t ⟨never, core⟩
    refine ⟨fun activities leads => ?_, core.trans same⟩
    exact never activities ((writes_of_core p req params same).mpr leads.2)

/-- The row is added exactly when the location check lets the request through and the rest of the
handler comes to its end. -/
theorem postCreateActivity_outcome (c : Ctx) :
    Ensures (postCreateActivity p req params) c
      (fun _ t => ActivityOutcome (fun activities => Located p req ∧ Writes p req params c activities)
        c t)
      (fun _ t => (∀ activities, ¬ (Located p req ∧ Writes p req params c activities)) ∧
        t.core = c.core) := by
  unfold postCreateActivity
  simp only [ensures_attempt, ensures_bind, ensures_prop, ensures_ite, ensures_flash,
    ensures_undeclared]
  refine ⟨fun latitude read => ⟨fun truthy => ⟨fun near => ?_, fun far => ?_⟩, fun falsy => ?_⟩,
    fun _ threw => ?_⟩
  · exact recordActivity_located p req params ⟨latitude, read, fun _ => near⟩ rfl rfl
  · refine .refused _ ?_ rfl rfl
    rintro activities ⟨⟨latitude', read', near⟩, _⟩
    cases Except.ok.inj (read.symm.trans read')
    exact far (near truthy)
  · exact recordActivity_located p req params
      ⟨latitude, read, fun truthy => absurd truthy falsy⟩ rfl rfl
  · refine ⟨?_, rfl⟩
    rintro activities ⟨⟨latitude, read, _⟩, _⟩
    cases threw.symm.trans read

/-- The table of activities behind the handler, and whether the handler has returned. -/
theorem postCreateActivity_activities (c : Ctx) :
    (∃ activities, Located p req ∧ Writes p req params c activities ∧
      (exec (postCreateActivity p req params) c).1 = .ok () ∧
      (exec (postCreateActivity p req params) c).2.server.activities = activities) ∨
    (∀ activities, ¬ (Located p req ∧ Writes p req params c activities)) ∧
      (exec (postCreateActivity p req params) c).2.server.activities = c.server.activities := by
  have outcome := postCreateActivity_outcome p req params c
  unfold Ensures at outcome
  cases run : exec (postCreateActivity p req params) c with
  | mk result t =>
    rw [run] at outcome
    cases result with
    | ok _ =>
      rcases outcome with ⟨activities, leads, core⟩ | ⟨_, never, core, _⟩
      · exact .inl ⟨activities, leads.1, leads.2, rfl,
          congrArg Server.activities (Ctx.server_of_core core)⟩
      · exact .inr ⟨never, congrArg Server.activities (Ctx.server_of_core core)⟩
    | error _ => exact .inr ⟨outcome.1, congrArg Server.activities (Ctx.server_of_core outcome.2)⟩

end Handler

section Effect

/-- The row of an activity: what it says, and who has recorded it for whom. -/
structure RowOf (p : Platform) (req : Request) (params : List (String × String)) (session : Session)
    (users : List User) (row : Activity) : Prop where
  USERID : row.Stores p.toOrm .USERID (.str (param params "userId"))
  ACTIVITYTYPE : row.get .ACTIVITYTYPE = .str (param params "activityType")
  RESPONSE : ∃ response, req.body.prop "response" = .ok response ∧
    row.Stores p.toOrm .RESPONSE response
  PERFORMER : ∃ user ∈ users, session.userId = .str user.id ∧ row.get .PERFORMER = user.get .NAME
  allowed : session.userId = .str (param params "userId") ∨ session.isWorker.truthy = true

/-- The exits of the handler that report an error. -/
inductive ErrorExit (p : Platform) (req : Request) (params : List (String × String)) (c : Ctx)
    (result : Except String Unit) : Prop
  | missingLocation (nothing : ∀ latitude, (location p req).prop "latitude" ≠ .ok latitude)
  | rejectedDistance (latitude : Value) (read : (location p req).prop "latitude" = .ok latitude)
      (truthy : latitude.truthy = true)
      (far : p.nearby latitude ((location p req).propD "longitude") = false)
  | deniedAccess (other : c.session.userId ≠ .str (param params "userId"))
      (noWorker : c.session.isWorker.truthy = false)
  | missingUser (nobody : ∀ user ∈ c.server.users.rows, c.session.userId ≠ .str user.id)
  | thrownException (error : String) (thrown : result = .error error)

/-- What a request to record an activity does to the tables. -/
structure ActivityEffect (p : Platform) (req : Request) (params : List (String × String))
    (c t : Ctx) (result : Except String Unit) : Prop where
  users : t.server.users = c.server.users
  activities : t.server.activities = c.server.activities ∨
    ∃ row, t.server.activities.rows = c.server.activities.rows ++ [row] ∧
      RowOf p req params c.session c.server.users.rows row
  errors : ErrorExit p req params c result → t.server.activities = c.server.activities

theorem Writes.row {p : Platform} {req : Request} {params : List (String × String)} {c : Ctx}
    {activities : Table ActivityColumn} (writes : Writes p req params c activities) :
    ∃ row, activities.rows = c.server.activities.rows ++ [row] ∧
      RowOf p req params c.session c.server.users.rows row := by
  obtain ⟨allowed, user, response, row, looked, read, made, inserted⟩ := writes.records
  obtain ⟨member, id⟩ := findByPk_some p.toOrm looked
  have stores := create_stores p.toOrm made
  have named : ∃ name, user.get .NAME = .str name := by
    have holds := user.holds .NAME
    cases cell : user.get .NAME <;> simp_all [Attribute.Holds, Model.declared, DataType.reads]
  obtain ⟨name, isName⟩ := named
  refine ⟨row, Table.insert_rows inserted, stores .USERID, (stores .ACTIVITYTYPE).text p.toOrm
    (.inl rfl), ⟨response, read, stores .RESPONSE⟩, ⟨user, member, id, ?_⟩, allowed⟩
  have performs : row.Stores p.toOrm .PERFORMER (user.get .NAME) := stores .PERFORMER
  rw [isName] at performs ⊢
  exact performs.text p.toOrm (.inl rfl)

/-- The handler adds one row for the user of the path, performed by the user of the session, or
leaves the tables alone; it adds none on any of its error exits. -/
theorem activity_effect (p : Platform) (req : Request) (params : List (String × String)) (c : Ctx) :
    ActivityEffect p req params c (exec (postCreateActivity p req params) c).2
      (exec (postCreateActivity p req params) c).1 := by
  have users : (exec (postCreateActivity p req params) c).2.server.users = c.server.users := by
    refine Ensures.final (P := fun t => t.server.users = c.server.users)
      ((postCreateActivity_spec p req params c).mono ?_ ?_)
    · rintro _ t (same | ⟨activities, _, same⟩)
      · exact congrArg Server.users (Ctx.server_of_core same)
      · exact (congrArg Server.users (Ctx.server_of_core same) :)
    · intro _ t same
      exact congrArg Server.users (Ctx.server_of_core same)
  rcases postCreateActivity_activities p req params c with
    ⟨activities, ⟨latitude, read, near⟩, writes, returned, isTable⟩ | ⟨never, same⟩
  · have records := writes.records
    refine ⟨users, .inr (isTable ▸ writes.row), fun exit => ?_⟩
    obtain ⟨allowed, user, _, _, looked, _⟩ := records
    obtain ⟨member, id⟩ := findByPk_some p.toOrm looked
    rcases exit with ⟨nothing⟩ | ⟨latitude', read', truthy, far⟩ | ⟨other, noWorker⟩ | ⟨nobody⟩ |
      ⟨error, thrown⟩
    · exact absurd read (nothing latitude)
    · cases Except.ok.inj (read.symm.trans read')
      rw [near truthy] at far
      cases far
    · rw [noWorker] at allowed
      exact absurd (allowed.resolve_right (by simp)) other
    · exact absurd id (nobody user member)
    · rw [returned] at thrown
      cases thrown
  · exact ⟨users, .inl same, fun _ => same⟩

end Effect

section Presence

/-- The parameters of a request to mark the attendance of a user. -/
def attendanceOf (userId : String) : List (String × String) :=
  [("userId", userId), ("activityType", "Attendance")]

variable (p : Platform) (req : Request) (userId : String) (c : Ctx)

/-- The location carries a latitude and a longitude that are near. -/
def Present : Prop :=
  ∃ latitude longitude, (location p req).prop "latitude" = .ok latitude ∧
    (location p req).prop "longitude" = .ok longitude ∧ latitude ≠ .undefined ∧
    longitude ≠ .undefined ∧ p.nearby latitude longitude = true

/-- An attendance is recorded only for somebody who is there. -/
def AttendanceNeedsPresence (before after : Table ActivityColumn) : Prop :=
  (∃ row ∈ after.rows, row ∉ before.rows ∧ row.get .ACTIVITYTYPE = .str "Attendance") →
    Present p req

/-- The check is made, and a location that passes it has a longitude; or it is not made and the
client is there all the same; or there is nothing to record. -/
def PresenceSettled : Prop :=
  let latitude := (location p req).propD "latitude"
  let longitude := (location p req).propD "longitude"
  latitude.truthy = true ∧ (p.nearby latitude longitude = true → longitude ≠ .undefined) ∨
    latitude.truthy = false ∧ latitude ≠ .undefined ∧ longitude ≠ .undefined ∧
      p.nearby latitude longitude = true ∨
    location p req = .undefined ∨ location p req = .null ∨
    ∀ activities, ¬ Writes p req (attendanceOf userId) c activities

theorem present_iff : Present p req ↔
    (location p req).propD "latitude" ≠ .undefined ∧ (location p req).propD "longitude" ≠ .undefined ∧
      p.nearby ((location p req).propD "latitude") ((location p req).propD "longitude") = true := by
  unfold Present Value.propD
  cases location p req <;> simp [Value.prop, Except.toOption]

theorem located_iff : Located p req ↔
    location p req ≠ .undefined ∧ location p req ≠ .null ∧
      (((location p req).propD "latitude").truthy = true →
        p.nearby ((location p req).propD "latitude") ((location p req).propD "longitude") = true) := by
  unfold Located Value.propD
  cases location p req <;> simp [Value.prop, Except.toOption]

/-- A location without a truthy latitude, which is what the pages send, is not checked at all. -/
theorem attendance_presence_iff :
    AttendanceNeedsPresence p req c.server.activities
        (exec (postCreateActivity p req (attendanceOf userId)) c).2.server.activities ↔
      PresenceSettled p req userId c := by
  rcases postCreateActivity_activities p req (attendanceOf userId) c with
    ⟨activities, located, writes, _, isTable⟩ | ⟨never, same⟩
  · rw [isTable]
    obtain ⟨row, rows, isRow⟩ := writes.row
    have fresh : row ∉ c.server.activities.rows := by
      intro member
      have ids := activities.distinct
      rw [rows, List.map_append, List.nodup_append] at ids
      exact ids.2.2 row.id (List.mem_map_of_mem member) row.id (by simp) rfl
    have added : ∃ row ∈ activities.rows, row ∉ c.server.activities.rows ∧
        row.get .ACTIVITYTYPE = .str "Attendance" :=
      ⟨row, by rw [rows]; simp, fresh, isRow.ACTIVITYTYPE⟩
    obtain ⟨given, filled, checked⟩ := (located_iff p req).mp located
    have written : ¬ ∀ activities, ¬ Writes p req (attendanceOf userId) c activities :=
      fun none => none activities writes
    unfold AttendanceNeedsPresence
    rw [present_iff]
    simp only [added, forall_const, PresenceSettled, given, filled, written, or_false]
    by_cases truthy : ((location p req).propD "latitude").truthy = true
    · have latitude : (location p req).propD "latitude" ≠ .undefined := by
        intro absent
        rw [absent] at truthy
        cases truthy
      simp [truthy, latitude, checked truthy]
    · have falsy : ((location p req).propD "latitude").truthy = false := by simpa using truthy
      simp [falsy]
  · rw [same]
    refine iff_of_true ?_ ?_
    · rintro ⟨row, member, new, _⟩
      exact absurd member new
    · by_cases written : ∀ activities, ¬ Writes p req (attendanceOf userId) c activities
      · exact .inr (.inr (.inr (.inr written)))
      · obtain ⟨activities, writes⟩ := not_forall_not.mp written
        have refused : ¬ Located p req := fun located => never activities ⟨located, writes⟩
        rw [located_iff] at refused
        by_cases absent : location p req = .undefined
        · exact .inr (.inr (.inl absent))
        · by_cases empty : location p req = .null
          · exact .inr (.inr (.inr (.inl empty)))
          · obtain ⟨truthy, far⟩ := Classical.not_imp.mp fun near => refused ⟨absent, empty, near⟩
            exact .inl ⟨truthy, fun near => absurd near far⟩

open Reference in
/-- The position that the script of the page sends: an object put into the URL as a text. -/
def scriptedAttendance : Request :=
  { request "s1" "POST" ("/create-activity/" ++ adaId ++ "/Attendance?location=[object Object]") with
    body := .obj [("response", .str "present")] }

open Reference in
/-- The member is nowhere near, and her attendance is recorded. -/
theorem absent_member_attends :
    ¬ AttendanceNeedsPresence platform scriptedAttendance (context adaId).server.activities
      (exec (postCreateActivity platform scriptedAttendance (attendanceOf adaId))
        (context adaId)).2.server.activities := by
  have recorded : .str "Attendance" ∈
      (exec (postCreateActivity platform scriptedAttendance (attendanceOf adaId))
        (context adaId)).2.server.activities.rows.map (fun row => row.get .ACTIVITYTYPE) := by
    decide +kernel
  obtain ⟨row, member, attended⟩ := List.mem_map.mp recorded
  intro needs
  obtain ⟨_, _, _, _, _, _, near⟩ := needs ⟨row, member, List.not_mem_nil, attended⟩
  cases near

end Presence

end ChurchManagement
