import ChurchManagement.Denials
import ChurchManagement.FallThrough
import ChurchManagement.Security.Middleware

namespace ChurchManagement.Middleware

open Js Effect Sequelize

section Rejections

variable (p : Platform) (req : Request)

/-- What the query for a client without an identifier finds; it is refused where a condition
is. -/
def guestFound (rows : List UserAgent) : Option (Option UserAgent) := do
  let ipAddress ← p.whereEq (.str req.ip)
  let userAgent ← p.whereEq req.userAgent
  let role ← p.whereEq .null
  let isActive ← p.whereEq (.bool false)
  some (findOne p.toOrm (fun row => ipAddress (row.get UserAgentColumn.IPADDRESS) &&
    userAgent (row.get UserAgentColumn.USERAGENT) && role (row.get UserAgentColumn.ROLE) &&
    isActive (row.get UserAgentColumn.ISACTIVE)) rows)

/-- The database does not take a new record with the count. -/
def CreateRejected (failedCount : Js.Num) (userAgents : Table UserAgentColumn) : Prop :=
  req.fault .UserAgent .create ≠ none ∨
    ∀ row, create p.toOrm (req.rowId 0) [("USERID", .str req.v4), ("IPADDRESS", .str req.ip),
      ("USERAGENT", req.userAgent), ("FAILEDCOUNT", .num failedCount), ("ROLE", .null),
      ("LASTACTIVITY", .null)] = some row → userAgents.insert row = none

/-- The database does not take the raised count of the record. -/
def UpdateRejected (record : UserAgent) : Prop :=
  req.fault .UserAgent .update ≠ none ∨
    record.update p.toOrm [("FAILEDCOUNT", .num (failedCount record).increment)] = none

/-- One of the database calls of the middleware is rejected: its query, or the write that follows
from what the query has found. -/
def Rejected (c : Ctx) : Prop :=
  req.fault .UserAgent .findOne ≠ none ∨
    if c.session.userId.truthy = true then
      p.whereEq c.session.userId = none ∨
        match recordFor p c.server.userAgents.rows c.session.userId with
        | none => CreateRejected p req (.ofNat 1) c.server.userAgents
        | some record => (failedCount record).atLeast 10 = false ∧
            mismatch c.session req record = true ∧ UpdateRejected p req record
    else
      match guestFound p req c.server.userAgents.rows with
      | none => True
      | some none => CreateRejected p req .zero c.server.userAgents
      | some (some _) => False

/-- The record of the session is not banned, and the request is found to agree with it. -/
def Agrees (c : Ctx) : Prop :=
  c.session.userId.truthy = true ∧ ∃ record,
    recordFor p c.server.userAgents.rows c.session.userId = some record ∧
    (failedCount record).atLeast 10 = false ∧ mismatch c.session req record = false

/-- The request is not on the skip list, which could be built for the session. -/
def Tracked (session : Session) : Prop := ¬ Skips req session ∧ Readable session

end Rejections

section Specs

variable {p : Platform} {req : Request} {c : Ctx}

/-- For the authentication the two switches agree: what the other one validates is authorized
as well. -/
theorem middleCorrect_authenticate (req : Request) :
    middleCorrect "authenticate" req = ChurchManagement.middleCorrect "authenticate" req := by
  unfold middleCorrect ChurchManagement.middleCorrect
  refine bind_congr fun c => ?_
  dsimp only
  split
  · simp [skipSwitch, ChurchManagement.skipSwitch]
  · rename_i unlisted
    refine bind_congr fun skipAuthorize => ?_
    have notUrl : decide (req.url = "/" ∨ req.url = "/login" ∨ req.url = "/register") = false :=
      Bool.eq_false_iff.mpr fun isUrl => unlisted (.inl isUrl)
    simp [skipSwitch, ChurchManagement.skipSwitch, notUrl]

theorem createRecord_spec (failedCount : Js.Num) :
    Ensures (createRecord p req failedCount) c
      (fun _ _ => ¬ CreateRejected p req failedCount c.server.userAgents)
      (fun _ t => t = c ∧ CreateRejected p req failedCount c.server.userAgents) := by
  unfold createRecord
  simp only [ensures_bind, ensures_db, ensures_orThrow, ensures_get, ensures_setServer,
    ensures_setSession]
  refine ⟨fun error fault => ⟨trivial, .inl (by simp [fault])⟩, fun works => ⟨fun row made =>
    ⟨fun table inserted => ?_, fun taken => ⟨trivial, .inr fun row' made' => ?_⟩⟩,
    fun refused => ⟨trivial, .inr fun row made => ?_⟩⟩⟩
  · rintro (fault | never)
    · exact fault works
    · cases (never row made).symm.trans inserted
  · cases Option.some.inj (made.symm.trans made')
    exact taken
  · cases refused.symm.trans made

theorem guestRecord_spec :
    Ensures (guestRecord p req) c
      (fun found t => t = c ∧ req.fault .UserAgent .findOne = none ∧
        guestFound p req c.server.userAgents.rows = some found)
      (fun _ t => t = c ∧ (req.fault .UserAgent .findOne ≠ none ∨
        guestFound p req c.server.userAgents.rows = none)) := by
  unfold guestRecord guestFound
  simp only [ensures_bind, ensures_db, ensures_whereColumn, ensures_get, ensures_pure]
  refine ⟨fun error fault => ⟨trivial, .inl (by simp [fault])⟩, fun works => ⟨fun ipAddress isIp =>
    ⟨fun userAgent isAgent => ⟨fun role isRole => ⟨fun isActive active => ⟨trivial, works, ?_⟩,
    fun refused => ⟨trivial, .inr ?_⟩⟩, fun refused => ⟨trivial, .inr ?_⟩⟩,
    fun refused => ⟨trivial, .inr ?_⟩⟩, fun refused => ⟨trivial, .inr ?_⟩⟩⟩
  · simp [isIp, isAgent, isRole, active]
  · simp [isIp, isAgent, isRole, refused]
  · simp [isIp, isAgent, refused]
  · simp [isIp, refused]
  · simp [refused]

theorem sessionRecord_spec (userId : Value) :
    Ensures (sessionRecord p req userId) c
      (fun found t => t = c ∧ req.fault .UserAgent .findOne = none ∧ p.whereEq userId ≠ none ∧
        recordFor p c.server.userAgents.rows userId = found)
      (fun _ t => t = c ∧ (req.fault .UserAgent .findOne ≠ none ∨ p.whereEq userId = none)) := by
  unfold sessionRecord recordFor
  simp only [ensures_bind, ensures_db, ensures_whereColumn, ensures_get, ensures_pure]
  refine ⟨fun error fault => ⟨trivial, .inl (by simp [fault])⟩, fun works => ⟨fun cond built =>
    ⟨trivial, works, by simp [built], by simp [built]⟩, fun refused => ⟨trivial, .inr refused⟩⟩⟩

/-- Off the skip list the ending of the middleware sends the client back. -/
theorem nextOrLogin_ends {session : Session} (off : ¬ Skips req session) (t : Ctx) :
    Ensures (nextOrLogin req) t (fun flow _ => flow = .ended) (fun _ _ => False) := by
  refine (nextOrLogin_spec req t).mono ?_ (fun _ _ never => never)
  intro flow _ post
  cases flow with
  | ended => rfl
  | next => exact absurd (Skips.of_redirector (post.2.mp rfl) session) off

theorem banned_spec : Ensures banned c (fun flow _ => flow = .ended) (fun _ _ => False) := rfl

theorem failedAttempt_spec (off : ¬ Skips req c.session) (record : UserAgent) :
    Ensures (failedAttempt p req record) c
      (fun flow _ => flow = .ended ∧ ¬ UpdateRejected p req record)
      (fun _ t => t = c ∧ UpdateRejected p req record) := by
  unfold failedAttempt
  simp only [ensures_bind, ensures_db, ensures_orThrow, ensures_setServer, ensures_flash]
  refine ⟨fun error fault => ⟨trivial, .inl (by simp [fault])⟩, fun works => ⟨fun row made => ?_,
    fun refused => ⟨trivial, .inr refused⟩⟩⟩
  refine (nextOrLogin_ends off _).mono ?_ (fun _ _ never => never.elim)
  intro flow _ ends
  refine ⟨ends, ?_⟩
  rintro (fault | refused)
  · exact fault works
  · cases refused.symm.trans made

/-- A client without an identifier is sent back unless the database fails. -/
theorem guest_spec (off : ¬ Skips req c.session) (guest : c.session.userId.truthy = false) :
    Ensures (guestRecord p req >>= guestActivity p req) c
      (fun flow _ => flow = .ended ∧ ¬ Rejected p req c) (fun _ t => t = c ∧ Rejected p req c) := by
  rw [ensures_bind]
  refine guestRecord_spec.mono ?_ ?_
  · rintro found t ⟨rfl, works, isFound⟩
    unfold guestActivity
    split
    · rename_i record
      have accepted : ¬ Rejected p req t := by simp [Rejected, works, guest, isFound]
      rw [ensures_ite]
      refine ⟨fun _ => banned_spec.mono (fun _ _ ends => ⟨ends, accepted⟩)
        (fun _ _ never => never.elim), fun _ => ?_⟩
      rw [ensures_bind, ensures_setSession]
      exact (nextOrLogin_ends off _).mono (fun _ _ ends => ⟨ends, accepted⟩)
        (fun _ _ never => never.elim)
    · have rejects : Rejected p req t ↔ CreateRejected p req .zero t.server.userAgents := by
        simp [Rejected, works, guest, isFound]
      rw [ensures_bind, rejects]
      refine (createRecord_spec .zero).mono ?_ (fun _ _ post => post)
      intro _ t' created
      exact (nextOrLogin_ends off _).mono (fun _ _ ends => ⟨ends, created⟩)
        (fun _ _ never => never.elim)
  · rintro _ t ⟨rfl, fault | refused⟩
    · exact ⟨rfl, .inl fault⟩
    · exact ⟨rfl, .inr (by simp [guest, refused])⟩

/-- A client with an identifier is let through when the request agrees with its record. -/
theorem session_spec (off : ¬ Skips req c.session) (known : c.session.userId.truthy = true) :
    Ensures (sessionRecord p req c.session.userId >>= sessionActivity p req c.session) c
      (fun flow t => flow = .next ∧ t = c ∧ Agrees p req c ∨
        flow = .ended ∧ ¬ Rejected p req c ∧ ¬ Agrees p req c)
      (fun _ t => t = c ∧ Rejected p req c) := by
  rw [ensures_bind]
  refine (sessionRecord_spec c.session.userId).mono ?_ ?_
  · rintro found t ⟨rfl, works, built, isFound⟩
    unfold sessionActivity
    split
    · rename_i record
      have rejects : Rejected p req t ↔ (failedCount record).atLeast 10 = false ∧
          mismatch t.session req record = true ∧ UpdateRejected p req record := by
        simp [Rejected, works, known, built, isFound]
      have agrees : Agrees p req t ↔ (failedCount record).atLeast 10 = false ∧
          mismatch t.session req record = false := by
        simp [Agrees, known, isFound]
      rw [rejects, agrees, ensures_ite]
      refine ⟨fun many => ?_, fun few => ?_⟩
      · exact banned_spec.mono (fun _ _ ends => .inr ⟨ends, by simp [many], by simp [many]⟩)
          (fun _ _ never => never.elim)
      · rw [ensures_ite]
        refine ⟨fun differs => ?_, fun same => .inl ⟨rfl, rfl, by simpa using few, by simpa using same⟩⟩
        refine (failedAttempt_spec off record).mono ?_ ?_
        · rintro flow _ ⟨ends, updated⟩
          exact .inr ⟨ends, fun rejected => updated rejected.2.2, by simp [differs]⟩
        · rintro _ t' ⟨isSame, rejected⟩
          exact ⟨isSame, by simpa using few, differs, rejected⟩
    · have rejects : Rejected p req t ↔ CreateRejected p req (.ofNat 1) t.server.userAgents := by
        simp [Rejected, works, known, built, isFound]
      have disagrees : ¬ Agrees p req t := by simp [Agrees, isFound]
      rw [ensures_bind, rejects]
      refine (createRecord_spec (.ofNat 1)).mono ?_ (fun _ _ post => post)
      intro _ t' created
      rw [ensures_bind, ensures_flash]
      exact (nextOrLogin_ends off _).mono (fun _ _ ends => .inr ⟨ends, created, disagrees⟩)
        (fun _ _ never => never.elim)
  · rintro _ t ⟨rfl, fault | refused⟩
    · exact ⟨rfl, .inl fault⟩
    · exact ⟨rfl, .inr (by simp [known, refused])⟩

/-- Off the skip list the middleware lets a request through when a database call is rejected, which
its catch does not tell from success, or when the request agrees with its record. -/
theorem trackUserActivity_tracked (tracked : Tracked req c.session) :
    Ensures (trackUserActivity p req) c
      (fun flow t => flow = .next ∧ t = c ∧ (Rejected p req c ∨ Agrees p req c) ∨
        flow = .ended ∧ ¬ Rejected p req c ∧ ¬ Agrees p req c)
      (fun _ _ => False) := by
  obtain ⟨off, readable⟩ := tracked
  unfold trackUserActivity
  rw [middleCorrect_authenticate, ensures_bind]
  refine (middleCorrect_exact c (by decide)).mono ?_ (fun _ _ post => post.2.2 readable)
  rintro nt t ⟨rfl, ⟨_, skips⟩ | ⟨rfl, _⟩⟩
  · exact absurd skips off
  · rw [ensures_ite]
    refine ⟨fun granted => absurd granted (by decide), fun _ => ?_⟩
    rw [ensures_attempt, ensures_bind, ensures_get, ensures_ite]
    refine ⟨fun absent => ?_, fun present => ?_⟩
    · have guest : t.session.userId.truthy = false := by simpa using absent
      refine (guest_spec off guest).mono ?_ ?_
      · rintro flow _ ⟨ends, accepted⟩
        exact .inr ⟨ends, accepted, fun agrees => by simp [Agrees, guest] at agrees⟩
      · rintro _ t' ⟨isSame, rejected⟩
        exact .inl ⟨rfl, isSame, .inl rejected⟩
    · have known : t.session.userId.truthy = true := by simpa using present
      refine (session_spec off known).mono ?_ ?_
      · rintro flow t' (⟨isNext, isSame, agrees⟩ | ends)
        · exact .inl ⟨isNext, isSame, .inr agrees⟩
        · exact .inr ends
      · rintro _ t' ⟨isSame, rejected⟩
        exact .inl ⟨rfl, isSame, .inl rejected⟩

/-- On the skip list the middleware lets the request through at once. -/
theorem trackUserActivity_skipped (skips : Skips req c.session) :
    (exec (trackUserActivity p req) c).1 = .ok .next := by
  have passes : Ensures (trackUserActivity p req) c (fun flow _ => flow = .next) (fun _ _ => False) := by
    unfold trackUserActivity
    rw [middleCorrect_authenticate, ensures_bind]
    refine (middleCorrect_exact c (by decide)).mono ?_ (fun _ _ post => post.2.1 skips)
    rintro nt t ⟨_, ⟨rfl, _⟩ | ⟨_, off, _⟩⟩
    · rw [ensures_ite]
      exact ⟨fun _ => rfl, fun refused => absurd rfl refused⟩
    · exact absurd skips off
  obtain ⟨flow, returned, isNext⟩ := passes.returns
  rw [returned, isNext]

/-- A session whose identifier cannot be put into a text is never let through off the skip list. -/
theorem trackUserActivity_unreadable (off : ¬ Skips req c.session) (unreadable : ¬ Readable c.session) :
    (exec (trackUserActivity p req) c).1 ≠ .ok .next := by
  have throws : Ensures (trackUserActivity p req) c (fun _ _ => False) (fun _ _ => True) := by
    unfold trackUserActivity
    rw [middleCorrect_authenticate, ensures_bind]
    refine (middleCorrect_exact c (by decide)).mono ?_ (fun _ _ _ => trivial)
    rintro nt t ⟨_, ⟨_, skips⟩ | ⟨_, _, readable⟩⟩
    · exact absurd skips off
    · exact absurd readable unreadable
  exact fun returned => throws.of_returned returned

end Specs

section Matching

variable (p : Platform)

/-- A request in a context that the layers in front of the middleware have left. -/
structure Visit where
  req : Request
  ctx : Ctx

/-- The context of the visit over the server as it stands. -/
def Visit.at (visit : Visit) (s : Server) : Ctx := { visit.ctx with server := s }

/-- The server behind the middleware. -/
def afterVisit (s : Server) (visit : Visit) : Server :=
  (exec (trackUserActivity p visit.req) (visit.at s)).2.server

/-- The visit is tracked and agrees with the record of its session in all four respects. -/
structure MatchesRecord (s : Server) (record : UserAgent) (visit : Visit) : Prop where
  tracked : Tracked visit.req visit.ctx.session
  found : recordFor p s.userAgents.rows visit.ctx.session.userId = some record
  ROLE : visit.ctx.session.role = record.get .ROLE
  LASTACTIVITY : visit.ctx.session.lastActivity = record.get .LASTACTIVITY
  IPADDRESS : .str visit.req.ip = record.get .IPADDRESS
  USERAGENT : visit.req.userAgent = record.get .USERAGENT

/-- The table has the record with the count it had. -/
def KeepsCount (record : UserAgent) (userAgents : Table UserAgentColumn) : Prop :=
  ∃ row ∈ userAgents.rows, row.id = record.id ∧ row.get .FAILEDCOUNT = record.get .FAILEDCOUNT

/-- One after the other, the visits are let through and leave the count of the record alone. -/
def Unharmed (record : UserAgent) (s : Server) : List Visit → Prop
  | [] => True
  | visit :: rest =>
    (exec (trackUserActivity p visit.req) (visit.at s)).1 = .ok .next ∧
      KeepsCount record (afterVisit p s visit).userAgents ∧ Unharmed record (afterVisit p s visit) rest

variable {p} {s : Server} {record : UserAgent} {visit : Visit}

/-- A record has a text for its client, so no request ever agrees with it for the middleware. -/
theorem MatchesRecord.mismatches (matching : MatchesRecord p s record visit) :
    mismatch visit.ctx.session visit.req record = true := by
  have holds := record.holds .USERAGENT
  rw [mismatch, matching.USERAGENT]
  cases client : record.get .USERAGENT with
  | undefined =>
    rw [client] at holds
    cases holds
  | null | bool _ | num _ | str _ | date _ | arr _ | obj _ => simp [Value.strictEq]

theorem MatchesRecord.disagrees (matching : MatchesRecord p s record visit) :
    ¬ Agrees p visit.req (visit.at s) := by
  rintro ⟨_, other, found, _, same⟩
  cases Option.some.inj (matching.found.symm.trans found)
  cases matching.mismatches.symm.trans same

theorem recordFor_mem {rows : List UserAgent} {userId : Value} (found : recordFor p rows userId = some record) :
    record ∈ rows := by
  obtain ⟨cond, _, selected⟩ := Option.bind_eq_some_iff.mp found
  exact (findOne_some p.toOrm selected).1

/-- One visit: it is let through with the count as it was exactly when the database fails, and then
the server is as before. -/
theorem MatchesRecord.unharmed_iff (matching : MatchesRecord p s record visit) :
    (exec (trackUserActivity p visit.req) (visit.at s)).1 = .ok .next ∧
        KeepsCount record (afterVisit p s visit).userAgents ↔ Rejected p visit.req (visit.at s) := by
  obtain ⟨flow, returned, outcome⟩ :=
    (trackUserActivity_tracked (p := p) (c := visit.at s) matching.tracked).returns
  rcases outcome with ⟨rfl, same, reason⟩ | ⟨rfl, accepted, _⟩
  · have rejected := reason.resolve_right matching.disagrees
    refine iff_of_true ⟨returned, ?_⟩ rejected
    rw [afterVisit, same]
    exact ⟨record, recordFor_mem matching.found, rfl, rfl⟩
  · refine iff_of_false ?_ accepted
    rintro ⟨passed, _⟩
    cases returned.symm.trans passed

theorem afterVisit_rejected (tracked : Tracked visit.req visit.ctx.session)
    (rejected : Rejected p visit.req (visit.at s)) : afterVisit p s visit = s := by
  obtain ⟨flow, _, outcome⟩ :=
    (trackUserActivity_tracked (p := p) (c := visit.at s) tracked).returns
  rcases outcome with ⟨_, same, _⟩ | ⟨_, accepted, _⟩
  · rw [afterVisit, same]
    rfl
  · exact absurd rejected accepted

/-- Requests that agree with their record count as failures all the same, every one of them, unless
the database rejects a call. -/
theorem matching_requests_unharmed_iff (p : Platform) (s : Server) (record : UserAgent)
    (visits : List Visit) (matching : ∀ visit ∈ visits, MatchesRecord p s record visit) :
    Unharmed p record s visits ↔ ∀ visit ∈ visits, Rejected p visit.req (visit.at s) := by
  induction visits with
  | nil => exact iff_of_true trivial (by simp)
  | cons visit rest ih =>
    have first := matching visit List.mem_cons_self
    have others := ih fun later member => matching later (List.mem_cons_of_mem _ member)
    rw [Unharmed, ← and_assoc, first.unharmed_iff, List.forall_mem_cons]
    constructor
    · rintro ⟨rejected, unharmed⟩
      rw [afterVisit_rejected first.tracked rejected] at unharmed
      exact ⟨rejected, others.mp unharmed⟩
    · rintro ⟨rejected, later⟩
      refine ⟨rejected, ?_⟩
      rw [afterVisit_rejected first.tracked rejected]
      exact others.mpr later

section Samples

open Reference

/-- A visit of the member that agrees with her record; the database may reject its calls. -/
def agreeingVisit (fault : TableName → DbOp → Option String) : Visit where
  req := { request "s1" "GET" "/dashboard" with userAgent := .str "Firefox", fault := fault }
  ctx :=
    { describedContext [] with
      session := { userId := .str adaId, role := .str "member", lastActivity := .null } }

theorem agreeingVisit_matches (fault : TableName → DbOp → Option String) :
    MatchesRecord platform (describedContext []).server describedRecord (agreeingVisit fault) where
  tracked := by
    have unlisted : "/dashboard" ∉ ["/", "/login", "/register", "/memberIndex"] := by decide
    have foreign : "/dashboard" ≠ "/update-user/" ++ adaId := by decide +kernel
    exact ⟨not_skips adaId rfl unlisted foreign, rfl⟩
  found := rfl
  ROLE := rfl
  LASTACTIVITY := rfl
  IPADDRESS := rfl
  USERAGENT := rfl

/-- Her first visit is turned away, and counts. -/
theorem agreeing_visit_counts :
    (failedCount describedRecord).atLeast 10 = false ∧
    MatchesRecord platform (describedContext []).server describedRecord
      (agreeingVisit fun _ _ => none) ∧
    ¬ Unharmed platform describedRecord (describedContext []).server
      [agreeingVisit fun _ _ => none] ∧
    ((afterVisit platform (describedContext []).server
      (agreeingVisit fun _ _ => none)).userAgents.rows.map (·.get .FAILEDCOUNT)) =
        [.num (.ofNat 1)] := by
  have first : (exec (trackUserActivity platform (agreeingVisit fun _ _ => none).req)
      ((agreeingVisit fun _ _ => none).at (describedContext []).server)).1 = .ok .ended := by
    decide +kernel
  refine ⟨by decide +kernel, agreeingVisit_matches _, ?_, by decide +kernel⟩
  rintro ⟨passed, _⟩
  cases first.symm.trans passed

/-- With an update that the database rejects she is let through. -/
theorem agreeing_visit_rejected :
    Unharmed platform describedRecord (describedContext []).server
      [agreeingVisit fun _ op => if op = .update then some "SequelizeDatabaseError" else none] := by
  refine (matching_requests_unharmed_iff platform _ _ _ fun visit member => ?_).mpr
    fun visit member => ?_
  · rw [List.mem_singleton.mp member]
    exact agreeingVisit_matches _
  · rw [List.mem_singleton.mp member]
    exact .inr (.inr ⟨by decide +kernel, by decide +kernel, .inl (by decide)⟩)

end Samples

end Matching

section Banned

variable (p : Platform) (req : Request) (c : Ctx)

/-- The middleware lets only the public pages through. -/
def BanEnforced : Prop :=
  (exec (trackUserActivity p req) c).1 = .ok .next → req.method = "GET" ∧ PublicUrl req.url

/-- A banned client gets through on the whole skip list, with any method, and wherever the database
fails. -/
theorem ban_enforced_iff (record : UserAgent)
    (found : recordFor p c.server.userAgents.rows c.session.userId = some record)
    (many : (failedCount record).atLeast 10 = true) :
    BanEnforced p req c ↔ req.method = "GET" ∧ PublicUrl req.url ∨
      ¬ Skips req c.session ∧ (Readable c.session → ¬ Rejected p req c) := by
  by_cases isPublic : req.method = "GET" ∧ PublicUrl req.url
  · exact iff_of_true (fun _ => isPublic) (.inl isPublic)
  · have enforced : BanEnforced p req c ↔ (exec (trackUserActivity p req) c).1 ≠ .ok .next :=
      ⟨fun known passed => isPublic (known passed), fun never passed => absurd passed never⟩
    rw [enforced]
    by_cases skips : Skips req c.session
    · refine iff_of_false (fun never => never (trackUserActivity_skipped skips)) ?_
      rintro (isPublic' | ⟨off, _⟩)
      · exact isPublic isPublic'
      · exact off skips
    · by_cases readable : Readable c.session
      · have disagrees : ¬ Agrees p req c := by
          rintro ⟨_, other, found', few, _⟩
          cases Option.some.inj (found.symm.trans found')
          cases many.symm.trans few
        obtain ⟨flow, returned, outcome⟩ :=
          (trackUserActivity_tracked (p := p) ⟨skips, readable⟩).returns
        rw [returned]
        rcases outcome with ⟨rfl, _, reason⟩ | ⟨rfl, accepted, _⟩
        · have rejected := reason.resolve_right disagrees
          refine iff_of_false (fun never => never rfl) ?_
          rintro (isPublic' | ⟨_, accepted⟩)
          · exact isPublic isPublic'
          · exact accepted readable rejected
        · exact iff_of_true (by simp) (.inr ⟨skips, fun _ => accepted⟩)
      · exact iff_of_true (trackUserActivity_unreadable skips readable)
          (.inr ⟨skips, fun known => absurd known readable⟩)

section Samples

open Reference

/-- The record of the member after ten failures. -/
def bannedRecord : UserAgent where
  id := describedRecord.id
  get
    | .FAILEDCOUNT => .num (.ofNat 10)
    | col => describedRecord.get col
  holds col := by cases col <;> decide +kernel

/-- The member comes back with her session. -/
def bannedContext : Ctx :=
  { server := { start with userAgents := ⟨[bannedRecord], by simp⟩ },
    session := { userId := .str adaId } }

/-- She gets to the page of the members, which is on the skip list. -/
theorem banned_member_gets_through :
    recordFor platform bannedContext.server.userAgents.rows bannedContext.session.userId =
        some bannedRecord ∧
      (failedCount bannedRecord).atLeast 10 = true ∧
      ¬ BanEnforced platform (request "s1" "GET" "/memberIndex") bannedContext := by
  refine ⟨rfl, by decide +kernel, fun enforced => ?_⟩
  obtain ⟨_, isPublic⟩ := enforced (trackUserActivity_skipped (.inl (by decide)))
  exact absurd isPublic (by simp [PublicUrl, request])

/-- Off the list she is stopped as long as the database works. -/
theorem banned_member_stopped :
    BanEnforced platform (request "s1" "GET" "/dashboard") bannedContext := by
  refine (ban_enforced_iff platform _ bannedContext bannedRecord rfl (by decide +kernel)).mpr
    (.inr ⟨not_skips adaId rfl (by decide) (by decide +kernel), fun _ => ?_⟩)
  rintro (fault | refused)
  · exact fault rfl
  · rcases refused with unbuilt | ⟨few, _⟩
    · cases unbuilt
    · exact absurd few (by decide +kernel)

end Samples

end Banned

end ChurchManagement.Middleware
