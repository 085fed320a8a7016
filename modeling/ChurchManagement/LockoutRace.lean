import Mathlib.Data.Fintype.Card
import ChurchManagement.History
import ChurchManagement.Lockout

namespace ChurchManagement.Middleware

open Js Effect Sequelize History

/-- How far a request has come in the middleware: before its query, between its query and its
write with the record it was given, or behind both. -/
inductive TrackPhase
  | arrived (c : Ctx)
  | found (c : Ctx) (userAgentRecord : Option UserAgent)
  | done (c : Ctx)

def TrackPhase.isDone : TrackPhase → Bool
  | .done _ => true
  | _ => false

@[simp] theorem TrackPhase.isDone_found (c : Ctx) (userAgentRecord : Option UserAgent) :
    (found c userAgentRecord).isDone = false := rfl

@[simp] theorem TrackPhase.isDone_done (c : Ctx) : (done c).isDone = true := rfl

/-- Requests that are tracked at the same time, and the table they share. -/
structure Tracking (ι : Type) where
  userAgents : Table UserAgentColumn
  phase : ι → TrackPhase

/-- The context with the table as it stands when a database step is taken. -/
def watching (userAgents : Table UserAgentColumn) (c : Ctx) : Ctx :=
  { c with server := { c.server with userAgents := userAgents } }

@[simp] theorem watching_session (userAgents : Table UserAgentColumn) (c : Ctx) :
    (watching userAgents c).session = c.session := rfl

/-- The middleware up to its query, which a request on the skip list does not make. -/
def trackFind (p : Platform) (req : Request) : Act (Option (Option UserAgent)) := do
  let nt ← middleCorrect "authenticate" req
  if nt then return none
  else do
    let session := (← get).session
    if !session.userId.truthy then return some (← guestRecord p req)
    else return some (← sessionRecord p req session.userId)

/-- What the middleware does with the answer of its query. -/
def trackWrite (p : Platform) (req : Request) (found : Option UserAgent) : Act Flow := do
  let session := (← get).session
  if !session.userId.truthy then guestActivity p req found
  else sessionActivity p req session found

section Steps

variable {ι : Type} [DecidableEq ι] (p : Platform) (reqs : ι → Request)

/-- The request goes on with a new phase, and others see the table it has left. -/
def Tracking.moved (s : Tracking ι) (i : ι) (t : Ctx) (phase : Ctx → TrackPhase) : Tracking ι where
  userAgents := t.server.userAgents
  phase := Function.update s.phase i (phase t)

@[simp] theorem Tracking.moved_userAgents (s : Tracking ι) (i : ι) (t : Ctx)
    (phase : Ctx → TrackPhase) : (s.moved i t phase).userAgents = t.server.userAgents := rfl

@[simp] theorem Tracking.moved_phase (s : Tracking ι) (i : ι) (t : Ctx) (phase : Ctx → TrackPhase) :
    (s.moved i t phase).phase = Function.update s.phase i (phase t) := rfl

/-- One database step of one request. An exception ends the middleware, with what was written. -/
def trackStep (i : ι) (s : Tracking ι) : Tracking ι :=
  match s.phase i with
  | .arrived c =>
    match exec (trackFind p (reqs i)) (watching s.userAgents c) with
    | (.ok (some found), t) => s.moved i t (.found · found)
    | (_, t) => s.moved i t .done
  | .found c found => s.moved i (exec (trackWrite p (reqs i) found) (watching s.userAgents c)).2 .done
  | .done _ => s

/-- The queries of the middleware leave the context as it is. -/
theorem exec_guestRecord_state (req : Request) (c : Ctx) : (exec (guestRecord p req) c).2 = c :=
  Ensures.final (guestRecord_spec.mono (fun _ _ post => post.1) (fun _ _ post => post.1))

theorem exec_sessionRecord_state (req : Request) (userId : Value) (c : Ctx) :
    (exec (sessionRecord p req userId) c).2 = c :=
  Ensures.final ((sessionRecord_spec userId).mono (fun _ _ post => post.1) (fun _ _ post => post.1))

/-- The catch of the middleware changes nothing. -/
theorem exec_attempt_next (x : Act Flow) (c : Ctx) :
    (exec (attempt x fun _ => next) c).2 = (exec x c).2 := by
  rw [exec_attempt]
  cases (exec x c).1 with
  | ok flow => rfl
  | error e => rfl

/-- What follows from the answer of a query that leaves the context as it is may look at the
context again. -/
theorem exec_query {query : Act (Option UserAgent)} {follow rest : Option UserAgent → Act Flow}
    {t : Ctx} (same : (exec query t).2 = t)
    (agree : ∀ found, exec (follow found) t = exec (rest found) t) :
    (exec (query >>= follow) t).2 =
      match exec (do return some (← query) : Act (Option (Option UserAgent))) t with
      | (.ok (some found), t') => (exec (rest found) t').2
      | (_, t') => t' := by
  rw [exec_bind, exec_bind]
  cases run : exec query t with
  | mk result t' =>
    rw [run] at same
    cases same
    cases result with
    | ok found => exact congrArg Prod.snd (agree found)
    | error e => rfl

/-- The middleware is its query with what follows from the answer. -/
theorem exec_trackUserActivity (req : Request) (c : Ctx) :
    (exec (trackUserActivity p req) c).2 =
      match exec (trackFind p req) c with
      | (.ok (some found), t) => (exec (trackWrite p req found) t).2
      | (_, t) => t := by
  unfold trackUserActivity trackFind
  rw [exec_bind, exec_bind]
  cases exec (middleCorrect "authenticate" req) c with
  | mk granted t =>
    cases granted with
    | error e => rfl
    | ok nt =>
      cases nt with
      | true => rfl
      | false =>
        have start : exec (get : Act Ctx) t = (.ok t, t) := rfl
        simp only [Bool.false_eq_true, if_false]
        rw [exec_attempt_next, exec_bind, exec_bind, start]
        dsimp only
        by_cases guest : (!t.session.userId.truthy) = true
        · rw [if_pos guest, if_pos guest]
          refine exec_query (exec_guestRecord_state p req t) fun found => ?_
          rw [trackWrite, exec_bind, start]
          dsimp only
          rw [if_pos guest]
        · rw [if_neg guest, if_neg guest]
          refine exec_query (exec_sessionRecord_state p req _ t) fun found => ?_
          rw [trackWrite, exec_bind, start]
          dsimp only
          rw [if_neg guest]

variable {p reqs} in
/-- Two steps of one request without a step of another in between are the middleware. -/
theorem trackStep_alone {i : ι} {s : Tracking ι} {c : Ctx} (arrived : s.phase i = .arrived c) :
    trackStep p reqs i (trackStep p reqs i s) =
      s.moved i (exec (trackUserActivity p (reqs i)) (watching s.userAgents c)).2 .done := by
  rw [exec_trackUserActivity]
  conv_lhs => rw [trackStep.eq_def p reqs i s, arrived]
  simp only
  cases exec (trackFind p (reqs i)) (watching s.userAgents c) with
  | mk result t =>
    have same : watching t.server.userAgents t = t := rfl
    cases result with
    | error e => simp [trackStep, Tracking.moved]
    | ok answer =>
      cases answer with
      | none => simp [trackStep, Tracking.moved]
      | some found => simp [trackStep, Tracking.moved, same]

end Steps

section Counting

variable {p : Platform} {req : Request} {userAgents : Table UserAgentColumn} {record : UserAgent}

/-- The record with another count. -/
def counted (record : UserAgent) (n : Nat) : UserAgent where
  id := record.id
  get := Function.update record.get .FAILEDCOUNT (.num (.ofNat n))
  holds col := by
    by_cases isCount : col = .FAILEDCOUNT
    · subst isCount
      rw [Function.update_self]
      exact rfl
    · rw [Function.update_of_ne isCount]
      exact record.holds col

theorem counted_self {n : Nat} (count : record.get .FAILEDCOUNT = .num (.ofNat n)) :
    counted record n = record := by
  cases record
  simp [counted, ← count]

theorem counted_get {n : Nat} : (counted record n).get .FAILEDCOUNT = .num (.ofNat n) := by
  simp [counted]

theorem failedCount_counted (n : Nat) : failedCount (counted record n) = .ofNat n := by
  rw [failedCount, counted_get]

theorem mismatch_counted (session : Session) (n : Nat) :
    mismatch session req (counted record n) = mismatch session req record := by
  simp [mismatch, counted]

/-- A column of integers keeps the counts up to ten. -/
def StoresCounts (p : Platform) : Prop :=
  ∀ n ≤ 10, p.store .integer (.num (.ofNat n)) = some (.num (.ofNat n))

theorem update_counted (stores : StoresCounts p) {n : Nat} (few : n ≤ 10) (m : Nat) :
    (counted record m).update p.toOrm [("FAILEDCOUNT", .num (.ofNat n))] =
      some (counted record n) := by
  refine ((counted record m).update_eq_some p.toOrm (counted record n) rfl).mpr fun col => ?_
  have cell := stores n few
  cases col with
  | FAILEDCOUNT => exact cell.trans (congrArg some counted_get.symm)
  | USERID | IPADDRESS | USERAGENT | LASTACTIVITY | ISACTIVE | LOCATION | ROLE => rfl

/-- The request is tracked, its query finds the record whatever its count is, and it differs from
the record. -/
structure Mismatching (p : Platform) (userAgents : Table UserAgentColumn) (record : UserAgent)
    (req : Request) (session : Session) : Prop where
  tracked : Tracked req session
  known : session.userId.truthy = true
  found : ∀ n ≤ 10, recordFor p (userAgents.save (counted record n)).rows session.userId =
    some (counted record n)
  differs : mismatch session req record = true

variable {c : Ctx} {n : Nat}

/-- The query of such a request reads the count of the table. -/
theorem Mismatching.exec_find (mismatching : Mismatching p userAgents record req c.session) (few : n ≤ 10)
    (works : req.fault .UserAgent .findOne = none) :
    exec (trackFind p req) (watching (userAgents.save (counted record n)) c) =
      (.ok (some (some (counted record n))), watching (userAgents.save (counted record n)) c) := by
  obtain ⟨off, readable⟩ := mismatching.tracked
  have found := mismatching.found n few
  have spec : Ensures (trackFind p req) (watching (userAgents.save (counted record n)) c)
      (fun answer t => answer = some (some (counted record n)) ∧
        t = watching (userAgents.save (counted record n)) c) (fun _ _ => False) := by
    unfold trackFind
    rw [middleCorrect_authenticate, ensures_bind]
    refine (middleCorrect_exact _ (by decide)).mono ?_ (fun _ _ post => post.2.2 readable)
    rintro nt t ⟨rfl, ⟨_, skips⟩ | ⟨rfl, _⟩⟩
    · exact absurd skips off
    · have known : ¬ (!c.session.userId.truthy) = true := by simp [mismatching.known]
      rw [if_neg (by decide), ensures_bind, ensures_get]
      dsimp only [watching_session]
      rw [if_neg known, ensures_bind]
      refine (sessionRecord_spec _).mono ?_ ?_
      · rintro answer t ⟨isSame, _, _, isFound⟩
        exact ⟨congrArg some (isFound.symm.trans found), isSame⟩
      · rintro _ t ⟨_, fault | refused⟩
        · exact fault works
        · replace refused : p.whereEq c.session.userId = none := refused
          rw [recordFor, refused] at found
          cases found
  obtain ⟨answer, returned, isAnswer, same⟩ := spec.returns
  exact Prod.ext (isAnswer ▸ returned) same

/-- Such a request takes the branch of the sessions with an identifier. -/
theorem Mismatching.exec_trackWrite (mismatching : Mismatching p userAgents record req c.session)
    (table : Table UserAgentColumn) (found : Option UserAgent) :
    exec (trackWrite p req found) (watching table c) =
      exec (sessionActivity p req c.session found) (watching table c) := by
  have start : exec (get : Act Ctx) (watching table c) = (.ok (watching table c), watching table c) := rfl
  have known : ¬ (!c.session.userId.truthy) = true := by simp [mismatching.known]
  rw [trackWrite, exec_bind, start]
  dsimp only
  exact congrArg (exec · _) (if_neg known)

/-- Its write raises the count that was read. -/
theorem Mismatching.write_counts (mismatching : Mismatching p userAgents record req c.session)
    (stores : StoresCounts p) (few : n < 10) (works : req.fault .UserAgent .update = none)
    (table : Table UserAgentColumn) :
    (exec (trackWrite p req (some (counted record n))) (watching table c)).2.server.userAgents =
      table.save (counted record (n + 1)) := by
  obtain ⟨unbanned, raised⟩ := Num.ofNat_counts few.le
  rw [mismatching.exec_trackWrite]
  refine Ensures.final (P := fun t : Ctx => t.server.userAgents = _) ?_
  have differs : mismatch c.session req (counted record n) = true := by
    rw [mismatch_counted, mismatching.differs]
  simp only [sessionActivity, failedCount_counted, unbanned, differs, decide_eq_true_eq,
    if_neg (Nat.not_le.mpr few), if_true]
  unfold failedAttempt
  rw [failedCount_counted, raised]
  simp only [ensures_bind, ensures_db, ensures_orThrow, ensures_setServer, ensures_flash, works,
    update_counted stores (Nat.succ_le_of_lt few)]
  refine ⟨by simp, fun _ => ⟨fun row made => ?_, by simp⟩⟩
  cases Option.some.inj made
  refine (nextOrLogin_spec req _).mono ?_ (fun _ _ never => never.elim)
  intro _ t post
  exact congrArg Server.userAgents (Ctx.server_of_core post.1)

/-- Nothing is written to a record with ten failures. -/
theorem Mismatching.write_banned (mismatching : Mismatching p userAgents record req c.session)
    (table : Table UserAgentColumn) :
    (exec (trackWrite p req (some (counted record 10))) (watching table c)).2.server.userAgents =
      table := by
  obtain ⟨isBanned, _⟩ := Num.ofNat_counts (n := 10) le_rfl
  rw [mismatching.exec_trackWrite, sessionActivity, failedCount_counted, isBanned]
  rfl

end Counting

section Race

variable {ι : Type} [Fintype ι] (p : Platform) (reqs : ι → Request)

/-- The number of requests that have been through the middleware. -/
def Tracking.finished (s : Tracking ι) : Nat := (Finset.univ.filter fun i => (s.phase i).isDone = true).card

/-- The table has the record with the count. -/
def Counts (userAgents : Table UserAgentColumn) (id : String) (n : Nat) : Prop :=
  ∃ row ∈ userAgents.rows, row.id = id ∧ row.get .FAILEDCOUNT = .num (.ofNat n)

/-- The count of the record is at most ten, and not less than it was. -/
def CountKept (id : String) (before after : Table UserAgentColumn) : Prop :=
  ∃ n m, n ≤ m ∧ m ≤ 10 ∧ Counts before id n ∧ Counts after id m

/-- The database rejects nothing, and a request makes its write while the table still has the
record as the request has read it: no other has written since its query. -/
structure WritesApart (e : Event ι (Tracking ι)) : Prop where
  accepted : ∀ op, (reqs e.input).fault .UserAgent op = none
  unchanged : ∀ c record, e.before.phase e.input = .found c (some record) →
    record ∈ e.before.userAgents.rows

/-- Where a request stands that has differed from the record: it has read a count of it. -/
def OnItsWay (userAgents : Table UserAgentColumn) (record : UserAgent) (req : Request) :
    TrackPhase → Prop
  | .arrived c => Mismatching p userAgents record req c.session
  | .found c found => Mismatching p userAgents record req c.session ∧
      ∃ m, found = some (counted record m)
  | .done _ => True

/-- The table is the first one with a count for every request that has been through. -/
structure Balanced (userAgents : Table UserAgentColumn) (record : UserAgent) (initial : Nat)
    (s : Tracking ι) : Prop where
  table : s.userAgents = userAgents.save (counted record (min 10 (initial + s.finished)))
  phases : ∀ i, OnItsWay p userAgents record (reqs i) (s.phase i)

variable {p reqs} {s : Tracking ι} {i : ι} {t : Ctx}
  {userAgents : Table UserAgentColumn} {record : UserAgent} {initial : Nat}

/-- A row with the identifier of the record is the record with the count of the table. -/
theorem Balanced.read (balanced : Balanced p reqs userAgents record initial s) (member : record ∈ userAgents.rows)
    {m : Nat} (unchanged : counted record m ∈ s.userAgents.rows) :
    counted record m = counted record (min 10 (initial + s.finished)) := by
  rw [balanced.table] at unchanged
  exact Table.eq_of_id unchanged (Table.mem_save member rfl) rfl

theorem Balanced.counts (balanced : Balanced p reqs userAgents record initial s)
    (member : record ∈ userAgents.rows) :
    Counts s.userAgents record.id (min 10 (initial + s.finished)) := by
  rw [balanced.table]
  exact ⟨_, Table.mem_save member rfl, rfl, counted_get⟩

variable [DecidableEq ι]

theorem Tracking.finished_found {found : Option UserAgent} (waiting : (s.phase i).isDone = false) :
    (s.moved i t (.found · found)).finished = s.finished := by
  refine congrArg Finset.card (Finset.filter_congr fun j _ => ?_)
  by_cases own : j = i
  · subst own
    simp [waiting]
  · simp [own]

theorem Tracking.finished_done (waiting : (s.phase i).isDone = false) :
    (s.moved i t .done).finished = s.finished + 1 := by
  have new : i ∉ Finset.univ.filter fun j => (s.phase j).isDone = true := by simp [waiting]
  unfold Tracking.finished
  rw [← Finset.card_insert_of_notMem new]
  congr 1
  ext j
  rw [Finset.mem_insert, Finset.mem_filter, Finset.mem_filter]
  by_cases own : j = i
  · subst own
    simp
  · simp [own]

omit [Fintype ι] in
theorem Tracking.moved_phases {P : ι → TrackPhase → Prop} {phase : Ctx → TrackPhase}
    (before : ∀ j, P j (s.phase j)) (own : P i (phase t)) (j : ι) :
    P j ((s.moved i t phase).phase j) := by
  by_cases same : j = i
  · subst same
    rwa [Tracking.moved_phase, Function.update_self]
  · rw [Tracking.moved_phase, Function.update_of_ne same]
    exact before j

omit [Fintype ι] in
theorem Mismatching.trackStep_find {c : Ctx} {n : Nat} (arrived : s.phase i = .arrived c)
    (mismatching : Mismatching p userAgents record (reqs i) c.session) (few : n ≤ 10)
    (table : s.userAgents = userAgents.save (counted record n))
    (works : (reqs i).fault .UserAgent .findOne = none) :
    trackStep p reqs i s = s.moved i (watching s.userAgents c) (.found · (some (counted record n))) := by
  have answer := mismatching.exec_find few works
  rw [← table] at answer
  simp only [trackStep, arrived, answer]

/-- A query changes nothing, and is given the count of the table. -/
theorem Balanced.find {c : Ctx} (balanced : Balanced p reqs userAgents record initial s)
    (arrived : s.phase i = .arrived c) (apart : WritesApart reqs ⟨i, s⟩) :
    Balanced p reqs userAgents record initial (trackStep p reqs i s) ∧
      (trackStep p reqs i s).finished = s.finished := by
  have mismatching : Mismatching p userAgents record (reqs i) c.session := by
    have way := balanced.phases i
    rwa [arrived] at way
  have waiting : (s.phase i).isDone = false := by rw [arrived]; rfl
  rw [mismatching.trackStep_find arrived (Nat.min_le_left _ _) balanced.table (apart.accepted .findOne)]
  refine ⟨⟨?_, ?_⟩, Tracking.finished_found waiting⟩
  · rw [Tracking.finished_found waiting]
    exact balanced.table
  · exact Tracking.moved_phases balanced.phases ⟨mismatching, _, rfl⟩

/-- A write counts the request, or leaves the record as it is where it has ten failures. -/
theorem Balanced.write {c : Ctx} {found : Option UserAgent}
    (balanced : Balanced p reqs userAgents record initial s) (stores : StoresCounts p)
    (member : record ∈ userAgents.rows) (looked : s.phase i = .found c found)
    (apart : WritesApart reqs ⟨i, s⟩) :
    Balanced p reqs userAgents record initial (trackStep p reqs i s) ∧
      (trackStep p reqs i s).finished = s.finished + 1 := by
  obtain ⟨mismatching, m, isFound⟩ : Mismatching p userAgents record (reqs i) c.session ∧
      ∃ m, found = some (counted record m) := by
    have way := balanced.phases i
    rwa [looked] at way
  subst isFound
  have waiting : (s.phase i).isDone = false := by rw [looked]; rfl
  have step : trackStep p reqs i s = s.moved i (exec (trackWrite p (reqs i) (some (counted record m)))
      (watching s.userAgents c)).2 .done := by
    simp only [trackStep, looked]
  have current := balanced.read member (apart.unchanged c _ looked)
  have finished : (trackStep p reqs i s).finished = s.finished + 1 := by
    rw [step, Tracking.finished_done waiting]
  refine ⟨⟨?_, ?_⟩, finished⟩
  · rw [finished, step, Tracking.moved_userAgents, current]
    by_cases few : initial + s.finished < 10
    · have now : min 10 (initial + s.finished) = initial + s.finished := by omega
      have later : min 10 (initial + (s.finished + 1)) = initial + s.finished + 1 := by omega
      rw [now, later, mismatching.write_counts stores few (apart.accepted .update), balanced.table]
      exact Table.save_save _ rfl
    · have now : min 10 (initial + s.finished) = 10 := by omega
      have later : min 10 (initial + (s.finished + 1)) = 10 := by omega
      rw [now, later, mismatching.write_banned, balanced.table, now]
  · rw [step]
    exact Tracking.moved_phases balanced.phases trivial

/-- Every step keeps the balance and finishes one request at most. -/
theorem Balanced.step (balanced : Balanced p reqs userAgents record initial s) (stores : StoresCounts p)
    (member : record ∈ userAgents.rows) (apart : WritesApart reqs ⟨i, s⟩) :
    Balanced p reqs userAgents record initial (trackStep p reqs i s) ∧
      s.finished ≤ (trackStep p reqs i s).finished := by
  cases atPhase : s.phase i with
  | arrived c =>
    obtain ⟨kept, same⟩ := balanced.find atPhase apart
    exact ⟨kept, same.ge⟩
  | found c found =>
    obtain ⟨kept, more⟩ := balanced.write stores member atPhase apart
    exact ⟨kept, more ▸ Nat.le_succ _⟩
  | done c =>
    have same : trackStep p reqs i s = s := by simp only [trackStep, atPhase]
    rw [same]
    exact ⟨balanced, le_rfl⟩

/-- As long as no request writes over what another has written, every failed attempt counts, up to
the ten that ban the client. -/
theorem failed_attempts_counted (p : Platform) (reqs : ι → Request) (stores : StoresCounts p)
    (start s : Tracking ι) (record : UserAgent) (member : record ∈ start.userAgents.rows)
    (initial : Nat) (most : initial ≤ 10) (count : record.get .FAILEDCOUNT = .num (.ofNat initial))
    (arrived : ∀ i, ∃ c, start.phase i = .arrived c ∧
      Mismatching p start.userAgents record (reqs i) c.session)
    (log : List (Event ι (Tracking ι))) (reach : Reach (trackStep p reqs) start log s)
    (apart : Always (fun _ e => WritesApart reqs e) log) :
    ((∀ i, (s.phase i).isDone = true) →
      Counts s.userAgents record.id (min 10 (initial + Fintype.card ι))) ∧
    Always (fun _ e => CountKept record.id e.before.userAgents
      (trackStep p reqs e.input e.before).userAgents) log := by
  have first : Balanced p reqs start.userAgents record initial start := by
    have none : start.finished = 0 := by
      refine Finset.card_eq_zero.mpr (Finset.filter_eq_empty_iff.mpr fun i _ => ?_)
      obtain ⟨c, isArrived, _⟩ := arrived i
      simp [isArrived, TrackPhase.isDone]
    refine ⟨?_, fun i => ?_⟩
    · rw [none, Nat.add_zero, Nat.min_eq_right most, counted_self count, Table.save_of_mem member]
    · obtain ⟨c, isArrived, mismatching⟩ := arrived i
      rw [isArrived]
      exact mismatching
  have balanced {log : List (Event ι (Tracking ι))} {s : Tracking ι}
      (reach : Reach (trackStep p reqs) start log s)
      (apart : Always (fun _ e => WritesApart reqs e) log) :
      Balanced p reqs start.userAgents record initial s :=
    reach.invariant_state first (fun _ _ _ apart kept => (kept.step stores member apart).1) apart
  refine ⟨fun finished => ?_, reach.always (fun log s i reach earlier apart => ?_) apart⟩
  · have all : s.finished = Fintype.card ι := by
      rw [Tracking.finished, Finset.filter_true_of_mem fun i _ => finished i, Finset.card_univ]
    rw [← all]
    exact (balanced reach apart).counts member
  · have before := balanced reach earlier
    obtain ⟨after, more⟩ := before.step stores member apart
    refine ⟨_, _, ?_, Nat.min_le_left _ _, before.counts member, after.counts member⟩
    omega

end Race

section Samples

open Reference

/-- Requests of the member's browser at the same time. -/
def attempts {ι : Type} (_ : ι) : Request :=
  { request "s1" "GET" "/dashboard" with userAgent := .str "Firefox" }

def attempting (ι : Type) : Tracking ι where
  userAgents := (describedContext []).server.userAgents
  phase _ := .arrived (context adaId)

theorem attempt_mismatching {ι : Type} (i : ι) :
    Mismatching platform (describedContext []).server.userAgents describedRecord (attempts i)
      (context adaId).session where
  tracked := by
    have unlisted : "/dashboard" ∉ ["/", "/login", "/register", "/memberIndex"] := by decide
    have foreign : "/dashboard" ≠ "/update-user/" ++ adaId := by decide +kernel
    exact ⟨not_skips adaId rfl unlisted foreign, rfl⟩
  known := by decide +kernel
  found _ _ := rfl
  differs := rfl

theorem describedRecord_count : describedRecord.get .FAILEDCOUNT = .num (.ofNat 0) := by
  decide +kernel

/-- The count of a table whose only row has a known one. -/
theorem Counts.eq {userAgents : Table UserAgentColumn} {id : String} {n m : Nat}
    (counts : Counts userAgents id n) (few : n ≤ 10) (few' : m ≤ 10)
    (only : (userAgents.rows.map fun row => row.get .FAILEDCOUNT) = [.num (.ofNat m)]) : n = m := by
  obtain ⟨row, member, _, count⟩ := counts
  have listed := List.mem_map_of_mem (f := fun row : UserAgent => row.get .FAILEDCOUNT) member
  rw [only, List.mem_singleton, count] at listed
  exact Num.ofNat_inj few few' (Value.num.inj listed)

/-- The first of three requests has read the record before the others were counted. -/
def overtaken : Tracking (Fin 3) :=
  trackStep platform attempts 2 (trackStep platform attempts 2
    (trackStep platform attempts 1 (trackStep platform attempts 1
      (trackStep platform attempts 0 (attempting (Fin 3))))))

/-- Its write is the last one, so two attempts are lost, and the count falls. -/
theorem overtaken_attempts_lost :
    (∀ i, ∃ c, (attempting (Fin 3)).phase i = .arrived c ∧
      Mismatching platform (attempting (Fin 3)).userAgents describedRecord (attempts i) c.session) ∧
    ∃ log s, Reach (trackStep platform attempts) (attempting (Fin 3)) log s ∧
      (∀ i, (s.phase i).isDone = true) ∧
      ¬ Counts s.userAgents describedRecord.id (min 10 (0 + Fintype.card (Fin 3))) ∧
      ¬ Always (fun _ e => CountKept describedRecord.id e.before.userAgents
        (trackStep platform attempts e.input e.before).userAgents) log := by
  have two : (overtaken.userAgents.rows.map fun row => row.get .FAILEDCOUNT) = [.num (.ofNat 2)] := by
    decide +kernel
  have one : ((trackStep platform attempts 0 overtaken).userAgents.rows.map
      fun row => row.get .FAILEDCOUNT) = [.num (.ofNat 1)] := by
    decide +kernel
  have run : Reach (trackStep platform attempts) (attempting (Fin 3)) _ overtaken :=
    .next 2 (.next 2 (.next 1 (.next 1 (.next 0 .start))))
  refine ⟨fun i => ⟨_, rfl, attempt_mismatching i⟩, _, trackStep platform attempts 0 overtaken,
    .next 0 run, by decide +kernel, ?_, ?_⟩
  · intro counts
    have isOne : min 10 (0 + Fintype.card (Fin 3)) = 1 := counts.eq (by decide) (by decide) one
    exact absurd isOne (by decide)
  · intro always
    have kept : CountKept describedRecord.id overtaken.userAgents
      (trackStep platform attempts 0 overtaken).userAgents := always.1
    obtain ⟨n, m, le, most, counts, counts'⟩ := kept
    have isTwo : n = 2 := counts.eq (le.trans most) (by decide) two
    have isOne : m = 1 := counts'.eq most (by decide) one
    omega

/-- The record after nine failures. -/
def nineFailures : UserAgent := counted describedRecord 9

def nearlyBanned : Tracking (Fin 3) where
  userAgents := ⟨[nineFailures], by simp⟩
  phase _ := .arrived (context adaId)

theorem nearlyBanned_mismatching (i : Fin 3) :
    Mismatching platform nearlyBanned.userAgents nineFailures (attempts i)
      (context adaId).session where
  tracked := (attempt_mismatching i).tracked
  known := (attempt_mismatching i).known
  found _ _ := rfl
  differs := rfl

/-- The record that a request has read. -/
def TrackPhase.read : TrackPhase → Option UserAgent
  | .found _ userAgentRecord => userAgentRecord
  | _ => none

theorem WritesApart.of_read {ι : Type} {reqs : ι → Request} {e : Event ι (Tracking ι)}
    (accepted : ∀ op, (reqs e.input).fault .UserAgent op = none)
    (unchanged : ∀ record ∈ (e.before.phase e.input).read, record ∈ e.before.userAgents.rows) :
    WritesApart reqs e where
  accepted := accepted
  unchanged c record looked := by
    refine unchanged record ?_
    rw [looked]
    rfl

/-- The tenth attempt bans the client, and two more that overlap find it banned. -/
theorem overlapping_attempts_counted : ∃ log s,
    Reach (trackStep platform attempts) nearlyBanned log s ∧
    log.map Event.input = [1, 2, 2, 1, 0, 0] ∧ Counts s.userAgents describedRecord.id 10 ∧
    Always (fun _ e => CountKept describedRecord.id e.before.userAgents
      (trackStep platform attempts e.input e.before).userAgents) log := by
  have stores : StoresCounts platform := fun _ _ => rfl
  have reach : Reach (trackStep platform attempts) nearlyBanned _ _ :=
    .next 1 (.next 2 (.next 2 (.next 1 (.next 0 (.next 0 .start)))))
  obtain ⟨counts, kept⟩ := failed_attempts_counted platform attempts stores nearlyBanned _ nineFailures
    (List.mem_singleton.mpr rfl) 9 (by decide) counted_get
    (fun i => ⟨_, rfl, nearlyBanned_mismatching i⟩) _ reach
    ⟨.of_read (fun _ => rfl) (by decide +kernel), .of_read (fun _ => rfl) (by decide +kernel),
      .of_read (fun _ => rfl) (by decide +kernel), .of_read (fun _ => rfl) (by decide +kernel),
      .of_read (fun _ => rfl) (by decide +kernel), .of_read (fun _ => rfl) (by decide +kernel),
      trivial⟩
  exact ⟨_, _, reach, rfl, counts (by decide +kernel), kept⟩

end Samples

end ChurchManagement.Middleware
