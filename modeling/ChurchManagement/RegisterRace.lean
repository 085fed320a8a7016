import ChurchManagement.UniqueUsers

namespace ChurchManagement

open Js Effect Express Sequelize History

/-- How far a registration has come: before its query, between its query and its insertion with
the checked body, or answered. -/
inductive Phase
  | arrived (c : Ctx)
  | looked (c : Ctx) (value : Value)
  | done (c : Ctx)

/-- Registrations that are handled at the same time, and the table they share. -/
structure Registering (ι : Type) where
  users : Table UserColumn
  phase : ι → Phase

/-- The context with the table as it stands when a database step is taken. -/
def Ctx.seeing (users : Table UserColumn) (c : Ctx) : Ctx :=
  { c with server := { c.server with users := users } }

section

variable {ι : Type} [DecidableEq ι] (p : Platform) (secrets : Secrets) (reqs : ι → Request)

/-- The registration goes on with a new phase, and others see the table it has left. -/
def Registering.moved (s : Registering ι) (i : ι) (t : Ctx) (phase : Ctx → Phase) :
    Registering ι where
  users := t.server.users
  phase := Function.update s.phase i (phase t)

@[simp] theorem Registering.moved_users (s : Registering ι) (i : ι) (t : Ctx) (phase : Ctx → Phase) :
    (s.moved i t phase).users = t.server.users := rfl

@[simp] theorem Registering.moved_phase (s : Registering ι) (i : ι) (t : Ctx) (phase : Ctx → Phase) :
    (s.moved i t phase).phase = Function.update s.phase i (phase t) := rfl

/-- One database step of one registration. -/
def registerStep (i : ι) (s : Registering ι) : Registering ι :=
  match s.phase i with
  | .arrived c =>
    match exec (registerLookup p secrets (reqs i)) (c.seeing s.users) with
    | (.ok none, t) => s.moved i t .done
    | (.ok (some value), t) => s.moved i t (.looked · value)
    | (.error e, t) => s.moved i (exec (registerFailed e) t).2 .done
  | .looked c value =>
    match exec (registerCreate p (reqs i) value) (c.seeing s.users) with
    | (.ok _, t) => s.moved i t .done
    | (.error e, t) => s.moved i (exec (registerFailed e) t).2 .done
  | .done _ => s

/-- Two steps of one registration without a step of another in between are the handler. -/
theorem registerStep_alone {i : ι} {s : Registering ι} {c : Ctx} (arrived : s.phase i = .arrived c) :
    registerStep p secrets reqs i (registerStep p secrets reqs i s) =
      s.moved i (exec (postRegister p secrets (reqs i)) (c.seeing s.users)).2 .done := by
  rw [postRegister_steps, exec_attempt, exec_bind]
  conv_lhs => rw [registerStep.eq_def p secrets reqs i s, arrived]
  simp only
  cases lookup : exec (registerLookup p secrets (reqs i)) (c.seeing s.users) with
  | mk result t =>
    cases result with
    | error e => simp [registerStep, Registering.moved]
    | ok found =>
      cases found with
      | none => simp [registerStep, Registering.moved]
      | some value =>
        have same : t.seeing t.server.users = t := rfl
        simp only [registerStep, Registering.moved, Function.update_self, same]
        cases insertion : exec (registerCreate p (reqs i) value) t with
        | mk result t' => cases result <;> simp

/-- What a step can do: find the name and the phone number vacant, add the row, or nothing that
another registration could see. -/
theorem registerStep_cases (i : ι) (s : Registering ι) :
    registerStep p secrets reqs i s = s ∨
    (∃ t, t.server.users = s.users ∧ registerStep p secrets reqs i s = s.moved i t .done) ∨
    (∃ c t value, s.phase i = .arrived c ∧ t.server.users = s.users ∧
      Vacant p secrets (reqs i) s.users.rows value ∧
      registerStep p secrets reqs i s = s.moved i t (.looked · value)) ∨
    ∃ c t value user, s.phase i = .looked c value ∧
      create p.toOrm ((reqs i).rowId 0) (registeredKeys.map fun key => (key, value.propD key)) =
        some user ∧
      s.users.insert user = some t.server.users ∧
      registerStep p secrets reqs i s = s.moved i t .done := by
  have users {t c : Ctx} (same : t.core = (c.seeing s.users).core) : t.server.users = s.users :=
    congrArg Server.users (Ctx.server_of_core same)
  cases atPhase : s.phase i with
  | done c => exact .inl (by simp only [registerStep, atPhase])
  | arrived c =>
    right
    have spec := registerLookup_spec p secrets (reqs i) (c.seeing s.users)
    unfold Ensures at spec
    simp only [registerStep, atPhase]
    cases lookup : exec (registerLookup p secrets (reqs i)) (c.seeing s.users) with
    | mk result t =>
      rw [lookup] at spec
      cases result with
      | error e => exact .inl ⟨_, users (t := (exec (registerFailed e) t).2) spec, rfl⟩
      | ok found =>
        obtain ⟨same, vacant⟩ := spec
        cases found with
        | none => exact .inl ⟨t, users same, rfl⟩
        | some value => exact .inr (.inl ⟨c, t, value, rfl, users same, vacant value rfl, rfl⟩)
  | looked c value =>
    right
    have spec := registerCreate_spec p (reqs i) value (c.seeing s.users)
    unfold Ensures at spec
    simp only [registerStep, atPhase]
    have added (t : Ctx) (adds : Adds p (reqs i) value (c.seeing s.users) t) :
        ∃ user, create p.toOrm ((reqs i).rowId 0)
            (registeredKeys.map fun key => (key, value.propD key)) = some user ∧
          s.users.insert user = some t.server.users := by
      obtain ⟨user, users', made, inserted, left⟩ := adds
      have same : t.server.users = users' := congrArg Server.users (Ctx.server_of_core left)
      exact ⟨user, made, same ▸ inserted⟩
    cases insertion : exec (registerCreate p (reqs i) value) (c.seeing s.users) with
    | mk result t =>
      rw [insertion] at spec
      cases result with
      | ok _ =>
        obtain ⟨user, made, inserted⟩ := added t spec
        exact .inr (.inr ⟨c, t, value, user, rfl, made, inserted, rfl⟩)
      | error e =>
        rcases spec with same | adds
        · exact .inl ⟨_, users (t := (exec (registerFailed e) t).2) same, rfl⟩
        · obtain ⟨user, made, inserted⟩ := added t adds
          exact .inr (.inr ⟨c, (exec (registerFailed e) t).2, value, user, rfl, made, inserted, rfl⟩)

/-- Two checked bodies share neither their name nor their phone number. -/
def BodiesUnlike (value value' : Value) : Prop :=
  value.propD "NAME" ≠ value'.propD "NAME" ∧ value.propD "PHONENUMBER" ≠ value'.propD "PHONENUMBER"

/-- A registration that makes its query meets no other with its name or its phone number between
that one's query and insertion. -/
def QueriesApart (e : Event ι (Registering ι)) : Prop :=
  ∀ c, e.before.phase e.input = .arrived c → ∀ j c' value', e.before.phase j = .looked c' value' →
    BodiesUnlike (p.validate registerSchema (reqs e.input).body).value value'

/-- The table is unique, and will be when the registrations that are between their query and
their insertion go on. -/
structure RaceFree (s : Registering ι) : Prop where
  unique : Unique s.users.rows
  vacant : ∀ i c value, s.phase i = .looked c value →
    Vacant p secrets (reqs i) s.users.rows value
  apart : ∀ i j c c' value value', i ≠ j → s.phase i = .looked c value →
    s.phase j = .looked c' value' → BodiesUnlike value value'

variable {p secrets reqs} {s : Registering ι} {i : ι}

theorem Registering.phase_moved_done {t : Ctx} {j : ι} {c : Ctx} {value : Value}
    (looked : (s.moved i t .done).phase j = .looked c value) :
    j ≠ i ∧ s.phase j = .looked c value := by
  by_cases own : j = i
  · rw [own, Registering.moved_phase, Function.update_self] at looked
    cases looked
  · rw [Registering.moved_phase, Function.update_of_ne own] at looked
    exact ⟨own, looked⟩

theorem RaceFree.finish {t : Ctx} (free : RaceFree p secrets reqs s) (same : t.server.users = s.users) :
    RaceFree p secrets reqs (s.moved i t .done) where
  unique := by
    rw [Registering.moved_users, same]
    exact free.unique
  vacant j c value looked := by
    rw [Registering.moved_users, same]
    exact free.vacant j c value (Registering.phase_moved_done looked).2
  apart j k c c' value value' different looked looked' :=
    free.apart j k c c' value value' different (Registering.phase_moved_done looked).2
      (Registering.phase_moved_done looked').2

/-- A row that is added is unlike the bodies of the others, so they stay vacant. -/
theorem RaceFree.add {c t : Ctx} {value : Value} {user : User} (free : RaceFree p secrets reqs s)
    (looked : s.phase i = .looked c value)
    (made : create p.toOrm ((reqs i).rowId 0)
      (registeredKeys.map fun key => (key, value.propD key)) = some user)
    (inserted : s.users.insert user = some t.server.users) :
    RaceFree p secrets reqs (s.moved i t .done) where
  unique := by
    rw [Registering.moved_users, Table.insert_rows inserted]
    exact free.unique.insert ((free.vacant i c value looked).unlike made)
  vacant j c' value' looked' := by
    obtain ⟨other, looked'⟩ := Registering.phase_moved_done looked'
    obtain ⟨name, phone, isName, isPhone, _⟩ := (free.vacant i c value looked).texts
    obtain ⟨named, phoned⟩ := registered_texts made isName isPhone
    have different := free.apart j i c' c value' value other looked' looked
    obtain ⟨accepted, token, vacant⟩ := free.vacant j c' value' looked'
    obtain ⟨name', phone', isName', isPhone', _⟩ := (free.vacant j c' value' looked').texts
    rw [BodiesUnlike, isName, isPhone, isName', isPhone'] at different
    refine ⟨accepted, token, fun cond cond' built built' row member => ?_⟩
    rw [Registering.moved_users, Table.insert_rows inserted] at member
    rcases List.mem_append.mp member with old | new
    · exact vacant cond cond' built built' row old
    · rw [List.mem_singleton.mp new, named, phoned]
      rw [isName', p.whereEq_text] at built
      rw [isPhone', p.whereEq_text] at built'
      cases Option.some.inj built
      cases Option.some.inj built'
      exact ⟨decide_eq_false different.1.symm, decide_eq_false different.2.symm⟩
  apart j k c c' value value' different looked looked' :=
    free.apart j k c c' value value' different (Registering.phase_moved_done looked).2
      (Registering.phase_moved_done looked').2

/-- A query that finds nothing joins the registrations that go on. -/
theorem RaceFree.look {c t : Ctx} {value : Value} (free : RaceFree p secrets reqs s)
    (arrived : s.phase i = .arrived c) (same : t.server.users = s.users)
    (vacant : Vacant p secrets (reqs i) s.users.rows value)
    (queries : QueriesApart p reqs ⟨i, s⟩) :
    RaceFree p secrets reqs (s.moved i t (.looked · value)) := by
  have phases (j : ι) (c' : Ctx) (value' : Value)
      (looked : (s.moved i t (.looked · value)).phase j = .looked c' value') :
      j = i ∧ value' = value ∨ j ≠ i ∧ s.phase j = .looked c' value' := by
    by_cases own : j = i
    · rw [own, Registering.moved_phase, Function.update_self] at looked
      cases looked
      exact .inl ⟨own, rfl⟩
    · rw [Registering.moved_phase, Function.update_of_ne own] at looked
      exact .inr ⟨own, looked⟩
  have isBody : (p.validate registerSchema (reqs i).body).value = value := by rw [vacant.1]
  have apart (j : ι) (c' : Ctx) (value' : Value) (looked : s.phase j = .looked c' value') :
      BodiesUnlike value value' := isBody ▸ queries c arrived j c' value' looked
  refine ⟨?_, fun j c' value' looked => ?_, fun j k c' c'' value' value'' different looked looked' => ?_⟩
  · rw [Registering.moved_users, same]
    exact free.unique
  · rw [Registering.moved_users, same]
    rcases phases j c' value' looked with ⟨rfl, rfl⟩ | ⟨_, before⟩
    · exact vacant
    · exact free.vacant j c' value' before
  · rcases phases j c' value' looked with ⟨rfl, rfl⟩ | ⟨_, before⟩
    · rcases phases k c'' value'' looked' with ⟨rfl, _⟩ | ⟨_, before'⟩
      · exact absurd rfl different
      · exact apart k c'' value'' before'
    · rcases phases k c'' value'' looked' with ⟨rfl, rfl⟩ | ⟨_, before'⟩
      · exact ⟨(apart j c' value' before).1.symm, (apart j c' value' before).2.symm⟩
      · exact free.apart j k c' c'' value' value'' different before before'

theorem RaceFree.step (free : RaceFree p secrets reqs s) (queries : QueriesApart p reqs ⟨i, s⟩) :
    RaceFree p secrets reqs (registerStep p secrets reqs i s) := by
  rcases registerStep_cases p secrets reqs i s with same | ⟨t, same, moved⟩ |
    ⟨c, t, value, arrived, same, vacant, moved⟩ | ⟨c, t, value, user, looked, made, inserted, moved⟩
  · rwa [same]
  · rw [moved]
    exact free.finish same
  · rw [moved]
    exact free.look arrived same vacant queries
  · rw [moved]
    exact free.add looked made inserted

/-- Registrations that share a name or a phone number keep the table unique when they do not
overlap. -/
theorem race_keeps_unique {start : Registering ι} {log : List (Event ι (Registering ι))}
    (arrived : ∀ i, ∃ c, start.phase i = .arrived c) (unique : Unique start.users.rows)
    (reach : Reach (registerStep p secrets reqs) start log s)
    (queries : Always (fun _ e => QueriesApart p reqs e) log) : Unique s.users.rows := by
  have first : RaceFree p secrets reqs start := by
    have none (i : ι) (c : Ctx) (value : Value) : start.phase i ≠ .looked c value := by
      obtain ⟨c', isArrived⟩ := arrived i
      rw [isArrived]
      exact Phase.noConfusion
    exact ⟨unique, fun i c value looked => absurd looked (none i c value),
      fun i _ c _ value _ _ looked => absurd looked (none i c value)⟩
  have free : RaceFree p secrets reqs s :=
    reach.invariant_state first (fun _ _ _ queries free => free.step queries) queries
  exact free.unique

/-- A registration that goes on has the body that its request was checked to have. -/
theorem looked_of_reach {start : Registering ι} {log : List (Event ι (Registering ι))}
    (arrived : ∀ i, ∃ c, start.phase i = .arrived c)
    (reach : Reach (registerStep p secrets reqs) start log s) {j : ι} {c : Ctx} {value : Value}
    (looked : s.phase j = .looked c value) :
    value = (p.validate registerSchema (reqs j).body).value := by
  induction reach generalizing c value with
  | start =>
    obtain ⟨c', isArrived⟩ := arrived j
    rw [isArrived] at looked
    cases looked
  | @next log s i previous ih =>
    rcases registerStep_cases p secrets reqs i s with same | ⟨t, _, moved⟩ |
      ⟨c', t, value', _, _, vacant, moved⟩ | ⟨_, t, _, _, _, _, _, moved⟩
    · exact ih (same ▸ looked)
    · rw [moved] at looked
      exact ih (Registering.phase_moved_done looked).2
    · rw [moved] at looked
      by_cases own : j = i
      · subst own
        rw [Registering.moved_phase, Function.update_self] at looked
        cases looked
        rw [vacant.1]
      · rw [Registering.moved_phase, Function.update_of_ne own] at looked
        exact ih looked
    · rw [moved] at looked
      exact ih (Registering.phase_moved_done looked).2

/-- Registrations of different persons may overlap as they like. -/
theorem queries_apart {start : Registering ι} {log : List (Event ι (Registering ι))}
    (arrived : ∀ i, ∃ c, start.phase i = .arrived c)
    (reach : Reach (registerStep p secrets reqs) start log s)
    (unlike : ∀ i j, i ≠ j → BodiesUnlike (p.validate registerSchema (reqs i).body).value
      (p.validate registerSchema (reqs j).body).value) :
    Always (fun _ e => QueriesApart p reqs e) log := by
  refine reach.always (fun log s i previous _ _ c isArrived j c' value' looked => ?_)
    (always_trivial log)
  have other : i ≠ j := by
    rintro rfl
    cases isArrived.symm.trans looked
  rw [looked_of_reach arrived previous looked]
  exact unlike i j other

end

section Samples

open Reference

/-- A registration with the name and the phone number. -/
def registration (name phone row : String) : Request :=
  { request "s1" "POST" "/register" with
    body := .obj [("DATE", .str "2024-02-11"), ("NAME", .str name), ("SEX", .str "M"),
      ("CAT", .str "NC"), ("PHONENUMBER", .str phone), ("EMAIL", .str "chidi@example.org"),
      ("authToken", .str "join-key")]
    rowId := fun _ => row }

/-- The same person registers twice at the same time. -/
def doubled (second : Bool) : Request :=
  registration "Chidi Eke" "08077777777" (if second then "row-2" else "row-1")

def arriving : Registering Bool where
  users := start.users
  phase _ := .arrived (context "guest")

/-- Both queries are made before either row is added. -/
theorem doubled_registration_races :
    (∀ second, ∃ c, arriving.phase second = .arrived c) ∧ Unique arriving.users.rows ∧
    ∃ log s, Reach (registerStep platform keys doubled) arriving log s ∧ ¬ Unique s.users.rows := by
  refine ⟨fun _ => ⟨_, rfl⟩, by decide, _, _,
    .next true (.next false (.next true (.next false .start))), ?_⟩
  decide +kernel

/-- Two persons register at the same time. -/
def together (second : Bool) : Request :=
  if second then registration "Chidi Eke" "08077777777" "row-2"
  else registration "Ben Obi" "08059876543" "row-1"

theorem together_unlike (i j : Bool) (other : i ≠ j) :
    BodiesUnlike (platform.validate registerSchema (together i).body).value
      (platform.validate registerSchema (together j).body).value := by
  revert i j
  unfold BodiesUnlike
  decide +kernel

/-- Both queries are made before either row is added, and then there are three members. -/
theorem overlapping_registrations_unique : ∃ log s,
    Reach (registerStep platform keys together) arriving log s ∧
    log.map Event.input = [false, true, true, false] ∧ s.users.rows.length = 3 ∧
    Unique s.users.rows := by
  have arrived : ∀ i, ∃ c, arriving.phase i = .arrived c := fun _ => ⟨_, rfl⟩
  have reach : Reach (registerStep platform keys together) arriving _ _ :=
    .next false (.next true (.next true (.next false .start)))
  refine ⟨_, _, reach, rfl, by decide +kernel, ?_⟩
  exact race_keeps_unique arrived (by decide) reach (queries_apart arrived reach together_unlike)

end Samples

end ChurchManagement
