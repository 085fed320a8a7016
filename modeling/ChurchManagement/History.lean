import Mathlib.Data.List.Basic

namespace History

variable {ι σ : Type}

/-- One step of a run: its input, and the state it was taken in. -/
structure Event (ι σ : Type) where
  input : ι
  before : σ

/-- The states a machine can reach, each with the events that led to it, the latest first. -/
inductive Reach (step : ι → σ → σ) (start : σ) : List (Event ι σ) → σ → Prop
  | start : Reach step start [] start
  | next {log : List (Event ι σ)} {s : σ} (input : ι) : Reach step start log s →
      Reach step start (⟨input, s⟩ :: log) (step input s)

/-- Every event of the log has the property, seen together with the events before it. -/
def Always (P : List (Event ι σ) → Event ι σ → Prop) : List (Event ι σ) → Prop
  | [] => True
  | event :: earlier => P earlier event ∧ Always P earlier

variable {step : ι → σ → σ} {start s : σ} {log : List (Event ι σ)}

/-- An invariant of states and their histories may use what is assumed of every event. -/
theorem Reach.invariant {Cond : List (Event ι σ) → Event ι σ → Prop}
    {Inv : List (Event ι σ) → σ → Prop} (first : Inv [] start)
    (keeps : ∀ log s input, Reach step start log s → Always Cond log → Cond log ⟨input, s⟩ →
      Inv log s → Inv (⟨input, s⟩ :: log) (step input s))
    (reach : Reach step start log s) (assumed : Always Cond log) : Inv log s := by
  induction reach with
  | start => exact first
  | next input previous ih =>
    exact keeps _ _ input previous assumed.2 assumed.1 (ih assumed.2)

/-- An invariant of the states alone. -/
theorem Reach.invariant_state {Cond : List (Event ι σ) → Event ι σ → Prop} {Inv : σ → Prop}
    (first : Inv start)
    (keeps : ∀ log s input, Cond log ⟨input, s⟩ → Inv s → Inv (step input s))
    (reach : Reach step start log s) (assumed : Always Cond log) : Inv s := by
  induction reach with
  | start => exact first
  | next input _ ih => exact keeps _ _ input assumed.1 (ih assumed.2)

/-- What holds whenever an event happens in a reachable state holds of every event of a run. -/
theorem Reach.always {Cond P : List (Event ι σ) → Event ι σ → Prop}
    (each : ∀ log s input, Reach step start log s → Always Cond log → Cond log ⟨input, s⟩ →
      P log ⟨input, s⟩)
    (reach : Reach step start log s) (assumed : Always Cond log) : Always P log := by
  induction reach with
  | start => trivial
  | next input previous ih =>
    exact ⟨each _ _ input previous assumed.2 assumed.1, ih assumed.2⟩

/-- An event of a run happened in a state that the events before it lead to. -/
theorem Reach.split (reach : Reach step start log s) {e : Event ι σ} (member : e ∈ log) :
    ∃ later earlier, log = later ++ e :: earlier ∧ Reach step start earlier e.before := by
  induction reach with
  | start => cases member
  | @next log s input previous ih =>
    rcases List.mem_cons.mp member with rfl | old
    · exact ⟨[], log, rfl, previous⟩
    · obtain ⟨later, earlier, isLog, before⟩ := ih old
      exact ⟨⟨input, s⟩ :: later, earlier, by rw [isLog, List.cons_append], before⟩

/-- What came after an event is a run from the state it has led to. -/
theorem Reach.since {later earlier : List (Event ι σ)} {e : Event ι σ}
    (reach : Reach step start (later ++ e :: earlier) s) :
    Reach step (step e.input e.before) later s := by
  generalize isLog : later ++ e :: earlier = log at reach
  induction reach generalizing later with
  | start => simp at isLog
  | @next log s input previous ih =>
    cases later with
    | nil =>
      obtain ⟨rfl, rfl⟩ := List.cons.inj isLog
      exact .start
    | cons last later =>
      obtain ⟨rfl, rest⟩ := List.cons.inj isLog
      exact .next input (ih rest)

theorem Always.at {P : List (Event ι σ) → Event ι σ → Prop} {later before : List (Event ι σ)}
    {event : Event ι σ} (always : Always P (later ++ event :: before)) : P before event := by
  induction later with
  | nil => exact always.1
  | cons _ _ ih => exact ih always.2

theorem Always.and {P Q : List (Event ι σ) → Event ι σ → Prop} (first : Always P log)
    (second : Always Q log) : Always (fun earlier event => P earlier event ∧ Q earlier event) log := by
  induction log with
  | nil => trivial
  | cons event earlier ih => exact ⟨⟨first.1, second.1⟩, ih first.2 second.2⟩

theorem always_trivial (log : List (Event ι σ)) : Always (fun _ _ => True) log := by
  induction log with
  | nil => trivial
  | cons event earlier ih => exact ⟨trivial, ih⟩

end History
