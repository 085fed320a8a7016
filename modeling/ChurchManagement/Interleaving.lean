import Mathlib.Data.List.Nodup
import Mathlib.Logic.Function.Basic
import ChurchManagement.History

namespace Interleaving

open History

/-- Tasks that are under way at the same time, each in a phase of its own, and what they share. -/
structure Work (ι σ φ : Type) where
  shared : σ
  phase : ι → φ

section Moves

variable {ι σ φ : Type} [DecidableEq ι]

/-- One task goes on to a phase and leaves the shared state to the others. -/
def Work.moved (w : Work ι σ φ) (i : ι) (shared : σ) (phase : φ) : Work ι σ φ where
  shared := shared
  phase := Function.update w.phase i phase

@[simp] theorem Work.moved_shared (w : Work ι σ φ) (i : ι) (shared : σ) (phase : φ) :
    (w.moved i shared phase).shared = shared := rfl

@[simp] theorem Work.moved_phase (w : Work ι σ φ) (i : ι) (shared : σ) (phase : φ) :
    (w.moved i shared phase).phase i = phase := Function.update_self _ _ _

theorem Work.moved_other (w : Work ι σ φ) {i j : ι} (other : j ≠ i) (shared : σ) (phase : φ) :
    (w.moved i shared phase).phase j = w.phase j := Function.update_of_ne other _ _

/-- A task that has moved twice is where the second move has brought it. -/
@[simp] theorem Work.moved_moved (w : Work ι σ φ) (i : ι) (shared shared' : σ) (phase phase' : φ) :
    (w.moved i shared phase).moved i shared' phase' = w.moved i shared' phase' := by
  simp [Work.moved]

end Moves

section Rules

variable {ι σ φ β : Type} {step : ι → Work ι σ φ → Work ι σ φ} {start w : Work ι σ φ}
  {log : List (Event ι (Work ι σ φ))}

/-- A step moves no task but its own. -/
def StepsAlone (step : ι → Work ι σ φ → Work ι σ φ) : Prop :=
  ∀ i w j, j ≠ i → (step i w).phase j = w.phase j

/-- What a task knows about the run so far holds along the run, if its own steps establish it and
nothing that happens later takes it away. -/
theorem phases_of_reach {Knows : List (Event ι (Work ι σ φ)) → ι → φ → Prop}
    (alone : StepsAlone step) (first : ∀ i, Knows [] i (start.phase i))
    (later : ∀ e log i phase, Knows log i phase → Knows (e :: log) i phase)
    (own : ∀ log w i, Reach step start log w → Knows log i (w.phase i) →
      Knows (⟨i, w⟩ :: log) i ((step i w).phase i))
    (reach : Reach step start log w) (i : ι) : Knows log i (w.phase i) := by
  induction reach with
  | start => exact first i
  | @next log w j previous ih =>
    by_cases same : i = j
    · subst same
      exact own log w i previous ih
    · rw [alone j w i same]
      exact later _ _ _ _ ih

/-- What a step does to a ledger: it leaves it and tells its task nothing new, or it makes an entry
and tells the task so, which has not been told before. -/
inductive LedgerStep (view : σ → List β) (told : ι → φ → Prop)
    (label : Event ι (Work ι σ φ) → β → Prop) (i : ι) (w w' : Work ι σ φ) : Prop
  | keeps (same : view w'.shared = view w.shared) (kept : told i (w'.phase i) ↔ told i (w.phase i))
  | adds (entry : β) (grown : view w'.shared = view w.shared ++ [entry]) (new : ¬ told i (w.phase i))
      (tells : told i (w'.phase i)) (labelled : label ⟨i, w⟩ entry)

/-- A ledger to which every step makes at most one entry: the entries of a run belong to different
tasks, which are those that have been told so, in the order of their steps. -/
theorem ledger_of_reach {view : σ → List β} {told : ι → φ → Prop}
    {label : Event ι (Work ι σ φ) → β → Prop} (alone : StepsAlone step)
    (silent : ∀ i, ¬ told i (start.phase i))
    (steps : ∀ log w i, Reach step start log w → LedgerStep view told label i w (step i w))
    (reach : Reach step start log w) :
    ∃ entries : List (ι × β), view w.shared = view start.shared ++ entries.map Prod.snd ∧
      (entries.map Prod.fst).Nodup ∧ (∀ i, told i (w.phase i) ↔ i ∈ entries.map Prod.fst) ∧
      ∀ entry ∈ entries, ∃ e ∈ log, e.input = entry.1 ∧ label e entry.2 := by
  induction reach with
  | start =>
    refine ⟨[], by simp, List.nodup_nil, fun i => ?_, fun _ never => absurd never List.not_mem_nil⟩
    exact ⟨fun given => absurd given (silent i), fun never => absurd never List.not_mem_nil⟩
  | @next log w i previous ih =>
    obtain ⟨entries, grown, once, toldOnes, labels⟩ := ih
    have old : ∀ entry ∈ entries, ∃ e ∈ (⟨i, w⟩ : Event ι (Work ι σ φ)) :: log,
        e.input = entry.1 ∧ label e entry.2 := by
      intro entry member
      obtain ⟨e, inLog, rest⟩ := labels entry member
      exact ⟨e, List.mem_cons_of_mem _ inLog, rest⟩
    cases steps log w i previous with
    | keeps same kept =>
      refine ⟨entries, same.trans grown, once, fun j => ?_, old⟩
      by_cases own : j = i
      · subst own
        exact kept.trans (toldOnes j)
      · rw [alone i w j own]
        exact toldOnes j
    | adds entry added new tells labelled =>
      have fresh : i ∉ entries.map Prod.fst := fun member => new ((toldOnes i).mpr member)
      refine ⟨entries ++ [(i, entry)], ?_, ?_, fun j => ?_, ?_⟩
      · rw [added, grown, List.map_append, List.append_assoc]
        rfl
      · rw [List.map_append, List.nodup_append]
        refine ⟨once, List.nodup_singleton _, fun j member j' single same => ?_⟩
        have own : j = i := same.trans (List.mem_singleton.mp single)
        exact fresh (own ▸ member)
      · rw [List.map_append, List.mem_append]
        by_cases own : j = i
        · subst own
          exact ⟨fun _ => .inr (List.mem_singleton_self j), fun _ => tells⟩
        · rw [alone i w j own, toldOnes j]
          exact ⟨.inl, fun member => member.resolve_right fun last => own (List.mem_singleton.mp last)⟩
      · refine List.forall_mem_append.mpr ⟨old, List.forall_mem_singleton.mpr ?_⟩
        exact ⟨⟨i, w⟩, List.mem_cons_self, rfl, labelled⟩

end Rules

end Interleaving
