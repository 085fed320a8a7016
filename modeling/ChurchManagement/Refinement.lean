import ChurchManagement.History

namespace Refinement

open History

section Trace

variable {τ α : Type} {allowed : τ → α → τ → Prop} {start t : τ} {acts : List α}

/-- The runs of a machine that is given by what each action may do, the latest action first. -/
inductive Trace (allowed : τ → α → τ → Prop) (start : τ) : List α → τ → Prop
  | start : Trace allowed start [] start
  | next {acts : List α} {t t' : τ} {act : α} : Trace allowed start acts t → allowed t act t' →
      Trace allowed start (act :: acts) t'

/-- An invariant of states together with the actions that led to them. -/
theorem Trace.invariant {P : List α → τ → Prop} (first : P [] start)
    (keeps : ∀ acts t act t', allowed t act t' → P acts t → P (act :: acts) t')
    (trace : Trace allowed start acts t) : P acts t := by
  induction trace with
  | start => exact first
  | next _ taken ih => exact keeps _ _ _ _ taken ih

end Trace

section Refines

variable {ι σ τ α : Type} {step : ι → σ → σ} {view : σ → τ} {allowed : τ → α → τ → Prop}
  {label : Event ι σ → α → Prop} {start s : σ} {log : List (Event ι σ)}

/-- Seen through the view, a step of the machine takes at most one action, and one that its event
is labelled with. -/
def Refines (step : ι → σ → σ) (view : σ → τ) (allowed : τ → α → τ → Prop)
    (label : Event ι σ → α → Prop) : Prop :=
  ∀ input s, view (step input s) = view s ∨
    ∃ act, label ⟨input, s⟩ act ∧ allowed (view s) act (view (step input s))

/-- The events of some run explain the actions of another, each action one event, in order. -/
def Explains (label : Event ι σ → α → Prop) (log : List (Event ι σ)) (acts : List α) : Prop :=
  ∃ events, events.Sublist log ∧ List.Forall₂ label events acts

theorem Explains.mem {acts : List α} (explains : Explains label log acts) {act : α}
    (member : act ∈ acts) : ∃ e ∈ log, label e act := by
  obtain ⟨events, within, labelled⟩ := explains
  obtain ⟨e, isEvent, isLabel⟩ : ∃ e ∈ events, label e act := by
    clear within
    induction labelled with
    | nil => cases member
    | @cons e other events acts first rest ih =>
      rcases List.mem_cons.mp member with rfl | later
      · exact ⟨e, List.mem_cons_self, first⟩
      · obtain ⟨e', member', label'⟩ := ih later
        exact ⟨e', List.mem_cons_of_mem _ member', label'⟩
  exact ⟨e, within.subset isEvent, isLabel⟩

/-- Every run of the machine is a run of the one it refines. -/
theorem Refines.trace (refines : Refines step view allowed label)
    (reach : Reach step start log s) :
    ∃ acts, Explains label log acts ∧ Trace allowed (view start) acts (view s) := by
  induction reach with
  | start => exact ⟨[], ⟨[], List.Sublist.refl _, .nil⟩, .start⟩
  | @next log s input _ ih =>
    obtain ⟨acts, ⟨events, within, labelled⟩, trace⟩ := ih
    rcases refines input s with same | ⟨act, isLabel, taken⟩
    · rw [same]
      exact ⟨acts, ⟨events, within.cons _, labelled⟩, trace⟩
    · exact ⟨act :: acts, ⟨⟨input, s⟩ :: events, within.cons_cons _, .cons isLabel labelled⟩,
        trace.next taken⟩

section Kept

variable {R : τ → τ → Prop} [Std.Refl R] [IsTrans τ R]

omit [IsTrans τ R] in
theorem Refines.once (refines : Refines step view allowed label)
    (keeps : ∀ t act t', allowed t act t' → R t t') (input : ι) (s : σ) :
    R (view s) (view (step input s)) := by
  rcases refines input s with same | ⟨act, _, taken⟩
  · rw [same]
    exact refl _
  · exact keeps _ _ _ taken

/-- What every action keeps is kept by a run. -/
theorem Refines.kept (refines : Refines step view allowed label)
    (keeps : ∀ t act t', allowed t act t' → R t t') (reach : Reach step start log s) :
    R (view start) (view s) := by
  induction reach with
  | start => exact refl _
  | @next log s input _ ih => exact IsTrans.trans _ _ _ ih (refines.once keeps input s)

/-- What every action keeps is kept from any event of a run to its end. -/
theorem Refines.since (refines : Refines step view allowed label)
    (keeps : ∀ t act t', allowed t act t' → R t t') (reach : Reach step start log s)
    {e : Event ι σ} (earlier : e ∈ log) : R (view e.before) (view s) := by
  obtain ⟨later, before, rfl, _⟩ := reach.split earlier
  exact IsTrans.trans _ _ _ (refines.once keeps e.input e.before) (refines.kept keeps reach.since)

end Kept

end Refines

end Refinement
