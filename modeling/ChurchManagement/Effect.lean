import Mathlib.Order.Defs.Unbundled

namespace Effect

/-- Programs that read and write a state and may throw. What was written before an exception
stays written, as assignments do in the languages modelled with it. -/
abbrev Prog (ε σ α : Type) := ExceptT ε (StateM σ) α

section Exec

variable {ε σ α β : Type}

/-- The result or exception of a program, with the state it ends in. -/
def exec (x : Prog ε σ α) (s : σ) : Except ε α × σ := StateT.run (ExceptT.run x) s

@[simp] theorem exec_pure (a : α) (s : σ) : exec (pure a : Prog ε σ α) s = (.ok a, s) := rfl

theorem exec_throw_bind (e : ε) (f : α → Prog ε σ β) (s : σ) :
    exec ((throw e : Prog ε σ α) >>= f) s = (.error e, s) := rfl

theorem exec_bind (x : Prog ε σ α) (f : α → Prog ε σ β) (s : σ) :
    exec (x >>= f) s =
      match (exec x s).1 with
      | .ok a => exec (f a) (exec x s).2
      | .error e => (.error e, (exec x s).2) := by
  change (ExceptT.bindCont f (exec x s).1 : StateM σ _) (exec x s).2 = _
  cases (exec x s).1 <;> rfl

/-- Runs the body; an exception is handed to the handler, which continues from the state the body
left behind. -/
def attempt (x : Prog ε σ α) (handle : ε → Prog ε σ α) : Prog ε σ α := tryCatch x handle

theorem exec_attempt (x : Prog ε σ α) (handle : ε → Prog ε σ α) (s : σ) :
    exec (attempt x handle) s =
      match (exec x s).1 with
      | .ok a => (.ok a, (exec x s).2)
      | .error e => exec (handle e) (exec x s).2 := by
  unfold attempt exec ExceptT.run StateT.run
  simp only [tryCatch, tryCatchThe, MonadExceptOf.tryCatch, ExceptT.tryCatch, ExceptT.mk, bind,
    StateT.bind]
  cases x s with
  | mk result next => cases result <;> rfl

end Exec

section Ensures

variable {ε σ α β : Type} {s : σ} {ok : α → σ → Prop} {err : ε → σ → Prop}

/-- From the state, the program returns or throws with the matching condition on its result and
final state. -/
def Ensures (x : Prog ε σ α) (s : σ) (ok : α → σ → Prop) (err : ε → σ → Prop) : Prop :=
  match exec x s with
  | (.ok a, t) => ok a t
  | (.error e, t) => err e t

theorem ensures_pure {a : α} : Ensures (pure a : Prog ε σ α) s ok err ↔ ok a s := Iff.rfl

theorem ensures_throw {e : ε} : Ensures (throw e : Prog ε σ α) s ok err ↔ err e s := Iff.rfl

theorem ensures_get {ok : σ → σ → Prop} : Ensures (get : Prog ε σ σ) s ok err ↔ ok s s := Iff.rfl

theorem ensures_modify {f : σ → σ} {ok : PUnit → σ → Prop} :
    Ensures (modify f : Prog ε σ PUnit) s ok err ↔ ok ⟨⟩ (f s) := Iff.rfl

theorem ensures_bind {x : Prog ε σ β} {f : β → Prog ε σ α} :
    Ensures (x >>= f) s ok err ↔ Ensures x s (fun b t => Ensures (f b) t ok err) err := by
  unfold Ensures
  rw [exec_bind]
  cases exec x s with
  | mk result t => cases result <;> rfl

theorem ensures_attempt {x : Prog ε σ α} {handle : ε → Prog ε σ α} :
    Ensures (attempt x handle) s ok err ↔
      Ensures x s ok (fun e t => Ensures (handle e) t ok err) := by
  unfold Ensures
  rw [exec_attempt]
  cases exec x s with
  | mk result t => cases result <;> rfl

theorem ensures_ite {c : Prop} [Decidable c] {x y : Prog ε σ α} :
    Ensures (if c then x else y) s ok err ↔
      (c → Ensures x s ok err) ∧ (¬ c → Ensures y s ok err) := by
  by_cases holds : c <;> simp [holds]

theorem Ensures.mono {x : Prog ε σ α} {ok' : α → σ → Prop} {err' : ε → σ → Prop}
    (known : Ensures x s ok err) (okImp : ∀ a t, ok a t → ok' a t)
    (errImp : ∀ e t, err e t → err' e t) : Ensures x s ok' err' := by
  unfold Ensures at known ⊢
  cases run : exec x s with
  | mk result t =>
    rw [run] at known
    cases result with
    | ok a => exact okImp a t known
    | error e => exact errImp e t known

theorem Ensures.and {x : Prog ε σ α} {ok' : α → σ → Prop} {err' : ε → σ → Prop}
    (first : Ensures x s ok err) (second : Ensures x s ok' err') :
    Ensures x s (fun a t => ok a t ∧ ok' a t) (fun e t => err e t ∧ err' e t) := by
  unfold Ensures at first second ⊢
  cases run : exec x s with
  | mk result t =>
    rw [run] at first second
    cases result <;> exact ⟨first, second⟩

/-- What holds of every result and state holds of those of a program. -/
theorem ensures_of_forall (x : Prog ε σ α) (s : σ) (results : ∀ a t, ok a t)
    (errors : ∀ e t, err e t) : Ensures x s ok err := by
  unfold Ensures
  split
  · exact results _ _
  · exact errors _ _

/-- A condition on the final state alone holds of it however the program ends. -/
theorem Ensures.final {x : Prog ε σ α} {P : σ → Prop}
    (known : Ensures x s (fun _ t => P t) (fun _ t => P t)) : P (exec x s).2 := by
  unfold Ensures at known
  cases run : exec x s with
  | mk result t =>
    rw [run] at known
    cases result <;> exact known

theorem ensures_of_final {x : Prog ε σ α} {P : σ → Prop} (known : P (exec x s).2) :
    Ensures x s (fun _ t => P t) (fun _ t => P t) := by
  unfold Ensures
  cases run : exec x s with
  | mk result t =>
    rw [run] at known
    cases result <;> exact known

/-- A program that throws nothing returns, and the condition holds of its result. -/
theorem Ensures.returns {x : Prog ε σ α} (known : Ensures x s ok fun _ _ => False) :
    ∃ a, (exec x s).1 = .ok a ∧ ok a (exec x s).2 := by
  unfold Ensures at known
  cases run : exec x s with
  | mk result t =>
    rw [run] at known
    cases result with
    | ok a => exact ⟨a, rfl, known⟩
    | error e => exact known.elim

theorem Ensures.of_returned {x : Prog ε σ α} {a : α} (known : Ensures x s ok err)
    (returned : (exec x s).1 = .ok a) : ok a (exec x s).2 := by
  unfold Ensures at known
  cases run : exec x s with
  | mk result t =>
    rw [run] at known returned
    cases returned
    exact known

end Ensures

section Keeps

variable {ε σ α β : Type} {R : σ → σ → Prop}

/-- Wherever the program starts and however it ends, its final state is related to the first. -/
def Keeps (R : σ → σ → Prop) (x : Prog ε σ α) : Prop := ∀ s, R s (exec x s).2

theorem keeps_pure [Std.Refl R] (a : α) : Keeps R (pure a : Prog ε σ α) := fun s => refl s

theorem keeps_throw [Std.Refl R] (e : ε) : Keeps R (throw e : Prog ε σ α) := fun s => refl s

theorem keeps_get [Std.Refl R] : Keeps R (get : Prog ε σ σ) := fun s => refl s

theorem keeps_modify {f : σ → σ} (step : ∀ s, R s (f s)) : Keeps R (modify f : Prog ε σ PUnit) :=
  step

theorem keeps_bind [IsTrans σ R] {x : Prog ε σ α} {f : α → Prog ε σ β}
    (first : Keeps R x) (rest : ∀ a, Keeps R (f a)) : Keeps R (x >>= f) := by
  intro s
  rw [exec_bind]
  cases (exec x s).1 with
  | ok a => exact IsTrans.trans _ _ _ (first s) (rest a _)
  | error e => exact first s

theorem keeps_attempt [IsTrans σ R] {x : Prog ε σ α} {handle : ε → Prog ε σ α}
    (body : Keeps R x) (handler : ∀ e, Keeps R (handle e)) : Keeps R (attempt x handle) := by
  intro s
  rw [exec_attempt]
  cases (exec x s).1 with
  | ok a => exact body s
  | error e => exact IsTrans.trans _ _ _ (body s) (handler e _)

theorem Keeps.ensures {x : Prog ε σ α} (kept : Keeps R x) (s : σ) :
    Ensures x s (fun _ t => R s t) (fun _ t => R s t) := by
  have related := kept s
  unfold Ensures
  cases run : exec x s with
  | mk result t =>
    rw [run] at related
    cases result <;> exact related

theorem keeps_ite {c : Prop} [Decidable c] {x y : Prog ε σ α} (left : Keeps R x)
    (right : Keeps R y) : Keeps R (if c then x else y) := by
  split
  · exact left
  · exact right

/-- The two states agree under a view. -/
def Same {τ : Type} (view : σ → τ) (s s' : σ) : Prop := view s' = view s

instance {τ : Type} (view : σ → τ) : Std.Refl (Same view) := ⟨fun _ => rfl⟩

instance {τ : Type} (view : σ → τ) : IsTrans σ (Same view) :=
  ⟨fun _ _ _ first second => Eq.trans second first⟩

end Keeps

section Once

variable {ε σ α β : Type} {count : σ → Nat}

/-- Wherever the program starts it raises the count by at most one, and not at all when it
throws. -/
def Once (count : σ → Nat) (x : Prog ε σ α) : Prop :=
  ∀ s, Ensures x s (fun _ t => count t ≤ count s + 1) (fun _ t => count t = count s)

theorem Keeps.once {x : Prog ε σ α} (kept : Keeps (Same count) x) : Once count x := by
  intro s
  refine (kept.ensures s).mono ?_ (fun _ _ same => same)
  intro _ t same
  exact Nat.le_trans (Nat.le_of_eq same) (Nat.le_succ _)

theorem once_bind {x : Prog ε σ α} {f : α → Prog ε σ β} (first : Keeps (Same count) x)
    (rest : ∀ a, Once count (f a)) : Once count (x >>= f) := by
  intro s
  rw [ensures_bind]
  refine (first.ensures s).mono ?_ (fun _ _ same => same)
  intro a t same
  replace same : count t = count s := same
  have later := rest a t
  rwa [same] at later

/-- The handler starts where the body has thrown, so it may count once again. -/
theorem once_attempt {x : Prog ε σ α} {handle : ε → Prog ε σ α} (body : Once count x)
    (handler : ∀ e, Once count (handle e)) : Once count (attempt x handle) := by
  intro s
  rw [ensures_attempt]
  refine (body s).mono (fun _ _ most => most) ?_
  intro e t same
  have later := handler e t
  rwa [same] at later

theorem once_ite {c : Prop} [Decidable c] {x y : Prog ε σ α} (left : Once count x)
    (right : Once count y) : Once count (if c then x else y) := by
  split
  · exact left
  · exact right

end Once

section Chain

variable {ε σ : Type}

/-- What a layer of a pipeline decides: hand the request on, or end it. -/
inductive Flow
  | next
  | ended
  deriving DecidableEq, Repr

/-- Layers run in order, each only when every layer before it has handed on. -/
def chain : List (Prog ε σ Flow) → Prog ε σ Flow
  | [] => pure .next
  | layer :: rest => do
    match ← layer with
    | .next => chain rest
    | .ended => pure .ended

theorem ensures_chain_cons {layer : Prog ε σ Flow} {rest : List (Prog ε σ Flow)} {s : σ}
    {ok : Flow → σ → Prop} {err : ε → σ → Prop} :
    Ensures (chain (layer :: rest)) s ok err ↔
      Ensures layer s (fun flow t => (flow = .next → Ensures (chain rest) t ok err) ∧
        (flow = .ended → ok .ended t)) err := by
  rw [chain, ensures_bind]
  unfold Ensures
  cases exec layer s with
  | mk result t =>
    cases result with
    | error e => rfl
    | ok flow =>
      cases flow with
      | next => simp
      | ended => simp

end Chain

section Layered

variable {ε σ α : Type} {count : σ → Nat} {exempt : σ → Prop}

/-- Wherever a layer starts it raises the count by at most one, and only when it ends the pipeline
itself. Of an exempt state in which it ends nothing is said. -/
def Layered (count : σ → Nat) (exempt : σ → Prop) (layer : Prog ε σ Flow) : Prop :=
  ∀ s, Ensures layer s (fun flow t => flow = .ended ∧ exempt t ∨
      count t ≤ count s + 1 ∧ (flow = .next → count t = count s))
    (fun _ t => count t = count s)

theorem layered_next : Layered count exempt (pure .next : Prog ε σ Flow) :=
  fun _ => .inr ⟨Nat.le_succ _, fun _ => rfl⟩

theorem layered_throw (e : ε) : Layered count exempt (throw e : Prog ε σ Flow) := fun _ => rfl

theorem Once.layered {x : Prog ε σ α} (once : Once count x) :
    Layered count exempt (do let _ ← x; pure .ended) := by
  intro s
  rw [ensures_bind]
  refine (once s).mono ?_ (fun _ _ same => same)
  intro _ t most
  exact .inr ⟨most, nofun⟩

theorem layered_bind {x : Prog ε σ α} {f : α → Prog ε σ Flow} (first : Keeps (Same count) x)
    (rest : ∀ a, Layered count exempt (f a)) : Layered count exempt (x >>= f) := by
  intro s
  rw [ensures_bind]
  refine (first.ensures s).mono ?_ (fun _ _ same => same)
  intro a t same
  replace same : count t = count s := same
  have later := rest a t
  rwa [same] at later

theorem layered_ite {c : Prop} [Decidable c] {x y : Prog ε σ Flow} (left : Layered count exempt x)
    (right : Layered count exempt y) : Layered count exempt (if c then x else y) := by
  split
  · exact left
  · exact right

theorem layered_attempt {x : Prog ε σ Flow} {handle : ε → Prog ε σ Flow}
    (body : Layered count exempt x) (handler : ∀ e, Layered count exempt (handle e)) :
    Layered count exempt (attempt x handle) := by
  intro s
  rw [ensures_attempt]
  refine (body s).mono (fun _ _ most => most) ?_
  intro e t same
  have later := handler e t
  rwa [same] at later

theorem layered_chain {layers : List (Prog ε σ Flow)}
    (each : ∀ layer ∈ layers, Layered count exempt layer) :
    Layered count exempt (chain layers) := by
  induction layers with
  | nil => exact layered_next
  | cons layer rest ih =>
    obtain ⟨first, others⟩ := List.forall_mem_cons.mp each
    intro s
    rw [ensures_chain_cons]
    refine (first s).mono ?_ (fun _ _ same => same)
    rintro flow t (⟨rfl, spared⟩ | ⟨most, same⟩)
    · exact ⟨nofun, fun _ => .inl ⟨rfl, spared⟩⟩
    · refine ⟨fun passes => ?_, fun _ => .inr ⟨most, nofun⟩⟩
      have later := ih others t
      rwa [same passes] at later

end Layered

section Frames

variable {ε σ τ α β : Type} {put : τ → σ → σ}

/-- The program neither looks at nor changes what is put into its state. -/
def Frames (put : τ → σ → σ) (x : Prog ε σ α) : Prop :=
  ∀ f s, exec x (put f s) = ((exec x s).1, put f (exec x s).2)

theorem frames_pure (a : α) : Frames put (pure a : Prog ε σ α) := fun _ _ => rfl

theorem frames_throw (e : ε) : Frames put (throw e : Prog ε σ α) := fun _ _ => rfl

theorem frames_modify {g : σ → σ} (commutes : ∀ f s, g (put f s) = put f (g s)) :
    Frames put (modify g : Prog ε σ PUnit) := by
  intro f s
  exact congrArg (Prod.mk (Except.ok PUnit.unit)) (commutes f s)

theorem frames_bind {x : Prog ε σ α} {k : α → Prog ε σ β} (first : Frames put x)
    (rest : ∀ a, Frames put (k a)) : Frames put (x >>= k) := by
  intro f s
  rw [exec_bind, exec_bind, first f s]
  cases (exec x s).1 with
  | ok a => exact rest a f _
  | error e => rfl

/-- What is read of the state may decide how the program goes on, as long as it is not what was put
there. -/
theorem frames_get_bind {k : σ → Prog ε σ α} (same : ∀ f s, k (put f s) = k s)
    (rest : ∀ s, Frames put (k s)) : Frames put (get >>= k) := by
  intro f s
  have reads (s : σ) : exec (get >>= k) s = exec (k s) s := exec_bind get k s
  rw [reads, reads, same]
  exact rest s f s

theorem frames_attempt {x : Prog ε σ α} {handle : ε → Prog ε σ α} (body : Frames put x)
    (handler : ∀ e, Frames put (handle e)) : Frames put (attempt x handle) := by
  intro f s
  rw [exec_attempt, exec_attempt, body f s]
  cases (exec x s).1 with
  | ok a => rfl
  | error e => exact handler e f _

theorem frames_ite {c : Prop} [Decidable c] {x y : Prog ε σ α} (left : Frames put x)
    (right : Frames put y) : Frames put (if c then x else y) := by
  split
  · exact left
  · exact right

theorem frames_chain {layers : List (Prog ε σ Flow)}
    (each : ∀ layer ∈ layers, Frames put layer) : Frames put (chain layers) := by
  induction layers with
  | nil => exact frames_pure _
  | cons layer rest ih =>
    obtain ⟨first, others⟩ := List.forall_mem_cons.mp each
    refine frames_bind first fun flow => ?_
    cases flow with
    | next => exact ih others
    | ended => exact frames_pure _

end Frames

end Effect
