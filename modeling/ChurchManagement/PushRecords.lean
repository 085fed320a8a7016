import ChurchManagement.Journey
import ChurchManagement.Subscriptions

namespace ChurchManagement

open Js Effect Express Sequelize History Refinement

section

variable {p : Platform} {secrets : Secrets}

/-- The call that a posted subscription is saved with, under an identifier drawn for it. -/
def posting (req : Request) : Saving := ⟨req, req.v4, req.body⟩

/-- The request has got through with an agent, and the row is made of its body. -/
def Subscribes (p : Platform) (secrets : Secrets) (e : Event Request Server)
    (row : NotificationSubscription) : Prop :=
  (after p secrets e).ran = some .postSubscribe ∧ presented p e.input ≠ none ∧
    (posting e.input).row p = some row

/-- Rows are added at the end and never changed. -/
def Appends (rows : List NotificationSubscription) (row : NotificationSubscription)
    (rows' : List NotificationSubscription) : Prop :=
  rows' = rows ++ [row]

theorem postSubscribe_rows (req : Request) (c : Ctx) :
    Ensures (postSubscribe p req) c
      (fun _ t => t.server.subscriptions = c.server.subscriptions ∨ ∃ row,
        (posting req).row p = some row ∧
          c.server.subscriptions.insert row = some t.server.subscriptions)
      (fun _ _ => False) := by
  unfold postSubscribe
  rw [ensures_bind]
  refine (saveSubscription_rows (posting req) c).mono ?_ (fun _ _ never => never)
  rintro _ t (⟨same, _⟩ | ⟨_, row, made, inserted⟩)
  · exact .inl same
  · exact .inr ⟨row, made, inserted⟩

/-- A subscription needs an agent. -/
theorem Handled.subscribes {req : Request} {c t : Ctx} {params : List (String × String)}
    (handled : Handled p secrets req c t .postSubscribe params) : presented p req ≠ none := by
  rcases handled.opened with found | open'
  · exact Option.isSome_iff_ne_none.mp found
  · have page := (handled.routed.page open').2
    simp [publicPages] at page

theorem serve_appends : Refines (serve p secrets) (fun s => s.subscriptions.rows) Appends
    (Subscribes p secrets) := by
  intro req s
  have sees {c : Ctx} (left : (served p secrets req s).core = c.core) :
      (serve p secrets req s).subscriptions = c.server.subscriptions := by
    rw [serve_subscriptions, Ctx.server_of_core left]
  have same {c : Ctx} (left : (served p secrets req s).core = c.core)
      (kept : c.server.subscriptions = s.subscriptions) :
      (serve p secrets req s).subscriptions.rows = s.subscriptions.rows := by
    rw [sees left, kept]
  rcases served_spec p secrets req s with idle | ⟨handler, params, handled⟩
  · exact .inl (same idle rfl)
  cases handled.done.outcome with
  | quiet left => exact .inl (same left rfl)
  | identified user matched stuck left => exact .inl (same left rfl)
  | promoted user role matched stands reads stuck left => exact .inl (same left rfl)
  | granted user role activities matched stands reads completes recorded answer left =>
    exact .inl (same left rfl)
  | loggedOut record logsOut left => exact .inl (same left rfl)
  | registered users registers left => exact .inl (same left rfl)
  | shown user member reads truthy current left => exact .inl (same left rfl)
  | recorded activities records left => exact .inl (same left rfl)
  | updated user updates left => exact .inl (same left rfl)
  | subscribed rows left =>
    have saved : (served p secrets req s).server.subscriptions = s.subscriptions ∨ ∃ row,
        (posting req).row p = some row ∧
          s.subscriptions.insert row = some (served p secrets req s).server.subscriptions := by
      refine served_through (P := fun t => t.server.subscriptions = s.subscriptions ∨ ∃ row,
        (posting req).row p = some row ∧ s.subscriptions.insert row = some t.server.subscriptions)
        handled.ran handled.routed fun t enters => ?_
      have server : t.server = s := Ctx.server_of_core enters.core
      rw [← server]
      exact (postSubscribe_rows req { t with ran := some .postSubscribe }).mono
        (fun _ _ known => known) (fun _ _ never => never.elim)
    rcases saved with kept | ⟨row, made, inserted⟩
    · exact .inl (congrArg Table.rows kept)
    · exact .inr ⟨row, ⟨handled.ran, handled.subscribes, made⟩, Table.insert_rows inserted⟩

theorem broadcast_all {req : Request} (works : ∀ table op, req.fault table op = none) (s : Server) :
    broadcast req s = s.subscriptions.rows.map Row.toJSON := by
  have pushed : Ensures (getSendNotification req) (Ctx.start req s)
      (fun _ t => t.pushed.map Prod.fst = s.subscriptions.rows.map Row.toJSON)
      (fun _ t => t.pushed.map Prod.fst = s.subscriptions.rows.map Row.toJSON) := by
    unfold getSendNotification
    simp only [ensures_attempt, ensures_bind, ensures_db, ensures_get, ensures_modify]
    refine ⟨fun _ fault => ?_, fun _ => ?_⟩
    · cases (works _ _).symm.trans fault
    · change (([] : List (Value × String)) ++ s.subscriptions.rows.map _).map Prod.fst = _
      rw [List.nil_append, List.map_map]
      rfl
  exact pushed.final

/-- The subscriptions are those of the start and, behind them in order, one for each of some
requests that came with an agent; each is handed to the push library once; and as long as
subscriptions are posted the way the page posts them, without a query, there are no new ones. -/
theorem subscriptions_accounted {start s : Server} {log : Log} (reach : Runs p secrets start log s) :
    (∃ posted, Explains (Subscribes p secrets) log posted ∧
      s.subscriptions.rows = start.subscriptions.rows ++ posted.reverse) ∧
    (∀ req, (∀ table op, req.fault table op = none) →
      broadcast req s = s.subscriptions.rows.map Row.toJSON) ∧
    ((∀ e ∈ log, ∀ params, Addressed p e.input .postSubscribe params → e.input.url = "/subscribe") →
      s.subscriptions.rows = start.subscriptions.rows) := by
  obtain ⟨posted, explains, trace⟩ := serve_appends.trace reach
  have rows : s.subscriptions.rows = start.subscriptions.rows ++ posted.reverse := by
    refine Trace.invariant (P := fun posted rows => rows = start.subscriptions.rows ++ posted.reverse)
      (List.append_nil _).symm ?_ trace
    rintro posted rows row _ rfl known
    rw [known, List.reverse_cons, List.append_assoc]
  refine ⟨⟨posted, explains, rows⟩, fun req works => broadcast_all works s, fun bare => ?_⟩
  have none : posted = [] := by
    refine List.eq_nil_iff_forall_not_mem.mpr fun row member => ?_
    obtain ⟨e, inLog, ran, found, _⟩ := explains.mem member
    obtain ⟨params, handled⟩ := handled_of_ran ran
    refine found (presented_bare p ?_)
    rw [bare e inLog params handled.routed]
    decide
  rw [rows, none, List.reverse_nil, List.append_nil]

end

section Sample

open Reference

/-- The subscription of a browser that has brought an agent. -/
def acquainted : Request := { subscriber with url := "/subscribe?agent=\x7b\"data\":\x7b\x7d\x7d" }

/-- The page's own request leaves no subscription, the same request with an agent does. -/
theorem subscribers_accounted : (serve platform keys subscriber start).subscriptions.rows = [] ∧
    ∃ posted, posted ≠ [] ∧ Explains (Subscribes platform keys) [⟨acquainted, start⟩] posted := by
  have reach (req : Request) : Runs platform keys start [⟨req, start⟩] (serve platform keys req start) :=
    .next req .start
  constructor
  · refine (subscriptions_accounted (reach subscriber)).2.2 ?_
    intro e only params _
    rw [List.mem_singleton.mp only]
    rfl
  · have added : (serve platform keys acquainted start).subscriptions.rows ≠ [] := by decide +kernel
    obtain ⟨⟨posted, explains, rows⟩, _⟩ := subscriptions_accounted (reach acquainted)
    refine ⟨posted, ?_, explains⟩
    rintro rfl
    exact added rows

end Sample

end ChurchManagement
