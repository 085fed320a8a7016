import ChurchManagement.Reference

namespace ChurchManagement

open Js Effect Express Sequelize

section

variable (p : Platform)

/-- The server after the subscriptions that the requests post, one behind the other. -/
def subscribeAll (posts : List Request) (s : Server) : Server :=
  posts.foldl (fun s req => (exec (postSubscribe p req) (Ctx.start req s)).2.server) s

/-- The objects that are handed to `webpush.sendNotification`. -/
def broadcast (req : Request) (s : Server) : List Value :=
  (exec (getSendNotification req) (Ctx.start req s)).2.pushed.map Prod.fst

/-- A server without subscriptions. -/
def Server.unsubscribed (s : Server) : Server := { s with subscriptions := ⟨[], List.nodup_nil⟩ }

/-- Each endpoint that was posted is called once, with the keys that were posted for it last. -/
structure BroadcastsLatest (posts calls : List Value) : Prop where
  once : (calls.map fun call => call.propD "endpoint").Nodup
  each : ∀ endpoint, endpoint ∈ calls.map (fun call => call.propD "endpoint") ↔
    endpoint ≠ .undefined ∧ endpoint ∈ posts.map fun post => post.propD "endpoint"
  latest : ∀ call ∈ calls, ∀ before post later, posts = before ++ post :: later →
    post.propD "endpoint" = call.propD "endpoint" →
    (∀ other ∈ later, other.propD "endpoint" ≠ call.propD "endpoint") →
    call.propD "keys" = post.propD "keys"

/-- A row goes to the push library under the names of its columns, none of which is
`endpoint`. -/
theorem toJSON_endpoint (row : NotificationSubscription) :
    row.toJSON.propD "endpoint" = .undefined := rfl

theorem broadcast_rows (req : Request) (s : Server) :
    ∀ call ∈ broadcast req s, ∃ row ∈ s.subscriptions.rows, call = row.toJSON := by
  have pushed : Ensures (getSendNotification req) (Ctx.start req s)
      (fun _ t => ∀ call ∈ t.pushed, ∃ row ∈ s.subscriptions.rows, call.1 = row.toJSON)
      (fun _ t => ∀ call ∈ t.pushed, ∃ row ∈ s.subscriptions.rows, call.1 = row.toJSON) := by
    unfold getSendNotification
    simp only [ensures_attempt, ensures_bind, ensures_db, ensures_get, ensures_modify]
    refine ⟨fun _ _ call member => absurd member List.not_mem_nil, fun _ call member => ?_⟩
    obtain ⟨row, present, same⟩ := List.mem_map.mp member
    exact ⟨row, present, congrArg Prod.fst same.symm⟩
  intro call member
  obtain ⟨entry, sent, rfl⟩ := List.mem_map.mp member
  exact pushed.final entry sent

/-- A subscription without an endpoint adds no row. -/
theorem postSubscribe_without (req : Request) (s : Server) (empty : s.subscriptions.rows = [])
    (none : req.body.propD "endpoint" = .undefined) :
    (exec (postSubscribe p req) (Ctx.start req s)).2.server.subscriptions.rows = [] := by
  have missing (cond : NotificationSubscription → Bool) :
      findOne p.toOrm cond s.subscriptions.rows = .none := by
    cases found : findOne p.toOrm cond s.subscriptions.rows with
    | none => rfl
    | some row =>
      have member := (findOne_some p.toOrm found).1
      rw [empty] at member
      cases member
  have rejected (id : String) (user keys expirationTime : Value) :
      create p.toOrm id [("USERID", user), ("ENDPOINT", .undefined), ("KEYS", keys),
        ("EXPIRATIONTIME", expirationTime)] = (.none : Option NotificationSubscription) := by
    cases made : (create p.toOrm id [("USERID", user), ("ENDPOINT", .undefined), ("KEYS", keys),
        ("EXPIRATIONTIME", expirationTime)] : Option NotificationSubscription) with
    | none => rfl
    | some row =>
      have cell := write_get p.toOrm made .ENDPOINT
      have null : row.get .ENDPOINT = .null := (Option.some.inj cell).symm
      have holds := row.holds .ENDPOINT
      rw [null] at holds
      cases holds
  have kept : Ensures (postSubscribe p req) (Ctx.start req s)
      (fun _ t => t.server.subscriptions.rows = []) (fun _ t => t.server.subscriptions.rows = []) := by
    unfold postSubscribe saveSubscription
    simp only [ensures_bind, ensures_attempt, ensures_whereColumn, ensures_db, ensures_get]
    refine ⟨fun cond _ => ⟨fun _ _ => empty, fun _ => ?_⟩, fun _ => empty⟩
    rw [show findOne p.toOrm _ (Ctx.start req s).server.subscriptions.rows = .none from missing _]
    simp only [ensures_bind, ensures_prop, ensures_db, ensures_orThrow]
    refine ⟨fun endpoint read => ⟨fun keys _ => ⟨fun expirationTime _ => ⟨fun _ _ => empty, fun _ =>
      ⟨fun row made => ?_, fun _ => empty⟩⟩, fun _ _ => empty⟩, fun _ _ => empty⟩, fun _ _ => empty⟩
    have absent : endpoint = .undefined := by
      simpa [Value.propD, read, Except.toOption] using none
    rw [absent, rejected] at made
    cases made
  exact kept.final

theorem subscribeAll_without {posts : List Request} {s : Server}
    (empty : s.subscriptions.rows = [])
    (none : ∀ req ∈ posts, req.body.propD "endpoint" = .undefined) :
    (subscribeAll p posts s).subscriptions.rows = [] := by
  induction posts generalizing s with
  | nil => exact empty
  | cons req posts ih =>
    refine ih (postSubscribe_without p req s empty (none req List.mem_cons_self)) ?_
    exact fun later member => none later (List.mem_cons_of_mem _ member)

/-- The broadcast reaches the endpoints only when there are none: the rows are handed out under
the names of their columns. -/
theorem broadcast_latest_iff (posts : List Request) (req : Request) (s : Server) :
    BroadcastsLatest (posts.map Request.body)
        (broadcast req (subscribeAll p posts s.unsubscribed)) ↔
      ∀ post ∈ posts, post.body.propD "endpoint" = .undefined := by
  constructor
  · intro latest post member
    by_contra given
    have posted : post.body.propD "endpoint" ∈
        (posts.map Request.body).map fun post => post.propD "endpoint" := by
      rw [List.map_map]
      exact List.mem_map.mpr ⟨post, member, rfl⟩
    obtain ⟨call, sent, endpoint⟩ := List.mem_map.mp ((latest.each _).mpr ⟨given, posted⟩)
    obtain ⟨row, _, rfl⟩ := broadcast_rows req _ call sent
    exact given (endpoint.symm.trans (toJSON_endpoint row))
  · intro none
    have empty := subscribeAll_without p (s := s.unsubscribed) rfl none
    have silent : broadcast req (subscribeAll p posts s.unsubscribed) = [] := by
      refine List.eq_nil_iff_forall_not_mem.mpr fun call sent => ?_
      obtain ⟨row, member, _⟩ := broadcast_rows req _ call sent
      rw [empty] at member
      cases member
    rw [silent]
    refine ⟨List.nodup_nil, fun endpoint => ⟨fun sent => ?_, fun posted => ?_⟩, fun call sent => ?_⟩
    · cases sent
    · rw [List.map_map] at posted
      obtain ⟨post, member, isEndpoint⟩ := List.mem_map.mp posted.2
      exact absurd (isEndpoint.symm.trans (none post member)) posted.1
    · cases sent

end

section Savings

/-- A call of `saveSubscription`, and the request it is made for. -/
structure Saving where
  req : Request
  id : String
  subscription : Value

variable (p : Platform)

/-- The server after the calls, one behind the other. -/
def saveAll (calls : List Saving) (s : Server) : Server :=
  calls.foldl (fun s call =>
    (exec (saveSubscription p call.req call.id call.subscription) (Ctx.start call.req s)).2.server) s

/-- The row that a call inserts when there is none for its identifier. -/
def Saving.row (call : Saving) : Option NotificationSubscription :=
  match call.req.fault .NotificationSubscription .findOne,
    call.req.fault .NotificationSubscription .create, call.subscription.prop "endpoint" with
  | none, none, .ok endpoint => create p.toOrm (call.req.rowId 0)
      [("USERID", .str call.id), ("ENDPOINT", endpoint), ("KEYS", call.subscription.propD "keys"),
        ("EXPIRATIONTIME", call.subscription.propD "expirationTime")]
  | _, _, _ => none

/-- The rows of an identifier. -/
def rowsOf (id : String) (rows : List NotificationSubscription) : List NotificationSubscription :=
  rows.filter fun row => row.get .USERID = .str id

/-- The row keeps the values of the call. -/
structure KeepsSaving (row : NotificationSubscription) (call : Saving) : Prop where
  endpoint : row.Stores p.toOrm .ENDPOINT (call.subscription.propD "endpoint")
  keys : row.Stores p.toOrm .KEYS (call.subscription.propD "keys")
  expirationTime : row.Stores p.toOrm .EXPIRATIONTIME (call.subscription.propD "expirationTime")

/-- The call is the last one made with its identifier. -/
def LastOf (calls : List Saving) (call : Saving) : Prop :=
  ∃ before later, calls = before ++ call :: later ∧ ∀ other ∈ later, other.id ≠ call.id

/-- Each identifier has one row, with the values of the last call made with it. -/
structure LastWriteWins (calls : List Saving) (rows : List NotificationSubscription) : Prop where
  called : ∀ row ∈ rows, ∃ call ∈ calls, row.get .USERID = .str call.id
  latest : ∀ call, LastOf calls call → ∃ row, rowsOf call.id rows = [row] ∧ KeepsSaving p row call

/-- The first call with the identifier that has a row to insert. -/
def firstAccepted (calls : List Saving) (id : String) : Option Saving :=
  calls.find? fun call => call.id == id && (call.row p).isSome

variable {p}

theorem Saving.row_id {call : Saving} {row : NotificationSubscription}
    (made : call.row p = some row) : row.id = call.req.rowId 0 := by
  unfold Saving.row at made
  split at made
  · exact write_id p.toOrm made
  · cases made

theorem Saving.row_USERID {call : Saving} {row : NotificationSubscription}
    (made : call.row p = some row) (text : p.store .uuid (.str call.id) = some (.str call.id)) :
    row.get .USERID = .str call.id := by
  unfold Saving.row at made
  split at made
  · have cell := write_get p.toOrm made .USERID
    exact (Option.some.inj (text.symm.trans cell)).symm
  · cases made

/-- The insertion keeps the values of its call. -/
theorem Saving.row_keeps {call : Saving} {row : NotificationSubscription}
    (made : call.row p = some row) : KeepsSaving p row call := by
  unfold Saving.row at made
  split at made
  · rename_i endpoint _ _ read
    have stores := create_stores p.toOrm made
    have isEndpoint : call.subscription.propD "endpoint" = endpoint := by
      simp [Value.propD, read, Except.toOption]
    exact ⟨isEndpoint ▸ stores .ENDPOINT, stores .KEYS, stores .EXPIRATIONTIME⟩
  · cases made

/-- The keys of the update name no column. -/
theorem update_kept (row : NotificationSubscription) (endpoint keys expirationTime : Value) :
    row.update p.toOrm [("endpoint", endpoint), ("keys", keys), ("expirationTime", expirationTime)] =
      some row :=
  row.update_foreign p.toOrm fun col => by cases col <;> rfl

/-- A call adds its row where the identifier has none, and changes nothing else. -/
theorem saveSubscription_rows (call : Saving) (c : Ctx) :
    Ensures (saveSubscription p call.req call.id call.subscription) c
      (fun _ t => t.server.subscriptions = c.server.subscriptions ∧
          (rowsOf call.id c.server.subscriptions.rows = [] →
            ∀ row, call.row p = some row → c.server.subscriptions.insert row = none) ∨
        rowsOf call.id c.server.subscriptions.rows = [] ∧ ∃ row, call.row p = some row ∧
          c.server.subscriptions.insert row = some t.server.subscriptions)
      (fun _ _ => False) := by
  have nothing {table : Table SubscriptionColumn} (same : table = c.server.subscriptions)
      (none : call.row p = none) : table = c.server.subscriptions ∧
        (rowsOf call.id c.server.subscriptions.rows = [] →
          ∀ row, call.row p = some row → c.server.subscriptions.insert row = .none) :=
    ⟨same, fun _ row made => by cases none.symm.trans made⟩
  unfold saveSubscription
  simp only [ensures_attempt, ensures_bind, ensures_whereColumn, ensures_db, ensures_get]
  refine ⟨fun cond built => ⟨fun _ fault => .inl (nothing rfl ?_), fun reads => ?_⟩, fun refused => ?_⟩
  · simp [Saving.row, fault]
  · cases Option.some.inj ((p.whereEq_text call.id).symm.trans built)
    split
    · rename_i row found
      obtain ⟨member, isId⟩ := findOne_some p.toOrm found
      have taken : rowsOf call.id c.server.subscriptions.rows ≠ [] :=
        List.ne_nil_of_mem (List.mem_filter.mpr ⟨member, isId⟩)
      have kept {table : Table SubscriptionColumn} (same : table = c.server.subscriptions) :
          table = c.server.subscriptions ∧
            (rowsOf call.id c.server.subscriptions.rows = [] →
              ∀ row, call.row p = some row → c.server.subscriptions.insert row = none) :=
        ⟨same, fun empty => absurd empty taken⟩
      simp only [ensures_bind, ensures_prop, ensures_db, ensures_orThrow, ensures_setServer,
        update_kept]
      refine ⟨fun _ _ => ⟨fun _ _ => ⟨fun _ _ => ⟨fun _ _ => .inl (kept rfl), fun _ =>
        ⟨fun row' equal => ?_, fun _ => .inl (kept rfl)⟩⟩, fun _ _ => .inl (kept rfl)⟩,
        fun _ _ => .inl (kept rfl)⟩, fun _ _ => .inl (kept rfl)⟩
      cases Option.some.inj equal
      exact .inl (kept (Table.save_of_mem member))
    · rename_i missing
      have empty : rowsOf call.id c.server.subscriptions.rows = [] :=
        List.filter_eq_nil_iff.mpr fun row member => by
          simpa using findOne_none p.toOrm missing row member
      simp only [ensures_bind, ensures_prop, ensures_db, ensures_get, ensures_orThrow,
        ensures_setServer]
      refine ⟨fun endpoint read => ⟨fun keys readKeys => ⟨fun time readTime =>
        ⟨fun _ fault => .inl (nothing rfl ?_), fun writes => ?_⟩, fun _ threw => ?_⟩,
        fun _ threw => ?_⟩, fun _ threw => .inl (nothing rfl ?_)⟩
      · simp [Saving.row, fault]
      · have isRow : call.row p = create p.toOrm (call.req.rowId 0) [("USERID", .str call.id),
            ("ENDPOINT", endpoint), ("KEYS", keys), ("EXPIRATIONTIME", time)] := by
          simp [Saving.row, reads, writes, read, Value.propD, readKeys, readTime, Except.toOption]
        refine ⟨fun row made => ⟨fun table inserted => ?_, fun refused => ?_⟩, fun rejected => ?_⟩
        · exact .inr ⟨empty, row, isRow.trans made, inserted⟩
        · refine .inl ⟨rfl, fun _ row' made' => ?_⟩
          cases Option.some.inj ((isRow.trans made).symm.trans made')
          exact refused
        · exact .inl (nothing rfl (isRow.trans rejected))
      · exact absurd read (Value.prop_of_error threw)
      · exact absurd read (Value.prop_of_error threw)
      · simp [Saving.row, threw]
  · cases (p.whereEq_text call.id).symm.trans refused

/-- What the table holds after the calls: the rows of the first accepted call of each identifier. -/
structure FirstKept (p : Platform) (calls : List Saving) (rows : List NotificationSubscription) :
    Prop where
  called : ∀ row ∈ rows, ∃ call ∈ calls, row.get .USERID = .str call.id ∧ row.id = call.req.rowId 0
  first : ∀ id, rowsOf id rows = ((firstAccepted p calls id).bind (Saving.row p)).toList

theorem firstAccepted_append (calls : List Saving) (call : Saving) (id : String) :
    firstAccepted p (calls ++ [call]) id = (firstAccepted p calls id).or
      (if call.id = id ∧ (call.row p).isSome = true then some call else none) := by
  unfold firstAccepted
  rw [List.find?_append]
  congr 1
  simp [List.find?_singleton]

/-- An identifier without a row has no accepted call. -/
theorem FirstKept.none_accepted {calls : List Saving} {rows : List NotificationSubscription}
    (kept : FirstKept p calls rows) {id : String} (empty : rowsOf id rows = []) :
    firstAccepted p calls id = none := by
  cases found : firstAccepted p calls id with
  | none => rfl
  | some first =>
    have single := kept.first id
    have listed := List.find?_some (p := fun call : Saving => call.id == id && (call.row p).isSome) found
    obtain ⟨row, made⟩ := Option.isSome_iff_exists.mp (Bool.and_eq_true_iff.mp listed).2
    rw [empty, found, Option.bind_some, made] at single
    cases single

theorem FirstKept.called_later {calls : List Saving} {rows : List NotificationSubscription}
    (kept : FirstKept p calls rows) (call : Saving) {row : NotificationSubscription}
    (member : row ∈ rows) :
    ∃ earlier ∈ calls ++ [call], row.get .USERID = .str earlier.id ∧ row.id = earlier.req.rowId 0 := by
  obtain ⟨earlier, before, facts⟩ := kept.called row member
  exact ⟨earlier, List.mem_append_left _ before, facts⟩

/-- A call that leaves the rows as they are: the identifier has one, or the call is not accepted. -/
theorem FirstKept.skipped {calls : List Saving} {call : Saving} {rows : List NotificationSubscription}
    (kept : FirstKept p calls rows) (refused : rowsOf call.id rows = [] → call.row p = none) :
    FirstKept p (calls ++ [call]) rows := by
  refine ⟨fun row member => kept.called_later call member, fun id => ?_⟩
  rw [firstAccepted_append]
  cases found : firstAccepted p calls id with
  | some first => rw [Option.some_or, kept.first id, found]
  | none =>
    have empty := kept.first id
    rw [found, Option.bind_none, Option.toList_none] at empty
    rw [empty, Option.none_or, if_neg, Option.bind_none, Option.toList_none]
    rintro ⟨rfl, made⟩
    rw [refused empty] at made
    cases made

/-- A call whose row is added. -/
theorem FirstKept.added {calls : List Saving} {call : Saving} {rows : List NotificationSubscription}
    (kept : FirstKept p calls rows) (empty : rowsOf call.id rows = [])
    {row : NotificationSubscription} (made : call.row p = some row)
    (isId : row.get .USERID = .str call.id) : FirstKept p (calls ++ [call]) (rows ++ [row]) := by
  refine ⟨fun other member => ?_, fun id => ?_⟩
  · rcases List.mem_append.mp member with old | new
    · exact kept.called_later call old
    · cases List.mem_singleton.mp new
      exact ⟨call, List.mem_append_right _ (List.mem_singleton.mpr rfl), isId, Saving.row_id made⟩
  · have parts : rowsOf id (rows ++ [row]) = rowsOf id rows ++ rowsOf id [row] :=
      List.filter_append ..
    rw [parts, firstAccepted_append]
    by_cases own : call.id = id
    · subst own
      rw [empty, kept.none_accepted empty, Option.none_or, if_pos ⟨rfl, by rw [made]; rfl⟩,
        Option.bind_some, made]
      simp [rowsOf, isId]
    · rw [if_neg fun both => own both.1, Option.or_none, ← kept.first id]
      simp [rowsOf, isId, own]

/-- One more call. -/
theorem FirstKept.step {calls : List Saving} {call : Saving} {s : Server}
    (kept : FirstKept p calls s.subscriptions.rows)
    (text : p.store .uuid (.str call.id) = some (.str call.id))
    (fresh : ∀ earlier ∈ calls, earlier.req.rowId 0 ≠ call.req.rowId 0) :
    FirstKept p (calls ++ [call])
      (exec (saveSubscription p call.req call.id call.subscription)
        (Ctx.start call.req s)).2.server.subscriptions.rows := by
  have outcome := Ensures.final (P := fun t => t.server.subscriptions = s.subscriptions ∧
      (rowsOf call.id s.subscriptions.rows = [] →
        ∀ row, call.row p = some row → s.subscriptions.insert row = none) ∨
      rowsOf call.id s.subscriptions.rows = [] ∧ ∃ row, call.row p = some row ∧
        s.subscriptions.insert row = some t.server.subscriptions)
    ((saveSubscription_rows call (Ctx.start call.req s)).mono (fun _ _ post => post)
      (fun _ _ never => never.elim))
  rcases outcome with ⟨same, refused⟩ | ⟨empty, row, made, inserted⟩
  · rw [same]
    refine kept.skipped fun empty => Option.eq_none_iff_forall_ne_some.mpr fun row made => ?_
    -- the key of the row is new, so the table would take it
    have unused : row.id ∉ s.subscriptions.rows.map Row.id := by
      intro member
      obtain ⟨old, present, isOld⟩ := List.mem_map.mp member
      obtain ⟨earlier, before, _, isId⟩ := kept.called old present
      exact fresh earlier before (isId.symm.trans (isOld.trans (Saving.row_id made)))
    have taken := refused empty row made
    rw [Table.insert, dif_pos unused] at taken
    cases taken
  · rw [Table.insert_rows inserted]
    exact kept.added empty made (Saving.row_USERID made text)

theorem FirstKept.saveAll {calls rest : List Saving} {s : Server}
    (kept : FirstKept p calls s.subscriptions.rows)
    (texts : ∀ call ∈ rest, p.store .uuid (.str call.id) = some (.str call.id))
    (distinct : ((calls ++ rest).map fun call => call.req.rowId 0).Nodup) :
    FirstKept p (calls ++ rest) (saveAll p rest s).subscriptions.rows := by
  induction rest generalizing calls s with
  | nil => rwa [List.append_nil]
  | cons call rest ih =>
    have fresh : ∀ earlier ∈ calls, earlier.req.rowId 0 ≠ call.req.rowId 0 := by
      intro earlier before
      rw [List.map_append, List.nodup_append] at distinct
      exact distinct.2.2 _ (List.mem_map_of_mem before) _ (List.mem_map_of_mem List.mem_cons_self)
    rw [List.append_cons] at distinct ⊢
    exact ih (kept.step (texts call List.mem_cons_self) fresh)
      (fun later member => texts later (List.mem_cons_of_mem _ member)) distinct

/-- The first call of an identifier that the table accepts says what the last one says. -/
def FirstAgrees (p : Platform) (calls : List Saving) : Prop :=
  ∀ call, LastOf calls call → ∃ first row, firstAccepted p calls call.id = some first ∧
    first.row p = some row ∧ KeepsSaving p row call

/-- A second call with the same identifier changes nothing, so the last one is kept only when it
says what the first one has said. -/
theorem last_write_wins_iff (p : Platform) (calls : List Saving) (s : Server)
    (texts : ∀ call ∈ calls, p.store .uuid (.str call.id) = some (.str call.id))
    (distinct : (calls.map fun call => call.req.rowId 0).Nodup) :
    LastWriteWins p calls (saveAll p calls s.unsubscribed).subscriptions.rows ↔
      FirstAgrees p calls := by
  have empty : FirstKept p [] s.unsubscribed.subscriptions.rows :=
    ⟨fun row member => absurd member List.not_mem_nil, fun id => rfl⟩
  have kept := empty.saveAll texts distinct
  rw [List.nil_append] at kept
  constructor
  · intro wins call last
    obtain ⟨row, single, keeps⟩ := wins.latest call last
    have rows := kept.first call.id
    rw [single] at rows
    obtain ⟨first, found, made⟩ := Option.bind_eq_some_iff.mp
      (Option.toList_eq_singleton_iff.mp rows.symm)
    exact ⟨first, row, found, made, keeps⟩
  · intro agrees
    refine ⟨fun row member => ?_, fun call last => ?_⟩
    · obtain ⟨call, called, isId, _⟩ := kept.called row member
      exact ⟨call, called, isId⟩
    · obtain ⟨first, row, found, made, keeps⟩ := agrees call last
      refine ⟨row, ?_, keeps⟩
      rw [kept.first call.id, found, Option.bind_some, made]
      rfl

end Savings

section Samples

open Reference

/-- The subscription of a browser. -/
def subscriber : Request :=
  { request "s1" "POST" "/subscribe" with
    body := .obj [("endpoint", .str "https://push.example.org/send/abc"),
      ("keys", .obj [("p256dh", .str "BNcR"), ("auth", .str "tBHI")]), ("expirationTime", .null)] }

/-- The row of the browser is pushed, and the object has no endpoint. -/
theorem subscriber_not_reached :
    ¬ BroadcastsLatest ([subscriber].map Request.body)
      (broadcast (request "s1" "GET" "/send-notification")
        (subscribeAll platform [subscriber] start.unsubscribed)) := by
  intro latest
  have reached := (latest.each (.str "https://push.example.org/send/abc")).mpr
    ⟨by simp, List.mem_cons_self⟩
  revert reached
  decide +kernel

/-- A subscription of the visitor with the endpoint; each call draws its own key for the row. -/
def visitorSaves (rowId endpoint : String) : Saving where
  req := { request "s1" "POST" "/subscribe" with rowId := fun _ => rowId }
  id := "guest-7"
  subscription := .obj [("endpoint", .str endpoint),
    ("keys", .obj [("p256dh", .str "BNcR"), ("auth", .str "tBHI")]), ("expirationTime", .null)]

/-- The endpoint of the second subscription is lost. -/
theorem second_subscription_lost :
    ¬ LastWriteWins platform [visitorSaves "r1" "https://push.example.org/old",
        visitorSaves "r2" "https://push.example.org/new"]
      (saveAll platform [visitorSaves "r1" "https://push.example.org/old",
        visitorSaves "r2" "https://push.example.org/new"] start.unsubscribed).subscriptions.rows := by
  intro wins
  have last : LastOf [visitorSaves "r1" "https://push.example.org/old",
      visitorSaves "r2" "https://push.example.org/new"]
      (visitorSaves "r2" "https://push.example.org/new") :=
    ⟨[visitorSaves "r1" "https://push.example.org/old"], [], rfl, by simp⟩
  obtain ⟨row, single, keeps⟩ := wins.latest _ last
  have kept : row.get .ENDPOINT = .str "https://push.example.org/new" :=
    keeps.endpoint.text platform.toOrm (.inl rfl)
  have endpoints := congrArg (List.map fun row => row.get SubscriptionColumn.ENDPOINT) single
  rw [List.map_singleton, kept] at endpoints
  revert endpoints
  decide +kernel

/-- A subscription that is repeated is kept. -/
theorem repeated_subscription_kept :
    LastWriteWins platform [visitorSaves "r1" "https://push.example.org/old",
        visitorSaves "r2" "https://push.example.org/old"]
      (saveAll platform [visitorSaves "r1" "https://push.example.org/old",
        visitorSaves "r2" "https://push.example.org/old"] start.unsubscribed).subscriptions.rows := by
  refine (last_write_wins_iff platform _ start (fun _ _ => rfl) (by decide)).mpr ?_
  intro call last
  have inserts : ((visitorSaves "r1" "https://push.example.org/old").row platform).isSome = true := by
    decide +kernel
  obtain ⟨row, made⟩ := Option.isSome_iff_exists.mp inserts
  obtain ⟨before, later, same, _⟩ := last
  have member : call ∈ [visitorSaves "r1" "https://push.example.org/old",
      visitorSaves "r2" "https://push.example.org/old"] := by
    rw [same]
    exact List.mem_append_right _ List.mem_cons_self
  have repeats : call.id = "guest-7" ∧ call.subscription =
      (visitorSaves "r1" "https://push.example.org/old").subscription := by
    simp only [List.mem_cons, List.not_mem_nil, or_false] at member
    rcases member with rfl | rfl <;> exact ⟨rfl, rfl⟩
  have first := Saving.row_keeps made
  refine ⟨visitorSaves "r1" "https://push.example.org/old", row, ?_, made, ?_⟩
  · rw [repeats.1, firstAccepted, List.find?_cons_of_pos]
    rw [inserts]
    rfl
  · exact ⟨repeats.2 ▸ first.endpoint, repeats.2 ▸ first.keys, repeats.2 ▸ first.expirationTime⟩

end Samples

end ChurchManagement
