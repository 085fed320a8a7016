import ChurchManagement.Js.Json
import ChurchManagement.Server

namespace ChurchManagement

open Js Effect Sequelize

section

variable (p : Platform)

def getIndex (req : Request) : Act Unit := render "index" [("date", req.year)]

/-- `saveSubscription(ip, subscription)`; its own catch swallows every error. An existing row is
updated under keys that are not the names of its columns. -/
def saveSubscription (req : Request) (ip : String) (subscription : Value) : Act Unit :=
  attempt (do
    let cond ← whereColumn p (.str ip)
    db req .NotificationSubscription .findOne
    let existingSubscription := findOne p.toOrm
      (fun row => cond (row.get SubscriptionColumn.USERID)) (← get).server.subscriptions.rows
    match existingSubscription with
    | some row =>
      let values := [("endpoint", ← prop "endpoint" subscription),
        ("keys", ← prop "keys" subscription),
        ("expirationTime", ← prop "expirationTime" subscription)]
      db req .NotificationSubscription .update
      let row ← orThrow "SequelizeValidationError" (row.update p.toOrm values)
      setServer fun s => { s with subscriptions := s.subscriptions.save row }
    | none =>
      let values := [("USERID", .str ip), ("ENDPOINT", ← prop "endpoint" subscription),
        ("KEYS", ← prop "keys" subscription),
        ("EXPIRATIONTIME", ← prop "expirationTime" subscription)]
      db req .NotificationSubscription .create
      let row ← orThrow "SequelizeValidationError" (create p.toOrm (req.rowId 0) values)
      let table ← orThrow "SequelizeUniqueConstraintError" ((← get).server.subscriptions.insert row)
      setServer fun s => { s with subscriptions := table })
  fun _ => pure ()

/-- `req.userId` is assigned nowhere, so each subscription is saved under an identifier of its
own. -/
def postSubscribe (req : Request) : Act Unit := do
  saveSubscription p req req.v4 req.body
  respond (.send 200 (.obj [("success_msg", .str "success"), ("userId", .str req.v4)]))

def notificationPayload : String :=
  Json.stringify (.obj [("title", .str "Hello, World!"),
    ("message", .str "This is a push notification.")])

def getSendNotification (req : Request) : Act Unit :=
  attempt (do
    db req .NotificationSubscription .findAll
    let subscriptions := (← get).server.subscriptions.rows
    modify fun c => { c with
      pushed := c.pushed ++ subscriptions.map fun row => (row.toJSON, notificationPayload) }
    respond (.send 200 (.obj [])))
  fun _ => respond (.send 500 (.obj [("message", .str "Internal Server Error")]))

def getAccessDenied : Act Unit := respond (.render 403 "access-denied" [])

theorem keeps_getSendNotification (req : Request) :
    Keeps (Same Ctx.core) (getSendNotification req) := by
  refine keeps_attempt (keeps_bind (keeps_db _ _ _ _) fun _ => keeps_bind keeps_get fun _ =>
    keeps_bind (keeps_modify fun _ => rfl) fun _ => keeps_respond _) fun _ => keeps_respond _

/-- A subscription changes the table of subscriptions only. -/
theorem postSubscribe_spec (req : Request) (c : Ctx) :
    Ensures (postSubscribe p req) c
      (fun _ t => ∃ rows, t.core =
        ({ c with server := { c.server with subscriptions := rows } } : Ctx).core)
      (fun _ _ => False) := by
  have unchanged : ∃ rows, c.core =
      ({ c with server := { c.server with subscriptions := rows } } : Ctx).core := ⟨_, rfl⟩
  unfold postSubscribe saveSubscription
  simp only [ensures_bind, ensures_attempt, ensures_whereColumn, ensures_db, ensures_get]
  refine ⟨fun cond _ => ⟨fun _ _ => unchanged, fun _ => ?_⟩, fun _ => unchanged⟩
  split
  · simp only [ensures_bind, ensures_prop, ensures_db, ensures_orThrow, ensures_setServer]
    exact ⟨fun _ _ => ⟨fun _ _ => ⟨fun _ _ => ⟨fun _ _ => unchanged, fun _ =>
      ⟨fun row _ => ⟨_, rfl⟩, fun _ => unchanged⟩⟩, fun _ _ => unchanged⟩, fun _ _ => unchanged⟩,
      fun _ _ => unchanged⟩
  · simp only [ensures_bind, ensures_prop, ensures_db, ensures_get, ensures_orThrow,
      ensures_setServer]
    exact ⟨fun _ _ => ⟨fun _ _ => ⟨fun _ _ => ⟨fun _ _ => unchanged, fun _ =>
      ⟨fun row _ => ⟨fun _ _ => ⟨_, rfl⟩, fun _ => unchanged⟩, fun _ => unchanged⟩⟩,
      fun _ _ => unchanged⟩, fun _ _ => unchanged⟩, fun _ _ => unchanged⟩

end

end ChurchManagement
