import ChurchManagement.Effect
import ChurchManagement.Express
import ChurchManagement.Joi
import ChurchManagement.Tables

namespace ChurchManagement

open Js Effect Sequelize

/-- The packages the server runs on, with what it relies on in them. `now` holds the fields of
the object that `new DATE()` makes from the column type of that name, `nearby` the outcome of
the floating-point test that `calculateDistance` is at most 500. -/
structure Platform extends Express.Urls, Joi.Validator, Sequelize.Orm where
  toLowerCase : String → String
  syntaxError : String → String
  now : List (String × Value)
  nearby : Value → Value → Bool

/-- The entries of the secrets line that decide what a request may do. -/
structure Secrets where
  AUTH_TOKEN : String
  WORKER_AUTH_TOKEN : String
  ADMIN_AUTH_TOKEN : String

/-- The route handlers, router by router. -/
inductive Handler
  | getIndex
  | postSubscribe
  | getSendNotification
  | getAccessDenied
  | getLogin
  | postLogin
  | getLogout
  | getRegister
  | postRegister
  | getMemberIndex
  | postCreateActivity
  | getUpdateUser
  | postUpdateUser
  | getUserActivities
  | getDashboard
  | postUploadExcel
  | getMemberStatistics
  | postEvents
  | getSearchMembers
  | getAdvancedSearchMembers
  | getUnit
  | getAdminDashboard
  | getAdminUsers
  | getAdminActivities
  deriving DecidableEq, Repr

/-- A request as `trackUserActivity` receives it. Besides what the client sends it carries what
the surroundings decide while it is handled: the session it is attached to, the identifiers drawn
for it, the local date and time, and which of its database calls are rejected with which error. -/
structure Request where
  method : String
  url : String
  sid : String
  ip : String := "127.0.0.1"
  userAgent : Value := .undefined
  referer : Option String := none
  body : Value := .undefined
  worksheet : Option (List (List Value)) := none
  v4 : String
  rowId : Nat → String
  localeDate : String := ""
  localeTime : String := ""
  year : Value := .undefined
  fault : TableName → DbOp → Option String := fun _ _ => none

/-- The fields of `req.session` that the code uses; a field never assigned is undefined. -/
structure Session where
  userId : Value := .undefined
  role : Value := .undefined
  isWorker : Value := .undefined
  isAdmin : Value := .undefined
  lastActivity : Value := .undefined
  agent : Value := .undefined
  unit : Value := .undefined
  flash : List (String × Value) := []

/-- The tables on disk, the list `secure.allowedID` of the process and its session store. -/
structure Server where
  users : Table UserColumn
  activities : Table ActivityColumn
  userAgents : Table UserAgentColumn
  subscriptions : Table SubscriptionColumn
  allowedID : List String
  sessions : String → Option Session

inductive Response
  | render (status : Nat) (view : String) (locals : List (String × Value))
  | redirect (status : Nat) (url : String)
  | send (status : Nat) (body : Value)
  deriving DecidableEq

/-- What the layers of the application share while they handle one request. `locals` is what the
flash has left in `res.locals`, `ran` records the route handler that was entered, `responses`
every call that answers the request, and `pushed` the arguments of every
`webpush.sendNotification`. -/
structure Ctx where
  server : Server
  session : Session
  destroyed : Bool := false
  locals : List (String × Value) := []
  ran : Option Handler := none
  responses : List Response := []
  pushed : List (Value × String) := []

abbrev Act := Prog String Ctx

/-- The context with a flash message added; connect-flash reads and clears the key instead when
the message is falsy. -/
def Ctx.flashed (key : String) (msg : Value) (c : Ctx) : Ctx :=
  { c with session := { c.session with
    flash := if msg.truthy then c.session.flash ++ [(key, msg)]
      else c.session.flash.filter fun entry => entry.1 != key } }

def Ctx.answered (r : Response) (c : Ctx) : Ctx := { c with responses := c.responses ++ [r] }

/-- `req.flash(key, msg)`. -/
def flash (key : String) (msg : Value) : Act Unit := modify (Ctx.flashed key msg)

def setSession (f : Session → Session) : Act Unit :=
  modify fun c => { c with session := f c.session }

def setServer (f : Server → Server) : Act Unit :=
  modify fun c => { c with server := f c.server }

/-- Answers the request. A second answer is only recorded: a second page is reported to the error
handler and does not stop the one that rendered it, and behind any other second answer there are
only flash messages. -/
def respond (r : Response) : Act Unit := modify (Ctx.answered r)

def render (view : String) (locals : List (String × Value) := []) : Act Unit :=
  respond (.render 200 view locals)

def redirect (url : String) : Act Unit := respond (.redirect 302 url)

/-- `res.redirect(req.get("referer") || fallback)`. -/
def redirectBack (req : Request) (fallback : String) : Act Unit :=
  redirect ((req.referer.filter (· != "")).getD fallback)

/-- `return next()`. -/
def next : Act Flow := pure .next

/-- The end of a middleware that has answered the request itself. -/
def ended : Act Flow := pure .ended

/-- A database call is rejected when the surroundings say so. -/
def db (req : Request) (table : TableName) (op : DbOp) : Act Unit :=
  match req.fault table op with
  | some error => throw error
  | none => pure ()

/-- A value of a library call that has thrown when it is absent. -/
def orThrow {α : Type} (error : String) : Option α → Act α
  | some a => pure a
  | none => throw error

/-- Using a name that no scope declares, which a module in strict mode may not do. -/
def undeclared {α : Type} (name : String) : Act α :=
  throw ("ReferenceError: " ++ name ++ " is not defined")

/-- The condition `{ column: value }` of a query. -/
def whereColumn (p : Platform) (value : Value) : Act (Value → Bool) :=
  orThrow "Error: WHERE parameter has an invalid value" (p.whereEq value)

/-- Reading a property, which throws on null and undefined. -/
def prop (key : String) (v : Value) : Act Value :=
  match v.prop key with
  | .ok value => pure value
  | .error error => throw error

section Specs

variable {α : Type} {c : Ctx} {ok : Unit → Ctx → Prop} {err : String → Ctx → Prop}

theorem ensures_flash {key : String} {msg : Value} :
    Ensures (flash key msg) c ok err ↔ ok () (c.flashed key msg) := Iff.rfl

theorem ensures_render {view : String} {locals : List (String × Value)} :
    Ensures (render view locals) c ok err ↔ ok () (c.answered (.render 200 view locals)) := Iff.rfl

theorem ensures_redirect {url : String} :
    Ensures (redirect url) c ok err ↔ ok () (c.answered (.redirect 302 url)) := Iff.rfl

theorem ensures_setSession {f : Session → Session} :
    Ensures (setSession f) c ok err ↔ ok () { c with session := f c.session } := Iff.rfl

theorem ensures_setServer {f : Server → Server} :
    Ensures (setServer f) c ok err ↔ ok () { c with server := f c.server } := Iff.rfl

theorem ensures_undeclared {name : String} {ok : α → Ctx → Prop} :
    Ensures (undeclared name : Act α) c ok err ↔
      err ("ReferenceError: " ++ name ++ " is not defined") c := Iff.rfl

theorem ensures_db {req : Request} {table : TableName} {op : DbOp} :
    Ensures (db req table op) c ok err ↔
      (∀ e, req.fault table op = some e → err e c) ∧ (req.fault table op = none → ok () c) := by
  unfold db
  cases req.fault table op with
  | some e => simp [ensures_throw]
  | none => simp [ensures_pure]

theorem ensures_orThrow {e : String} {o : Option α} {ok : α → Ctx → Prop} :
    Ensures (orThrow e o) c ok err ↔ (∀ a, o = some a → ok a c) ∧ (o = none → err e c) := by
  cases o with
  | some a => simp [orThrow, ensures_pure]
  | none => simp [orThrow, ensures_throw]

theorem ensures_whereColumn {p : Platform} {v : Value} {ok : (Value → Bool) → Ctx → Prop} :
    Ensures (whereColumn p v) c ok err ↔ (∀ cond, p.whereEq v = some cond → ok cond c) ∧
      (p.whereEq v = none → err "Error: WHERE parameter has an invalid value" c) :=
  ensures_orThrow

theorem ensures_prop {key : String} {v : Value} {ok : Value → Ctx → Prop} :
    Ensures (prop key v) c ok err ↔
      (∀ a, v.prop key = .ok a → ok a c) ∧ (∀ e, v.prop key = .error e → err e c) := by
  unfold prop
  cases v.prop key with
  | ok a => simp [ensures_pure]
  | error e => simp [ensures_throw]

end Specs

/-- The part of a session that decides what its requests may do. -/
def Session.core (s : Session) : Session := { s with agent := .undefined, flash := [] }

/-- A context without what it shows to the client. Middlewares and pages leave this alone. -/
def Ctx.core (c : Ctx) : Ctx :=
  { c with session := c.session.core, locals := [], responses := [], pushed := [] }

@[simp] theorem Ctx.core_flashed (key : String) (msg : Value) (c : Ctx) :
    (c.flashed key msg).core = c.core := rfl

@[simp] theorem Ctx.core_answered (r : Response) (c : Ctx) : (c.answered r).core = c.core := rfl

theorem Ctx.server_of_core {c c' : Ctx} (same : c'.core = c.core) : c'.server = c.server := by
  have parts := congrArg Ctx.server same
  exact parts

theorem Ctx.ran_of_core {c c' : Ctx} (same : c'.core = c.core) : c'.ran = c.ran := by
  have parts := congrArg Ctx.ran same
  exact parts

theorem Ctx.session_of_core {c c' : Ctx} (same : c'.core = c.core) :
    c'.session.core = c.session.core := by
  have parts := congrArg Ctx.session same
  exact parts

theorem Ctx.core_session {c c' : Ctx} (same : c'.core = c.core) {s s' : Session}
    (sessions : s'.core = s.core) :
    ({ c' with session := s' } : Ctx).core = ({ c with session := s } : Ctx).core := by
  have others : ({ c'.core with session := s'.core } : Ctx) = { c.core with session := s.core } := by
    rw [same, sessions]
  exact others

theorem Session.userId_of_core {s s' : Session} (same : s'.core = s.core) :
    s'.userId = s.userId := by
  have parts := congrArg Session.userId same
  exact parts

section Views

theorem keeps_flash (key : String) (msg : Value) : Keeps (Same Ctx.core) (flash key msg) :=
  fun _ => rfl

theorem keeps_respond (r : Response) : Keeps (Same Ctx.core) (respond r) := fun _ => rfl

theorem keeps_render (name : String) (locals : List (String × Value)) :
    Keeps (Same Ctx.core) (render name locals) := fun _ => rfl

theorem keeps_redirect (url : String) : Keeps (Same Ctx.core) (redirect url) := fun _ => rfl

variable (R : Ctx → Ctx → Prop) [Std.Refl R]

theorem keeps_db (req : Request) (table : TableName) (op : DbOp) : Keeps R (db req table op) := by
  unfold db
  split
  · exact keeps_throw _
  · exact keeps_pure _

theorem keeps_orThrow {α : Type} (e : String) (o : Option α) : Keeps R (orThrow e o) := by
  cases o with
  | some a => exact keeps_pure a
  | none => exact keeps_throw e

theorem keeps_whereColumn (p : Platform) (v : Value) : Keeps R (whereColumn p v) :=
  keeps_orThrow R _ _

theorem keeps_prop (key : String) (v : Value) : Keeps R (prop key v) := by
  unfold prop
  split
  · exact keeps_pure _
  · exact keeps_throw _

theorem keeps_undeclared {α : Type} (name : String) : Keeps R (undeclared name : Act α) :=
  keeps_throw _

end Views

end ChurchManagement
