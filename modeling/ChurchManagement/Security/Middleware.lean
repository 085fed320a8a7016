import ChurchManagement.Js.Counter
import ChurchManagement.Security.AgentService

namespace ChurchManagement.Middleware

open Js Effect Sequelize

/-- The switch of `middleCorrect`, without a case for the validation. Its cases fall through. -/
def skipSwitch (middleware : String) (isUrl reqGet skipAuthorize skipLogin : Bool) : Bool :=
  let track := skipLogin && reqGet
  let authorize := skipAuthorize || track
  let authenticate := (isUrl && reqGet) || authorize
  match middleware with
  | "authenticate" => authenticate
  | "authorize" => authorize
  | "track" => track
  | _ => false

def middleCorrect (middleware : String) (req : Request) : Act Bool := do
  let userId := (← get).session.userId.orElse (.str "id")
  let url := req.url
  let isUrl := decide (url = "/" ∨ url = "/login" ∨ url = "/register")
  let skipAuthorize ←
    if isUrl ∨ url = "/memberIndex" then pure true
    else do
      let text ← orThrow "TypeError: Cannot convert object to primitive value" userId.toText
      pure (decide (url = "/update-user/" ++ text))
  return skipSwitch middleware isUrl (req.method = "GET") skipAuthorize (url = "/login")

/-- `record.FAILEDCOUNT`; a column of integers that is never null reads back as a number. -/
def failedCount (record : UserAgent) : Js.Num :=
  match record.get .FAILEDCOUNT with
  | .num n => n
  | _ => .zero

/-- The four comparisons of a request with the record. The last one reads an attribute that the
model does not have, whose value is undefined. -/
def mismatch (session : Session) (req : Request) (record : UserAgent) : Bool :=
  !session.role.strictEq (record.get .ROLE) ||
    !session.lastActivity.strictEq (record.get .LASTACTIVITY) ||
    !(Value.str req.ip).strictEq (record.get .IPADDRESS) ||
    !req.userAgent.strictEq .undefined

section

variable (p : Platform)

/-- The answer to a client that has failed too often. -/
def banned : Act Flow := do
  flash "error_msg" (.str
    "Unauthorized Your Request has been banned please contact our customer service .")
  redirect "/access-denied"
  ended

/-- A new record under an identifier drawn for it, which becomes the session's. -/
def createRecord (req : Request) (failedCount : Js.Num) : Act Unit := do
  let id := Value.str req.v4
  db req .UserAgent .create
  let row ← orThrow "SequelizeValidationError" (create p.toOrm (req.rowId 0)
    [("USERID", id), ("IPADDRESS", .str req.ip), ("USERAGENT", req.userAgent),
      ("FAILEDCOUNT", .num failedCount), ("ROLE", .null), ("LASTACTIVITY", .null)])
  let table ← orThrow "SequelizeUniqueConstraintError" ((← get).server.userAgents.insert row)
  setServer fun s => { s with userAgents := table }
  setSession fun s => { s with userId := id, role := .null, lastActivity := .null }

/-- The query for the record of a client whose session has no identifier. -/
def guestRecord (req : Request) : Act (Option UserAgent) := do
  db req .UserAgent .findOne
  let ipAddress ← whereColumn p (.str req.ip)
  let userAgent ← whereColumn p req.userAgent
  let role ← whereColumn p .null
  let isActive ← whereColumn p (.bool false)
  return findOne p.toOrm (fun row => ipAddress (row.get UserAgentColumn.IPADDRESS) &&
    userAgent (row.get UserAgentColumn.USERAGENT) && role (row.get UserAgentColumn.ROLE) &&
    isActive (row.get UserAgentColumn.ISACTIVE)) (← get).server.userAgents.rows

def guestActivity (req : Request) (found : Option UserAgent) : Act Flow :=
  match found with
  | some userAgentRecord =>
    if (failedCount userAgentRecord).atLeast 10 then banned
    else do
      setSession fun s => { s with userId := userAgentRecord.get .USERID }
      nextOrLogin req
  | none => do
    createRecord p req .zero
    nextOrLogin req

/-- The query for the record of the session's identifier. -/
def sessionRecord (req : Request) (userId : Value) : Act (Option UserAgent) := do
  db req .UserAgent .findOne
  let cond ← whereColumn p userId
  return findOne p.toOrm (fun row => cond (row.get UserAgentColumn.USERID))
    (← get).server.userAgents.rows

/-- A request that differs from the record: the count that was read is raised and written back. -/
def failedAttempt (req : Request) (userAgentRecord : UserAgent) : Act Flow := do
  let fails := (failedCount userAgentRecord).increment
  db req .UserAgent .update
  let row ← orThrow "SequelizeValidationError"
    (userAgentRecord.update p.toOrm [("FAILEDCOUNT", .num fails)])
  setServer fun s => { s with userAgents := s.userAgents.save row }
  flash "error_msg" (.str ("Unauthorized Please log in properly to view this resource. tried " ++
    fails.toText ++ " of 10"))
  nextOrLogin req

def sessionActivity (req : Request) (session : Session) (found : Option UserAgent) : Act Flow :=
  match found with
  | some userAgentRecord =>
    if (failedCount userAgentRecord).atLeast 10 then banned
    else if mismatch session req userAgentRecord then failedAttempt p req userAgentRecord
    else next
  | none => do
    createRecord p req (.ofNat 1)
    flash "error_msg"
      (.str "Unauthorized Please log in properly to view this resource. tried 1 of 10")
    nextOrLogin req

/-- The middleware. Its catch lets the request go on, whatever was thrown. -/
def trackUserActivity (req : Request) : Act Flow := do
  let nt ← middleCorrect "authenticate" req
  if nt then next
  else
    attempt (do
      let session := (← get).session
      if !session.userId.truthy then do
        let userAgentRecord ← guestRecord p req
        guestActivity p req userAgentRecord
      else do
        let userAgentRecord ← sessionRecord p req session.userId
        sessionActivity p req session userAgentRecord) fun _ => next

end

end ChurchManagement.Middleware
