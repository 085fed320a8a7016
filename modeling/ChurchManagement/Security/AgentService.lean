import ChurchManagement.Js.Json
import ChurchManagement.Server

namespace ChurchManagement

open Js Effect Sequelize

/-- The fields of the class `Agent`. -/
structure Agent where
  data : Value
  isAuthenticated : Value
  role : Value
  lastActivity : Value
  deriving DecidableEq

/-- The plain object of an agent, without the fields that are undefined. -/
def Agent.toJSON (agent : Agent) : Value :=
  .obj ([("data", agent.data), ("isAuthenticated", agent.isAuthenticated), ("role", agent.role),
    ("lastActivity", agent.lastActivity)].filter fun entry => entry.2 != .undefined)

def Agent.fromJSON (json : Value) : Except String Agent := do
  return {
    data := ← json.prop "data"
    isAuthenticated := ← json.prop "isAuthenticated"
    role := ← json.prop "role"
    lastActivity := ← json.prop "lastActivity" }

/-- The `data` that `trackUserActivity` and the login handler put into an agent. -/
def agentDataOf (userId : Value) (req : Request) : Value :=
  .obj [("userId", userId), ("ipAddress", .str req.ip), ("userAgent", req.userAgent)]

def redirector (url method : String) : Bool :=
  let reqGet := method = "GET"
  let isUrl := url = "/" ∨ url = "/login" ∨ url = "/register"
  isUrl ∧ reqGet

section

variable (p : Platform)

/-- The switch of `middleCorrect`. Its cases fall through, so each name is granted its own
condition and those of the names after it. -/
def skipSwitch (middleware : String) (isUrl reqGet skipAuthorize skipLogin : Bool) : Bool :=
  let track := skipLogin && reqGet
  let authorize := skipAuthorize || track
  let validate := isUrl || authorize
  let authenticate := (isUrl && reqGet) || validate
  match middleware with
  | "authenticate" => authenticate
  | "validate" => validate
  | "authorize" => authorize
  | "track" => track
  | _ => false

/-- The skip list shared by the middlewares. -/
def middleCorrect (middleware : String) (req : Request) : Act Bool := do
  let userId := (← get).session.userId.orElse (.str "id")
  let url := req.url
  let isUrl := decide (url = "/" ∨ url = "/login" ∨ url = "/register")
  -- the template literal is built only when the comparisons before it have failed
  let skipAuthorize ←
    if isUrl ∨ url = "/memberIndex" then pure true
    else do
      let text ← orThrow "TypeError: Cannot convert object to primitive value" userId.toText
      pure (decide (url = "/update-user/" ++ text))
  return skipSwitch middleware isUrl (req.method = "GET") skipAuthorize (url = "/login")

/-- `Agent.fromJSON(JSON.parse(decodeURIComponent(value)))` with the exception it may throw. -/
def decodeAgent (value : Value) : Except String Agent :=
  match value.toText with
  | none => .error "TypeError: Cannot convert object to primitive value"
  | some text =>
    match decodeURIComponent text with
    | none => .error "URIError: URI malformed"
    | some decoded =>
      match Json.parse decoded with
      | none => .error (p.syntaxError decoded)
      | some json => Agent.fromJSON json

def getAgent (req : Request) : Act (Option Agent) :=
  let userAgentRecord := p.query req.url "agent"
  if userAgentRecord.truthy then
    match decodeAgent p userAgentRecord with
    | .ok userAgent => do
      setSession fun s => { s with agent := userAgent.toJSON }
      pure (some userAgent)
    | .error error => do
      flash "error_msg" (.str ("Error parsing agent data:" ++ error))
      pure none
  else pure none

def getAgentData (data isAuthenticated role lastActivity : Value) : String :=
  encodeURIComponent (Json.stringify (Agent.toJSON ⟨data, isAuthenticated, role, lastActivity⟩))

/-- The ending shared by the middlewares: the public pages are let through, everything else
is sent back. -/
def nextOrLogin (req : Request) : Act Flow :=
  if redirector req.url req.method then next
  else do
    redirectBack req "/login"
    ended

def isAuthenticated (req : Request) : Act Flow :=
  attempt (do
    let nt ← middleCorrect "authenticate" req
    if nt then next
    else
      match ← getAgent p req with
      | none =>
        flash "error_msg" (.str "Unauthorized: No user session found.")
        redirectBack req "/"
        ended
      | some agent =>
        if !agent.data.truthy || !agent.isAuthenticated.truthy then
          flash "error_msg" (.str "Unauthorized: No user session found.")
          redirectBack req "/"
          ended
        else next)
  fun error => do
    flash "error_msg" (.str ("Internal Server Error" ++ error))
    redirectBack req "/"
    ended

def isAuthorized (roles : List String) (req : Request) : Act Flow := do
  let nt ← middleCorrect "authorize" req
  if nt then next
  else
    attempt (do
      let agent ← orThrow "TypeError: Cannot read properties of null (reading 'getData')"
        (← getAgent p req)
      if agent.data.truthy && agent.role.truthy then
        if roles.any fun role => agent.role.strictEq (.str role) then next
        else
          flash "error_msg" (.str "You do not have permission to view this resource.")
          flash "error_msg" (.str "invalid role")
          redirect "/access-denied"
          ended
      else
        flash "error_msg" (.str "no session found")
        redirect "/access-denied"
        ended) fun _ => do
      flash "error_msg" (.str "internal server error")
      nextOrLogin req

/-- The branch of `trackUserActivity` that gives the client a new, unauthenticated agent. -/
def newUserAgent (id : Value) (req : Request) : Act Unit := do
  let agent := getAgentData (agentDataOf id req) (.bool false) .null .null
  flash "agent" (.str agent)
  setSession fun s =>
    { s with agent := .str agent, userId := id, role := .null, lastActivity := .null }

def trackUserActivity (req : Request) : Act Flow :=
  attempt (do
    let userId := (← get).session.userId
    if !userId.truthy then
      match ← getAgent p req with
      | some userAgentRecord =>
        flash "agent" userAgentRecord.toJSON
        let id ← prop "userId" userAgentRecord.data
        setSession fun s => { s with userId := id, agent := userAgentRecord.toJSON }
        next
      | none =>
        newUserAgent (.str req.v4) req
        nextOrLogin req
    else
      match ← getAgent p req with
      | some userAgentRecord =>
        flash "agent" userAgentRecord.toJSON
        next
      | none =>
        newUserAgent userId req
        flash "error_msg"
          (.str "Unauthorized Please log in properly to view this resource. tried 1 of 10")
        nextOrLogin req)
  fun _ => do
    flash "error_msg" (.str "internal server error")
    nextOrLogin req

/-- `allowedID.includes(userId)`. -/
def Server.allows (s : Server) (userId : Value) : Bool :=
  s.allowedID.any fun id => userId.strictEq (.str id)

def validateAgent (req : Request) : Act Flow := do
  let nt ← middleCorrect "validate" req
  if nt then next
  else
    match ← getAgent p req with
    | none => next
    | some agent =>
      let userId ← prop "userId" agent.data
      if (← get).server.allows userId then next
      else
        db req .UserAgent .findOne
        let cond ← whereColumn p userId
        let record := findOne p.toOrm (fun row => cond (row.get UserAgentColumn.USERID))
          (← get).server.userAgents.rows
        match record with
        | none =>
          flash "error_msg"
            (.str "Unauthorized Please log in properly no record found. tried 1 of 10")
          nextOrLogin req
        | some userAgentRecord =>
          let data : Value := .obj [("userId", userId),
            ("ipAddress", userAgentRecord.get .IPADDRESS),
            ("userAgent", userAgentRecord.get .USERAGENT)]
          if !(userAgentRecord.get .ROLE).strictEq agent.role ||
              !(userAgentRecord.get .LASTACTIVITY).strictEq agent.lastActivity ||
              !data.strictEq agent.data then
            flash "error_msg"
              (.str "Unauthorized Please log in properly to view this resource. tried 1 of 10")
            nextOrLogin req
          else next

end

end ChurchManagement
