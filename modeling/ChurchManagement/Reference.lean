import Mathlib.Data.List.TakeWhile
import ChurchManagement.Run
import ChurchManagement.Reached

namespace ChurchManagement.Reference

open Js Express Sequelize

/-- The value of the first pair with the key in a query. -/
def queryValue (key : List Char) : List (List Char) → Value
  | [] => .undefined
  | pair :: rest =>
    match splitChar '=' pair with
    | name :: value =>
      if name = key then
        let raw := String.ofList (List.intercalate ['='] value)
        .str ((decodeURIComponent raw).getD raw)
      else queryValue key rest
    | [] => queryValue key rest

def query (url key : String) : Value :=
  match url.toList.dropWhile (· != '?') with
  | [] => .undefined
  | _ :: text => queryValue key.toList (splitChar '&' text)

theorem agent_url (path token : String) : (path ++ "?agent=" ++ token).toList =
    path.toList ++ '?' :: ("agent".toList ++ '=' :: token.toList) := by
  rw [String.toList_append, String.toList_append, List.append_assoc]
  rfl

/-- A query with the agent alone: what follows the sign is decoded where it can be. -/
theorem query_agent {url : String} {path token : List Char} (plain : '?' ∉ path)
    (isUrl : url.toList = path ++ '?' :: ("agent".toList ++ '=' :: token))
    (alone : '&' ∉ token) (whole : '=' ∉ token) :
    query url "agent" =
      .str ((decodeURIComponent (String.ofList token)).getD (String.ofList token)) := by
  have kept : ∀ c ∈ path, (c != '?') = true := by
    intro c member
    rw [bne_iff_ne]
    rintro rfl
    exact plain member
  have single : '&' ∉ "agent".toList ++ '=' :: token := by
    intro member
    rcases List.mem_append.mp member with inKey | inValue
    · exact absurd inKey (by decide)
    · rcases List.mem_cons.mp inValue with isEquals | inToken
      · exact absurd isEquals (by decide)
      · exact alone inToken
  rw [query, isUrl, List.dropWhile_append_of_pos kept, List.dropWhile_cons_of_neg (by decide)]
  dsimp only
  rw [splitChar_plain single, queryValue, splitChar_append (by decide), splitChar_plain whole]
  simp only [if_true]
  rw [List.intercalate_singleton]

/-- An encoded value is decoded once. -/
theorem query_encoded {path : String} (plain : '?' ∉ path.toList) (s : String) :
    query (path ++ "?agent=" ++ encodeURIComponent s) "agent" = .str s := by
  have outside {c : Char} (special : c ≠ '%' ∧ uriUnreserved c = false) :
      c ∉ (encodeURIComponent s).toList := by
    intro member
    rcases encodeURIComponent_chars member with isPercent | unreserved
    · exact special.1 isPercent
    · rw [special.2] at unreserved
      cases unreserved
  rw [query_agent plain (agent_url path _) (outside (by decide)) (outside (by decide)), String.ofList_toList,
    decodeURIComponent_encode, Option.getD_some]

/-- A value written without escapes is read as it stands. -/
theorem query_plain {url : String} {path token : List Char} (plain : '?' ∉ path)
    (isUrl : url.toList = path ++ '?' :: ("agent".toList ++ '=' :: token))
    (alone : '&' ∉ token) (whole : '=' ∉ token) (unescaped : '%' ∉ token) :
    query url "agent" = .str (String.ofList token) := by
  have decoded : decodeURIComponent (String.ofList token) = some (String.ofList token) :=
    decodeURIComponent_plain (by rwa [String.toList_ofList])
  rw [query_agent plain isUrl alone whole, decoded, Option.getD_some]

def pathname (url : String) : String :=
  String.ofList (url.toList.takeWhile fun c => c != '?' && c != '#')

theorem plainChar_kept {c : Char} (plain : plainChar c = true) : (c != '?' && c != '#') = true := by
  by_contra other
  have special : c = '?' ∨ c = '#' := by
    by_cases question : c = '?'
    · exact .inl question
    · exact .inr (by simpa [question] using other)
  rcases special with rfl | rfl <;> revert plain <;> decide

/-- URLs whose query has no nested keys. -/
def urls : Urls where
  query := query
  query_bare url key bare := by
    have none : url.toList.dropWhile (· != '?') = [] := by
      rw [List.dropWhile_eq_nil_iff]
      intro c member
      have other : c ≠ '?' := fun same => bare (same ▸ member)
      simpa using other
    simp only [query, none]
  pathname := pathname
  pathname_plain url plain := by
    have all : url.toList.takeWhile (fun c => c != '?' && c != '#') = url.toList := by
      rw [List.takeWhile_eq_self_iff]
      exact fun c member => plainChar_kept (List.all_eq_true.mp plain c member)
    rw [pathname, all, String.ofList_toList]
  pathname_start start rest plain _ _ _ := by
    rw [pathname, String.toList_ofList, String.toList_append, List.takeWhile_append_of_pos]
    · exact List.prefix_append _ _
    · exact fun c member => plainChar_kept (List.all_eq_true.mp plain c member)

/-- A text of the form `YYYY-MM-DD` becomes a date where one is asked for. -/
def convert (schema : Joi.Schema) (entry : String × Value) : String × Value :=
  match schema.find? (fun rule => rule.1 == entry.1), entry.2 with
  | some (_, rule), .str s =>
    if rule.kind = .date ∧ s.length = 10 then (entry.1, .date (s ++ "T00:00:00.000Z")) else entry
  | _, _ => entry

/-- The complaint about a value, if there is one. -/
def complaint (rule : Joi.Rule) (key : String) : Value → Option String
  | .undefined => if rule.required then some ("\"" ++ key ++ "\" is required") else none
  | .str s =>
    if rule.kind ≠ .string then some ("\"" ++ key ++ "\" must be a valid date")
    else if s = "" ∧ rule.allowEmpty = false then
      some ("\"" ++ key ++ "\" is not allowed to be empty")
    else if rule.valid.any fun texts => !texts.contains s then
      some ("\"" ++ key ++ "\" must be one of the allowed values")
    else if rule.email && !s.toList.contains '@' then
      some ("\"" ++ key ++ "\" must be a valid email")
    else none
  | .date _ => if rule.kind = .date then none else some ("\"" ++ key ++ "\" must be a string")
  | _ => some ("\"" ++ key ++ "\" must be a string")

def complaints (schema : Joi.Schema) (fields : List (String × Value)) : List String :=
  (schema.filterMap fun entry => complaint entry.2 entry.1 (Value.field entry.1 fields)) ++
    fields.filterMap fun entry =>
      if entry.1 ∈ schema.map Prod.fst then none else some ("\"" ++ entry.1 ++ "\" is not allowed")

def validate (schema : Joi.Schema) : Value → Joi.Validation
  | .undefined => ⟨none, .undefined⟩
  | .obj fields =>
    match complaints schema (fields.map (convert schema)) with
    | [] => ⟨none, .obj (fields.map (convert schema))⟩
    | found => ⟨some found, .obj fields⟩
  | body => ⟨some ["\"value\" must be of type object"], body⟩

theorem accepts_of_complaint {rule : Joi.Rule} {key : String} {v : Value}
    (none : complaint rule key v = none) : rule.Accepts v := by
  cases v with
  | undefined => simpa [complaint, Joi.Rule.Accepts] using none
  | str s =>
    simp only [complaint] at none
    split at none
    · cases none
    · rename_i kind
      split at none
      · cases none
      · rename_i filled
        split at none
        · cases none
        · rename_i listed
          refine ⟨by simpa using kind, fun empty => by simpa [empty] using filled,
            fun texts valid => by simpa [valid] using listed⟩
  | date iso => simpa [complaint, Joi.Rule.Accepts] using none
  | null | bool _ | num _ | arr _ | obj _ => simp [complaint] at none

theorem accepts_of_complaints {schema : Joi.Schema} {fields : List (String × Value)}
    (none : complaints schema fields = []) : schema.Accepts (.obj fields) := by
  obtain ⟨rules, keys⟩ := List.append_eq_nil_iff.mp none
  rw [List.filterMap_eq_nil_iff] at rules keys
  refine ⟨fields, rfl, fun entry member => ?_, fun entry member =>
    accepts_of_complaint (rules entry member)⟩
  by_contra unknown
  simpa [unknown] using keys entry member

/-- The checks that the schemas of the routes use. -/
def validator : Joi.Validator where
  validate := validate
  validate_undefined _ := rfl
  validate_ok schema body present ok := by
    cases body with
    | undefined => exact absurd rfl present
    | obj fields =>
      simp only [validate] at ok ⊢
      split at ok
      · rename_i none
        exact accepts_of_complaints none
      · cases ok
    | null | bool _ | num _ | str _ | date _ | arr _ => simp [validate] at ok
  validate_array _ _ := by simp [validate]

/-- Values of the type a column is declared with; anything else is rejected. -/
def store : DataType → Value → Option Value
  | _, .null => some .null
  | .uuid, .str s | .string, .str s | .text, .str s | .time, .str s | .dateonly, .str s => some (.str s)
  | .dateonly, .date iso => some (.str (String.ofList (iso.toList.take 10)))
  | .date, .date iso => some (.date iso)
  | .integer, .num n => some (.num n)
  | .boolean, .bool b => some (.bool b)
  | .json, value => some value
  | _, _ => none

def whereEq : Value → Option (Value → Bool)
  | .undefined | .obj _ => none
  | .arr items => some fun cell => items.contains cell
  | value => some fun cell => decide (cell = value)

/-- A database that returns the row inserted first. -/
def orm : Orm where
  store := store
  store_null type := by cases type <;> rfl
  store_string _ := rfl
  store_text _ := rfl
  whereEq := whereEq
  whereEq_str _ _ := rfl
  whereEq_num n cond s built := by
    cases Option.some.inj built
    simp
  whereEq_undefined := rfl
  pick rows := rows.head?
  pick_mem found := List.mem_of_head? found
  pick_none none := List.head?_eq_none_iff.mp none

/-- Packages that behave as the real ones do on plain requests. -/
def platform : Platform where
  toUrls := urls
  toValidator := validator
  toOrm := orm
  toLowerCase s := String.ofList (s.toList.map Char.toLower)
  syntaxError _ := "SyntaxError: Unexpected token in JSON"
  now := [("options", .obj []), ("_length", .str "")]
  nearby _ _ := false

def keys : Secrets := ⟨"join-key", "worker-key", "admin-key"⟩

section Sample

def adaId : String := "7c9e6679-7425-40de-944b-e07fc1f90ae7"

/-- A member of the church. -/
def ada : User where
  id := adaId
  get
    | .DATE => .str "2024-01-07"
    | .NAME => .str "Ada Obi"
    | .SEX => .str "F"
    | .CAT => .str "NC"
    | .PHONENUMBER => .str "08031234567"
    | _ => .null
  holds col := by cases col <;> decide

/-- A server that has just been started with one member. -/
def start : Server where
  users := ⟨[ada], by simp⟩
  activities := ⟨[], by simp⟩
  userAgents := ⟨[], by simp⟩
  subscriptions := ⟨[], by simp⟩
  allowedID := []
  sessions _ := none

/-- An activity that the member has recorded before the start. -/
def attended : Activity where
  id := "3f2b8d90-1c4e-4b7a-9d65-0e8f7a6c5b41"
  get
    | .USERID => .str adaId
    | .ACTIVITYTYPE => .str "Attendance"
    | .DATE => .str "2024-01-07"
    | .TIME => .str "09:30:00"
    | .RESPONSE => .str "present"
    | .PERFORMER => .str "Ada Obi"
  holds col := by cases col <;> decide

/-- A server that has just been started with the member and the activity. -/
def startAttended : Server := { start with activities := ⟨[attended], by simp⟩ }

theorem start_started : start.Started := ⟨rfl, fun _ => rfl⟩

theorem ada_mem : ada ∈ start.users.rows := List.mem_singleton.mpr rfl

/-- A login of the member, from a page that was given an agent without data. -/
def loginWith (authToken : String) : Request where
  method := "POST"
  url := "/login?agent=\x7b\"data\":\x7b\x7d\x7d"
  sid := "s1"
  body := .obj [("firstName", .str "ada"), ("phoneNumber", .str "08031234567"),
    ("authToken", .str authToken)]
  v4 := "5b0f8c1e-6d0a-4a57-9e53-1f0c5d7a2b11"
  rowId _ := "e3b9a6c2-0c77-4d42-8f5e-92d1c0a4b7f3"

/-- A request without a body. -/
def request (sid method url : String) : Request where
  method := method
  url := url
  sid := sid
  v4 := "0d8a1c7e-4b1f-4f0e-8c66-3a5b9e2d7c40"
  rowId _ := "a94d3e5f-2b6c-4e18-b7a0-6c1f8d9e0b25"

/-- A context in which the handlers find the member and a session with the identifier. -/
def context (userId : String) : Ctx := { server := start, session := { userId := .str userId } }

/-- An update of the member's row with the body. -/
def editing (body : Value) : Request :=
  { request "s1" "POST" ("/update-user/" ++ adaId) with body := body }

/-- A body that the check of an update accepts. -/
def acceptedBody : Value :=
  .obj [("DATE", .str "2024-02-04"), ("NAME", .str "Ada Eze"), ("CAT", .str "FT"),
    ("PHONENUMBER", .str "08031234567")]

/-- A request with an agent of the member that claims the role. -/
def visit (sid method path role : String) : Request :=
  request sid method (path ++ "?agent=\x7b\"data\":\x7b\"userId\":\"" ++ adaId ++
    "\"\x7d,\"isAuthenticated\":true,\"role\":\"" ++ role ++ "\"\x7d")

/-- The server after a login. -/
def loggedIn (authToken : String) : Server := serve platform keys (loginWith authToken) start

theorem login_run (authToken : String) :
    Runs platform keys start [⟨loginWith authToken, start⟩] (loggedIn authToken) :=
  .next (loginWith authToken) .start

/-- The member is allowed and identified after a login with any of the three tokens. -/
theorem loggedIn_state (authToken : String) (listed : authToken ∈ ["", "worker-key", "admin-key"]) :
    (loggedIn authToken).allowedID = [adaId] ∧
      ((loggedIn authToken).sessions "s1").map Session.userId = some (.str adaId) := by
  have state : ∀ authToken ∈ ["", "worker-key", "admin-key"],
      (loggedIn authToken).allowedID = [adaId] ∧
      ((loggedIn authToken).sessions "s1").map Session.userId = some (.str adaId) := by
    decide +kernel
  exact state authToken listed

theorem login_logsIn (authToken : String) (listed : authToken ∈ ["", "worker-key", "admin-key"]) :
    ∃ user role, LogsIn platform keys ⟨loginWith authToken, start⟩ user role ∧
      user.id = adaId := by
  have allowed := (loggedIn_state authToken listed).1
  rcases served_allowedID platform keys (loginWith authToken) start with
    same | ⟨user, role, login, added⟩
  · rw [loggedIn, serve_allowedID, same] at allowed
    cases allowed
  · rw [loggedIn, serve_allowedID, added] at allowed
    exact ⟨user, role, login, List.head_eq_of_cons_eq allowed⟩

end Sample

section Visits

variable (sid method : String) {path role : String}

/-- The text of the member's agent. -/
def agentText (role : String) : List Char :=
  "\x7b\"data\":\x7b\"userId\":\"".toList ++ adaId.toList ++
    "\"\x7d,\"isAuthenticated\":true,\"role\":\"".toList ++ role.toList ++ "\"\x7d".toList

theorem visit_url (path role : String) : (visit sid method path role).url.toList =
    path.toList ++ '?' :: ("agent=".toList ++ agentText role) := by
  have head : "?agent=\x7b\"data\":\x7b\"userId\":\"".toList =
      '?' :: ("agent=".toList ++ "\x7b\"data\":\x7b\"userId\":\"".toList) := by decide +kernel
  simp only [visit, request, String.toList_append, List.append_assoc]
  rw [head]
  unfold agentText
  rw [List.append_assoc, List.append_assoc, List.append_assoc, List.cons_append, List.append_assoc]

theorem pathname_query {url : String} {rest : List Char} (plain : path.toList.all plainChar = true)
    (isUrl : url.toList = path.toList ++ '?' :: rest) : platform.pathname url = path := by
  have kept : ∀ c ∈ path.toList, (c != '?' && c != '#') = true := fun c member =>
    plainChar_kept (List.all_eq_true.mp plain c member)
  rw [show platform.pathname = pathname from rfl, pathname, isUrl,
    List.takeWhile_append_of_pos kept, List.takeWhile_cons_of_neg (by decide), List.append_nil,
    String.ofList_toList]

theorem pathname_visit (plain : path.toList.all plainChar = true) :
    platform.pathname (visit sid method path role).url = path :=
  pathname_query plain (visit_url sid method path role)

/-- The agents that visits are made with: text without escapes that parses. -/
theorem agentText_parses (listed : role ∈ ["member", "admin"]) :
    '%' ∉ agentText role ∧ Json.parse (String.ofList (agentText role)) =
      some (.obj [("data", .obj [("userId", .str adaId)]), ("isAuthenticated", .bool true),
        ("role", .str role)]) := by
  have parsed : ∀ role ∈ ["member", "admin"], '%' ∉ agentText role ∧
      Json.parseValue (2 * (agentText role).length + 2) (agentText role) =
        some (.obj [("data", .obj [("userId", .str adaId)]), ("isAuthenticated", .bool true),
          ("role", .str role)], []) := by decide +kernel
  refine ⟨(parsed role listed).1, ?_⟩
  rw [Json.parse, String.toList_ofList, (parsed role listed).2]
  rfl

theorem query_visit (plain : path.toList.all plainChar = true) (listed : role ∈ ["member", "admin"]) :
    platform.query (visit sid method path role).url "agent" =
      .str (String.ofList (agentText role)) := by
  have kept : '?' ∉ path.toList := fun member =>
    absurd (List.all_eq_true.mp plain '?' member) (by decide)
  have single : ∀ role ∈ ["member", "admin"], '&' ∉ agentText role ∧ '=' ∉ agentText role := by
    decide +kernel
  exact query_plain kept (visit_url sid method path role) (single role listed).1
    (single role listed).2 (agentText_parses listed).1

/-- What the agent of a visit says. -/
theorem presented_visit (plain : path.toList.all plainChar = true)
    (listed : role ∈ ["member", "admin"]) : presented platform (visit sid method path role) =
      some ⟨.obj [("userId", .str adaId)], .bool true, .str role, .undefined⟩ :=
  presented_written platform (query_visit sid method plain listed) (agentText_parses listed).1
    (agentText_parses listed).2

theorem cleared_visit {roles : List String} {s : Server} (plain : path.toList.all plainChar = true)
    (known : role ∈ ["member", "admin"]) (listed : role ∈ roles) (allowed : adaId ∈ s.allowedID) :
    Cleared platform roles (visit sid method path role) s :=
  ⟨_, adaId, role, presented_visit sid method plain known, rfl, rfl, listed, rfl, rfl, allowed⟩

/-- A visit identifies its session, unless the session has an identifier already. -/
theorem readable_visit {session : Session} (plain : path.toList.all plainChar = true)
    (known : role ∈ ["member", "admin"])
    (text : session.userId = .undefined ∨ ∃ id, session.userId = .str id) :
    Readable (tracked platform (visit sid method path role) session) := by
  simp only [tracked, presented_visit sid method plain known]
  rcases text with absent | ⟨id, given⟩
  · rw [absent]
    rfl
  · split
    · simp only [Readable, given, Value.orElse]
      split <;> rfl
    · rfl

/-- A path without special characters that leads to the handler. -/
def Leads (method path : String) (handler : Handler) (params : List (String × String)) : Prop :=
  path.toList.all plainChar = true ∧
    dispatch method path handler.router.routes = .found handler params ∧
    ∀ r ∈ handler.router.before, dispatch method path r.routes = .missed

instance (method path : String) (handler : Handler) (params : List (String × String)) :
    Decidable (Leads method path handler params) :=
  inferInstanceAs (Decidable (_ ∧ _ ∧ _))

/-- A visit of the member reaches the handler that its path leads to, if she is allowed where
there are gates. -/
theorem ran_visit {sid method : String} {handler : Handler} {params : List (String × String)}
    {s : Server} {body : Value} (leads : Leads method path handler params) (known : role ∈ ["member", "admin"])
    (listed : ∀ roles ∈ handler.router.gates, role ∈ roles ∧ adaId ∈ s.allowedID)
    (text : ((s.sessions sid).getD {}).userId = .undefined ∨
      ∃ id, ((s.sessions sid).getD {}).userId = .str id) :
    (served platform keys { visit sid method path role with body := body } s).ran = some handler := by
  obtain ⟨plain, found, missed⟩ := leads
  have routed : Routed platform { visit sid method path role with body := body } handler params := by
    refine ⟨?_, fun r before => ?_⟩
    · rw [Addressed, show platform.pathname _ = _ from pathname_visit sid method plain]
      exact found
    · rw [show platform.pathname _ = _ from pathname_visit sid method plain]
      exact missed r before
  exact ran_of_cleared keys routed (presented_visit sid method plain known) rfl
    (fun roles gate => cleared_visit sid method plain known (listed roles gate).1 (listed roles gate).2)
    (readable_visit sid method plain known text)

theorem ran_visit_loggedIn {method authToken : String} {handler : Handler}
    {params : List (String × String)} {body : Value}
    (token : authToken ∈ ["", "worker-key", "admin-key"]) (leads : Leads method path handler params) (known : role ∈ ["member", "admin"])
    (listed : ∀ roles ∈ handler.router.gates, role ∈ roles) :
    (served platform keys { visit "s1" method path role with body := body }
      (loggedIn authToken)).ran = some handler := by
  obtain ⟨allowed, identified⟩ := loggedIn_state authToken token
  obtain ⟨session, stored, id⟩ := Option.map_eq_some_iff.mp identified
  refine ran_visit leads known (fun roles gate => ⟨listed roles gate, ?_⟩) ?_
  · rw [allowed]
    exact List.mem_singleton.mpr rfl
  · rw [stored]
    exact .inr ⟨adaId, id⟩

end Visits

end ChurchManagement.Reference
