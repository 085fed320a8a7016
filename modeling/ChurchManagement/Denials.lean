import ChurchManagement.Redirects

namespace ChurchManagement

open Js Effect Express Sequelize

section Records

variable {p : Platform} {req : Request} {c : Ctx} {agent : Agent} {userId : Value}

/-- The row that `validateAgent` finds for the identifier of an agent. -/
def recordFor (p : Platform) (userAgents : List UserAgent) (userId : Value) : Option UserAgent :=
  (p.whereEq userId).bind fun cond =>
    findOne p.toOrm (fun row => cond (row.get .USERID)) userAgents

/-- The record says what the agent says. -/
structure SameAgent (record : UserAgent) (agent : Agent) : Prop where
  ROLE : record.get .ROLE = agent.role
  LASTACTIVITY : record.get .LASTACTIVITY = agent.lastActivity
  IPADDRESS : record.get .IPADDRESS = agent.data.propD "ipAddress"
  USERAGENT : record.get .USERAGENT = agent.data.propD "userAgent"

/-- The record of the agent is there and says the same. -/
def Recorded (p : Platform) (userAgents : List UserAgent) (agent : Agent) : Prop :=
  ∃ record, recordFor p userAgents (agent.data.propD "userId") = some record ∧
    SameAgent record agent

/-- The skip list is the four pages and the update URL of the session. -/
theorem not_skips {session : Session} (text : String)
    (isText : (session.userId.orElse (.str "id")).toText = some text)
    (unlisted : req.url ∉ ["/", "/login", "/register", "/memberIndex"])
    (foreign : req.url ≠ "/update-user/" ++ text) : ¬ Skips req session := by
  rintro (listed | ⟨text', built, own⟩)
  · exact unlisted listed
  · cases Option.some.inj (isText.symm.trans built)
    exact foreign own

/-- Whoever is let through off the skip list has a session that the list could be built for. -/
theorem validateAgent_readable (req : Request) (c : Ctx) :
    Ensures (validateAgent p req) c
      (fun flow _ => flow = .next → Skips req c.session ∨ Readable c.session) (fun _ _ => True) := by
  unfold validateAgent
  rw [ensures_bind]
  refine (middleCorrect_exact c (by decide)).mono ?_ (fun _ _ _ => trivial)
  rintro nt t ⟨rfl, ⟨_, skips⟩ | ⟨_, _, readable⟩⟩
  · exact ensures_of_forall _ _ (fun _ _ _ => .inl skips) (fun _ _ => trivial)
  · exact ensures_of_forall _ _ (fun _ _ _ => .inr readable) (fun _ _ => trivial)

/-- Off the skip list an agent is let through for its identifier alone. -/
theorem validateAgent_next_iff (off : ¬ Skips req c.session) (found : presented p req = some agent)
    (read : agent.data.prop "userId" = .ok userId) :
    (exec (validateAgent p req) c).1 = .ok .next ↔
      Readable c.session ∧ c.server.allows userId = true := by
  constructor
  · intro passed
    have clears := ((validateAgent_spec p req c).of_returned passed).2 rfl
    have reads := (validateAgent_readable (p := p) req c).of_returned passed rfl
    refine ⟨reads.resolve_left off, ?_⟩
    rcases clears.resolve_left off with missing | ⟨other, id, found', read', allowed⟩
    · cases found.symm.trans missing
    · cases Option.some.inj (found.symm.trans found')
      cases Except.ok.inj (read.symm.trans read')
      exact allowed
  · rintro ⟨readable, allowed⟩
    obtain ⟨flow, returned, isNext⟩ :=
      (validateAgent_passes (c := c) found read allowed readable).returns
    rw [returned, isNext]

/-- The check lets through who is allowed, and who is recorded as the agent says. -/
def DecidesByRecord (p : Platform) (req : Request) (agent : Agent) (c : Ctx) : Prop :=
  (exec (validateAgent p req) c).1 = .ok .next ↔
    c.server.allows (agent.data.propD "userId") = true ∨
      Recorded p c.server.userAgents.rows agent

/-- The record is compared as an object built for the comparison, so it is never the same and does
not help anybody. -/
theorem decides_by_record_iff (p : Platform) (req : Request) (c : Ctx) (agent : Agent)
    (fields : List (String × Value)) (off : ¬ Skips req c.session)
    (found : presented p req = some agent) (data : agent.data = .obj fields) :
    DecidesByRecord p req agent c ↔
      if c.server.allows (agent.data.propD "userId") = true then Readable c.session
      else ¬ Recorded p c.server.userAgents.rows agent := by
  have read : agent.data.prop "userId" = .ok (agent.data.propD "userId") := by
    rw [data]
    rfl
  rw [DecidesByRecord, validateAgent_next_iff off found read]
  split
  · rename_i allowed
    simp [allowed]
  · rename_i refused
    simp [refused]

open Reference in
/-- The text of an agent with all that it says about its client. -/
def describedText : List Char :=
  "\x7b\"data\":\x7b\"userId\":\"".toList ++ adaId.toList ++
    "\",\"ipAddress\":\"127.0.0.1\",\"userAgent\":\"Firefox\"\x7d,".toList ++
    "\"isAuthenticated\":true,\"role\":\"member\",\"lastActivity\":null\x7d".toList

open Reference in
/-- A visit of the member with all that an agent says about its client. -/
def describedVisit : Request :=
  { request "s1" "GET" ("/memberIndex" ++ "?agent=" ++ String.ofList describedText) with
    userAgent := .str "Firefox" }

open Reference in
def describedAgent : Agent where
  data := .obj [("userId", .str adaId), ("ipAddress", .str "127.0.0.1"), ("userAgent", .str "Firefox")]
  isAuthenticated := .bool true
  role := .str "member"
  lastActivity := .null

open Reference in
/-- The record of the member, with all that the agent of her visit says. -/
def describedRecord : UserAgent where
  id := "6f1d2c3b-4a5e-4d6c-8b7a-9e0f1a2b3c4d"
  get
    | .USERID => .str adaId
    | .IPADDRESS => .str "127.0.0.1"
    | .USERAGENT => .str "Firefox"
    | .ISACTIVE => .bool true
    | .FAILEDCOUNT => .num .zero
    | .ROLE => .str "member"
    | _ => .null
  holds col := by cases col <;> decide

open Reference in
/-- The visit where the record is there and the identifiers are allowed. -/
def describedContext (allowedID : List String) : Ctx :=
  { server := { start with userAgents := ⟨[describedRecord], by simp⟩, allowedID := allowedID },
    session := {} }

theorem describedVisit_off (allowedID : List String) :
    ¬ Skips describedVisit (describedContext allowedID).session :=
  not_skips "id" rfl (by decide +kernel) (by decide +kernel)

theorem describedText_parses : Json.parse (String.ofList describedText) =
    some (.obj [("data", describedAgent.data), ("isAuthenticated", .bool true),
      ("role", .str "member"), ("lastActivity", .null)]) := by
  have parsed : Json.parseValue (2 * describedText.length + 2) describedText =
      some (.obj [("data", describedAgent.data), ("isAuthenticated", .bool true),
        ("role", .str "member"), ("lastActivity", .null)], []) := by decide +kernel
  rw [Json.parse, String.toList_ofList, parsed]
  rfl

open Reference in
theorem describedVisit_presents : presented platform describedVisit = some describedAgent := by
  have plain : '&' ∉ describedText ∧ '=' ∉ describedText ∧ '%' ∉ describedText := by decide +kernel
  have isUrl : describedVisit.url = "/memberIndex" ++ "?agent=" ++ String.ofList describedText := rfl
  have parts : describedVisit.url.toList =
      "/memberIndex".toList ++ '?' :: ("agent".toList ++ '=' :: describedText) := by
    rw [isUrl, agent_url, String.toList_ofList (l := describedText)]
  have written : platform.query describedVisit.url "agent" = .str (String.ofList describedText) := by
    rw [show platform.query = query from rfl]
    exact query_plain (by decide) parts plain.1 plain.2.1 plain.2.2
  rw [presented_written platform written plain.2.2 describedText_parses]
  rfl

open Reference in
/-- The record says what the agent says, and the agent is not let through. -/
theorem recorded_agent_refused :
    ¬ Skips describedVisit (describedContext []).session ∧
    presented platform describedVisit = some describedAgent ∧
    ¬ DecidesByRecord platform describedVisit describedAgent (describedContext []) := by
  refine ⟨describedVisit_off [], describedVisit_presents, fun decides => ?_⟩
  have recorded : Recorded platform (describedContext []).server.userAgents.rows describedAgent :=
    ⟨describedRecord, rfl, rfl, rfl, rfl, rfl⟩
  have passed := (validateAgent_next_iff (describedVisit_off []) describedVisit_presents rfl).mp
    (decides.mpr (.inr recorded))
  cases passed.2

open Reference in
theorem allowed_agent_decided :
    DecidesByRecord platform describedVisit describedAgent (describedContext [adaId]) :=
  (decides_by_record_iff platform describedVisit (describedContext [adaId]) describedAgent _
    (describedVisit_off [adaId]) describedVisit_presents rfl).mpr (by
      rw [if_pos (by decide +kernel)]
      rfl)

end Records

section Denials

variable (p : Platform) (secrets : Secrets)

/-- The agent of the request has no data or no role, or a role that is not on the list. -/
def RoleDenied (roles : List String) (req : Request) (session : Session) : Prop :=
  ¬ Skips req session ∧ Readable session ∧ ∃ agent, presented p req = some agent ∧
    (agent.data.truthy = false ∨ agent.role.truthy = false ∨
      ∀ role ∈ roles, agent.role ≠ .str role)

/-- Such a request is sent to the page for those denied. -/
theorem isAuthorized_denies {p : Platform} {roles : List String} {req : Request} {c : Ctx}
    (denied : RoleDenied p roles req c.session) :
    Ensures (isAuthorized p roles req) c
      (fun flow t => flow = .ended ∧
        t.responses = c.responses ++ [.redirect 302 "/access-denied"]) (fun _ _ => False) := by
  obtain ⟨off, readable, agent, found, lacks⟩ := denied
  have quiet : Keeps (Same Ctx.responses) (getAgent p req) :=
    keeps_getAgent p req (fun _ _ => rfl) fun _ _ => rfl
  unfold isAuthorized
  rw [ensures_bind]
  refine (middleCorrect_exact c (by decide)).mono ?_ ?_
  · rintro nt t ⟨rfl, ⟨_, skips⟩ | ⟨rfl, _⟩⟩
    · exact absurd skips off
    · simp only [Bool.false_eq_true, if_false]
      rw [ensures_attempt, ensures_bind]
      refine ((getAgent_spec p req t).and (quiet.ensures t)).mono ?_ (fun _ _ never => never.1.elim)
      rintro _ t' ⟨⟨rfl, _⟩, same⟩
      replace same : t'.responses = t.responses := same
      simp only [found, ensures_bind, ensures_orThrow, ensures_ite, Option.some.injEq, forall_eq',
        reduceCtorEq, false_implies, and_true]
      refine ⟨fun filled => ⟨fun listed => ?_, fun _ => ⟨rfl, congrArg (· ++ _) same⟩⟩,
        fun _ => ⟨rfl, congrArg (· ++ _) same⟩⟩
      obtain ⟨role, member, equal⟩ := List.any_eq_true.mp listed
      have isRole := Value.strictEq_str_iff.mp equal
      obtain ⟨data, given⟩ := Bool.and_eq_true_iff.mp filled
      rcases lacks with noData | noRole | unlisted
      · rw [data] at noData
        cases noData
      · rw [given] at noRole
        cases noRole
      · exact absurd isRole (unlisted role member)
  · rintro _ t ⟨rfl, _, unreadable⟩
    exact absurd readable unreadable

/-- The server behind a request that was ended with the context. -/
def Ctx.saved (sid : String) (t : Ctx) : Server :=
  { t.server with sessions := Function.update t.server.sessions sid (some t.session) }

/-- The request that follows the redirect; what the client sends along and what the surroundings
decide is taken from another request. -/
def denialPage (req surroundings : Request) : Request :=
  { surroundings with method := "GET", url := "/access-denied", sid := req.sid }

/-- The request runs the handler of the page for those denied, and the page is the answer. -/
def ShowsDenial (req : Request) (s : Server) : Prop :=
  (served p secrets req s).ran = some .getAccessDenied ∧
    (served p secrets req s).responses.head? = some (.render 403 "access-denied" [])

/-- The page for those denied asks for an agent itself, and the redirect has dropped it. -/
theorem denialPage_answer (req surroundings : Request) (s : Server) :
    (served p secrets (denialPage req surroundings) s).responses.head? =
      some (.redirect 302 (backTo surroundings "/login")) :=
  served_closed secrets (away_closed List.mem_cons_self)

/-- Whoever is denied for the role never sees the page that says so. -/
theorem denials_never_shown (p : Platform) (secrets : Secrets) (roles : List String)
    (req surroundings : Request) (c : Ctx) (denied : RoleDenied p roles req c.session) :
    (exec (isAuthorized p roles req) c).2.responses =
        c.responses ++ [.redirect 302 "/access-denied"] ∧
      ¬ ShowsDenial p secrets (denialPage req surroundings)
        ((exec (isAuthorized p roles req) c).2.saved req.sid) := by
  have redirected : Ensures (isAuthorized p roles req) c
      (fun _ t => t.responses = c.responses ++ [.redirect 302 "/access-denied"])
      (fun _ t => t.responses = c.responses ++ [.redirect 302 "/access-denied"]) :=
    (isAuthorized_denies denied).mono (fun _ _ answered => answered.2) (fun _ _ never => never.elim)
  refine ⟨redirected.final, ?_⟩
  rintro ⟨_, page⟩
  cases (denialPage_answer p secrets req surroundings _).symm.trans page

section Samples

open Reference

/-- A visit of the member to the page of the admins. -/
def memberAtAdmin : Request := visit "s1" "GET" "/admin/dashboard" "member"

theorem memberAtAdmin_denied :
    RoleDenied platform ["admin"] memberAtAdmin (context adaId).session := by
  have plain : "/admin/dashboard".toList.all plainChar = true := by decide
  refine ⟨?_, rfl, _, presented_visit "s1" "GET" plain (by decide), .inr (.inr (by simp))⟩
  exact not_skips adaId rfl (by decide +kernel) (by decide +kernel)

/-- She is sent on to the login page instead. -/
theorem denied_member_sent_to_login :
    RoleDenied platform ["admin"] memberAtAdmin (context adaId).session ∧
    ¬ ShowsDenial platform keys (denialPage memberAtAdmin memberAtAdmin)
      ((exec (isAuthorized platform ["admin"] memberAtAdmin) (context adaId)).2.saved
        memberAtAdmin.sid) ∧
    (served platform keys (denialPage memberAtAdmin memberAtAdmin)
      ((exec (isAuthorized platform ["admin"] memberAtAdmin) (context adaId)).2.saved
        memberAtAdmin.sid)).responses.head? = some (.redirect 302 "/login") := by
  have answer := denialPage_answer platform keys memberAtAdmin memberAtAdmin
    ((exec (isAuthorized platform ["admin"] memberAtAdmin) (context adaId)).2.saved memberAtAdmin.sid)
  refine ⟨memberAtAdmin_denied, ?_, answer⟩
  rintro ⟨_, page⟩
  cases answer.symm.trans page

theorem denied_member_redirected :
    (exec (isAuthorized platform ["admin"] memberAtAdmin) (context adaId)).2.responses =
        [.redirect 302 "/access-denied"] ∧
      ¬ ShowsDenial platform keys (denialPage memberAtAdmin memberAtAdmin)
        ((exec (isAuthorized platform ["admin"] memberAtAdmin) (context adaId)).2.saved
          memberAtAdmin.sid) :=
  denials_never_shown platform keys ["admin"] memberAtAdmin memberAtAdmin (context adaId)
    memberAtAdmin_denied

end Samples

end Denials

end ChurchManagement
