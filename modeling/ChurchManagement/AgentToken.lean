import ChurchManagement.Js.Escapes
import ChurchManagement.Reference

namespace ChurchManagement

open Js Effect

section Texts

/-- An agent whose fields JSON can represent. -/
structure Agent.Written (agent : Agent) : Prop where
  data : Json.Representable agent.data
  isAuthenticated : Json.Representable agent.isAuthenticated
  role : Json.Representable agent.role
  lastActivity : Json.Representable agent.lastActivity

variable {agent : Agent}

/-- The fields of the plain object of an agent. -/
def Agent.fields (agent : Agent) : List (String × Value) :=
  [("data", agent.data), ("isAuthenticated", agent.isAuthenticated), ("role", agent.role),
    ("lastActivity", agent.lastActivity)]

theorem Agent.Written.toJSON_eq (written : agent.Written) : agent.toJSON = .obj agent.fields := by
  have kept : ∀ entry ∈ agent.fields, (entry.2 != .undefined) = true := by
    intro entry member
    simp only [Agent.fields, List.mem_cons, List.not_mem_nil, or_false] at member
    rw [bne_iff_ne]
    rcases member with rfl | rfl | rfl | rfl
    · exact written.data.printable.defined
    · exact written.isAuthenticated.printable.defined
    · exact written.role.printable.defined
    · exact written.lastActivity.printable.defined
  exact congrArg Value.obj (List.filter_eq_self.mpr kept)

theorem fromJSON_fields (agent : Agent) : Agent.fromJSON (.obj agent.fields) = .ok agent := rfl

theorem Agent.Written.representable (written : agent.Written) :
    Json.Representable (.obj agent.fields) :=
  have keys : (agent.fields.map Prod.fst).Nodup :=
    show ["data", "isAuthenticated", "role", "lastActivity"].Nodup by decide
  ⟨⟨written.data.printable, written.isAuthenticated.printable, written.role.printable,
      written.lastActivity.printable, trivial⟩,
    ⟨keys, written.data.distinct, written.isAuthenticated.distinct, written.role.distinct,
      written.lastActivity.distinct, trivial⟩⟩

/-- An agent that has data is read from an object. -/
theorem fromJSON_obj {json : Value} (read : Agent.fromJSON json = .ok agent)
    (defined : agent.data ≠ .undefined) :
    ∃ fields, json = .obj fields ∧ agent = ⟨Value.field "data" fields,
      Value.field "isAuthenticated" fields, Value.field "role" fields,
      Value.field "lastActivity" fields⟩ := by
  cases json with
  | obj fields =>
    cases read
    exact ⟨fields, rfl, rfl⟩
  | undefined => cases read
  | null => cases read
  | bool b | num n | str s | date iso | arr items =>
    cases read
    exact absurd rfl defined

/-- Fields with different keys weigh no more together than the object they are read from. -/
theorem weightFields_field {keys : List String} (distinct : keys.Nodup)
    {fields : List (String × Value)} (defined : ∀ key ∈ keys, Value.field key fields ≠ .undefined) :
    (keys.map fun key => Json.quotedWeight key.toList + Json.weight (Value.field key fields)).sum ≤
      Json.weightFields fields := by
  induction fields generalizing keys with
  | nil =>
    cases keys with
    | nil => exact Nat.le_refl _
    | cons key keys => exact absurd rfl (defined key List.mem_cons_self)
  | cons entry fields ih =>
    obtain ⟨k, v⟩ := entry
    have here : Value.field k ((k, v) :: fields) = v := by simp [Value.field]
    have later {key : String} (other : key ≠ k) :
        Value.field key ((k, v) :: fields) = Value.field key fields := by
      simp [Value.field, Ne.symm other]
    by_cases member : k ∈ keys
    · have rest := ih (distinct.erase k) fun key inRest => by
        obtain ⟨other, inKeys⟩ := distinct.mem_erase_iff.mp inRest
        rw [← later other]
        exact defined key inKeys
      have split := ((List.perm_cons_erase member).map fun key =>
        Json.quotedWeight key.toList + Json.weight (Value.field key ((k, v) :: fields))).sum_eq
      have same : (keys.erase k).map (fun key =>
          Json.quotedWeight key.toList + Json.weight (Value.field key ((k, v) :: fields))) =
          (keys.erase k).map fun key =>
            Json.quotedWeight key.toList + Json.weight (Value.field key fields) := by
        refine List.map_congr_left fun key inRest => ?_
        rw [later (distinct.mem_erase_iff.mp inRest).1]
      rw [split, List.map_cons, List.sum_cons, here, same, Json.weightFields]
      omega
    · have rest := ih distinct (by
        intro key inKeys
        rw [← later (fun same => member (same ▸ inKeys))]
        exact defined key inKeys)
      have same : keys.map (fun key =>
          Json.quotedWeight key.toList + Json.weight (Value.field key ((k, v) :: fields))) =
          keys.map fun key =>
            Json.quotedWeight key.toList + Json.weight (Value.field key fields) := by
        refine List.map_congr_left fun key inKeys => ?_
        rw [later (fun same => member (same ▸ inKeys))]
      rw [same, Json.weightFields]
      omega

/-- Whatever object an agent is read from weighs at least as much as the agent. -/
theorem Agent.Written.weight_le (written : agent.Written) {json : Value}
    (read : Agent.fromJSON json = .ok agent) : Json.weight (.obj agent.fields) ≤ Json.weight json := by
  obtain ⟨fields, rfl, isAgent⟩ := fromJSON_obj read written.data.printable.defined
  have data : Value.field "data" fields = agent.data := by rw [isAgent]
  have isAuthenticated : Value.field "isAuthenticated" fields = agent.isAuthenticated := by rw [isAgent]
  have role : Value.field "role" fields = agent.role := by rw [isAgent]
  have lastActivity : Value.field "lastActivity" fields = agent.lastActivity := by rw [isAgent]
  have distinct : ["data", "isAuthenticated", "role", "lastActivity"].Nodup := by decide
  have defined : ∀ key ∈ ["data", "isAuthenticated", "role", "lastActivity"],
      Value.field key fields ≠ .undefined := by
    intro key member
    simp only [List.mem_cons, List.not_mem_nil, or_false] at member
    rcases member with rfl | rfl | rfl | rfl
    · exact data ▸ written.data.printable.defined
    · exact isAuthenticated ▸ written.isAuthenticated.printable.defined
    · exact role ▸ written.role.printable.defined
    · exact lastActivity ▸ written.lastActivity.printable.defined
  have sum := weightFields_field distinct defined
  simp only [List.map_cons, List.map_nil, List.sum_cons, List.sum_nil, data, isAuthenticated, role,
    lastActivity] at sum
  simp only [Json.weight, Agent.fields, Json.weightFields]
  omega

/-- The agent with the escapes of percent signs replaced, as a parser builds it. -/
def Agent.unescaped (agent : Agent) : Agent :=
  ⟨Json.canon (Json.unescaped agent.data), Json.canon (Json.unescaped agent.isAuthenticated),
    Json.canon (Json.unescaped agent.role), Json.canon (Json.unescaped agent.lastActivity)⟩

theorem canon_unescaped_fields (agent : Agent) :
    Json.canon (Json.unescaped (.obj agent.fields)) = .obj agent.unescaped.fields := by
  have data : String.ofList (Json.unescape "data".toList) = "data" := by decide
  have isAuthenticated : String.ofList (Json.unescape "isAuthenticated".toList) = "isAuthenticated" := by
    decide
  have role : String.ofList (Json.unescape "role".toList) = "role" := by decide
  have lastActivity : String.ofList (Json.unescape "lastActivity".toList) = "lastActivity" := by decide
  simp only [Agent.fields, Json.unescaped, Json.unescapedFields, data, isAuthenticated, role, lastActivity,
    Json.canon]
  rfl

/-- A text with a percent sign is not read back as the agent: decoding it once more loses weight, or
shortens the texts inside. -/
theorem Agent.Written.decode_ne (written : agent.Written) (p : Platform)
    (percent : '%' ∈ (Json.stringify (.obj agent.fields)).toList) :
    decodeAgent p (.str (Json.stringify (.obj agent.fields))) ≠ .ok agent := by
  intro read
  have representable := written.representable
  rw [decodeAgent, Value.toText_str] at read
  dsimp only at read
  split at read
  · cases read
  rename_i decoded isDecoded
  split at read
  · cases read
  rename_i json isParsed
  obtain ⟨_, shorter, kept⟩ := Json.decodeURIComponent_weight isDecoded
  have text := Json.stringify_weight _ representable.printable
  have parsed := Json.parse_weight isParsed
  have heavy := written.weight_le read
  obtain ⟨printable, unescapes⟩ := Json.stringify_unescapes _ representable.printable
  have isText : decoded = Json.stringify (Json.unescaped (.obj agent.fields)) := by
    have replaced := unescapes []
    rw [List.append_nil, Json.unescape, List.append_nil] at replaced
    rw [← String.toList_inj, kept (by omega), replaced]
  have isJson : json = .obj agent.unescaped.fields := by
    rw [isText, Json.parse_stringify printable, canon_unescaped_fields] at isParsed
    exact (Option.some.inj isParsed).symm
  have same : agent.unescaped = agent := by
    rw [isJson, fromJSON_fields] at read
    exact Except.ok.inj read
  have shrunk := Json.stringify_canon_length (Json.unescaped (.obj agent.fields))
  rw [canon_unescaped_fields, same, ← isText] at shrunk
  have long := shorter percent
  omega

/-- The text of an agent is read back as the agent exactly when it holds no percent sign. -/
theorem Agent.Written.decode_iff (written : agent.Written) (p : Platform) :
    decodeAgent p (.str (Json.stringify (.obj agent.fields))) = .ok agent ↔
      Json.PercentFree (.obj agent.fields) := by
  rw [← Json.stringify_percent _ written.representable.printable]
  refine ⟨fun read percent => written.decode_ne p percent read, fun free => ?_⟩
  simp only [decodeAgent, Value.toText_str, decodeURIComponent_plain free,
    written.representable.parse_eq, fromJSON_fields]

end Texts

section Tokens

/-- The agent that the middleware and the login handler give to a client. -/
def clientAgent (userId ipAddress userAgent : String) (isAuthenticated : Bool) (role : Option String)
    (lastActivity : Value) : Agent where
  data := .obj [("userId", .str userId), ("ipAddress", .str ipAddress), ("userAgent", .str userAgent)]
  isAuthenticated := .bool isAuthenticated
  role := role.elim .null .str
  lastActivity := lastActivity

/-- The token of an agent, as `getAgentData` prints it. -/
def Agent.token (agent : Agent) : String :=
  getAgentData agent.data agent.isAuthenticated agent.role agent.lastActivity

variable {userId ipAddress userAgent : String} {isAuthenticated : Bool} {role : Option String}
  {lastActivity : Value}

theorem clientAgent_written (representable : Json.Representable lastActivity) :
    (clientAgent userId ipAddress userAgent isAuthenticated role lastActivity).Written := by
  constructor
  · exact ⟨⟨trivial, trivial, trivial, trivial⟩,
      show ["userId", "ipAddress", "userAgent"].Nodup by decide, trivial, trivial, trivial, trivial⟩
  · exact ⟨trivial, trivial⟩
  · cases role with
    | none => exact ⟨trivial, trivial⟩
    | some r => exact ⟨trivial, trivial⟩
  · exact representable

theorem clientAgent_free :
    Json.PercentFree (.obj (clientAgent userId ipAddress userAgent isAuthenticated role
      lastActivity).fields) ↔
    '%' ∉ userId.toList ∧ '%' ∉ ipAddress.toList ∧ '%' ∉ userAgent.toList ∧
      (∀ r ∈ role, '%' ∉ r.toList) ∧ Json.PercentFree lastActivity := by
  have outer : '%' ∉ "data".toList ∧ '%' ∉ "isAuthenticated".toList ∧ '%' ∉ "role".toList ∧
      '%' ∉ "lastActivity".toList := by decide
  have inner : '%' ∉ "userId".toList ∧ '%' ∉ "ipAddress".toList ∧ '%' ∉ "userAgent".toList := by decide
  have roles : Json.PercentFree (role.elim .null .str) ↔ ∀ r ∈ role, '%' ∉ r.toList := by
    cases role with
    | none => exact ⟨fun _ _ member => absurd member (Option.not_mem_none _), fun _ => trivial⟩
    | some r =>
      refine ⟨fun free r' isRole => ?_, fun free => free r rfl⟩
      cases isRole
      exact free
  simp only [Agent.fields, clientAgent, Json.PercentFree, Json.PercentFreeFields, outer, inner, roles,
    not_false_eq_true, true_and, and_true, and_assoc]

/-- `getAgent` throws nothing; it returns the agent of the request or null. -/
theorem getAgent_result (p : Platform) (req : Request) (c : Ctx) :
    (exec (getAgent p req) c).1 = .ok (presented p req) := by
  obtain ⟨agent, returned, isAgent, _⟩ := (getAgent_spec p req c).returns
  rw [returned, isAgent]

theorem presented_text_iff (p : Platform) {req : Request} {text : String} {agent : Agent}
    (carried : p.query req.url "agent" = .str text) (filled : text ≠ "") :
    presented p req = some agent ↔ decodeAgent p (.str text) = .ok agent := by
  rw [presented, carried, if_pos (Value.truthy_str.mpr filled)]
  cases decodeAgent p (.str text) with
  | ok found => exact ⟨fun same => congrArg Except.ok (Option.some.inj same),
      fun same => congrArg some (Except.ok.inj same)⟩
  | error e =>
    constructor
    · intro impossible
      cases impossible
    · intro impossible
      cases impossible

/-- The token is encoded once but decoded twice, by the framework and by `getAgent`. -/
theorem getAgent_token_iff (p : Platform) {req : Request} (c : Ctx) {agent : Agent}
    (written : agent.Written) {text : String} (decoded : decodeURIComponent agent.token = some text)
    (carried : p.query req.url "agent" = .str text) :
    (exec (getAgent p req) c).1 = .ok (some agent) ↔ Json.PercentFree (.obj agent.fields) := by
  have isText : text = Json.stringify (.obj agent.fields) := by
    have encoded := decodeURIComponent_encode (Json.stringify agent.toJSON)
    rw [show agent.token = encodeURIComponent (Json.stringify agent.toJSON) from rfl, encoded,
      written.toJSON_eq] at decoded
    exact (Option.some.inj decoded).symm
  have filled : text ≠ "" := by
    have starts := Json.stringify_obj agent.fields []
    rw [List.append_nil, ← isText] at starts
    rintro rfl
    cases starts
  rw [getAgent_result, Except.ok.injEq, presented_text_iff p carried filled, isText, written.decode_iff p]

/-- An agent travels in a token and back exactly when none of its texts holds a percent sign. -/
theorem token_round_trip_iff (p : Platform) (req : Request) (c : Ctx)
    (representable : Json.Representable lastActivity) {text : String}
    (decoded : decodeURIComponent (clientAgent userId ipAddress userAgent isAuthenticated role
      lastActivity).token = some text)
    (carried : p.query req.url "agent" = .str text) :
    (exec (getAgent p req) c).1 =
        .ok (some (clientAgent userId ipAddress userAgent isAuthenticated role lastActivity)) ↔
      '%' ∉ userId.toList ∧ '%' ∉ ipAddress.toList ∧ '%' ∉ userAgent.toList ∧
        (∀ r ∈ role, '%' ∉ r.toList) ∧ Json.PercentFree lastActivity := by
  rw [getAgent_token_iff p c (clientAgent_written representable) decoded carried, clientAgent_free]

/-- A request that carries the token of the agent. -/
def Reference.carrying (agent : Agent) : Request :=
  Reference.request "s1" "GET" ("/" ++ "?agent=" ++ agent.token)

theorem Reference.query_carrying {agent : Agent} (written : agent.Written) :
    decodeURIComponent agent.token = some (Json.stringify (.obj agent.fields)) ∧
      Reference.platform.query (Reference.carrying agent).url "agent" =
        .str (Json.stringify (.obj agent.fields)) := by
  have isToken : agent.token = encodeURIComponent (Json.stringify (.obj agent.fields)) := by
    rw [← written.toJSON_eq]
    rfl
  constructor
  · rw [isToken, decodeURIComponent_encode]
  · have plain : '?' ∉ "/".toList := by decide
    have isUrl : (Reference.carrying agent).url = "/" ++ "?agent=" ++ agent.token := rfl
    rw [show Reference.platform.query = Reference.query from rfl, isUrl, isToken,
      Reference.query_encoded plain]

/-- A member's agent comes back from its token. -/
theorem member_token_returns :
    (exec (getAgent Reference.platform (Reference.carrying (clientAgent Reference.adaId "::1"
        "Mozilla/5.0 (é)" true (some "member") (.str "2024-02-04T10:00:00.000Z"))))
      { server := Reference.start, session := {} }).1 =
    .ok (some (clientAgent Reference.adaId "::1" "Mozilla/5.0 (é)" true (some "member")
      (.str "2024-02-04T10:00:00.000Z"))) :=
  have representable : Json.Representable (.str "2024-02-04T10:00:00.000Z") := ⟨trivial, trivial⟩
  have written : (clientAgent Reference.adaId "::1" "Mozilla/5.0 (é)" true (some "member")
    (.str "2024-02-04T10:00:00.000Z")).Written := clientAgent_written representable
  have carried := Reference.query_carrying written
  (token_round_trip_iff Reference.platform _ _ representable carried.1 carried.2).mpr
    ⟨by decide, by decide, by decide, by decide, show '%' ∉ "2024-02-04T10:00:00.000Z".toList by decide⟩

/-- A percent sign in the User-Agent header is lost or makes the token unreadable. -/
theorem percent_token_lost :
    decodeURIComponent (clientAgent "id" "::1" "100%" false none .null).token =
        some (Json.stringify (.obj (clientAgent "id" "::1" "100%" false none .null).fields)) ∧
      Reference.platform.query
          (Reference.carrying (clientAgent "id" "::1" "100%" false none .null)).url "agent" =
        .str (Json.stringify (.obj (clientAgent "id" "::1" "100%" false none .null).fields)) ∧
      (exec (getAgent Reference.platform
          (Reference.carrying (clientAgent "id" "::1" "100%" false none .null)))
        { server := Reference.start, session := {} }).1 ≠
      .ok (some (clientAgent "id" "::1" "100%" false none .null)) := by
  have written : (clientAgent "id" "::1" "100%" false none .null).Written :=
    clientAgent_written ⟨trivial, trivial⟩
  obtain ⟨decoded, carried⟩ := Reference.query_carrying written
  refine ⟨decoded, carried, fun returned => ?_⟩
  have free := clientAgent_free.mp ((getAgent_token_iff _ _ written decoded carried).mp returned)
  exact absurd free.2.2.1 (by decide)

end Tokens

end ChurchManagement
