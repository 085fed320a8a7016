import ChurchManagement.GetSecret
import ChurchManagement.UniqueUsers

namespace ChurchManagement

open Js Effect Sequelize

section Outcome

variable (p : Platform) (secrets : Secrets) (req : Request)

/-- The query of the registration is answered, and nothing stands against the body. -/
def Finds (users : List User) (value : Value) : Prop :=
  req.fault .User .findOne = none ∧ Vacant p secrets req users value

/-- The database takes the row of the checked body. -/
def Creates (value : Value) (users users' : Table UserColumn) : Prop :=
  req.fault .User .create = none ∧
    ∃ user, create p.toOrm (req.rowId 0) (registeredKeys.map fun key => (key, value.propD key)) =
      some user ∧ users.insert user = some users'

/-- The registration goes through and leads to the table: the body passes the check, it carries
the token, nobody has its name or phone number, and the database takes its row. -/
def Registrable (users users' : Table UserColumn) : Prop :=
  ∃ value, Finds p secrets req users.rows value ∧ Creates p req value users users'

/-- The query cannot refuse the name and phone number of a checked body, which are texts. -/
theorem whereEq_read {value v : Value} {key text : String} (read : value.prop key = .ok v)
    (isText : value.propD key = .str text) : p.whereEq v ≠ none := by
  rw [Value.propD, read] at isText
  cases isText
  rw [p.whereEq_text]
  exact Option.some_ne_none _

theorem registerLookup_outcome (c : Ctx) :
    Ensures (registerLookup p secrets req) c
      (fun found t => (∃ value, found = some value ∧ t = c ∧ Finds p secrets req c.server.users.rows value) ∨
        found = none ∧ t.server = c.server ∧ ∀ value, ¬ Finds p secrets req c.server.users.rows value)
      (fun _ t => t = c ∧ ∀ value, ¬ Finds p secrets req c.server.users.rows value) := by
  unfold registerLookup
  dsimp only
  split
  · rename_i details failed
    refine .inr ⟨rfl, rfl, fun value finds => ?_⟩
    rw [finds.2.1] at failed
    cases failed
  · rename_i accepted
    have same {value : Value} (finds : Finds p secrets req c.server.users.rows value) :
        value = (p.validate registerSchema req.body).value := by rw [finds.2.1]
    have never (reason : ¬ Finds p secrets req c.server.users.rows
        (p.validate registerSchema req.body).value) (value : Value) :
        ¬ Finds p secrets req c.server.users.rows value :=
      fun finds => reason (same finds ▸ finds)
    simp only [ensures_bind, ensures_prop, ensures_ite, ensures_whereColumn, ensures_db,
      ensures_get]
    refine ⟨fun authToken token => ⟨fun other => .inr ⟨rfl, rfl, never ?_⟩, fun matched =>
      ⟨fun NAME name => ⟨fun PHONENUMBER phone => ⟨fun named namedIs => ⟨fun phoned phonedIs =>
      ⟨fun error fault => ⟨trivial, never ?_⟩, fun works => ?_⟩, fun refused => ⟨trivial, never ?_⟩⟩,
      fun refused => ⟨trivial, never ?_⟩⟩, fun _ threw => ⟨trivial, never ?_⟩⟩,
      fun _ threw => ⟨trivial, never ?_⟩⟩⟩, fun _ threw => ⟨trivial, never ?_⟩⟩
    · intro finds
      cases Except.ok.inj (token.symm.trans finds.2.2.1)
      simp [Value.strictEq] at other
    · intro finds
      cases fault.symm.trans finds.1
    · split
      · rename_i existing found
        refine .inr ⟨rfl, rfl, never fun finds => ?_⟩
        obtain ⟨member, matches'⟩ := findOne_some p.toOrm found
        have free := finds.2.2.2 named phoned
          (by rw [← namedIs]; simp [Value.propD, name, Except.toOption])
          (by rw [← phonedIs]; simp [Value.propD, phone, Except.toOption]) existing member
        simp [free] at matches'
      · rename_i missing
        exact .inl ⟨_, rfl, rfl, works,
          vacant_of_missing p secrets accepted token matched name phone namedIs phonedIs missing⟩
    · intro finds
      obtain ⟨_, number, _, isText, _⟩ := finds.2.texts
      exact whereEq_read p phone isText refused
    · intro finds
      obtain ⟨text, _, isText, _⟩ := finds.2.texts
      exact whereEq_read p name isText refused
    · exact fun finds => Value.prop_of_error threw finds.2.2.1
    · exact fun finds => Value.prop_of_error threw finds.2.2.1
    · exact fun finds => Value.prop_of_error threw finds.2.2.1

theorem registerCreate_outcome {value : Value} {name : String}
    (named : value.propD "NAME" = .str name) (c : Ctx) :
    Ensures (registerCreate p req value) c
      (fun _ t => ∃ users, Creates p req value c.server.users users ∧ t.server.users = users ∧
        t.responses = c.responses ++ [.render 200 "register"
          [("success_msg", .str ("User has been successfully registered!" ++ name))]])
      (fun _ t => t = c ∧ ∀ users, ¬ Creates p req value c.server.users users) := by
  unfold registerCreate
  simp only [named, Value.toText_str, ensures_bind, ensures_db, ensures_get, ensures_orThrow,
    ensures_setServer]
  refine ⟨fun _ fault => ⟨trivial, ?_⟩, fun works => ⟨fun user made => ⟨fun users inserted =>
    ⟨fun _ isText => ?_, fun absurdText => by cases absurdText⟩, fun taken => ⟨trivial, ?_⟩⟩, fun refused =>
    ⟨trivial, ?_⟩⟩⟩
  · intro users creates
    cases fault.symm.trans creates.1
  · cases isText
    exact ⟨users, ⟨works, user, made, inserted⟩, rfl, rfl⟩
  · rintro users ⟨_, user', made', inserted⟩
    cases Option.some.inj (made.symm.trans made')
    cases taken.symm.trans inserted
  · rintro users ⟨_, user, made, _⟩
    cases refused.symm.trans made

/-- The row is added exactly when the registration goes through, and then the page says so. -/
theorem postRegister_outcome (c : Ctx) :
    Ensures (postRegister p secrets req) c
      (fun _ t => (∃ users, Registrable p secrets req c.server.users users ∧ t.server.users = users ∧
          ∃ msg, t.responses = c.responses ++ [.render 200 "register" [("success_msg", msg)]]) ∨
        (∀ users, ¬ Registrable p secrets req c.server.users users) ∧
          t.server.users = c.server.users)
      (fun _ _ => False) := by
  rw [postRegister_steps, ensures_attempt, ensures_bind]
  refine (registerLookup_outcome p secrets req c).mono ?_ ?_
  · rintro found t (⟨value, rfl, rfl, finds⟩ | ⟨rfl, same, never⟩)
    · obtain ⟨name, _, named, _⟩ := finds.2.texts
      refine (registerCreate_outcome p req named t).mono ?_ ?_
      · rintro _ t' ⟨users, creates, isTable, answer⟩
        exact .inl ⟨users, ⟨value, finds, creates⟩, isTable, _, answer⟩
      · rintro _ t' ⟨rfl, never⟩
        refine .inr ⟨?_, rfl⟩
        rintro users ⟨value', finds', creates⟩
        cases finds.2.1.symm.trans finds'.2.1
        exact never users creates
    · refine .inr ⟨?_, congrArg Server.users same⟩
      rintro users ⟨value, finds, _⟩
      exact never value finds
  · rintro _ t ⟨rfl, never⟩
    refine .inr ⟨?_, rfl⟩
    rintro users ⟨value, finds, _⟩
    exact never value finds

/-- The table that a registration leads to has one row more. -/
theorem Registrable.row {users users' : Table UserColumn}
    (registrable : Registrable p secrets req users users') :
    ∃ row ∈ users'.rows, row ∉ users.rows := by
  obtain ⟨_, _, _, user, _, inserted⟩ := registrable
  refine ⟨user, by rw [Table.insert_rows inserted]; simp, fun member => ?_⟩
  have fresh : user.id ∉ users.rows.map Row.id := by
    by_contra taken
    simp [Table.insert, taken] at inserted
  exact fresh (List.mem_map.mpr ⟨user, member, rfl⟩)

end Outcome

section Protected

/-- The check hands a text on as it came. -/
def HandsOnTokens (p : Platform) : Prop :=
  ∀ body value token, p.validate registerSchema body = ⟨none, value⟩ →
    value.prop "authToken" = .ok (.str token) → body.prop "authToken" = .ok (.str token)

/-- The registration was turned down with a message, or it has thrown. -/
inductive RegistrationRefused (c t : Ctx) (result : Except String Unit) : Prop
  | rejected (msg : String)
      (answer : t.responses = c.responses ++ [.render 200 "register" [("error_msg", .str msg)]])
  | failed (error : String) (thrown : result = .error error)

/-- What the token of a registration is for. -/
structure TokenProtected (secrets : Secrets) (req : Request) (c t : Ctx)
    (result : Except String Unit) : Prop where
  created : (∃ row ∈ t.server.users.rows, row ∉ c.server.users.rows) →
    ∃ token, req.body.prop "authToken" = .ok (.str token) ∧ token ≠ "" ∧ token = secrets.AUTH_TOKEN
  refused : RegistrationRefused c t result → t.server.users = c.server.users

/-- The seventh entry of the line is the token. -/
theorem readSecrets_token {answer : String} {secrets : SecretKeys}
    (read : readSecrets answer = some secrets) :
    (secretEntries answer)[6]? = some secrets.AUTH_TOKEN := by
  unfold readSecrets at read
  split at read
  · rename_i entries
    cases Option.some.inj read
    rw [entries]
    rfl
  · cases read

/-- The comparison with the token does not ask whether there is one: a line whose seventh entry is
empty lets everybody register who sends an empty token. -/
theorem registration_protected_iff (p : Platform) (handsOn : HandsOnTokens p) (answer : String)
    (secrets : SecretKeys) (read : readSecrets answer = some secrets) (req : Request) (c : Ctx) :
    TokenProtected secrets.toSecrets req c (exec (postRegister p secrets.toSecrets req) c).2
        (exec (postRegister p secrets.toSecrets req) c).1 ↔
      (secretEntries answer)[6]? ≠ some "" ∨
        ∀ users, ¬ Registrable p secrets.toSecrets req c.server.users users := by
  obtain ⟨_, returned, outcome⟩ := (postRegister_outcome p secrets.toSecrets req c).returns
  rw [readSecrets_token read, returned]
  rcases outcome with ⟨users, registrable, isTable, msg, shown⟩ | ⟨never, same⟩
  · have row : ∃ row ∈ (exec (postRegister p secrets.toSecrets req) c).2.server.users.rows,
        row ∉ c.server.users.rows := isTable ▸ registrable.row
    constructor
    · intro protected'
      obtain ⟨token, _, filled, isToken⟩ := protected'.created row
      left
      rw [← isToken]
      simpa using filled
    · rintro (filled | never)
      · refine ⟨fun _ => ?_, ?_⟩
        · obtain ⟨value, finds, _⟩ := registrable
          exact ⟨_, handsOn _ _ _ finds.2.1 finds.2.2.1, by simpa using filled, rfl⟩
        · rintro (⟨msg', shown'⟩ | ⟨error, thrown⟩)
          · rw [shown] at shown'
            simp at shown'
          · cases thrown
      · exact absurd registrable (never users)
  · refine iff_of_true ⟨?_, fun _ => same⟩ (.inr never)
    rintro ⟨row, after, before⟩
    rw [same] at after
    exact absurd after before

end Protected

namespace Reference

theorem convert_key (schema : Joi.Schema) (entry : String × Value) :
    (convert schema entry).1 = entry.1 := by
  unfold convert
  split
  · split
    · rfl
    · rfl
  · rfl

/-- Only dates are converted. -/
theorem convert_text {schema : Joi.Schema} {entry : String × Value} {s : String}
    (isText : (convert schema entry).2 = .str s) : entry.2 = .str s := by
  unfold convert at isText
  split at isText
  · split at isText
    · cases isText
    · exact isText
  · exact isText

theorem field_convert {schema : Joi.Schema} {fields : List (String × Value)} {key s : String}
    (isText : Value.field key (fields.map (convert schema)) = .str s) :
    Value.field key fields = .str s := by
  have keyed : ((fun entry : String × Value => entry.1 == key) ∘ convert schema) =
      fun entry => entry.1 == key := by
    funext entry
    rw [Function.comp_apply, convert_key]
  rw [Value.field, List.find?_map, keyed] at isText
  rw [Value.field]
  cases found : fields.find? fun entry => entry.1 == key with
  | none =>
    rw [found] at isText
    cases isText
  | some entry =>
    rw [found] at isText
    exact convert_text isText

theorem platform_handsOnTokens : HandsOnTokens platform := by
  intro body value token accepted carries
  have isValue : value = (validate registerSchema body).value :=
    (congrArg Joi.Validation.value accepted).symm
  have ok : (validate registerSchema body).error = none := congrArg Joi.Validation.error accepted
  cases body with
  | undefined =>
    rw [isValue] at carries
    cases carries
  | obj fields =>
    simp only [validate] at isValue ok
    split at ok
    · rename_i nothing
      rw [nothing] at isValue
      rw [isValue] at carries
      exact congrArg Except.ok (field_convert (Except.ok.inj carries))
    · cases ok
  | null | bool _ | num _ | str _ | date _ | arr _ => cases ok

/-- A registration with the token. -/
def joining (token : String) : Request :=
  { request "s1" "POST" "/register" with
    body := .obj [("DATE", .str "2024-02-11"), ("NAME", .str "Chidi Eke"), ("SEX", .str "M"),
      ("CAT", .str "NC"), ("PHONENUMBER", .str "08077777777"), ("EMAIL", .str "chidi@example.org"),
      ("authToken", .str token)] }

/-- The secrets line of a server with tokens. -/
def secretsLine : String :=
  "session, database, mail@example.org, mail-pass, public, private, join-key, worker-key, " ++
    "admin-key, 5000"

/-- A registration is protected by the token of the line. -/
theorem tokens_protect_registration : ∃ secrets, readSecrets secretsLine = some secrets ∧
    TokenProtected secrets.toSecrets (joining "join-key") (context "guest")
      (exec (postRegister platform secrets.toSecrets (joining "join-key")) (context "guest")).2
      (exec (postRegister platform secrets.toSecrets (joining "join-key")) (context "guest")).1 := by
  have entries : secretEntries secretsLine = ["session", "database", "mail@example.org", "mail-pass",
      "public", "private", "join-key", "worker-key", "admin-key", "5000"] := by decide +kernel
  have read : readSecrets secretsLine = some ⟨keys, "session", "database", "mail@example.org",
      "mail-pass", "public", "private", "5000"⟩ := by
    rw [readSecrets, entries]
    rfl
  refine ⟨_, read, (registration_protected_iff platform platform_handsOnTokens secretsLine _ read
    (joining "join-key") (context "guest")).mpr (.inl ?_)⟩
  rw [entries]
  decide

/-- Ten empty entries are accepted, and then an empty token registers a member. -/
theorem empty_token_registers : ∃ secrets, readSecrets ",,,,,,,,," = some secrets ∧
    ¬ TokenProtected secrets.toSecrets (joining "") (context "guest")
      (exec (postRegister platform secrets.toSecrets (joining "")) (context "guest")).2
      (exec (postRegister platform secrets.toSecrets (joining "")) (context "guest")).1 := by
  refine ⟨⟨⟨"", "", ""⟩, "", "", "", "", "", "", ""⟩, rfl, fun protected' => ?_⟩
  have ids : (exec (postRegister platform ⟨"", "", ""⟩ (joining ""))
      (context "guest")).2.server.users.rows.map Row.id = [adaId, (joining "").rowId 0] := by
    decide +kernel
  have member : (joining "").rowId 0 ∈ (exec (postRegister platform ⟨"", "", ""⟩ (joining ""))
      (context "guest")).2.server.users.rows.map Row.id := by
    rw [ids]
    simp
  obtain ⟨row, inRows, isRow⟩ := List.mem_map.mp member
  have added : row ∉ (context "guest").server.users.rows := by
    intro before
    have same : row.id = adaId := congrArg Row.id (List.mem_singleton.mp before)
    rw [isRow] at same
    exact absurd same (by decide)
  obtain ⟨token, _, filled, isToken⟩ := protected'.created ⟨row, inRows, added⟩
  exact filled isToken

end Reference

end ChurchManagement
