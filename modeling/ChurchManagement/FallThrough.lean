import ChurchManagement.Passage

namespace ChurchManagement

open Js Effect

/-- The pages that everybody may see. -/
def PublicUrl (url : String) : Prop := url ∈ ["/", "/login", "/register"]

/-- The condition that stands in the case of a middleware, without the cases behind it. -/
def OwnCondition (middleware : String) (req : Request) (session : Session) : Prop :=
  match middleware with
  | "authenticate" => req.method = "GET" ∧ PublicUrl req.url
  | "validate" => PublicUrl req.url
  | "authorize" => PublicUrl req.url ∨ req.url = "/memberIndex" ∨ OwnUpdate req session
  | "track" => req.method = "GET" ∧ req.url = "/login"
  | _ => False

/-- A skip is granted under the middleware's own condition and only then. -/
def GrantsOwn (middleware : String) (req : Request) (c : Ctx) : Prop :=
  (exec (middleCorrect middleware req) c).1 = .ok true ↔ OwnCondition middleware req c.session

variable (middleware : String) (req : Request) (c : Ctx)

theorem PublicUrl.skips {req : Request} (listed : PublicUrl req.url) (session : Session) :
    Skips req session := by
  simp only [PublicUrl, List.mem_cons, List.not_mem_nil, or_false] at listed
  left
  rcases listed with url | url | url
  · simp [url]
  · simp [url]
  · simp [url]

theorem skips_iff (session : Session) : Skips req session ↔
    PublicUrl req.url ∨ req.url = "/memberIndex" ∨ OwnUpdate req session := by
  simp only [Skips, PublicUrl, List.mem_cons, List.not_mem_nil, or_false, or_assoc]

/-- The three gates are granted the whole skip list, whichever of them asks. -/
theorem granted_gate (known : middleware ∈ ["authenticate", "validate", "authorize"]) :
    (exec (middleCorrect middleware req) c).1 = .ok true ↔ Skips req c.session := by
  have exact : Ensures (middleCorrect middleware req) c _ _ := middleCorrect_exact c known
  constructor
  · intro granted
    rcases (exact.of_returned granted).2 with ⟨_, skips⟩ | ⟨refused, _⟩
    · exact skips
    · cases refused
  · intro skips
    have granted : Ensures (middleCorrect middleware req) c (fun nt _ => nt = true)
        (fun _ _ => False) :=
      exact.mono (fun _ _ post => post.2.elim And.left fun refused => absurd skips refused.2.1)
        (fun _ _ post => post.2.1 skips)
    obtain ⟨nt, returned, isTrue⟩ := granted.returns
    rw [returned, isTrue]

/-- The last case stands alone. -/
theorem granted_track :
    (exec (middleCorrect "track" req) c).1 = .ok true ↔ req.method = "GET" ∧ req.url = "/login" := by
  have spec : Ensures (middleCorrect "track" req) c
      (fun nt _ => nt = true ↔ req.method = "GET" ∧ req.url = "/login")
      (fun _ _ => req.url ≠ "/login") := by
    unfold middleCorrect
    simp only [ensures_bind, ensures_get, ensures_ite, ensures_pure, ensures_orThrow, skipSwitch,
      Bool.and_eq_true, decide_eq_true_eq]
    refine ⟨fun _ => and_comm, fun unlisted => ⟨fun _ _ => and_comm, fun _ login => ?_⟩⟩
    exact unlisted (.inl (.inr (.inl login)))
  constructor
  · intro granted
    exact (spec.of_returned granted).mp rfl
  · intro login
    have granted : Ensures (middleCorrect "track" req) c (fun nt _ => nt = true)
        (fun _ _ => False) :=
      spec.mono (fun _ _ iff => iff.mpr login) (fun _ _ other => other login.2)
    obtain ⟨nt, returned, isTrue⟩ := granted.returns
    rw [returned, isTrue]

theorem granted_other (unknown : middleware ∉ ["authenticate", "validate", "authorize", "track"]) :
    (exec (middleCorrect middleware req) c).1 ≠ .ok true := by
  have spec : Ensures (middleCorrect middleware req) c (fun nt _ => nt = false) (fun _ _ => True) := by
    simp only [List.mem_cons, List.not_mem_nil, or_false, not_or] at unknown
    unfold middleCorrect
    simp only [ensures_bind, ensures_get, ensures_ite, ensures_pure, ensures_orThrow]
    have refused (isUrl reqGet skipAuthorize skipLogin : Bool) :
        skipSwitch middleware isUrl reqGet skipAuthorize skipLogin = false := by
      simp [skipSwitch, unknown]
    exact ⟨fun _ => refused _ _ _ _, fun _ => ⟨fun _ _ => refused _ _ _ _, fun _ => trivial⟩⟩
  intro granted
  cases spec.of_returned granted

/-- The cases fall through, so the first two gates skip on the whole list. They keep to their own
condition on the URLs where the list says the same. -/
theorem grants_own_iff : GrantsOwn middleware req c ↔
    middleware ∉ ["authenticate", "validate"] ∨ ¬ Skips req c.session ∨
      PublicUrl req.url ∧ (middleware = "authenticate" → req.method = "GET") := by
  unfold GrantsOwn
  by_cases isAuthenticate : middleware = "authenticate"
  · subst isAuthenticate
    rw [granted_gate _ _ _ (by decide)]
    have own : OwnCondition "authenticate" req c.session ↔ req.method = "GET" ∧ PublicUrl req.url :=
      Iff.rfl
    rw [own]
    constructor
    · intro same
      by_cases skips : Skips req c.session
      · obtain ⟨method, url⟩ := same.mp skips
        exact .inr (.inr ⟨url, fun _ => method⟩)
      · exact .inr (.inl skips)
    · rintro (other | off | ⟨url, method⟩)
      · exact absurd (by simp) other
      · exact iff_of_false off fun both => off (both.2.skips _)
      · exact iff_of_true (url.skips _) ⟨method rfl, url⟩
  · by_cases isValidate : middleware = "validate"
    · subst isValidate
      rw [granted_gate _ _ _ (by decide)]
      have own : OwnCondition "validate" req c.session ↔ PublicUrl req.url := Iff.rfl
      rw [own]
      constructor
      · intro same
        by_cases skips : Skips req c.session
        · exact .inr (.inr ⟨same.mp skips, fun other => absurd other isAuthenticate⟩)
        · exact .inr (.inl skips)
      · rintro (other | off | ⟨url, _⟩)
        · exact absurd (by simp) other
        · exact iff_of_false off fun url => off (url.skips _)
        · exact iff_of_true (url.skips _) url
    · refine iff_of_true ?_ (.inl (by simp [isAuthenticate, isValidate]))
      by_cases isAuthorize : middleware = "authorize"
      · subst isAuthorize
        rw [granted_gate _ _ _ (by decide), skips_iff]
        exact Iff.rfl
      · by_cases isTrack : middleware = "track"
        · subst isTrack
          exact granted_track req c
        · have unknown : middleware ∉ ["authenticate", "validate", "authorize", "track"] := by
            simp [isAuthenticate, isValidate, isAuthorize, isTrack]
          have never : ¬ OwnCondition middleware req c.session := by
            simp [OwnCondition]
          exact iff_of_false (granted_other _ _ _ unknown) never

open Reference in
/-- A form sent to the login page skips the authentication, whose own case asks for a GET. -/
theorem posted_login_skips :
    (exec (middleCorrect "authenticate" (request "s1" "POST" "/login")) (context adaId)).1 = .ok true ∧
      ¬ GrantsOwn "authenticate" (request "s1" "POST" "/login") (context adaId) := by
  have granted : (exec (middleCorrect "authenticate" (request "s1" "POST" "/login"))
      (context adaId)).1 = .ok true :=
    (granted_gate _ _ _ (by decide)).mpr (.inl (by decide))
  refine ⟨granted, fun own => ?_⟩
  obtain ⟨isGet, _⟩ := own.mp granted
  exact absurd isGet (by decide)

end ChurchManagement
