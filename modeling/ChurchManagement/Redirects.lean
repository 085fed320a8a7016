import ChurchManagement.FirstAnswer

namespace ChurchManagement

open Js Effect Express Sequelize History

/-- The pages that the server redirects to by a path of its own, the home pages first. -/
def ownPaths : List String := ["/", "/login", "/access-denied", "/admin/login", "/admin/dashboard"]

/-- How a client finds the request that a location stands for, seen from the URL it was answered
at: the URL that the server will see, or none where the location leads to another site or to a
static file. -/
structure Browser where
  resolve : String → String → Option String
  resolve_own : ∀ base, ∀ path ∈ ownPaths, resolve base path = some path

section Chains

variable (b : Browser) (p : Platform) (secrets : Secrets)

/-- The URL that the first answer of a visit redirects to. -/
def redirectedTo (visit : Event Request Server) : Option String :=
  match (after p secrets visit).responses.head? with
  | some (.redirect _ url) => b.resolve visit.input.url url
  | _ => none

/-- The visit is answered, and the answer sends the client nowhere else on the server. -/
def Rests (visit : Event Request Server) : Prop :=
  (after p secrets visit).responses ≠ [] ∧ redirectedTo b p secrets visit = none

/-- The visit that a redirect of the one before leads to: a `GET` of the same session with the same
Referer, served next. What the surroundings decide is open. -/
structure Follows (visit next : Event Request Server) (url : String) : Prop where
  method : next.input.method = "GET"
  url : next.input.url = url
  sid : next.input.sid = visit.input.sid
  referer : next.input.referer = visit.input.referer
  before : next.before = serve p secrets visit.input visit.before

/-- A client that follows every redirect. -/
def Chases (visits : Nat → Event Request Server) : Prop :=
  ∀ n url, redirectedTo b p secrets (visits n) = some url →
    Follows p secrets (visits n) (visits (n + 1)) url

/-- The request is for the page that its own Referer names. -/
def RefersTo (req : Request) : Prop :=
  ∃ referer base, req.referer = some referer ∧ referer ≠ "" ∧ b.resolve base referer = some req.url

/-- A `GET` does not fail, and is not turned away from the page that it would be sent back to. -/
structure Settles (visit : Event Request Server) : Prop where
  returns : visit.input.method = "GET" → ¬ Throws p visit.input visit.before
  welcome : visit.input.method = "GET" → RefersTo b visit.input →
    ¬ TurnedAway p visit.input visit.before

variable {b p secrets} {visit next : Event Request Server}

theorem redirectedTo_of_first {status : Nat} {url : String}
    (first : (after p secrets visit).responses.head? = some (.redirect status url)) :
    redirectedTo b p secrets visit = b.resolve visit.input.url url := by
  rw [redirectedTo, first]

theorem Rests.of_first {r : Response} (first : (after p secrets visit).responses.head? = some r)
    (nowhere : redirectedTo b p secrets visit = none) : Rests b p secrets visit := by
  refine ⟨fun empty => ?_, nowhere⟩
  rw [empty] at first
  cases first

/-- A visit that does not rest was redirected. -/
theorem redirected (moves : ¬ Rests b p secrets visit) :
    ∃ url, redirectedTo b p secrets visit = some url := by
  obtain ⟨r, first, _⟩ : Told p visit.input visit.before (after p secrets visit) :=
    served_told secrets
  by_contra nowhere
  refine moves (.of_first first ?_)
  exact Option.eq_none_iff_forall_ne_some.mpr (not_exists.mp nowhere)

/-- A `GET` for the front page or the login page. -/
def AtHome (req : Request) : Prop := req.method = "GET" ∧ req.url ∈ ["/", "/login"]

theorem AtHome.rests (home : AtHome visit.input) : Rests b p secrets visit := by
  obtain ⟨view, locals, first⟩ :
      ∃ view locals, (after p secrets visit).responses.head? = some (.render 200 view locals) :=
    served_home secrets home.1 home.2
  refine .of_first first ?_
  rw [redirectedTo, first]

/-- A visit that is sent back gets to the page its Referer names, or home when it has none. -/
theorem Follows.back {url fallback : String} (follows : Follows p secrets visit next url)
    (goes : redirectedTo b p secrets visit = some url)
    (first : (after p secrets visit).responses.head? =
      some (.redirect 302 (backTo visit.input fallback)))
    (listed : fallback ∈ ["/", "/login"]) :
    AtHome next.input ∨ next.input.method = "GET" ∧ RefersTo b next.input := by
  rw [redirectedTo_of_first first] at goes
  have isOwn : fallback ∈ ownPaths := by
    simp only [List.mem_cons, List.not_mem_nil, or_false] at listed
    rcases listed with rfl | rfl <;> simp [ownPaths]
  have atFallback (falls : backTo visit.input fallback = fallback) : AtHome next.input := by
    rw [falls, b.resolve_own _ _ isOwn] at goes
    cases Option.some.inj goes
    exact ⟨follows.method, follows.url ▸ listed⟩
  cases sent : visit.input.referer with
  | none => exact .inl (atFallback (by simp [backTo, sent]))
  | some referer =>
    by_cases empty : referer = ""
    · exact .inl (atFallback (by simp [backTo, sent, empty, Option.filter]))
    · have isReferer : backTo visit.input fallback = referer := by
        simp [backTo, sent, empty, Option.filter]
      rw [isReferer] at goes
      exact .inr ⟨follows.method, referer, visit.input.url, follows.referer.trans sent, empty,
        follows.url ▸ goes⟩

/-- The pages for those turned away ask for an agent themselves. -/
theorem away_closed {req : Request} {session : Session}
    (listed : req.url ∈ ["/access-denied", "/admin/login", "/admin/dashboard"]) :
    ¬ Opened p req session := by
  simp only [List.mem_cons, List.not_mem_nil, or_false] at listed
  rintro (page | ⟨agent, found, _⟩)
  · obtain ⟨url, _⟩ : (req.url = "/" ∨ req.url = "/login" ∨ req.url = "/register") ∧
      req.method = "GET" := of_decide_eq_true page
    rcases listed with isUrl | isUrl | isUrl <;> rw [isUrl] at url <;> revert url <;> decide
  · have bare : '?' ∉ req.url.toList := by
      rcases listed with isUrl | isUrl | isUrl <;> rw [isUrl] <;> decide
    rw [presented_bare p bare] at found
    cases found

/-- From there the client is sent back. -/
theorem Follows.of_away {url : String} (follows : Follows p secrets visit next url)
    (goes : redirectedTo b p secrets visit = some url)
    (listed : visit.input.url ∈ ["/access-denied", "/admin/login", "/admin/dashboard"]) :
    AtHome next.input ∨ next.input.method = "GET" ∧ RefersTo b next.input :=
  follows.back goes (served_closed secrets (away_closed listed)) (by simp)

/-- Where a `GET` that settles leads. Only one that is turned away does not lead home. -/
theorem Follows.of_get {url : String} (follows : Follows p secrets visit next url)
    (goes : redirectedTo b p secrets visit = some url) (get : visit.input.method = "GET")
    (settles : Settles b p visit) :
    AtHome next.input ∨ TurnedAway p visit.input visit.before ∧
      (next.input.method = "GET" ∧ RefersTo b next.input ∨
        next.input.url ∈ ["/access-denied", "/admin/login", "/admin/dashboard"]) := by
  have told : Told p visit.input visit.before (after p secrets visit) := served_told secrets
  have leadsTo {path : String} (own : path ∈ ownPaths)
      (first : (after p secrets visit).responses.head? = some (.redirect 302 path)) :
      next.input.url = path := by
    rw [redirectedTo_of_first first, b.resolve_own _ _ own] at goes
    rw [follows.url, Option.some.inj goes]
  rcases told with ⟨_, first, ⟨_, method⟩ | ⟨r, stays⟩ | ⟨path, listed⟩ | ⟨fallback, listed, turned⟩ |
    ⟨path, listed, turned⟩ | ⟨throws⟩⟩
  · exact absurd get method
  · unfold redirectedTo at goes
    rw [first] at goes
    split at goes
    · rename_i status page isRedirect
      exact absurd (Option.some.inj isRedirect) (stays status page)
    · cases goes
  · have own : path ∈ ownPaths := by
      simp only [List.mem_cons, List.not_mem_nil, or_false] at listed
      rcases listed with rfl | rfl <;> simp [ownPaths]
    exact .inl ⟨follows.method, leadsTo own first ▸ listed⟩
  · rcases follows.back goes first listed with home | referred
    · exact .inl home
    · exact .inr ⟨turned, .inl referred⟩
  · have own : path ∈ ownPaths := by
      simp only [List.mem_cons, List.not_mem_nil, or_false] at listed
      rcases listed with rfl | rfl | rfl <;> simp [ownPaths]
    exact .inr ⟨turned, .inr (leadsTo own first ▸ listed)⟩
  · exact absurd throws (settles.returns get)

/-- As long as no `GET` of a chain fails and none is turned away from the page its Referer names,
the chain ends, and it has at most four redirects: to some page, to the page for those turned away,
to the page of the Referer, and home. -/
theorem redirects_end (b : Browser) (p : Platform) (secrets : Secrets)
    (visits : Nat → Event Request Server) (chases : Chases b p secrets visits)
    (settled : ∀ n, (∀ m < n, ¬ Rests b p secrets (visits m)) → Settles b p (visits n)) :
    ∃ n ≤ 4, Rests b p secrets (visits n) := by
  by_contra never
  have moves (n : Nat) (bound : n ≤ 4) : ¬ Rests b p secrets (visits n) :=
    fun rests => never ⟨n, bound, rests⟩
  have leads (n : Nat) (bound : n ≤ 4) : ∃ url, redirectedTo b p secrets (visits n) = some url ∧
      Follows p secrets (visits n) (visits (n + 1)) url := by
    obtain ⟨url, goes⟩ := redirected (moves n bound)
    exact ⟨url, goes, chases n url goes⟩
  have settles (n : Nat) (bound : n ≤ 4) : Settles b p (visits n) :=
    settled n fun m before => moves m (by omega)
  have notHome (n : Nat) (bound : n ≤ 4) : ¬ AtHome (visits n).input :=
    fun home => moves n bound home.rests
  -- the page of the Referer is shown, or leads home
  have notReferred (n : Nat) (bound : n < 4) :
      ¬ ((visits n).input.method = "GET" ∧ RefersTo b (visits n).input) := by
    rintro ⟨get, refers⟩
    obtain ⟨url, goes, follows⟩ := leads n bound.le
    rcases follows.of_get goes get (settles n bound.le) with home | ⟨turned, _⟩
    · exact notHome (n + 1) bound home
    · exact (settles n bound.le).welcome get refers turned
  obtain ⟨_, _, first⟩ := leads 0 (by omega)
  obtain ⟨url, goes, follows⟩ := leads 1 (by omega)
  rcases follows.of_get goes first.method (settles 1 (by omega)) with
    home | ⟨_, referred | away⟩
  · exact notHome 2 (by omega) home
  · exact notReferred 2 (by omega) referred
  · obtain ⟨url', goes', follows'⟩ := leads 2 (by omega)
    rcases follows'.of_away goes' away with home | referred
    · exact notHome 3 (by omega) home
    · exact notReferred 3 (by omega) referred

end Chains

section Samples

open Reference

/-- A location of the server, with its origin or without. -/
def locate (location : List Char) : Option String :=
  let origin := "http://localhost:5000".toList
  match if origin.isPrefixOf location then location.drop origin.length else location with
  | [] => some "/"
  | '/' :: rest => some (String.ofList ('/' :: rest))
  | _ => none

def browser : Browser where
  resolve _ location := locate location.toList
  resolve_own _ := by decide

/-- A request for the member page without an agent. -/
def unannounced (referer : String) : Request :=
  { request "s1" "GET" "/memberIndex" with referer := some referer }

theorem unannounced_closed (referer : String) (session : Session) :
    ¬ Opened platform (unannounced referer) session := by
  rintro (page | ⟨agent, found, _⟩)
  · change redirector "/memberIndex" "GET" = true at page
    revert page
    decide
  · have bare : '?' ∉ "/memberIndex".toList := by decide
    rw [presented_bare platform bare] at found
    cases found

theorem unannounced_redirectedTo {referer : String} (filled : referer ≠ "") (s : Server) :
    redirectedTo browser platform keys ⟨unannounced referer, s⟩ = locate referer.toList := by
  have first := served_closed (s := s) keys (unannounced_closed referer _)
  have isReferer : backTo (unannounced referer) "/login" = referer := by
    simp [backTo, unannounced, filled, Option.filter]
  rw [isReferer] at first
  exact redirectedTo_of_first first

/-- The member page sends a visitor back to where the request says it comes from. When that is the
member page, the client is sent there for ever. -/
theorem referer_loops :
    ∃ visits : Nat → Event Request Server,
      visits 0 = ⟨unannounced "http://localhost:5000/memberIndex", start⟩ ∧
      Chases browser platform keys visits ∧ ¬ ∃ n, Rests browser platform keys (visits n) := by
  have loops (s : Server) : redirectedTo browser platform keys
      ⟨unannounced "http://localhost:5000/memberIndex", s⟩ = some "/memberIndex" :=
    (unannounced_redirectedTo (by decide) s).trans (by decide)
  refine ⟨fun n => ⟨unannounced "http://localhost:5000/memberIndex",
    (serve platform keys (unannounced "http://localhost:5000/memberIndex"))^[n] start⟩, rfl, ?_, ?_⟩
  · intro n url goes
    cases Option.some.inj ((loops _).symm.trans goes)
    exact ⟨rfl, rfl, rfl, rfl, Function.iterate_succ_apply' _ _ _⟩
  · rintro ⟨n, _, nowhere⟩
    cases (loops _).symm.trans nowhere

theorem Throws.opened {p : Platform} {req : Request} {s : Server} (throws : Throws p req s) :
    Opened p req ((s.sessions req.sid).getD {}) := by
  cases throws with
  | undecodable _ _ arrives _ => exact arrives.opened
  | lookup _ _ nears _ _ => exact nears.opened
  | search _ _ arrives _ _ => exact arrives.opened
  | logout _ arrives _ _ _ => exact arrives.opened

/-- A visitor who comes from the front page. -/
def homeward : Nat → Event Request Server
  | 0 => ⟨unannounced "http://localhost:5000/", start⟩
  | _ + 1 => ⟨{ request "s1" "GET" "/" with referer := some "http://localhost:5000/" },
      serve platform keys (unannounced "http://localhost:5000/") start⟩

/-- No router but the first sees a request for the front page. -/
theorem front_nears {req : Request} {s : Server} {r : Router} (get : req.method = "GET")
    (front : req.url = "/") (nears : Nears platform req s r) : r = .index := by
  have found : dispatch req.method (platform.pathname req.url) indexRoutes = .found .getIndex [] := by
    rw [get, front]
    decide
  by_contra later
  have earlier : Router.index ∈ r.before := by
    revert later
    cases r <;> decide
  cases found.symm.trans (nears.missed _ earlier)

theorem adminQueries_router {handler : Handler} {table : TableName}
    (listed : table ∈ adminQueries handler) : handler.router = .admin := by
  cases handler <;> first | rfl | simp [adminQueries] at listed

theorem front_settles {visit : Event Request Server} (get : visit.input.method = "GET")
    (front : visit.input.url = "/") : Settles browser platform visit := by
  have found : dispatch visit.input.method (platform.pathname visit.input.url) indexRoutes =
      .found .getIndex [] := by
    rw [get, front]
    decide
  refine ⟨fun _ throws => ?_, fun _ _ turned => ?_⟩
  · cases throws with
    | undecodable r error arrives failed =>
      cases front_nears get front arrives.toNears
      cases found.symm.trans failed
    | lookup r roles nears listed _ =>
      cases front_nears get front nears
      cases listed
    | search handler params arrives _ _ => cases front_nears get front arrives.toNears
    | logout params arrives _ _ _ => cases front_nears get front arrives.toNears
  · cases turned with
    | unopened closed => exact closed (.inl (by simp [redirector, get, front]))
    | gate r roles nears listed _ =>
      cases front_nears get front nears
      cases listed
    | logout params userId arrives _ _ _ => cases front_nears get front arrives.toNears
    | query handler params table arrives _ listed _ =>
      have isIndex := front_nears get front arrives.toNears
      cases isIndex.symm.trans (adminQueries_router listed)

/-- A visitor who is sent back to the front page is shown it. -/
theorem visitor_sent_home : ∃ n ≤ 4, Rests browser platform keys (homeward n) := by
  have goes : redirectedTo browser platform keys (homeward 0) = some "/" :=
    (unannounced_redirectedTo (by decide) start).trans (by decide)
  refine redirects_end browser platform keys homeward ?_ ?_
  · intro n url goes'
    cases n with
    | zero =>
      cases Option.some.inj (goes.symm.trans goes')
      exact ⟨rfl, rfl, rfl, rfl, rfl⟩
    | succ n =>
      have home : AtHome (homeward (n + 1)).input := ⟨rfl, by simp [homeward, request]⟩
      cases home.rests.2.symm.trans goes'
  · intro n _
    cases n with
    | zero =>
      refine ⟨fun _ throws => unannounced_closed _ _ throws.opened, fun _ refers _ => ?_⟩
      obtain ⟨referer, base, sent, _, leads⟩ := refers
      cases Option.some.inj sent
      change locate "http://localhost:5000/".toList = some "/memberIndex" at leads
      revert leads
      decide
    | succ n => exact front_settles rfl rfl

end Samples

end ChurchManagement
