import Mathlib.Data.List.Basic
import ChurchManagement.Js.Value
import ChurchManagement.Js.Uri

namespace Express

open Js

/-- The characters that the URL parsers copy into the pathname as they stand. -/
def plainChar (c : Char) : Bool :=
  ('a' ≤ c && c ≤ 'z') || ('A' ≤ c && c ≤ 'Z') || ('0' ≤ c && c ≤ '9') || c = '-' || c = '/'

/-- The URL functions of the framework, with what is documented about them: a query is what
follows a question mark, and a pathname starts as the URL itself does. -/
structure Urls where
  query : String → String → Value
  query_bare : ∀ url key, '?' ∉ url.toList → query url key = .undefined
  pathname : String → String
  pathname_plain : ∀ url, url.toList.all plainChar = true → pathname url = url
  pathname_start : ∀ start rest, start.toList.all plainChar = true →
    start.toList.head? = some '/' → start.toList[1]? ≠ some '/' → 1 < start.length →
    start.toList <+: (pathname (start ++ rest)).toList

/-- One part of a route path between slashes. -/
inductive Segment
  | lit (text : String)
  | param (name : String)
  deriving DecidableEq, Repr

structure Route (η : Type) where
  method : String
  path : List Segment
  handler : η

def pathParts : List Char → List (List Char) := splitChar '/'

/-- Route paths ignore the case of letters. -/
def sameText (a b : List Char) : Bool := a.map Char.toLower = b.map Char.toLower

/-- The raw parameters of a path that fits the pattern part by part. -/
def matchSegments : List Segment → List (List Char) → Option (List (String × String))
  | [], [] => some []
  | .lit text :: pattern, part :: parts =>
    if sameText part text.toList then matchSegments pattern parts else none
  | .param name :: pattern, part :: parts =>
    if part = [] then none
    else (matchSegments pattern parts).map ((name, String.ofList part) :: ·)
  | _, _ => none

/-- A path fits a pattern exactly, or with one slash after it. -/
def matchPath (pattern : List Segment) (path : String) : Option (List (String × String)) :=
  match pathParts path.toList with
  | [] :: parts =>
    match matchSegments pattern parts with
    | some params => some params
    | none => if parts.getLast? = some [] then matchSegments pattern parts.dropLast else none
  | _ => none

theorem matchSegments_lit {text : String} {pattern : List Segment} {parts : List (List Char)}
    {params : List (String × String)} (fits : matchSegments (.lit text :: pattern) parts = some params) :
    ∃ part rest, parts = part :: rest ∧ sameText part text.toList = true := by
  cases parts with
  | nil => simp [matchSegments] at fits
  | cons part rest =>
    simp only [matchSegments] at fits
    split at fits
    · exact ⟨part, rest, rfl, by assumption⟩
    · simp at fits

/-- A pattern that starts with a text fits a path only when the path starts with it. -/
theorem matchPath_lit {text path : String} {pattern : List Segment} {part rest : List Char}
    {params : List (String × String)} (fits : matchPath (.lit text :: pattern) path = some params)
    (start : path.toList = '/' :: part ++ '/' :: rest) (clean : '/' ∉ part) :
    sameText part text.toList = true := by
  have split : pathParts path.toList = [] :: part :: pathParts rest := by
    rw [start, List.cons_append]
    simp only [pathParts, splitChar, if_pos, splitChar_append clean]
  have head : ∀ parts, matchSegments (.lit text :: pattern) parts = some params →
      parts.head? = some part → sameText part text.toList = true := by
    intro parts fit atHead
    obtain ⟨first, others, same, texts⟩ := matchSegments_lit fit
    subst parts
    rw [List.head?_cons, Option.some.injEq] at atHead
    rwa [← atHead]
  simp only [matchPath, split] at fits
  split at fits
  · rename_i fit
    cases Option.some.inj fits
    exact head _ fit rfl
  · split at fits
    · refine head _ fits ?_
      rw [pathParts, List.dropLast_cons_of_ne_nil (splitChar_ne_nil _ _), List.head?_cons]
    · simp at fits

def decodeParams : List (String × String) → Option (List (String × String))
  | [] => some []
  | (name, raw) :: rest => do some ((name, ← decodeURIComponent raw) :: (← decodeParams rest))

/-- A request with method `HEAD` is answered by the handler for `GET`. -/
def Route.handles {η : Type} (route : Route η) (method : String) : Bool :=
  route.method = method || (method = "HEAD" && route.method = "GET")

inductive Dispatch (η : Type)
  | missed
  | failed (error : String)
  | found (handler : η) (params : List (String × String))
  deriving DecidableEq, Repr

def Dispatch.target {η : Type} : Dispatch η → Option η
  | .found handler _ => some handler
  | _ => none

/-- The first route whose path and method fit. A parameter that does not decode fails the
request, whichever method its route is for. -/
def dispatch {η : Type} (method path : String) : List (Route η) → Dispatch η
  | [] => .missed
  | route :: rest =>
    match matchPath route.path path with
    | none => dispatch method path rest
    | some raw =>
      match decodeParams raw with
      | none => .failed "URIError: Failed to decode param"
      | some params =>
        if route.handles method then .found route.handler params else dispatch method path rest

theorem dispatch_found {η : Type} {method path : String} {routes : List (Route η)} {handler : η}
    {params : List (String × String)} (run : dispatch method path routes = .found handler params) :
    ∃ route ∈ routes, route.handler = handler ∧ route.handles method = true ∧
      (matchPath route.path path).isSome = true := by
  induction routes with
  | nil => simp [dispatch] at run
  | cons route rest ih =>
    have later (tail : dispatch method path rest = .found handler params) :
        ∃ other ∈ route :: rest, other.handler = handler ∧ other.handles method = true ∧
          (matchPath other.path path).isSome = true := by
      obtain ⟨other, member, facts⟩ := ih tail
      exact ⟨other, List.mem_cons_of_mem _ member, facts⟩
    simp only [dispatch] at run
    split at run
    · exact later run
    · rename_i fits
      split at run
      · simp at run
      · split at run
        · rename_i fit
          cases run
          exact ⟨route, List.mem_cons_self, rfl, fit, by rw [fits]; rfl⟩
        · exact later run

end Express
