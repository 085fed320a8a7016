import ChurchManagement.Js.Value

namespace Joi

open Js

inductive Kind
  | string
  | date
  deriving DecidableEq, Repr

/-- The checks of one key, as the schema builder chains them. -/
structure Rule where
  kind : Kind := .string
  required : Bool := false
  allowEmpty : Bool := false
  valid : Option (List String) := none
  email : Bool := false

abbrev Schema := List (String × Rule)

/-- What a checked value of the key can be. An empty string passes only where it is allowed,
and a date has been converted. -/
def Rule.Accepts (rule : Rule) : Value → Prop
  | .undefined => rule.required = false
  | .str s => rule.kind = .string ∧ (s = "" → rule.allowEmpty = true) ∧
      ∀ texts, rule.valid = some texts → s ∈ texts
  | .date _ => rule.kind = .date
  | _ => False

/-- An object with keys of the schema only, each passing its rule. -/
def Schema.Accepts (schema : Schema) (value : Value) : Prop :=
  ∃ fields, value = .obj fields ∧ (∀ entry ∈ fields, entry.1 ∈ schema.map Prod.fst) ∧
    ∀ entry ∈ schema, entry.2.Accepts (Value.field entry.1 fields)

structure Validation where
  error : Option (List String)
  value : Value

/-- The validator, with what is documented about it: an absent body passes an object schema
that is not required, any other body passes only when it meets the schema, and a list does not
pass. -/
structure Validator where
  validate : Schema → Value → Validation
  validate_undefined : ∀ schema, validate schema .undefined = ⟨none, .undefined⟩
  validate_ok : ∀ schema body, body ≠ .undefined → (validate schema body).error = none →
    schema.Accepts (validate schema body).value
  validate_array : ∀ schema items, (validate schema (.arr items)).error ≠ none

theorem Rule.accepts_string {rule : Rule} {v : Value} (ok : rule.Accepts v)
    (kind : rule.kind = .string) (required : rule.required = true) :
    ∃ s, v = .str s ∧ (s = "" → rule.allowEmpty = true) ∧
      ∀ texts, rule.valid = some texts → s ∈ texts := by
  cases v with
  | str s => exact ⟨s, rfl, ok.2.1, ok.2.2⟩
  | undefined => simp [Rule.Accepts, required] at ok
  | date iso => simp [Rule.Accepts, kind] at ok
  | null | bool _ | num _ | arr _ | obj _ => exact ok.elim

end Joi
