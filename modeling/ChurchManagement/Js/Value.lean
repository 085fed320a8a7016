import Mathlib.Data.List.Basic
import ChurchManagement.Js.Number

namespace Js

/-- The pieces of a text between the occurrences of a separator. -/
def splitChar (sep : Char) : List Char → List (List Char)
  | [] => [[]]
  | c :: rest =>
    if c = sep then [] :: splitChar sep rest
    else match splitChar sep rest with
      | [] => [[c]]
      | part :: parts => (c :: part) :: parts

theorem splitChar_ne_nil (sep : Char) (text : List Char) : splitChar sep text ≠ [] := by
  cases text with
  | nil => simp [splitChar]
  | cons c rest =>
    simp only [splitChar]
    split
    · simp
    · split <;> simp

theorem splitChar_plain {sep : Char} {text : List Char} (clean : sep ∉ text) :
    splitChar sep text = [text] := by
  induction text with
  | nil => rfl
  | cons c text ih =>
    have different : c ≠ sep := fun same => clean (same ▸ List.mem_cons_self)
    have tail := ih fun member => clean (List.mem_cons_of_mem _ member)
    simp only [splitChar, if_neg different, tail]

theorem splitChar_append {sep : Char} {part : List Char} (clean : sep ∉ part)
    (rest : List Char) : splitChar sep (part ++ sep :: rest) = part :: splitChar sep rest := by
  induction part with
  | nil => simp [splitChar]
  | cons c part ih =>
    have different : c ≠ sep := fun same => clean (same ▸ List.mem_cons_self)
    have tail := ih fun member => clean (List.mem_cons_of_mem _ member)
    simp only [List.cons_append, splitChar, if_neg different, tail]

/-- The values that requests, sessions and table rows carry. A `Date` is given by its ISO text.
The keys of an object are distinct, as they are in the language. -/
inductive Value
  | undefined
  | null
  | bool (b : Bool)
  | num (n : Num)
  | str (s : String)
  | date (iso : String)
  | arr (items : List Value)
  | obj (fields : List (String × Value))
  deriving Repr, Inhabited

namespace Value

mutual

def beq : Value → Value → Bool
  | .undefined, .undefined | .null, .null => true
  | .bool a, .bool b => a == b
  | .num a, .num b => a == b
  | .str a, .str b => a == b
  | .date a, .date b => a == b
  | .arr a, .arr b => beqItems a b
  | .obj a, .obj b => beqFields a b
  | _, _ => false

def beqItems : List Value → List Value → Bool
  | [], [] => true
  | a :: as, b :: bs => beq a b && beqItems as bs
  | _, _ => false

def beqFields : List (String × Value) → List (String × Value) → Bool
  | [], [] => true
  | (k, a) :: as, (l, b) :: bs => k == l && beq a b && beqFields as bs
  | _, _ => false

end

mutual

theorem beq_iff : ∀ a b : Value, beq a b = true ↔ a = b
  | .arr a, b => by cases b <;> simp [beq, beqItems_iff a]
  | .obj a, b => by cases b <;> simp [beq, beqFields_iff a]
  | .undefined, b | .null, b | .bool _, b | .num _, b | .str _, b | .date _, b => by
    cases b <;> simp [beq]

theorem beqItems_iff : ∀ a b : List Value, beqItems a b = true ↔ a = b
  | [], b => by cases b <;> simp [beqItems]
  | a :: as, b => by cases b <;> simp [beqItems, beq_iff a, beqItems_iff as]

theorem beqFields_iff : ∀ a b : List (String × Value), beqFields a b = true ↔ a = b
  | [], b => by cases b <;> simp [beqFields]
  | (k, a) :: as, b => by
    cases b <;> simp [beqFields, beq_iff a, beqFields_iff as, Prod.ext_iff]

end

instance : DecidableEq Value := fun a b => decidable_of_iff _ (beq_iff a b)

def truthy : Value → Bool
  | .undefined | .null => false
  | .bool b => b
  | .num n => n.truthy
  | .str s => s != ""
  | .date _ | .arr _ | .obj _ => true

/-- The operator `a || b`. -/
def orElse (a b : Value) : Value := if a.truthy then a else b

/-- The operator `===`. Objects compare by identity, and the operands compared below are always
built separately, so two of them are never the same object. -/
def strictEq : Value → Value → Bool
  | .undefined, .undefined | .null, .null => true
  | .bool a, .bool b => a == b
  | .num a, .num b => a == b
  | .str a, .str b => a == b
  | _, _ => false

theorem strictEq_str_iff {v : Value} {s : String} : strictEq v (.str s) = true ↔ v = .str s := by
  cases v <;> simp [strictEq]

def field (key : String) (fields : List (String × Value)) : Value :=
  ((fields.find? fun entry => entry.1 == key).map Prod.snd).getD .undefined

/-- Reading a property. Only the keys of objects are kept: no key read below is one that
strings, numbers or arrays have. -/
def prop (key : String) : Value → Except String Value
  | .undefined =>
    .error ("TypeError: Cannot read properties of undefined (reading '" ++ key ++ "')")
  | .null => .error ("TypeError: Cannot read properties of null (reading '" ++ key ++ "')")
  | .obj fields => .ok (field key fields)
  | _ => .ok .undefined

/-- A value without one property is null or undefined, so it has no other either. -/
theorem prop_of_error {v value : Value} {key other error : String}
    (threw : v.prop key = .error error) : v.prop other ≠ .ok value := by
  cases v <;> simp_all [prop]

theorem falsy_of_error {v : Value} {key error : String} (threw : v.prop key = .error error) :
    v.truthy = false := by
  cases v with
  | undefined | null => rfl
  | bool _ | num _ | str _ | date _ | arr _ | obj _ => simp [prop] at threw

/-- A property of a value known to be neither null nor undefined. -/
def propD (v : Value) (key : String) : Value := (v.prop key).toOption.getD .undefined

def joinComma : List String → String
  | [] => ""
  | [s] => s
  | s :: rest => s ++ "," ++ joinComma rest

mutual

/-- The conversion to a string that a template literal makes. An object with a `toString` key
of its own hides the inherited method, and the conversion throws. -/
def toText : Value → Option String
  | .undefined => some "undefined"
  | .null => some "null"
  | .bool b => some (if b then "true" else "false")
  | .num n => some n.toText
  | .str s => some s
  | .date iso => some iso
  | .arr items => (itemTexts items).map joinComma
  | .obj fields => if fields.any fun entry => entry.1 == "toString" then none
    else some "[object Object]"

def itemTexts : List Value → Option (List String)
  | [] => some []
  | .undefined :: rest | .null :: rest => (itemTexts rest).map ("" :: ·)
  | v :: rest => do some ((← toText v) :: (← itemTexts rest))

end

@[simp] theorem toText_str (s : String) : (Value.str s).toText = some s := by simp [toText]

@[simp] theorem truthy_undefined : Value.undefined.truthy = false := rfl

@[simp] theorem truthy_null : Value.null.truthy = false := rfl

@[simp] theorem truthy_bool (b : Bool) : (Value.bool b).truthy = b := rfl

theorem truthy_str {s : String} : (Value.str s).truthy = true ↔ s ≠ "" := by simp [truthy]

theorem orElse_of_truthy {a : Value} (h : a.truthy = true) (b : Value) : a.orElse b = a := by
  simp [orElse, h]

end Value

end Js
