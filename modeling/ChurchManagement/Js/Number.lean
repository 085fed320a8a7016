import Mathlib.Algebra.Group.Nat.Defs
import Mathlib.Data.Nat.Log

namespace Js

/-- The numbers a JSON text can denote: a finite double with value `mant * 2 ^ exp`, or an
infinity. The two zeros are one number here, since no operation below tells them apart. -/
inductive Num
  | finite (neg : Bool) (mant : Nat) (exp : Int)
  | infinite (neg : Bool)
  deriving DecidableEq, Repr, Inhabited

namespace Num

def zero : Num := .finite false 0 (-1074)

/-- Zero is the only falsy number a JSON text denotes; there is no `NaN` in JSON. -/
def truthy : Num → Bool
  | .finite _ mant _ => mant != 0
  | .infinite _ => true

/-- Division rounded to the nearest integer, ties going to the even quotient. -/
def divRound (n d : Nat) : Nat :=
  let q := n / d
  let r := n % d
  if d < 2 * r ∨ (2 * r = d ∧ q % 2 = 1) then q + 1 else q

/-- The fraction `n / d` scaled by `2 ^ (-e)`, again as a fraction. -/
def scale (n d : Nat) (e : Int) : Nat × Nat :=
  if 0 ≤ e then (n, d * 2 ^ e.toNat) else (n * 2 ^ (-e).toNat, d)

/-- The exponent at which the fraction `n / d` has a mantissa of 53 bits, cut off at the
smallest exponent of the format. -/
def binaryExp (n d : Nat) : Int :=
  let guess : Int := (Nat.log 2 n : Int) - Nat.log 2 d - 52
  let (n', d') := scale n d guess
  let exact := if n' / d' < 2 ^ 52 then guess - 1 else guess
  max exact (-1074)

/-- The double nearest to the positive fraction `n / d`. -/
def ofFraction (neg : Bool) (n d : Nat) : Num :=
  let e := binaryExp n d
  let (n', d') := scale n d e
  let m := divRound n' d'
  -- rounding up to 2 ^ 53 moves to the next exponent
  let (m, e) := if m = 2 ^ 53 then (2 ^ 52, e + 1) else (m, e)
  if m = 0 then zero
  else if 971 < e then .infinite neg
  else .finite neg m e

/-- The number a decimal literal denotes: `digits * 10 ^ exp`, rounded to a double. The two
cut-offs lie well outside the range of the format and only keep the powers of ten small. -/
def ofDecimal (neg : Bool) (digits : Nat) (exp : Int) : Num :=
  let size : Int := (Nat.log 10 digits : Int) + 1 + exp
  if digits = 0 ∨ size < -400 then zero
  else if 400 < size then .infinite neg
  else if 0 ≤ exp then ofFraction neg (digits * 10 ^ exp.toNat) 1
  else ofFraction neg digits (10 ^ (-exp).toNat)

/-- A positive double as an exact fraction. -/
def fraction (mant : Nat) (exp : Int) : Nat × Nat :=
  if 0 ≤ exp then (mant * 2 ^ exp.toNat, 1) else (mant, 2 ^ (-exp).toNat)

/-- The `s` with `10 ^ (s - 1) ≤ n / d < 10 ^ s`. -/
def decimalExp (n d : Nat) : Int :=
  let guess : Int := (Nat.log 10 n : Int) - Nat.log 10 d
  let reached := if 0 ≤ guess then d * 10 ^ guess.toNat ≤ n else d ≤ n * 10 ^ (-guess).toNat
  if reached then guess + 1 else guess

/-- The shortest digits that read back as the double, as `(digits, count, s)` with value
`digits * 10 ^ (s - count)`. Seventeen digits suffice for every double. -/
def shortest (mant : Nat) (exp : Int) : Nat × Nat × Int :=
  let (n, d) := fraction mant exp
  let s := decimalExp n d
  let candidate (k : Nat) : Nat :=
    let shift : Int := k - s
    if 0 ≤ shift then divRound (n * 10 ^ shift.toNat) d else divRound n (d * 10 ^ (-shift).toNat)
  let count := ((List.range 17).map (· + 1)).find? fun k =>
    ofDecimal false (candidate k) (s - k) = .finite false mant exp
  let k := count.getD 17
  -- a candidate that rounds up to the next power of ten has the single digit 1
  if candidate k = 10 ^ k then (1, 1, s + 1) else (candidate k, k, s)

def zeros (n : Nat) : String := String.ofList (List.replicate n '0')

/-- The layout of `Number::toString`: plain decimals while the point lies near the digits, an
exponent otherwise. -/
def layout (digits : String) (k : Nat) (s : Int) : String :=
  let point := String.ofList (digits.toList.take s.toNat) ++ "." ++
    String.ofList (digits.toList.drop s.toNat)
  if (k : Int) ≤ s ∧ s ≤ 21 then digits ++ zeros (s - k).toNat
  else if 0 < s ∧ s ≤ 21 then point
  else if -6 < s ∧ s ≤ 0 then "0." ++ zeros (-s).toNat ++ digits
  else
    let e := s - 1
    let sign := if 0 ≤ e then "+" else "-"
    let mantissa := if k = 1 then digits else
      String.ofList (digits.toList.take 1) ++ "." ++ String.ofList (digits.toList.drop 1)
    mantissa ++ "e" ++ sign ++ toString e.natAbs

/-- `Number::toString`. -/
def toText : Num → String
  | .infinite neg => if neg then "-Infinity" else "Infinity"
  | .finite neg mant exp =>
    if mant = 0 then "0"
    else
      let (digits, k, s) := shortest mant exp
      (if neg then "-" else "") ++ layout (toString digits) k s

end Num

end Js
