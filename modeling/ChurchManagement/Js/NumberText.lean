import ChurchManagement.Js.Decrement
import ChurchManagement.Js.Json

namespace Js

/-- White space and line ends. -/
def isWhite (c : Char) : Bool :=
  let n := c.toNat
  (9 ≤ n && n ≤ 13) || n = 0x20 || n = 0xA0 || n = 0x1680 || (0x2000 ≤ n && n ≤ 0x200A) ||
    n = 0x2028 || n = 0x2029 || n = 0x202F || n = 0x205F || n = 0x3000 || n = 0xFEFF

def trimStart (text : List Char) : List Char := text.dropWhile isWhite

/-- `text.trim()`. -/
def trim (text : List Char) : List Char := (trimStart (trimStart text).reverse).reverse

/-- A sign in front of a number. -/
def signed : List Char → Bool × List Char
  | '+' :: rest => (false, rest)
  | '-' :: rest => (true, rest)
  | text => (false, text)

/-- The value of a character as a digit of a radix up to sixteen. -/
def digitIn (radix : Nat) (c : Char) : Option Nat := (hexDigit c).filter (· < radix)

/-- The digits a text starts with. -/
def leadingDigits (radix : Nat) : List Char → List Nat
  | [] => []
  | c :: rest =>
    match digitIn radix c with
    | some d => d :: leadingDigits radix rest
    | none => []

def radixValue (radix : Nat) (ds : List Nat) : Nat := ds.foldl (fun acc d => acc * radix + d) 0

/-- `parseInt(text)`: white space, a sign and as many digits as there are; `none` is `NaN`. The
integer is exact, where the language rounds it to a double. -/
def parseInt (text : String) : Option Int :=
  let (negative, rest) := signed (trimStart text.toList)
  let (radix, rest) := match rest with
    | '0' :: 'x' :: rest | '0' :: 'X' :: rest => (16, rest)
    | rest => (10, rest)
  match leadingDigits radix rest with
  | [] => none
  | ds => some (if negative then -(radixValue radix ds : Int) else radixValue radix ds)

/-- `Number.isInteger` of a parsed integer, which fails where it is rounded to an infinity. -/
def isInteger (n : Int) : Bool := decide (n.natAbs < 2 ^ 1024 - 2 ^ 970)

theorem isInteger_of_le {n : Int} (small : n.natAbs ≤ 2 ^ 53) : isInteger n = true :=
  decide_eq_true (Nat.lt_of_le_of_lt small (by decide +kernel))

/-- A text that is nothing but digits of the radix. -/
def radixNumber (radix : Nat) (text : List Char) : Option Num :=
  match text.mapM (digitIn radix) with
  | none | some [] => none
  | some ds => some (Num.ofDecimal false (radixValue radix ds) 0)

/-- The digits behind a point, if there is one. -/
def pointDigits : List Char → List Nat × List Char
  | '.' :: rest => Json.digits rest
  | rest => ([], rest)

/-- A decimal literal with an optional sign, which is all of the text. Digits may stand on
either side of the point. -/
def decimalNumber (text : List Char) : Option Num :=
  let (negative, rest) := signed text
  if rest = "Infinity".toList then some (.infinite negative)
  else
    let (ds, rest) := Json.digits rest
    let (fs, rest) := pointDigits rest
    if ds = [] ∧ fs = [] then none
    else match Json.exponent rest with
      | some (e, []) => some (Num.ofDecimal negative (Json.digitsValue (ds ++ fs)) (e - fs.length))
      | _ => none

/-- The conversion of a string to a number, as operators make it; `none` is `NaN`. -/
def toNumber (text : String) : Option Num :=
  match trim text.toList with
  | [] => some .zero
  | '0' :: 'x' :: rest | '0' :: 'X' :: rest => radixNumber 16 rest
  | '0' :: 'o' :: rest | '0' :: 'O' :: rest => radixNumber 8 rest
  | '0' :: 'b' :: rest | '0' :: 'B' :: rest => radixNumber 2 rest
  | rest => decimalNumber rest

theorem short_radixNumber {radix : Nat} {text : List Char} {v : Num}
    (read : radixNumber radix text = some v) : v.Short := by
  unfold radixNumber at read
  split at read
  · cases read
  · cases read
  · cases Option.some.inj read
    exact Num.short_ofDecimal _ _ _

theorem short_decimalNumber {text : List Char} {v : Num} (read : decimalNumber text = some v) :
    v.Short := by
  unfold decimalNumber at read
  dsimp only at read
  split at read
  · cases Option.some.inj read
    exact trivial
  · split at read
    · cases read
    · split at read
      · cases Option.some.inj read
        exact Num.short_ofDecimal _ _ _
      · cases read

/-- A text is read as a double. -/
theorem short_toNumber {text : String} {v : Num} (read : toNumber text = some v) : v.Short := by
  unfold toNumber at read
  split at read
  · cases Option.some.inj read
    exact ⟨by norm_num, le_refl _⟩
  all_goals first
    | exact short_radixNumber read
    | exact short_decimalNumber read

end Js
