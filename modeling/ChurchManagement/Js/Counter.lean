import ChurchManagement.Js.Number

namespace Js.Num

/-- A count as a number. -/
def ofNat (n : Nat) : Num := ofDecimal false n 0

/-- The comparison `x >= bound` with a count. -/
def atLeast (bound : Nat) : Num → Bool
  | .infinite neg => !neg
  | .finite neg mant exp =>
    let (n, d) := fraction mant exp
    if neg then bound = 0 && n = 0 else bound * d ≤ n

/-- The sum `x + 1`, rounded to a double. -/
def increment : Num → Num
  | .infinite neg => .infinite neg
  | .finite neg mant exp =>
    let (n, d) := fraction mant exp
    if !neg then ofFraction false (n + d) d
    else if n < d then ofFraction false (d - n) d
    else if n = d then zero
    else ofFraction true (n - d) d

/-- Up to ten, counts are compared and added to as numbers are. -/
theorem ofNat_counts {n : Nat} (few : n ≤ 10) : (ofNat n).atLeast 10 = decide (10 ≤ n) ∧
    (ofNat n).increment = ofNat (n + 1) := by
  have table : ∀ n < 11, (ofNat n).atLeast 10 = decide (10 ≤ n) ∧
      (ofNat n).increment = ofNat (n + 1) := by decide +kernel
  exact table n (Nat.lt_succ_of_le few)

/-- Counts up to ten differ as numbers. -/
theorem ofNat_inj {n m : Nat} (few : n ≤ 10) (few' : m ≤ 10) (same : ofNat n = ofNat m) : n = m := by
  have table : ∀ n < 11, ∀ m < 11, ofNat n = ofNat m → n = m := by decide +kernel
  exact table n (Nat.lt_succ_of_le few) m (Nat.lt_succ_of_le few') same

end Js.Num
