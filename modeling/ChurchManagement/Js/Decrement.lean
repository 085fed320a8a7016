import ChurchManagement.Js.Decimal

namespace Js.Num

/-- The number a double stands for; an infinity stands for none. -/
def value : Num → Option ℚ
  | .finite neg mant exp => some ((if neg then -1 else 1) * (mant * 2 ^ exp))
  | .infinite _ => none

/-- The comparison `x > 0`. -/
def positive : Num → Bool
  | .finite neg mant _ => !neg && mant != 0
  | .infinite neg => !neg

/-- The operator `x--`: the double nearest to `x - 1`. -/
def decrement : Num → Num
  | .infinite neg => .infinite neg
  | .finite neg mant exp =>
    let (n, d) := fraction mant exp
    if neg then ofFraction true (n + d) d
    else if d < n then ofFraction false (n - d) d
    else if n = d then zero
    else ofFraction true (d - n) d

/-- A mantissa of at most 53 bits, as every double has one. -/
def Short : Num → Prop
  | .finite _ mant exp => mant < 2 ^ 53 ∧ -1074 ≤ exp
  | .infinite _ => True

section Values

variable {mant : Nat} {exp : Int} {v : Num} {q : ℚ}

theorem positive_of_value (isValue : v.value = some q) : v.positive = true ↔ 0 < q := by
  cases v with
  | infinite neg => cases isValue
  | finite neg mant exp =>
    cases Option.some.inj isValue
    have power : (0 : ℚ) < 2 ^ exp := zpow_pos (by norm_num) exp
    have size : (0 : ℚ) ≤ mant * 2 ^ exp := by positivity
    cases neg with
    | true =>
      have below : ¬ 0 < (if true then -1 else 1) * ((mant : ℚ) * 2 ^ exp) := by
        simp only [if_true]
        linarith
      exact iff_of_false (by simp [positive]) below
    | false =>
      simp only [positive, Bool.not_false, Bool.true_and, bne_iff_ne, Bool.false_eq_true, if_false,
        one_mul]
      constructor
      · intro filled
        have some : (0 : ℚ) < mant := by exact_mod_cast Nat.pos_of_ne_zero filled
        exact mul_pos some power
      · rintro above rfl
        simp at above

/-- A number without a value is infinite. -/
theorem infinite_of_value (none : v.value = none) : ∃ neg, v = .infinite neg := by
  cases v with
  | infinite neg => exact ⟨neg, rfl⟩
  | finite neg mant exp => cases none

end Values

section Exact

variable {n d mant : Nat} {exp : Int}

/-- Every short mantissa can be shifted to a double of the same value. -/
theorem exists_double (filled : mant ≠ 0) (short : mant < 2 ^ 53) (low : -1074 ≤ exp)
    (high : exp ≤ 971) :
    ∃ mant' exp', Double mant' exp' ∧ (mant' : ℚ) * 2 ^ exp' = mant * 2 ^ exp := by
  have bits : Nat.log 2 mant < 53 := (Nat.log_lt_iff_lt_pow one_lt_two filled).mpr short
  obtain ⟨k, isShift⟩ : ∃ k : Nat, (k : Int) = min (52 - (Nat.log 2 mant : Int)) (exp + 1074) :=
    ⟨_, Int.toNat_of_nonneg (by omega)⟩
  have size : mant * 2 ^ k < 2 ^ 53 := by
    calc mant * 2 ^ k < 2 ^ (Nat.log 2 mant + 1) * 2 ^ k :=
          Nat.mul_lt_mul_of_pos_right (Nat.lt_pow_succ_log_self one_lt_two mant) (Nat.two_pow_pos k)
      _ = 2 ^ (Nat.log 2 mant + 1 + k) := (Nat.pow_add ..).symm
      _ ≤ 2 ^ 53 := Nat.pow_le_pow_right (by norm_num) (by omega)
  refine ⟨mant * 2 ^ k, exp - k, ⟨?_, size, by omega, by omega, ?_⟩, ?_⟩
  · exact (Nat.mul_pos (Nat.pos_of_ne_zero filled) (Nat.two_pow_pos k)).ne'
  · by_cases least : exp - k = -1074
    · exact .inr least
    · left
      calc 2 ^ 52 = 2 ^ Nat.log 2 mant * 2 ^ k := by
            rw [← Nat.pow_add]
            congr 1
            omega
        _ ≤ mant * 2 ^ k := Nat.mul_le_mul_right _ (Nat.pow_log_le_self 2 filled)
  · push_cast
    rw [mul_assoc, ← zpow_natCast, ← zpow_add₀ two_ne_zero]
    congr 2
    omega

/-- A fraction that a double stands for is rounded to it. -/
theorem ofFraction_exact (neg : Bool) (hn : 0 < n) (hd : 0 < d) (double : Double mant exp)
    (exact : (n : ℚ) / d = mant * 2 ^ exp) : ofFraction neg n d = .finite neg mant exp := by
  have scaled : (n : ℚ) / d * 2 ^ (-exp) = mant := by
    rw [exact, mul_assoc, ← zpow_add₀ two_ne_zero, add_neg_cancel, zpow_zero, mul_one]
  refine ofFraction_near neg hn hd double ?_ ?_ ?_
  · rw [scaled]
    linarith
  · rw [scaled]
    linarith
  · intro _
    rw [scaled]
    linarith

/-- What rounding makes of a fraction before the range of the format is looked at. -/
theorem ofFraction_rounded (neg : Bool) (hn : 0 < n) (hd : 0 < d) :
    ∃ mant exp, ofFraction neg n d =
        (if mant = 0 then zero else if 971 < exp then .infinite neg else .finite neg mant exp) ∧
      mant < 2 ^ 53 ∧ -1074 ≤ exp ∧
      ((2 : ℚ) ^ 52 ≤ n / d → 2 ^ 52 ≤ mant ∧ 0 ≤ exp) := by
  have positive : 0 < (n : ℚ) / d := by positivity
  generalize isExp : binaryExp n d = e
  have exponent := binaryExp_eq hn hd
  rw [isExp] at exponent
  have most : (n : ℚ) / d * 2 ^ (-e) < 2 ^ 53 := by
    have bound := (mul_zpow_lt_iff one_lt_two positive e 53).mpr (by omega)
    exact_mod_cast bound
  have near := abs_le.mp (divRound_abs (n := (scale n d e).1) (scale_positive (n := n) hd e))
  rw [scale_value] at near
  generalize isMant : divRound (scale n d e).1 (scale n d e).2 = m at near
  have short : m ≤ 2 ^ 53 := by
    have less : (m : ℚ) < 2 ^ 53 + 1 := by linarith
    have less' : m < 2 ^ 53 + 1 := by exact_mod_cast less
    omega
  have large (big : (2 : ℚ) ^ 52 ≤ n / d) : 2 ^ 52 ≤ m ∧ 0 ≤ e := by
    have log : 52 ≤ Int.log 2 ((n : ℚ) / d) :=
      (Int.zpow_le_iff_le_log one_lt_two positive).mp (by exact_mod_cast big)
    have least : ¬ (n : ℚ) / d * 2 ^ (-e) < 2 ^ 52 := by
      have bound := (mul_zpow_lt_iff one_lt_two positive e 52).not.mpr (by omega)
      exact_mod_cast bound
    have more : (2 : ℚ) ^ 52 < m + 1 := by linarith
    have more' : 2 ^ 52 < m + 1 := by exact_mod_cast more
    exact ⟨by omega, by omega⟩
  unfold ofFraction
  simp only [isExp, isMant]
  by_cases full : m = 2 ^ 53
  · refine ⟨2 ^ 52, e + 1, by simp only [if_pos full], by norm_num, by omega, fun big => ?_⟩
    exact ⟨Nat.le_refl _, by have := (large big).2; omega⟩
  · exact ⟨m, e, by simp only [if_neg full], by omega, by omega, large⟩

theorem short_ofFraction (neg : Bool) (hn : 0 < n) (hd : 0 < d) : (ofFraction neg n d).Short := by
  obtain ⟨mant, exp, isRounded, short, low, _⟩ := ofFraction_rounded neg hn hd
  rw [isRounded]
  split
  · exact ⟨by norm_num, le_refl _⟩
  · split
    · exact trivial
    · exact ⟨short, low⟩

theorem short_ofDecimal (neg : Bool) (digits : Nat) (exp : Int) : (ofDecimal neg digits exp).Short := by
  by_cases small : digits = 0 ∨ (Nat.log 10 digits : Int) + 1 + exp < -400
  · simp only [ofDecimal, if_pos small]
    exact ⟨by norm_num, le_refl _⟩
  · by_cases large : 400 < (Nat.log 10 digits : Int) + 1 + exp
    · simp only [ofDecimal, if_neg small, if_pos large]
      exact trivial
    · obtain ⟨filled, low⟩ := not_or.mp small
      obtain ⟨n, d, hn, hd, _, same⟩ := ofDecimal_fraction neg filled
        (show -400 ≤ (Nat.log 10 digits : Int) + 1 + exp by omega) (by omega)
      rw [same]
      exact short_ofFraction neg hn hd

end Exact

section Decrement

variable {mant : Nat} {exp : Int} {v : Num} {q : ℚ}

/-- A positive number with a value is a mantissa with an exponent. -/
theorem finite_of_positive (isValue : v.value = some q) (above : 0 < q) :
    ∃ mant exp, v = .finite false mant exp ∧ mant ≠ 0 ∧ q = mant * 2 ^ exp := by
  have positive := (positive_of_value isValue).mpr above
  cases v with
  | infinite neg => cases isValue
  | finite neg mant exp =>
    cases neg with
    | true => cases positive
    | false =>
      refine ⟨mant, exp, rfl, by simpa [Num.positive] using positive, ?_⟩
      simpa [value] using isValue.symm

/-- One less than the fraction of a number above one. -/
theorem fraction_pred (filled : mant ≠ 0) (above : (1 : ℚ) < mant * 2 ^ exp) :
    (fraction mant exp).2 < (fraction mant exp).1 ∧
      (((fraction mant exp).1 - (fraction mant exp).2 : Nat) : ℚ) / (fraction mant exp).2 =
        mant * 2 ^ exp - 1 := by
  have value := fraction_value mant exp
  have hd := (fraction_positive filled exp).2
  have dPos : (0 : ℚ) < (fraction mant exp).2 := by exact_mod_cast hd
  have less : (fraction mant exp).2 < (fraction mant exp).1 := by
    rw [← value, lt_div_iff₀ dPos, one_mul] at above
    exact_mod_cast above
  refine ⟨less, ?_⟩
  rw [Nat.cast_sub less.le, sub_div, value, div_self dPos.ne']

theorem decrement_above (filled : mant ≠ 0) (above : (1 : ℚ) < mant * 2 ^ exp) :
    decrement (.finite false mant exp) =
      ofFraction false ((fraction mant exp).1 - (fraction mant exp).2) (fraction mant exp).2 := by
  simp only [decrement, Bool.false_eq_true, if_false, if_pos (fraction_pred filled above).1]

/-- One less than a number of 53 bits has 53 bits. -/
theorem exists_double_pred (short : mant < 2 ^ 53) (low : -1074 ≤ exp)
    (above : (1 : ℚ) < mant * 2 ^ exp) (below : (mant : ℚ) * 2 ^ exp ≤ 2 ^ 53) :
    ∃ mant' exp', Double mant' exp' ∧ (mant' : ℚ) * 2 ^ exp' = mant * 2 ^ exp - 1 := by
  by_cases whole : 0 ≤ exp
  · obtain ⟨e, rfl⟩ := Int.eq_ofNat_of_zero_le whole
    rw [zpow_natCast] at above below ⊢
    have above' : 1 < mant * 2 ^ e := by exact_mod_cast above
    have below' : mant * 2 ^ e ≤ 2 ^ 53 := by exact_mod_cast below
    obtain ⟨mant', exp', double, same⟩ := exists_double
      (show mant * 2 ^ e - 1 ≠ 0 by omega) (by omega) (show -1074 ≤ (0 : Int) by norm_num)
      (by norm_num)
    refine ⟨mant', exp', double, ?_⟩
    rw [same, zpow_zero, mul_one, Nat.cast_sub above'.le]
    push_cast
    rfl
  · obtain ⟨e, isE⟩ := Int.eq_ofNat_of_zero_le (show 0 ≤ -exp by omega)
    have isExp : exp = -(e : Int) := by omega
    have power : (0 : ℚ) < 2 ^ e := by positivity
    have unit : (2 : ℚ) ^ e * 2 ^ exp = 1 := by
      rw [isExp, ← zpow_natCast, ← zpow_add₀ two_ne_zero, add_neg_cancel, zpow_zero]
    have above' : 2 ^ e < mant := by
      rw [isExp, zpow_neg, zpow_natCast, ← div_eq_mul_inv, lt_div_iff₀ power, one_mul] at above
      exact_mod_cast above
    obtain ⟨mant', exp', double, same⟩ := exists_double
      (Nat.sub_pos_of_lt above').ne' (Nat.lt_of_le_of_lt (Nat.sub_le _ _) short) low (by omega)
    refine ⟨mant', exp', double, ?_⟩
    rw [same, Nat.cast_sub above'.le, sub_mul]
    push_cast
    rw [unit]

theorem fraction_denominator (mant : Nat) (exp : Int) : 0 < (fraction mant exp).2 := by
  unfold fraction
  split
  · exact Nat.one_pos
  · exact Nat.two_pow_pos _

theorem short_decrement (v : Num) : v.decrement.Short := by
  cases v with
  | infinite neg => exact trivial
  | finite neg mant exp =>
    have hd := fraction_denominator mant exp
    simp only [decrement]
    split
    · exact short_ofFraction true (Nat.add_pos_right _ hd) hd
    · split
      · rename_i more
        exact short_ofFraction false (Nat.sub_pos_of_lt more) hd
      · split
        · exact ⟨by norm_num, le_refl _⟩
        · exact short_ofFraction true (by omega) hd

/-- Up to the largest mantissa, one less is not rounded. -/
theorem decrement_exact (short : v.Short) (isValue : v.value = some q) (above : 1 < q)
    (below : q ≤ 2 ^ 53) : v.decrement.value = some (q - 1) := by
  obtain ⟨mant, exp, rfl, filled, rfl⟩ := finite_of_positive isValue (by linarith)
  obtain ⟨less, isPred⟩ := fraction_pred filled above
  obtain ⟨mant', exp', double, same⟩ := exists_double_pred short.1 short.2 above below
  have exact := ofFraction_exact false (Nat.sub_pos_of_lt less) (fraction_positive filled exp).2 double
    (isPred.trans same.symm)
  rw [decrement_above filled above, exact]
  simp only [value, Bool.false_eq_true, if_false, one_mul, same]

theorem positive_ofFraction_true (n d : Nat) : (ofFraction true n d).positive = false := by
  unfold ofFraction
  dsimp only
  generalize (if _ = 2 ^ 53 then _ else _ : Nat × Int) = rounded
  split
  · rfl
  · split
    · rfl
    · rfl

/-- One less than a number up to one is not positive. -/
theorem decrement_small (isValue : v.value = some q) (above : 0 < q) (least : q ≤ 1) :
    v.decrement.positive = false := by
  obtain ⟨mant, exp, rfl, filled, rfl⟩ := finite_of_positive isValue above
  have dPos : (0 : ℚ) < (fraction mant exp).2 := by
    exact_mod_cast (fraction_positive filled exp).2
  have notLess : ¬ (fraction mant exp).2 < (fraction mant exp).1 := by
    rw [← fraction_value, div_le_iff₀ dPos, one_mul] at least
    exact Nat.not_lt.mpr (by exact_mod_cast least)
  simp only [decrement, Bool.false_eq_true, if_false, if_neg notLess]
  split
  · rfl
  · exact positive_ofFraction_true _ _

/-- Beyond the largest mantissa a number stays far away from zero. -/
theorem decrement_large (isValue : v.value = some q) (large : 2 ^ 53 < q) :
    v.decrement.positive = true ∧ ∀ r, v.decrement.value = some r → 2 ^ 52 ≤ r := by
  obtain ⟨mant, exp, rfl, filled, rfl⟩ := finite_of_positive isValue (by linarith)
  have above : (1 : ℚ) < mant * 2 ^ exp := by linarith
  obtain ⟨less, isPred⟩ := fraction_pred filled above
  have hn := Nat.sub_pos_of_lt less
  have hd := (fraction_positive filled exp).2
  obtain ⟨m, e, isRounded, _, _, big⟩ := ofFraction_rounded false hn hd
  obtain ⟨most, whole⟩ := big (by rw [isPred]; linarith)
  have some : m ≠ 0 := by omega
  rw [decrement_above filled above, isRounded, if_neg some]
  split
  · exact ⟨rfl, fun r isNumber => by cases isNumber⟩
  · refine ⟨by simp [positive, some], fun r isNumber => ?_⟩
    cases Option.some.inj isNumber
    have power : (1 : ℚ) ≤ 2 ^ e := one_le_zpow₀ (by norm_num) whole
    have least : (2 : ℚ) ^ 52 ≤ m := by exact_mod_cast most
    simp only [Bool.false_eq_true, if_false, one_mul]
    nlinarith

end Decrement

end Js.Num
