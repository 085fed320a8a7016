import Mathlib.Data.Int.Log
import Mathlib.Data.Rat.Floor
import Mathlib.Tactic.FieldSimp
import Mathlib.Tactic.Linarith
import Mathlib.Tactic.NormNum
import Mathlib.Tactic.Positivity
import Mathlib.Tactic.Ring
import ChurchManagement.Js.Number

namespace Js.Num

section Rounding

variable {n d q : Nat}

/-- Rounding looks at the fraction alone. -/
theorem divRound_scale (n d : Nat) {m : Nat} (positive : 0 < m) :
    divRound (n * m) (d * m) = divRound n d := by
  have quotient : n * m / (d * m) = n / d := Nat.mul_div_mul_right n d positive
  have remainder : n * m % (d * m) = n % d * m := Nat.mul_mod_mul_right m n d
  have twice : 2 * (n % d * m) = 2 * (n % d) * m := (Nat.mul_assoc ..).symm
  simp only [divRound, quotient, remainder, twice, Nat.mul_lt_mul_right positive,
    Nat.mul_left_inj positive.ne']

/-- The rounded quotient is the lower neighbour with a remainder of at most one half, or the upper
one with a remainder of at least one half. -/
theorem divRound_cases (n d : Nat) :
    divRound n d = n / d ∧ 2 * (n % d) ≤ d ∨ divRound n d = n / d + 1 ∧ d ≤ 2 * (n % d) := by
  unfold divRound
  dsimp only
  split
  · exact .inr ⟨rfl, by omega⟩
  · exact .inl ⟨rfl, by omega⟩

/-- Rounding moves a fraction by at most one half. -/
theorem divRound_half (positive : 0 < d) :
    2 * (divRound n d * d) ≤ 2 * n + d ∧ 2 * n ≤ 2 * (divRound n d * d) + d := by
  have whole := Nat.div_add_mod' n d
  have small := Nat.mod_lt n positive
  rcases divRound_cases n d with ⟨down, _⟩ | ⟨up, _⟩
  · rw [down]
    omega
  · rw [up, Nat.add_mul, Nat.one_mul]
    omega

/-- A fraction closer than one half to a number is rounded to it. -/
theorem divRound_near (positive : 0 < d) (above : 2 * (q * d) < 2 * n + d)
    (below : 2 * n < 2 * (q * d) + d) : divRound n d = q := by
  have half := divRound_half (n := n) positive
  by_contra other
  rcases Nat.lt_or_gt_of_ne other with less | more
  · have step := Nat.mul_le_mul_right d less
    rw [Nat.succ_mul] at step
    omega
  · have step := Nat.mul_le_mul_right d more
    rw [Nat.succ_mul] at step
    omega

theorem divRound_eq (positive : 0 < d) (above : (q : ℚ) - 1 / 2 < (n : ℚ) / d)
    (below : (n : ℚ) / d < q + 1 / 2) : divRound n d = q := by
  have dPos : (0 : ℚ) < d := by exact_mod_cast positive
  rw [lt_div_iff₀ dPos] at above
  rw [div_lt_iff₀ dPos] at below
  refine divRound_near positive ?_ ?_
  · have doubled : 2 * ((q : ℚ) * d) < 2 * n + d := by linarith
    exact_mod_cast doubled
  · have doubled : 2 * (n : ℚ) < 2 * (q * d) + d := by linarith
    exact_mod_cast doubled

theorem divRound_abs (positive : 0 < d) : |(divRound n d : ℚ) - (n : ℚ) / d| ≤ 1 / 2 := by
  have dPos : (0 : ℚ) < d := by exact_mod_cast positive
  have half := divRound_half (n := n) positive
  have above : 2 * ((divRound n d : ℚ) * d) ≤ 2 * n + d := by exact_mod_cast half.1
  have below : 2 * (n : ℚ) ≤ 2 * (divRound n d * d) + d := by exact_mod_cast half.2
  rw [abs_le]
  constructor
  · have upper : (n : ℚ) / d ≤ divRound n d + 1 / 2 := by
      rw [div_le_iff₀ dPos]
      linarith
    linarith
  · have lower : (divRound n d : ℚ) - 1 / 2 ≤ (n : ℚ) / d := by
      rw [le_div_iff₀ dPos]
      linarith
    linarith

end Rounding

section Exponents

variable {n d : Nat}

/-- Scaling a fraction by a power of two. -/
theorem scale_value (n d : Nat) (e : Int) :
    ((scale n d e).1 : ℚ) / (scale n d e).2 = (n : ℚ) / d * 2 ^ (-e) := by
  unfold scale
  split
  · rename_i positive
    obtain ⟨k, rfl⟩ := Int.eq_ofNat_of_zero_le positive
    simp only [Int.toNat_natCast, Nat.cast_mul, Nat.cast_pow, Nat.cast_ofNat, zpow_neg, zpow_natCast]
    field_simp
  · rename_i negative
    obtain ⟨k, isK⟩ := Int.eq_ofNat_of_zero_le (show 0 ≤ -e by omega)
    simp only [isK, Int.toNat_natCast, Nat.cast_mul, Nat.cast_pow, Nat.cast_ofNat, zpow_natCast]
    ring

theorem scale_positive (positive : 0 < d) (e : Int) : 0 < (scale n d e).2 := by
  unfold scale
  split
  · exact Nat.mul_pos positive (Nat.two_pow_pos _)
  · exact positive

/-- The quotient of two numbers lies within one power of the quotient of their own powers. -/
theorem log_quotient {b : Nat} (base : 1 < b) (hn : 0 < n) (hd : 0 < d) :
    Int.log b ((n : ℚ) / d) = (Nat.log b n : Int) - Nat.log b d ∨
      Int.log b ((n : ℚ) / d) = (Nat.log b n : Int) - Nat.log b d - 1 := by
  have nPos : (0 : ℚ) < n := by exact_mod_cast hn
  have dPos : (0 : ℚ) < d := by exact_mod_cast hd
  have bPos : (0 : ℚ) < b := by exact_mod_cast (Nat.zero_lt_of_lt base)
  have nLow : (b : ℚ) ^ Nat.log b n ≤ n := by exact_mod_cast Nat.pow_log_le_self b hn.ne'
  have nHigh : (n : ℚ) < b ^ (Nat.log b n + 1) := by exact_mod_cast Nat.lt_pow_succ_log_self base n
  have dLow : (b : ℚ) ^ Nat.log b d ≤ d := by exact_mod_cast Nat.pow_log_le_self b hd.ne'
  have dHigh : (d : ℚ) < b ^ (Nat.log b d + 1) := by exact_mod_cast Nat.lt_pow_succ_log_self base d
  have positive : 0 < (n : ℚ) / d := div_pos nPos dPos
  have low : (Nat.log b n : Int) - Nat.log b d - 1 ≤ Int.log b ((n : ℚ) / d) := by
    rw [← Int.zpow_le_iff_le_log base positive, le_div_iff₀ dPos]
    calc (b : ℚ) ^ ((Nat.log b n : Int) - Nat.log b d - 1) * d
        ≤ (b : ℚ) ^ ((Nat.log b n : Int) - Nat.log b d - 1) * b ^ (Nat.log b d + 1) :=
          mul_le_mul_of_nonneg_left dHigh.le (zpow_nonneg bPos.le _)
      _ = (b : ℚ) ^ Nat.log b n := by
          rw [← zpow_natCast, ← zpow_natCast, ← zpow_add₀ bPos.ne']
          congr 1
          push_cast
          ring
      _ ≤ n := nLow
  have high : Int.log b ((n : ℚ) / d) < (Nat.log b n : Int) - Nat.log b d + 1 := by
    rw [← Int.lt_zpow_iff_log_lt base positive, div_lt_iff₀ dPos]
    calc (n : ℚ) < b ^ (Nat.log b n + 1) := nHigh
      _ = (b : ℚ) ^ ((Nat.log b n : Int) - Nat.log b d + 1) * b ^ Nat.log b d := by
          rw [← zpow_natCast, ← zpow_natCast, ← zpow_add₀ bPos.ne']
          congr 1
          push_cast
          ring
      _ ≤ (b : ℚ) ^ ((Nat.log b n : Int) - Nat.log b d + 1) * d :=
          mul_le_mul_of_nonneg_left dLow (zpow_nonneg bPos.le _)
  omega

/-- A quotient of numbers is below a bound exactly when the fraction is. -/
theorem div_lt_iff_cast (positive : 0 < d) (m : Nat) : n / d < m ↔ (n : ℚ) / d < m := by
  have dPos : (0 : ℚ) < d := by exact_mod_cast positive
  rw [Nat.div_lt_iff_lt_mul positive, div_lt_iff₀ dPos]
  norm_cast

theorem mul_zpow_lt_iff {b : Nat} (base : 1 < b) {x : ℚ} (positive : 0 < x) (e k : Int) :
    x * (b : ℚ) ^ (-e) < (b : ℚ) ^ k ↔ Int.log b x < e + k := by
  have bPos : (0 : ℚ) < b := by exact_mod_cast (Nat.zero_lt_of_lt base)
  rw [← Int.lt_zpow_iff_log_lt base positive, zpow_neg, ← div_eq_mul_inv,
    div_lt_iff₀ (zpow_pos bPos e), ← zpow_add₀ bPos.ne', add_comm]

/-- The exponent of the mantissa is the one of the fraction's binary magnitude. -/
theorem binaryExp_eq (hn : 0 < n) (hd : 0 < d) :
    binaryExp n d = max (Int.log 2 ((n : ℚ) / d) - 52) (-1074) := by
  have positive : 0 < (n : ℚ) / d := by positivity
  unfold binaryExp
  dsimp only
  congr 1
  generalize isGuess : (Nat.log 2 n : Int) - Nat.log 2 d - 52 = guess
  have small : (scale n d guess).1 / (scale n d guess).2 < 2 ^ 52 ↔
      Int.log 2 ((n : ℚ) / d) < guess + 52 := by
    have bound := mul_zpow_lt_iff one_lt_two positive guess 52
    rw [div_lt_iff_cast (scale_positive hd guess), scale_value]
    exact_mod_cast bound
  rcases log_quotient one_lt_two hn hd with exact | less
  · rw [if_neg (by rw [small]; omega)]
    omega
  · rw [if_pos (by rw [small]; omega)]
    omega

theorem decimalExp_eq (hn : 0 < n) (hd : 0 < d) :
    decimalExp n d = Int.log 10 ((n : ℚ) / d) + 1 := by
  have positive : 0 < (n : ℚ) / d := by positivity
  have dPos : (0 : ℚ) < d := by exact_mod_cast hd
  unfold decimalExp
  dsimp only
  generalize isGuess : (Nat.log 10 n : Int) - Nat.log 10 d = guess
  have reached : (if 0 ≤ guess then d * 10 ^ guess.toNat ≤ n else d ≤ n * 10 ^ (-guess).toNat) ↔
      guess ≤ Int.log 10 ((n : ℚ) / d) := by
    rw [← Int.zpow_le_iff_le_log (by norm_num) positive, le_div_iff₀ dPos]
    split
    · rename_i above
      obtain ⟨k, rfl⟩ := Int.eq_ofNat_of_zero_le above
      rw [Int.toNat_natCast, zpow_natCast, mul_comm]
      norm_cast
    · rename_i below
      obtain ⟨k, isK⟩ := Int.eq_ofNat_of_zero_le (show 0 ≤ -guess by omega)
      have isGuess : guess = -(k : Int) := by omega
      rw [isK, Int.toNat_natCast, isGuess, zpow_neg, zpow_natCast, inv_mul_le_iff₀ (by positivity)]
      rw [mul_comm n]
      norm_cast
  rcases log_quotient (show 1 < 10 by norm_num) hn hd with exact | less
  · rw [if_pos (by rw [reached]; omega)]
    omega
  · rw [if_neg (by rw [reached]; omega)]
    omega

end Exponents

section Nearest

/-- The mantissa and the exponent of a double: 53 bits, unless the exponent is the smallest. -/
structure Double (mant : Nat) (exp : Int) : Prop where
  filled : mant ≠ 0
  short : mant < 2 ^ 53
  low : -1074 ≤ exp
  high : exp ≤ 971
  normal : 2 ^ 52 ≤ mant ∨ exp = -1074

variable {n d mant : Nat} {exp : Int}

/-- A fraction that lies closer to a double than half its distance to either neighbour is rounded
to it. The lower neighbour of a power of two is nearer than the upper one. -/
theorem ofFraction_near (neg : Bool) (hn : 0 < n) (hd : 0 < d) (double : Double mant exp)
    (above : (mant : ℚ) - 1 / 2 < (n : ℚ) / d * 2 ^ (-exp))
    (below : (n : ℚ) / d * 2 ^ (-exp) < mant + 1 / 2)
    (edge : mant = 2 ^ 52 → (mant : ℚ) - 1 / 4 < (n : ℚ) / d * 2 ^ (-exp)) :
    ofFraction neg n d = .finite neg mant exp := by
  have positive : 0 < (n : ℚ) / d := by positivity
  have short : (mant : ℚ) + 1 ≤ 2 ^ 53 := by exact_mod_cast double.short
  have upper : Int.log 2 ((n : ℚ) / d) < exp + 53 := by
    refine (mul_zpow_lt_iff one_lt_two positive exp 53).mp ?_
    have bound : (n : ℚ) / d * 2 ^ (-exp) < 2 ^ 53 := by linarith
    exact_mod_cast bound
  have value (e : Int) : ((scale n d e).1 : ℚ) / (scale n d e).2 = (n : ℚ) / d * 2 ^ (-e) :=
    scale_value n d e
  have valueExp := value exp
  have below53 : mant ≠ 2 ^ 53 := double.short.ne
  have low := double.low
  have high := double.high
  unfold ofFraction
  dsimp only
  rw [binaryExp_eq hn hd]
  by_cases small : Int.log 2 ((n : ℚ) / d) < exp + 52 ∧ exp ≠ -1074
  · -- just below a power of two, the mantissa rounds up to the next one
    obtain ⟨less, notLeast⟩ := small
    have lower : (n : ℚ) / d * 2 ^ (-exp) < 2 ^ 52 := by
      have bound := (mul_zpow_lt_iff one_lt_two positive exp 52).mpr less
      exact_mod_cast bound
    have large : 2 ^ 52 ≤ mant := double.normal.resolve_right notLeast
    have isPower : mant = 2 ^ 52 := by
      have most : (mant : ℚ) < 2 ^ 52 + 1 := by linarith
      have most' : mant < 2 ^ 52 + 1 := by exact_mod_cast most
      omega
    have near := edge isPower
    have exact : Int.log 2 ((n : ℚ) / d) = exp + 51 := by
      have least : ¬ Int.log 2 ((n : ℚ) / d) < exp + 51 := by
        rw [← mul_zpow_lt_iff one_lt_two positive exp 51]
        have bound : ¬ (n : ℚ) / d * 2 ^ (-exp) < 2 ^ 51 := by
          rw [isPower] at near
          push_cast at near
          linarith
        exact_mod_cast bound
      omega
    have isExp : max (Int.log 2 ((n : ℚ) / d) - 52) (-1074) = exp - 1 := by omega
    have twice : (n : ℚ) / d * 2 ^ (-(exp - 1)) = 2 * ((n : ℚ) / d * 2 ^ (-exp)) := by
      rw [neg_sub, sub_eq_add_neg, zpow_add₀ two_ne_zero, zpow_one]
      ring
    have rounded : divRound (scale n d (exp - 1)).1 (scale n d (exp - 1)).2 = 2 ^ 53 := by
      refine divRound_eq (scale_positive hd _) ?_ ?_
      · rw [value, twice]
        rw [isPower] at near
        push_cast at near ⊢
        linarith
      · rw [value, twice]
        push_cast
        linarith
    rw [isExp, rounded]
    simp only [if_true, sub_add_cancel, isPower]
    rw [if_neg (by norm_num), if_neg (by omega)]
  · have isExp : max (Int.log 2 ((n : ℚ) / d) - 52) (-1074) = exp := by omega
    have rounded : divRound (scale n d exp).1 (scale n d exp).2 = mant :=
      divRound_eq (scale_positive hd _) (valueExp ▸ above) (valueExp ▸ below)
    rw [isExp, rounded]
    simp only [if_neg below53]
    rw [if_neg double.filled, if_neg (by omega)]

/-- The nearest double depends on the fraction alone. -/
theorem ofFraction_scale (neg : Bool) (hn : 0 < n) (hd : 0 < d) {m : Nat} (hm : 0 < m) :
    ofFraction neg (n * m) (d * m) = ofFraction neg n d := by
  have same : ((n * m : Nat) : ℚ) / ((d * m : Nat) : ℚ) = (n : ℚ) / d := by
    push_cast
    exact mul_div_mul_right _ _ (by exact_mod_cast hm.ne')
  have exps : binaryExp (n * m) (d * m) = binaryExp n d := by
    rw [binaryExp_eq (Nat.mul_pos hn hm) (Nat.mul_pos hd hm), binaryExp_eq hn hd, same]
  have scaled (e : Int) :
      scale (n * m) (d * m) e = ((scale n d e).1 * m, (scale n d e).2 * m) := by
    unfold scale
    split
    · simp only [Nat.mul_right_comm]
    · simp only [Nat.mul_right_comm]
  unfold ofFraction
  simp only [exps, scaled, divRound_scale _ _ hm]

theorem ofFraction_congr (neg : Bool) {n₁ d₁ n₂ d₂ : Nat} (hn₁ : 0 < n₁) (hd₁ : 0 < d₁)
    (hn₂ : 0 < n₂) (hd₂ : 0 < d₂) (cross : n₁ * d₂ = n₂ * d₁) :
    ofFraction neg n₁ d₁ = ofFraction neg n₂ d₂ := by
  calc ofFraction neg n₁ d₁ = ofFraction neg (n₁ * d₂) (d₁ * d₂) :=
        (ofFraction_scale neg hn₁ hd₁ hd₂).symm
    _ = ofFraction neg (n₂ * d₁) (d₂ * d₁) := by rw [cross, Nat.mul_comm d₁]
    _ = ofFraction neg n₂ d₂ := ofFraction_scale neg hn₂ hd₂ hd₁

/-- Zeros at the end of the digits count for the exponent. -/
theorem ofDecimal_shift (neg : Bool) (digits z : Nat) (exp : Int) :
    ofDecimal neg (digits * 10 ^ z) exp = ofDecimal neg digits (exp + z) := by
  by_cases none : digits = 0
  · simp [ofDecimal, none]
  have positive : 0 < digits := Nat.pos_of_ne_zero none
  have ten (k : Nat) : 0 < 10 ^ k := Nat.pow_pos (by norm_num)
  have sizes : (Nat.log 10 (digits * 10 ^ z) : Int) + 1 + exp = Nat.log 10 digits + 1 + (exp + z) := by
    have log : Nat.log 10 (digits * 10 ^ z) = Nat.log 10 digits + z := by
      induction z with
      | zero => rw [Nat.pow_zero, Nat.mul_one, Nat.add_zero]
      | succ z ih =>
        rw [Nat.pow_succ, ← Nat.mul_assoc, Nat.log_mul_base (by norm_num)
          (Nat.mul_pos positive (ten z)).ne', ih, Nat.add_assoc]
    rw [log]
    push_cast
    ring
  have filled : digits * 10 ^ z ≠ 0 := (Nat.mul_pos positive (ten z)).ne'
  simp only [ofDecimal, sizes, none, filled, false_or]
  split
  · rfl
  split
  · rfl
  by_cases above : 0 ≤ exp
  · obtain ⟨e, rfl⟩ := Int.eq_ofNat_of_zero_le above
    have sum : ((e : Int) + z).toNat = z + e := by omega
    rw [if_pos above, if_pos (by omega), Int.toNat_natCast, sum, Nat.mul_assoc, ← Nat.pow_add]
  · obtain ⟨e, isE⟩ := Int.eq_ofNat_of_zero_le (show 0 ≤ -exp by omega)
    rw [if_neg above, isE, Int.toNat_natCast]
    split
    · rename_i reached
      obtain ⟨k, isK⟩ := Int.eq_ofNat_of_zero_le reached
      refine ofFraction_congr neg (Nat.mul_pos positive (ten z)) (ten e) ?_ Nat.one_pos ?_
      · exact Nat.mul_pos positive (ten _)
      · have sum : z = k + e := by omega
        rw [isK, Int.toNat_natCast, sum, Nat.pow_add, Nat.mul_one, Nat.mul_assoc]
    · rename_i missed
      obtain ⟨k, isK⟩ := Int.eq_ofNat_of_zero_le (show 0 ≤ -(exp + z) by omega)
      refine ofFraction_congr neg (Nat.mul_pos positive (ten z)) (ten e) positive (ten _) ?_
      have sum : e = z + k := by omega
      rw [isK, Int.toNat_natCast, sum, Nat.pow_add, Nat.mul_assoc]

/-- The value of a decimal as a fraction. -/
theorem ofDecimal_fraction (neg : Bool) {digits : Nat} {exp : Int} (filled : digits ≠ 0)
    (low : -400 ≤ (Nat.log 10 digits : Int) + 1 + exp)
    (high : (Nat.log 10 digits : Int) + 1 + exp ≤ 400) :
    ∃ n d : Nat, 0 < n ∧ 0 < d ∧ (n : ℚ) / d = digits * 10 ^ exp ∧
      ofDecimal neg digits exp = ofFraction neg n d := by
  have positive : 0 < digits := Nat.pos_of_ne_zero filled
  unfold ofDecimal
  dsimp only
  rw [if_neg (by omega), if_neg (by omega)]
  split
  · rename_i above
    obtain ⟨e, rfl⟩ := Int.eq_ofNat_of_zero_le above
    refine ⟨digits * 10 ^ e, 1, Nat.mul_pos positive (Nat.pow_pos (by norm_num)), Nat.one_pos, ?_,
      rfl⟩
    push_cast
    rw [div_one]
    norm_cast
  · rename_i below
    obtain ⟨e, isE⟩ := Int.eq_ofNat_of_zero_le (show 0 ≤ -exp by omega)
    have isExp : exp = -(e : Int) := by omega
    refine ⟨digits, 10 ^ e, positive, Nat.pow_pos (by norm_num), ?_, by rw [isE, Int.toNat_natCast]⟩
    rw [isExp, zpow_neg, zpow_natCast, div_eq_mul_inv]
    push_cast
    rfl

/-- A decimal that lies close enough to a double is read as it. -/
theorem ofDecimal_near (neg : Bool) {digits : Nat} {e : Int} (double : Double mant exp)
    (above : (mant : ℚ) - 1 / 2 < digits * 10 ^ e * 2 ^ (-exp))
    (below : digits * 10 ^ e * 2 ^ (-exp) < (mant : ℚ) + 1 / 2)
    (edge : mant = 2 ^ 52 → (mant : ℚ) - 1 / 4 < digits * 10 ^ e * 2 ^ (-exp)) :
    ofDecimal neg digits e = .finite neg mant exp := by
  have two : (0 : ℚ) < 2 := by norm_num
  have ten : (0 : ℚ) < 10 := by norm_num
  have least : (1 : ℚ) ≤ mant := by exact_mod_cast Nat.pos_of_ne_zero double.filled
  have filled : digits ≠ 0 := by
    rintro rfl
    rw [Nat.cast_zero, zero_mul, zero_mul] at above
    linarith
  have dPos : (0 : ℚ) < digits := by exact_mod_cast Nat.pos_of_ne_zero filled
  have short : (mant : ℚ) + 1 ≤ 2 ^ 53 := by exact_mod_cast double.short
  have logLow : (10 : ℚ) ^ Nat.log 10 digits ≤ digits := by
    exact_mod_cast Nat.pow_log_le_self 10 filled
  have logHigh : (digits : ℚ) < 10 ^ (Nat.log 10 digits + 1) := by
    exact_mod_cast Nat.lt_pow_succ_log_self (by norm_num) digits
  -- the digits stand for a number between the smallest and the largest power of two
  have high : (Nat.log 10 digits : Int) + 1 + e ≤ 400 := by
    by_contra large
    have power : (10 : ℚ) ^ (400 : Int) ≤ digits * 10 ^ e := by
      calc (10 : ℚ) ^ (400 : Int) ≤ 10 ^ ((Nat.log 10 digits : Int) + e) :=
            zpow_le_zpow_right₀ (by norm_num) (by omega)
        _ = 10 ^ Nat.log 10 digits * 10 ^ e := by rw [zpow_add₀ ten.ne', zpow_natCast]
        _ ≤ digits * 10 ^ e := mul_le_mul_of_nonneg_right logLow (zpow_nonneg ten.le e)
    have bound : digits * 10 ^ e < (2 : ℚ) ^ (1024 : Int) := by
      calc (digits : ℚ) * 10 ^ e = digits * 10 ^ e * 2 ^ (-exp) * 2 ^ exp := by
            rw [mul_assoc, ← zpow_add₀ two.ne', neg_add_cancel, zpow_zero, mul_one]
        _ < 2 ^ 53 * 2 ^ exp := mul_lt_mul_of_pos_right (by linarith) (zpow_pos two exp)
        _ ≤ 2 ^ 53 * 2 ^ (971 : Int) := by
            refine mul_le_mul_of_nonneg_left (zpow_le_zpow_right₀ (by norm_num) double.high) ?_
            norm_num
        _ = 2 ^ (1024 : Int) := by
            rw [← zpow_natCast, ← zpow_add₀ two.ne']
            rfl
    have apart : (2 : ℚ) ^ (1024 : Int) < 10 ^ (400 : Int) := by
      have powers : ((2 : ℚ) ^ 64) ^ 16 < (10 ^ 25) ^ 16 :=
        pow_lt_pow_left₀ (by norm_num) (by norm_num) (by norm_num)
      rw [← pow_mul, ← pow_mul] at powers
      rw [zpow_ofNat, zpow_ofNat]
      exact powers
    exact (power.trans_lt (bound.trans apart)).false
  have low : -400 ≤ (Nat.log 10 digits : Int) + 1 + e := by
    by_contra small
    have power : digits * 10 ^ e ≤ (10 : ℚ) ^ (-400 : Int) := by
      calc (digits : ℚ) * 10 ^ e ≤ 10 ^ (Nat.log 10 digits + 1) * 10 ^ e :=
            mul_le_mul_of_nonneg_right logHigh.le (zpow_nonneg ten.le e)
        _ = 10 ^ ((Nat.log 10 digits : Int) + 1 + e) := by
            rw [zpow_add₀ ten.ne', ← zpow_natCast]
            norm_cast
        _ ≤ 10 ^ (-400 : Int) := zpow_le_zpow_right₀ (by norm_num) (by omega)
    have bound : (2 : ℚ) ^ (-1075 : Int) < digits * 10 ^ e := by
      calc (2 : ℚ) ^ (-1075 : Int) = 1 / 2 * 2 ^ (-1074 : Int) := by
            rw [one_div, ← zpow_neg_one, ← zpow_add₀ two.ne']
            rfl
        _ ≤ 1 / 2 * 2 ^ exp := by
            refine mul_le_mul_of_nonneg_left (zpow_le_zpow_right₀ (by norm_num) double.low) ?_
            norm_num
        _ < digits * 10 ^ e * 2 ^ (-exp) * 2 ^ exp :=
            mul_lt_mul_of_pos_right (by linarith) (zpow_pos two exp)
        _ = digits * 10 ^ e := by
            rw [mul_assoc, ← zpow_add₀ two.ne', neg_add_cancel, zpow_zero, mul_one]
    have apart : (10 : ℚ) ^ (-400 : Int) < 2 ^ (-1075 : Int) := by
      have powers : ((2 : ℚ) ^ 43) ^ 25 < (10 ^ 16) ^ 25 :=
        pow_lt_pow_left₀ (by norm_num) (by norm_num) (by norm_num)
      rw [← pow_mul, ← pow_mul] at powers
      rw [zpow_neg, zpow_neg, inv_lt_inv₀ (zpow_pos ten _) (zpow_pos two _), zpow_ofNat, zpow_ofNat]
      exact powers
    exact (power.trans_lt (apart.trans bound)).false
  obtain ⟨n, d, hn, hd, value, same⟩ := ofDecimal_fraction neg filled low high
  rw [same]
  rw [← value] at above below edge
  exact ofFraction_near neg hn hd double above below edge

/-- The sign plays no part in rounding. -/
theorem ofDecimal_sign (neg : Bool) {digits : Nat} {e : Int} (filled : mant ≠ 0)
    (read : ofDecimal false digits e = .finite false mant exp) :
    ofDecimal neg digits e = .finite neg mant exp := by
  have fractions (n d : Nat) (positive : ofFraction false n d = .finite false mant exp) :
      ofFraction neg n d = .finite neg mant exp := by
    unfold ofFraction at positive ⊢
    dsimp only at positive ⊢
    generalize (if _ = 2 ^ 53 then _ else _ : Nat × Int) = rounded at positive ⊢
    split at positive
    · cases positive
      exact absurd rfl filled
    rename_i nonzero
    split at positive
    · cases positive
    rename_i bounded
    rw [if_neg nonzero, if_neg bounded]
    cases positive
    rfl
  unfold ofDecimal at read ⊢
  dsimp only at read ⊢
  split at read
  · cases read
    exact absurd rfl filled
  rename_i inside
  split at read
  · cases read
  rename_i below
  rw [if_neg inside, if_neg below]
  split at read
  · rename_i whole
    rw [if_pos whole]
    exact fractions _ _ read
  · rename_i fractional
    rw [if_neg fractional]
    exact fractions _ _ read

end Nearest

section Shortest

variable {mant : Nat} {exp : Int}

theorem fraction_value (mant : Nat) (exp : Int) :
    ((fraction mant exp).1 : ℚ) / (fraction mant exp).2 = mant * 2 ^ exp := by
  unfold fraction
  split
  · rename_i above
    obtain ⟨e, rfl⟩ := Int.eq_ofNat_of_zero_le above
    push_cast
    rw [div_one]
    norm_cast
  · rename_i below
    obtain ⟨e, isE⟩ := Int.eq_ofNat_of_zero_le (show 0 ≤ -exp by omega)
    have isExp : exp = -(e : Int) := by omega
    rw [isE, Int.toNat_natCast, isExp, zpow_neg, zpow_natCast, div_eq_mul_inv]
    push_cast
    rfl

theorem fraction_positive (filled : mant ≠ 0) (exp : Int) :
    0 < (fraction mant exp).1 ∧ 0 < (fraction mant exp).2 := by
  have positive : 0 < mant := Nat.pos_of_ne_zero filled
  unfold fraction
  split
  · exact ⟨Nat.mul_pos positive (Nat.two_pow_pos _), Nat.one_pos⟩
  · exact ⟨positive, Nat.two_pow_pos _⟩

/-- The fraction `n / d` with `s` digits before the point, rounded to `k` digits. -/
def candidate (n d : Nat) (s : Int) (k : Nat) : Nat :=
  let shift : Int := k - s
  if 0 ≤ shift then divRound (n * 10 ^ shift.toNat) d else divRound n (d * 10 ^ (-shift).toNat)

theorem candidate_abs {n d : Nat} (positive : 0 < d) (s : Int) (k : Nat) :
    |(candidate n d s k : ℚ) - (n : ℚ) / d * 10 ^ (k - s)| ≤ 1 / 2 := by
  unfold candidate
  dsimp only
  generalize (k : Int) - s = shift
  split
  · rename_i above
    obtain ⟨e, rfl⟩ := Int.eq_ofNat_of_zero_le above
    have rounded := divRound_abs (n := n * 10 ^ e) positive
    push_cast at rounded
    rw [Int.toNat_natCast, zpow_natCast, div_mul_eq_mul_div]
    exact rounded
  · rename_i below
    obtain ⟨e, isE⟩ := Int.eq_ofNat_of_zero_le (show 0 ≤ -shift by omega)
    have isShift : shift = -(e : Int) := by omega
    have power : 0 < 10 ^ e := Nat.pow_pos (by norm_num)
    have rounded := divRound_abs (n := n) (Nat.mul_pos positive power)
    push_cast at rounded
    rw [isE, Int.toNat_natCast, isShift, zpow_neg, zpow_natCast, ← div_eq_mul_inv, div_div]
    exact rounded

/-- A fraction of `s` digits before the point keeps its magnitude when it is rounded. -/
theorem candidate_bounds {n d : Nat} {s : Int} {k : Nat} (positive : 0 < d) (some : 0 < k)
    (low : (10 : ℚ) ^ (s - 1) ≤ (n : ℚ) / d) (high : (n : ℚ) / d < 10 ^ s) :
    10 ^ (k - 1) ≤ candidate n d s k ∧ candidate n d s k ≤ 10 ^ k := by
  have ten : (0 : ℚ) < 10 := by norm_num
  have near := abs_le.mp (candidate_abs (n := n) positive s k)
  have power : (0 : ℚ) < 10 ^ ((k : Int) - s) := zpow_pos ten _
  constructor
  · have scaled : (10 : ℚ) ^ (k - 1) ≤ (n : ℚ) / d * 10 ^ (k - s) := by
      calc (10 : ℚ) ^ (k - 1) = 10 ^ (s - 1) * 10 ^ (k - s) := by
            rw [← zpow_natCast, ← zpow_add₀ ten.ne']
            congr 1
            omega
        _ ≤ (n : ℚ) / d * 10 ^ (k - s) := mul_le_mul_of_nonneg_right low power.le
    have least : (10 : ℚ) ^ (k - 1) < candidate n d s k + 1 := by linarith
    have least' : 10 ^ (k - 1) < candidate n d s k + 1 := by exact_mod_cast least
    omega
  · have scaled : (n : ℚ) / d * 10 ^ (k - s) < 10 ^ k := by
      calc (n : ℚ) / d * 10 ^ (k - s) < 10 ^ s * 10 ^ (k - s) := mul_lt_mul_of_pos_right high power
        _ = 10 ^ k := by
            rw [← zpow_add₀ ten.ne', add_sub_cancel, zpow_natCast]
    have most : (candidate n d s k : ℚ) < 10 ^ k + 1 := by linarith
    have most' : candidate n d s k < 10 ^ k + 1 := by exact_mod_cast most
    omega

/-- Seventeen digits tell every two doubles apart. -/
theorem candidate_seventeen {n d : Nat} {s : Int} (double : Double mant exp) (positive : 0 < d)
    (value : (n : ℚ) / d = mant * 2 ^ exp) (low : (10 : ℚ) ^ (s - 1) ≤ (n : ℚ) / d) :
    ofDecimal false (candidate n d s 17) (s - 17) = .finite false mant exp := by
  have ten : (0 : ℚ) < 10 := by norm_num
  have two : (0 : ℚ) < 2 := by norm_num
  have near := abs_le.mp (candidate_abs (n := n) positive s 17)
  have unit : (0 : ℚ) < 10 ^ (s - 17) * 2 ^ (-exp) := mul_pos (zpow_pos ten _) (zpow_pos two _)
  -- one unit in the last digit, measured in units of the mantissa
  have small : 10 ^ 16 * ((10 : ℚ) ^ (s - 17) * 2 ^ (-exp)) ≤ mant := by
    calc (10 : ℚ) ^ 16 * (10 ^ (s - 17) * 2 ^ (-exp)) = 10 ^ (s - 1) * 2 ^ (-exp) := by
          rw [← mul_assoc, ← zpow_natCast, ← zpow_add₀ ten.ne']
          congr 2
          omega
      _ ≤ mant * 2 ^ exp * 2 ^ (-exp) :=
          mul_le_mul_of_nonneg_right (value ▸ low) (zpow_nonneg two.le _)
      _ = mant := by rw [mul_assoc, ← zpow_add₀ two.ne', add_neg_cancel, zpow_zero, mul_one]
  have exact : (n : ℚ) / d * 10 ^ ((17 : Nat) - s) * (10 ^ (s - 17) * 2 ^ (-exp)) = mant := by
    rw [value]
    calc (mant : ℚ) * 2 ^ exp * 10 ^ (((17 : Nat) : Int) - s) * (10 ^ (s - 17) * 2 ^ (-exp))
        = mant * (2 ^ exp * 2 ^ (-exp)) * (10 ^ (((17 : Nat) : Int) - s) * 10 ^ (s - 17)) := by ring
      _ = mant := by
          rw [← zpow_add₀ two.ne', ← zpow_add₀ ten.ne', add_neg_cancel, zpow_zero]
          norm_num
  have short : (mant : ℚ) + 1 ≤ 2 ^ 53 := by exact_mod_cast double.short
  have moved := mul_le_mul_of_nonneg_right near.1 unit.le
  have moved' := mul_le_mul_of_nonneg_right near.2 unit.le
  rw [sub_mul, exact] at moved moved'
  refine ofDecimal_near false double ?_ ?_ ?_
  · rw [mul_assoc]
    linarith
  · rw [mul_assoc]
    linarith
  · intro isPower
    have isPower' : (mant : ℚ) = 2 ^ 52 := by exact_mod_cast isPower
    rw [mul_assoc]
    linarith

/-- The digits printed for a double read back as it. -/
theorem shortest_spec (double : Double mant exp) :
    ∃ digits k s, shortest mant exp = (digits, k, s) ∧ 0 < k ∧ 10 ^ (k - 1) ≤ digits ∧
      digits < 10 ^ k ∧ ofDecimal false digits (s - k) = .finite false mant exp := by
  obtain ⟨hn, hd⟩ := fraction_positive double.filled exp
  have value := fraction_value mant exp
  generalize isN : (fraction mant exp).1 = n at hn value
  generalize isD : (fraction mant exp).2 = d at hd value
  have positive : 0 < (n : ℚ) / d := by positivity
  have isS := decimalExp_eq hn hd
  generalize isScale : decimalExp n d = s at isS
  have low : (10 : ℚ) ^ (s - 1) ≤ (n : ℚ) / d := by
    have bound := (Int.zpow_le_iff_le_log (b := 10) (by norm_num) positive).mpr
      (show s - 1 ≤ Int.log 10 ((n : ℚ) / d) by omega)
    exact_mod_cast bound
  have high : (n : ℚ) / d < 10 ^ s := by
    have bound := (Int.lt_zpow_iff_log_lt (b := 10) (by norm_num) positive).mpr
      (show Int.log 10 ((n : ℚ) / d) < s by omega)
    exact_mod_cast bound
  let reads (k : Nat) : Bool := ofDecimal false (candidate n d s k) (s - k) = .finite false mant exp
  have unfolded : shortest mant exp =
      (let k := (((List.range 17).map (· + 1)).find? reads).getD 17
      if candidate n d s k = 10 ^ k then (1, 1, s + 1) else (candidate n d s k, k, s)) := by
    subst isN isD isScale
    rfl
  have reached : reads 17 = true := decide_eq_true (candidate_seventeen double hd value low)
  have found : ∃ k, (((List.range 17).map (· + 1)).find? reads).getD 17 = k ∧ 0 < k ∧
      reads k = true := by
    cases first : ((List.range 17).map (· + 1)).find? reads with
    | none => exact ⟨17, rfl, by norm_num, reached⟩
    | some k =>
      have member := List.mem_of_find?_eq_some first
      obtain ⟨i, _, rfl⟩ := List.mem_map.mp member
      exact ⟨i + 1, rfl, Nat.succ_pos i, List.find?_some first⟩
  obtain ⟨k, isK, some, read⟩ := found
  have read' := of_decide_eq_true read
  have bounds := candidate_bounds hd some low high
  rw [unfolded, isK]
  dsimp only
  by_cases full : candidate n d s k = 10 ^ k
  · rw [if_pos full]
    refine ⟨1, 1, s + 1, rfl, Nat.one_pos, Nat.le_refl 1, by norm_num, ?_⟩
    rw [full, ← Nat.one_mul (10 ^ k), ofDecimal_shift] at read'
    have same : s + 1 - ((1 : Nat) : Int) = s - k + k := by omega
    rw [same]
    exact read'
  · rw [if_neg full]
    exact ⟨_, k, s, rfl, some, bounds.1, by omega, read'⟩

end Shortest

end Js.Num
