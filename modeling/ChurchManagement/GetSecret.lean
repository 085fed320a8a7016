import ChurchManagement.Js.NumberText
import ChurchManagement.Server

namespace ChurchManagement

open Js

section Prompts

/-- `validateInteger(input, min, max)`; a bound that is left out is not checked. -/
def validateInteger (input : String) (min max : Option Int) : Bool :=
  match parseInt input with
  | none => false
  | some parsedInput =>
    if !isInteger parsedInput then false
    else if min.any fun least => parsedInput < least then false
    else if max.any fun most => most < parsedInput then false
    else true

/-- The counter before the loop: the number 5, or the text that was typed. -/
def keyCount (answer : String) : Value :=
  if validateInteger answer (some 1) (some 20) then .str answer
  else .num (Js.Num.ofDecimal false 5 0)

/-- The number that an operator sees in a counter. -/
def counterNumber : Value → Option Js.Num
  | .num n => some n
  | .str s => toNumber s
  | _ => none

/-- `while (i > 0)`: every round prints the next random key and counts down. The list is what has
been printed when the loop ends, and there is none while the fuel does not suffice. -/
def keyLoop (randomKeys : Nat → String) : Nat → Value → Option (List String)
  | 0, _ => none
  | fuel + 1, i =>
    match counterNumber i with
    | some n =>
      if n.positive then
        (keyLoop (fun k => randomKeys (k + 1)) fuel (.num n.decrement)).map (randomKeys 0 :: ·)
      else some []
    | none => some []

/-- The object that the secrets line is read into. -/
structure SecretKeys extends Secrets where
  SESSION_SECRET : String
  DATABASE_ENCRYPTION_KEY : String
  MAIL_AUTH_USER : String
  MAIL_AUTH_PASS : String
  WEB_NOTIFICATION_PUBLIC_KEY : String
  WEB_NOTIFICATION_PRIVATE_KEY : String
  PORT : String

/-- The entries of the answer to the second prompt. -/
def secretEntries (answer : String) : List String :=
  (splitChar ',' answer.toList).map fun key => String.ofList (trim key)

/-- The answer to the second prompt; any other number of entries ends the process. -/
def readSecrets (answer : String) : Option SecretKeys :=
  match secretEntries answer with
  | [sessionSecret, databaseKey, mailUser, mailPass, publicKey, privateKey, authToken, workerToken,
      adminToken, port] => some {
        SESSION_SECRET := sessionSecret
        DATABASE_ENCRYPTION_KEY := databaseKey
        MAIL_AUTH_USER := mailUser
        MAIL_AUTH_PASS := mailPass
        WEB_NOTIFICATION_PUBLIC_KEY := publicKey
        WEB_NOTIFICATION_PRIVATE_KEY := privateKey
        AUTH_TOKEN := authToken
        WORKER_AUTH_TOKEN := workerToken
        ADMIN_AUTH_TOKEN := adminToken
        PORT := port }
  | _ => none

end Prompts

section Loop

/-- The loop ends and has printed so many keys. -/
def Prints (randomKeys : Nat → String) (i : Value) (n : Nat) : Prop :=
  ∃ fuel keys, keyLoop randomKeys fuel i = some keys ∧ keys.length = n

variable {randomKeys : Nat → String} {i : Value} {v : Js.Num} {n : Nat}

/-- A counter that is not above zero ends the loop at once. -/
theorem prints_done (done : ∀ v, counterNumber i = some v → v.positive = false) :
    Prints randomKeys i n ↔ n = 0 := by
  have stops (fuel : Nat) : keyLoop randomKeys (fuel + 1) i = some [] := by
    cases read : counterNumber i with
    | none => simp only [keyLoop, read]
    | some v => simp only [keyLoop, read, done v read, Bool.false_eq_true, if_false]
  constructor
  · intro ⟨fuel, keys, run, count⟩
    cases fuel with
    | zero => cases run
    | succ fuel =>
      rw [stops fuel] at run
      cases run
      exact count.symm
  · rintro rfl
    exact ⟨1, [], stops 0, rfl⟩

/-- A counter above zero prints one key and goes on with one less. -/
theorem prints_next (read : counterNumber i = some v) (positive : v.positive = true) :
    Prints randomKeys i n ↔
      ∃ k, n = k + 1 ∧ Prints (fun k => randomKeys (k + 1)) (.num v.decrement) k := by
  have goes (fuel : Nat) : keyLoop randomKeys (fuel + 1) i =
      (keyLoop (fun k => randomKeys (k + 1)) fuel (.num v.decrement)).map (randomKeys 0 :: ·) := by
    simp only [keyLoop, read, positive, if_true]
  constructor
  · intro ⟨fuel, keys, run, count⟩
    cases fuel with
    | zero => cases run
    | succ fuel =>
      rw [goes fuel, Option.map_eq_some_iff] at run
      obtain ⟨rest, run, isKeys⟩ := run
      rw [← isKeys, List.length_cons] at count
      exact ⟨rest.length, count.symm, fuel, rest, run, rfl⟩
  · intro ⟨k, isN, fuel, rest, run, count⟩
    refine ⟨fuel + 1, randomKeys 0 :: rest, by rw [goes fuel, run, Option.map_some], ?_⟩
    rw [List.length_cons, count, isN]

/-- The number lies in the unit interval that is counted down in so many rounds. -/
def CountsAs (v : Js.Num) (n : Nat) : Prop := ∃ q, v.value = some q ∧ (n : ℚ) - 1 < q ∧ q ≤ n

theorem not_countsAs_infinite (neg : Bool) (n : Nat) : ¬ CountsAs (.infinite neg) n := by
  rintro ⟨q, isValue, _⟩
  cases isValue

/-- One round takes a positive number from an interval to the one below it. A double counts down
exactly while its mantissa holds the next number; beyond that it never comes near zero. -/
theorem countsAs_succ {k : Nat} (short : v.Short) (positive : v.positive = true) (few : k < 2 ^ 52) :
    CountsAs v (k + 1) ↔
      if k = 0 then v.decrement.positive = false else CountsAs v.decrement k := by
  have least : (0 : ℚ) ≤ k := Nat.cast_nonneg k
  have few' : (k : ℚ) < 2 ^ 52 := by exact_mod_cast few
  cases isValue : v.value with
  | none =>
    obtain ⟨neg, rfl⟩ := Js.Num.infinite_of_value isValue
    refine iff_of_false (not_countsAs_infinite neg _) ?_
    split
    · rw [Js.Num.decrement, positive]
      exact Bool.true_eq_false_eq_False
    · exact not_countsAs_infinite neg k
  | some q =>
    have above := (Js.Num.positive_of_value isValue).mp positive
    have counts : CountsAs v (k + 1) ↔ (k : ℚ) < q ∧ q ≤ k + 1 := by
      simp [CountsAs, isValue]
    rw [counts]
    rcases le_or_gt q 1 with small | more
    · -- the last round
      have last := Js.Num.decrement_small isValue above small
      split
      · rename_i isZero
        simp [isZero, last, above, small]
      · rename_i some
        have one : (1 : ℚ) ≤ k := by exact_mod_cast Nat.pos_of_ne_zero some
        refine iff_of_false (fun bounds => by linarith [bounds.1]) ?_
        rintro ⟨r, isNumber, low, _⟩
        have notAbove := (Js.Num.positive_of_value isNumber).not.mp (by simp [last])
        linarith
    · rcases le_or_gt q (2 ^ 53) with exact | large
      · have next := Js.Num.decrement_exact short isValue more exact
        split
        · rename_i isZero
          have still := (Js.Num.positive_of_value next).mpr (by linarith)
          refine iff_of_false (fun bounds => ?_) (by simp [still])
          rw [isZero, Nat.cast_zero] at bounds
          linarith [bounds.2]
        · simp only [CountsAs, next, Option.some.injEq, exists_eq_left']
          constructor
          · intro bounds
            exact ⟨by linarith [bounds.1], by linarith [bounds.2]⟩
          · intro bounds
            exact ⟨by linarith [bounds.1], by linarith [bounds.2]⟩
      · obtain ⟨still, far⟩ := Js.Num.decrement_large isValue large
        refine iff_of_false (fun bounds => ?_) ?_
        · linarith [bounds.2]
        · split
          · simp [still]
          · rintro ⟨r, isNumber, _, high⟩
            linarith [far r isNumber]

theorem prints_num_done (positive : v.positive = false) : Prints randomKeys (.num v) n ↔ n = 0 :=
  prints_done fun _ read => Option.some.inj read ▸ positive

theorem prints_num_next (positive : v.positive = true) :
    Prints randomKeys (.num v) n ↔
      ∃ k, n = k + 1 ∧ Prints (fun k => randomKeys (k + 1)) (.num v.decrement) k :=
  prints_next rfl positive

/-- The induction is on the number of keys. -/
theorem prints_num (short : v.Short) (few : n ≤ 2 ^ 52) :
    Prints randomKeys (.num v) n ↔ if n = 0 then v.positive = false else CountsAs v n := by
  induction n generalizing randomKeys v with
  | zero =>
    rw [if_pos rfl]
    cases positive : v.positive with
    | true => simp [prints_num_next positive]
    | false => simp [prints_num_done positive]
  | succ k ih =>
    rw [if_neg (Nat.succ_ne_zero k)]
    cases positive : v.positive with
    | false =>
      rw [prints_num_done positive]
      refine iff_of_false (Nat.succ_ne_zero k) ?_
      rintro ⟨q, isValue, low, _⟩
      have notAbove := (Js.Num.positive_of_value isValue).not.mp (by simp [positive])
      have least : (0 : ℚ) ≤ k := Nat.cast_nonneg k
      push_cast at low
      linarith
    | true =>
      have rest : Prints (fun k => randomKeys (k + 1)) (.num v.decrement) k ↔
          if k = 0 then v.decrement.positive = false else CountsAs v.decrement k :=
        ih (Js.Num.short_decrement v) (Nat.le_of_succ_le few)
      rw [prints_num_next positive, countsAs_succ short positive few, ← rest]
      constructor
      · rintro ⟨k', same, rest⟩
        cases Nat.succ.inj same
        exact rest
      · intro rest
        exact ⟨k, rfl, rest⟩

/-- A text is counted down as the number it is converted to; one that is no number prints
nothing. -/
theorem prints_str {answer : String} (few : n ≤ 2 ^ 52) (filled : n ≠ 0) :
    Prints randomKeys (.str answer) n ↔ ∃ v, toNumber answer = some v ∧ CountsAs v n := by
  cases read : toNumber answer with
  | none =>
    have nothing : Prints randomKeys (.str answer) n ↔ n = 0 := by
      refine prints_done fun v isNumber => ?_
      rw [counterNumber, read] at isNumber
      cases isNumber
    rw [nothing]
    exact iff_of_false filled (by simp)
  | some v =>
    have same : Prints randomKeys (.str answer) n ↔ Prints randomKeys (.num v) n := by
      cases positive : v.positive with
      | true => rw [prints_next (i := .str answer) read positive, prints_num_next positive]
      | false =>
        have stops : Prints randomKeys (.str answer) n ↔ n = 0 :=
          prints_done fun v' isNumber => Option.some.inj (read.symm.trans isNumber) ▸ positive
        rw [stops, prints_num_done positive]
    rw [same, prints_num (short_toNumber read) few, if_neg filled]
    simp

end Loop

section Requested

/-- The number of keys that is asked for. -/
def requestedKeys (answer : String) : Nat :=
  match parseInt answer with
  | some n => if 1 ≤ n ∧ n ≤ 20 then n.toNat else 5
  | none => 5

/-- An answer is accepted when the integer it starts with is in range, which is then the number
asked for; otherwise that number is five. -/
theorem requestedKeys_cases (answer : String) :
    validateInteger answer (some 1) (some 20) = true ∧ parseInt answer = some (requestedKeys answer : Int) ∧
        1 ≤ requestedKeys answer ∧ requestedKeys answer ≤ 20 ∨
      validateInteger answer (some 1) (some 20) = false ∧ requestedKeys answer = 5 := by
  unfold validateInteger requestedKeys
  cases parseInt answer with
  | none => exact .inr ⟨rfl, rfl⟩
  | some n =>
    by_cases inRange : 1 ≤ n ∧ n ≤ 20
    · left
      have isNat : ((n.toNat : Nat) : Int) = n := Int.toNat_of_nonneg (by omega)
      dsimp only
      rw [if_pos inRange, isNat]
      refine ⟨?_, rfl, by omega, by omega⟩
      have isWhole : isInteger n = true := isInteger_of_le (by omega)
      simp only [isWhole, Bool.not_true, Bool.false_eq_true, if_false, Option.any_some,
        decide_eq_true_eq]
      rw [if_neg (by omega), if_neg (by omega)]
    · right
      simp only [Option.any_some, decide_eq_true_eq, if_neg inRange, and_true]
      split
      · rfl
      · by_cases low : n < 1
        · rw [if_pos low]
        · rw [if_neg low, if_pos (by omega)]

/-- The loop ends with as many keys as were asked for exactly when the answer was refused, or the
number that the whole text is converted to counts down in as many rounds as the integer it starts
with. -/
theorem requested_keys_printed_iff (randomKeys : Nat → String) (answer : String) :
    Prints randomKeys (keyCount answer) (requestedKeys answer) ↔
      (validateInteger answer (some 1) (some 20) = true →
        ∃ v, toNumber answer = some v ∧ CountsAs v (requestedKeys answer)) := by
  have few : requestedKeys answer ≤ 2 ^ 52 := by
    rcases requestedKeys_cases answer with ⟨_, _, _, most⟩ | ⟨_, five⟩
    · exact Nat.le_trans most (by norm_num)
    · rw [five]
      norm_num
  rcases requestedKeys_cases answer with ⟨accepted, _, least, _⟩ | ⟨refused, five⟩
  · rw [keyCount, if_pos accepted, prints_str few (by omega)]
    simp [accepted]
  · have counts : CountsAs (Js.Num.ofDecimal false 5 0) 5 := by
      have isFive : Js.Num.ofDecimal false 5 0 = .finite false 5629499534213120 (-50) := by
        decide +kernel
      refine ⟨5, ?_, by norm_num, by norm_num⟩
      rw [isFive]
      norm_num [Js.Num.value]
    rw [keyCount, if_neg (by simp [refused]), prints_num (Js.Num.short_ofDecimal _ _ _) few, five]
    simp [refused, counts]

/-- Five keys are asked for, and the text is no number, so the loop is never entered. -/
theorem words_after_count_print_nothing :
    requestedKeys "5 keys" = 5 ∧
      ¬ Prints (fun _ => "AAAAAAAAAAAAAAAAAAAAAAAAAAAAAAAAAAAAAAAAAAA=") (keyCount "5 keys")
        (requestedKeys "5 keys") := by
  have asked : requestedKeys "5 keys" = 5 := by decide +kernel
  have accepted : validateInteger "5 keys" (some 1) (some 20) = true := by decide +kernel
  have noNumber : toNumber "5 keys" = none := by decide +kernel
  refine ⟨asked, ?_⟩
  rw [keyCount, if_pos accepted, asked, prints_str (by norm_num) (by norm_num), noNumber]
  simp

end Requested

end ChurchManagement
