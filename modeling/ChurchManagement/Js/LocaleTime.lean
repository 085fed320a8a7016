import Mathlib.Data.String.Basic

namespace Js

/-- A local date and time of day, in years of four digits. -/
structure LocalTime where
  year : Nat
  month : Nat
  day : Nat
  hour : Nat
  minute : Nat
  second : Nat
  year_lt : year < 10000
  month_le : month ≤ 12
  day_le : day ≤ 31
  hour_lt : hour < 24
  minute_lt : minute < 60
  second_lt : second < 60

/-- The character of a decimal digit. -/
def digitChar (n : Nat) : Char := Char.ofNat (48 + n)

def twoDigits (n : Nat) : List Char := [digitChar (n / 10), digitChar (n % 10)]

theorem digitChar_compare {a b : Nat} (ha : a < 10) (hb : b < 10) :
    (digitChar a < digitChar b ↔ a < b) ∧ (digitChar a = digitChar b ↔ a = b) := by
  have table : ∀ a < 10, ∀ b < 10, (digitChar a < digitChar b ↔ a < b) ∧
      (digitChar a = digitChar b ↔ a = b) := by decide
  exact table a ha b hb

/-- Numbers of two digits are compared before what follows them. -/
theorem twoDigits_append_lt {a b : Nat} (ha : a < 100) (hb : b < 100) (s t : List Char) :
    twoDigits a ++ s < twoDigits b ++ t ↔ a < b ∨ a = b ∧ s < t := by
  obtain ⟨tens, sameTens⟩ := digitChar_compare (a := a / 10) (b := b / 10) (by omega) (by omega)
  obtain ⟨ones, sameOnes⟩ := digitChar_compare (a := a % 10) (b := b % 10) (by omega) (by omega)
  simp only [twoDigits, List.cons_append, List.nil_append, List.cons_lt_cons_iff, tens, sameTens,
    ones, sameOnes]
  by_cases less : s < t
  · simp only [less, and_true]
    omega
  · simp only [less, and_false, or_false]
    omega

/-- The hour on the dial. -/
def dialHour (hour : Nat) : Nat := if hour % 12 = 0 then 12 else hour % 12

/-- The hour of a time as it is written, without a leading zero. -/
def dialText (hour : Nat) : List Char :=
  if dialHour hour < 10 then [digitChar (dialHour hour)] else twoDigits (dialHour hour)

/-- Hours of two digits come first, then those of one. -/
def dialRank (hour : Nat) : Nat := (hour + 2) % 12

theorem dialRank_eq (hour : Nat) : 0 < dialHour hour ∧ dialHour hour ≤ 12 ∧
    dialRank hour = if dialHour hour < 10 then dialHour hour + 2 else dialHour hour - 10 := by
  unfold dialRank dialHour
  by_cases noon : hour % 12 = 0
  · rw [if_pos noon, if_neg (by decide)]
    omega
  · rw [if_neg noon]
    by_cases one : hour % 12 < 10
    · rw [if_pos one]
      omega
    · rw [if_neg one]
      omega

/-- A digit comes before a colon, so the hours of two digits come before the hour one. -/
theorem digitChar_colon {n : Nat} (digit : n < 10) :
    digitChar n < ':' ∧ ¬ ':' < digitChar n ∧ digitChar n ≠ ':' := by
  have table : ∀ n < 10, digitChar n < ':' ∧ ¬ ':' < digitChar n ∧ digitChar n ≠ ':' := by decide
  exact table n digit

/-- Hours are ordered 10, 11, 12, 1 and so on to 9. -/
theorem dialText_lt {h k : Nat} (s t : List Char) :
    dialText h ++ ':' :: s < dialText k ++ ':' :: t ↔
      dialRank h < dialRank k ∨ dialRank h = dialRank k ∧ s < t := by
  obtain ⟨leastH, mostH, rankH⟩ := dialRank_eq h
  obtain ⟨leastK, mostK, rankK⟩ := dialRank_eq k
  have irrefl : ¬ ':' < ':' := lt_irrefl _
  unfold dialText
  rw [rankH, rankK]
  by_cases oneH : dialHour h < 10
  · by_cases oneK : dialHour k < 10
    · obtain ⟨compare, same⟩ := digitChar_compare oneH oneK
      rw [if_pos oneH, if_pos oneK, if_pos oneH, if_pos oneK]
      simp only [List.cons_append, List.nil_append, List.cons_lt_cons_iff, compare, same, irrefl,
        false_or, true_and]
      by_cases less : s < t
      · simp only [less, and_true]
        omega
      · simp only [less, and_false, or_false]
        omega
    · obtain ⟨compare, same⟩ := digitChar_compare (a := dialHour h) (b := dialHour k / 10) oneH
        (by omega)
      obtain ⟨_, notBefore, other⟩ := digitChar_colon (n := dialHour k % 10) (by omega)
      rw [if_pos oneH, if_neg oneK, if_pos oneH, if_neg oneK]
      simp only [twoDigits, List.cons_append, List.nil_append, List.cons_lt_cons_iff, compare, same,
        notBefore, other.symm, false_and, or_false, and_false]
      refine iff_of_false (by omega) ?_
      rintro (less | ⟨equal, _⟩)
      · omega
      · omega
  · by_cases oneK : dialHour k < 10
    · obtain ⟨compare, same⟩ := digitChar_compare (a := dialHour h / 10) (b := dialHour k) (by omega)
        oneK
      obtain ⟨before, _⟩ := digitChar_colon (n := dialHour h % 10) (by omega)
      rw [if_neg oneH, if_pos oneK, if_neg oneH, if_pos oneK]
      simp only [twoDigits, List.cons_append, List.nil_append, List.cons_lt_cons_iff, compare, same,
        before, true_or, and_true]
      refine iff_of_true (by omega) (.inl (by omega))
    · rw [if_neg oneH, if_neg oneK, if_neg oneH, if_neg oneK, twoDigits_append_lt (by omega) (by omega)]
      simp only [List.cons_lt_cons_iff, irrefl, false_or, true_and]
      by_cases less : s < t
      · simp only [less, and_true]
        omega
      · simp only [less, and_false, or_false]
        omega

/-- A date in the form `YYYY-MM-DD`. -/
def isoText (year month day : Nat) : String :=
  String.ofList (twoDigits (year / 100) ++ (twoDigits (year % 100) ++
    '-' :: (twoDigits month ++ '-' :: (twoDigits day ++ []))))

namespace LocalTime

/-- A number that orders the days. -/
def dayNumber (t : LocalTime) : Nat := (t.year * 100 + t.month) * 100 + t.day

/-- The seconds since midnight. -/
def daySecond (t : LocalTime) : Nat := (t.hour * 60 + t.minute) * 60 + t.second

/-- The one time is at least a second before the other. -/
def Before (a b : LocalTime) : Prop :=
  a.dayNumber < b.dayNumber ∨ a.dayNumber = b.dayNumber ∧ a.daySecond < b.daySecond

instance (a b : LocalTime) : Decidable (a.Before b) := inferInstanceAs (Decidable (_ ∨ _))

/-- `toLocaleDateString()` in the locale en-US. -/
def toLocaleDateString (t : LocalTime) : String :=
  toString t.month ++ "/" ++ toString t.day ++ "/" ++ toString t.year

/-- `toLocaleTimeString()` in the locale en-US. The blank before the last two letters depends on
the version of the locale data. -/
def toLocaleTimeString (blank : Char) (t : LocalTime) : String :=
  String.ofList (dialText t.hour ++ ':' :: (twoDigits t.minute ++ ':' :: (twoDigits t.second ++
    [blank, if t.hour < 12 then 'A' else 'P', 'M'])))

def isoDate (t : LocalTime) : String := isoText t.year t.month t.day

variable (a b : LocalTime)

/-- Dates in this form are ordered as the days are. -/
theorem isoDate_lt : a.isoDate < b.isoDate ↔ a.dayNumber < b.dayNumber := by
  have bounds := And.intro a.year_lt b.year_lt
  have months := And.intro a.month_le b.month_le
  have days := And.intro a.day_le b.day_le
  rw [String.lt_iff_toList_lt, isoDate, isoDate, isoText, isoText, String.toList_ofList, String.toList_ofList,
    twoDigits_append_lt (by omega) (by omega), twoDigits_append_lt (by omega) (by omega),
    List.cons_lt_cons_iff, twoDigits_append_lt (by omega) (by omega), List.cons_lt_cons_iff,
    twoDigits_append_lt (by omega) (by omega)]
  simp only [lt_irrefl, true_and, false_or, dayNumber, and_false, or_false]
  omega

/-- Where the time of day stands among the texts of all times: hours of two digits come first,
then those of one. The text does not know about the half of the day before its end. -/
def textRank (t : LocalTime) : Nat := (t.daySecond + 7200) % 43200

/-- The morning comes before the afternoon with the same time on the dial. -/
theorem half_lt (blank : Char) : [blank, if a.hour < 12 then 'A' else 'P', 'M'] <
    [blank, if b.hour < 12 then 'A' else 'P', 'M'] ↔ a.hour < 12 ∧ 12 ≤ b.hour := by
  simp only [List.cons_lt_cons_iff, lt_irrefl, false_or, true_and]
  by_cases morning : a.hour < 12
  · by_cases morning' : b.hour < 12
    · rw [if_pos morning, if_pos morning']
      exact iff_of_false (by decide) (by omega)
    · rw [if_pos morning, if_neg morning']
      exact iff_of_true (by decide) (by omega)
  · by_cases morning' : b.hour < 12
    · rw [if_neg morning, if_pos morning']
      exact iff_of_false (by decide) (by omega)
    · rw [if_neg morning, if_neg morning']
      exact iff_of_false (by decide) (by omega)

theorem toLocaleTimeString_lt (blank : Char) :
    a.toLocaleTimeString blank < b.toLocaleTimeString blank ↔
      a.textRank < b.textRank ∨ a.textRank = b.textRank ∧ a.hour < 12 ∧ 12 ≤ b.hour := by
  have hours := And.intro a.hour_lt b.hour_lt
  have minutes := And.intro a.minute_lt b.minute_lt
  have seconds := And.intro a.second_lt b.second_lt
  have irrefl : ¬ ':' < ':' := lt_irrefl _
  rw [String.lt_iff_toList_lt, toLocaleTimeString, toLocaleTimeString, String.toList_ofList,
    String.toList_ofList, dialText_lt, twoDigits_append_lt (by omega) (by omega),
    List.cons_lt_cons_iff, twoDigits_append_lt (by omega) (by omega), half_lt]
  simp only [irrefl, true_and, false_or, textRank, daySecond, dialRank]
  omega

/-- Of two times of one day, the text of the earlier comes first exactly when its rank does. -/
theorem toLocaleTimeString_le (blank : Char) (sameDay : a.dayNumber = b.dayNumber)
    (before : a.Before b) :
    a.toLocaleTimeString blank ≤ b.toLocaleTimeString blank ↔ a.textRank ≤ b.textRank := by
  have hours := And.intro a.hour_lt b.hour_lt
  have minutes := And.intro a.minute_lt b.minute_lt
  have seconds := And.intro a.second_lt b.second_lt
  rw [← not_lt, toLocaleTimeString_lt]
  simp only [Before, textRank, daySecond] at before ⊢
  omega

end LocalTime

end Js
