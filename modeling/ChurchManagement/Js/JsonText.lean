import ChurchManagement.Js.Decimal
import ChurchManagement.Js.Json

namespace Js.Json

section Numbers

/-- What may stand after a value inside a JSON text. -/
def Follows (rest : List Char) : Prop := ∀ c ∈ rest.head?, c = ',' ∨ c = ']' ∨ c = '\x7d'

theorem follows_nil : Follows [] := by
  intro c first
  cases first

theorem isDigit_iff {c : Char} : c.isDigit = true ↔ '0' ≤ c ∧ c ≤ '9' := by
  simp only [Char.isDigit_iff_toNat]
  rfl

/-- A run of digits is read up to the first other character. -/
theorem digits_append {ds rest : List Char} (all : ∀ c ∈ ds, c.isDigit = true)
    (stop : ∀ c ∈ rest.head?, c.isDigit = false) :
    digits (ds ++ rest) = (ds.map fun c => c.toNat - 48, rest) := by
  induction ds with
  | nil =>
    cases rest with
    | nil => rfl
    | cons c rest =>
      have other : c.isDigit = false := stop c rfl
      have outside : ¬ ('0' ≤ c ∧ c ≤ '9') := by
        rw [← isDigit_iff, other]
        exact Bool.false_ne_true
      rw [List.nil_append, digits, if_neg outside]
      rfl
  | cons c ds ih =>
    have inside := isDigit_iff.mp (all c List.mem_cons_self)
    have tail := ih fun c member => all c (List.mem_cons_of_mem _ member)
    rw [List.cons_append, digits, if_pos inside, tail]
    rfl

theorem digitsValue_map (ds : List Char) :
    digitsValue (ds.map fun c => c.toNat - 48) = Nat.ofDigitChars 10 ds 0 := by
  have general (acc : Nat) : (ds.map fun c => c.toNat - 48).foldl (fun acc d => acc * 10 + d) acc =
      Nat.ofDigitChars 10 ds acc := by
    induction ds generalizing acc with
    | nil => rfl
    | cons c ds ih =>
      rw [List.map_cons, List.foldl_cons, ih, Nat.ofDigitChars_cons, Nat.mul_comm]
      rfl
  exact general 0

theorem toDigits_isDigit (n : Nat) : ∀ c ∈ Nat.toDigits 10 n, c.isDigit = true :=
  fun _ member => Nat.isDigit_of_mem_toDigits (by decide) (by decide) member

/-- The digits of a positive number do not start with zero. -/
theorem toDigits_head {n : Nat} (positive : 0 < n) :
    ∃ c ds, Nat.toDigits 10 n = c :: ds ∧ c ≠ '0' := by
  induction n using Nat.strongRecOn with
  | ind n ih =>
    rw [Nat.toDigits_eq_if (by decide)]
    split
    · exact ⟨_, [], rfl, by rw [Ne, Nat.digitChar_eq_zero]; omega⟩
    · obtain ⟨c, ds, isDigits, filled⟩ := ih (n / 10) (by omega) (by omega)
      exact ⟨c, ds ++ [(n % 10).digitChar], by rw [isDigits, List.cons_append], filled⟩

theorem toDigits_length {n k : Nat} (some : 0 < k) (low : 10 ^ (k - 1) ≤ n) (high : n < 10 ^ k) :
    (Nat.toDigits 10 n).length = k := by
  have most := (Nat.length_toDigits_le_iff (b := 10) (by decide) some).mpr high
  by_cases one : k = 1
  · have least : 0 < (Nat.toDigits 10 n).length := Nat.length_toDigits_pos
    omega
  · have least := (Nat.length_toDigits_le_iff (b := 10) (n := n) (k := k - 1) (by decide)
      (by omega)).not
    omega

/-- The integer digits of a number text: a single zero, or digits that do not start with zero. -/
structure Whole (ds : List Char) : Prop where
  all : ∀ c ∈ ds, c.isDigit = true
  lead : ds = ['0'] ∨ ∃ c tail, ds = c :: tail ∧ c ≠ '0'

theorem whole_zero : Whole ['0'] := by
  refine ⟨fun c member => ?_, .inl rfl⟩
  rw [List.mem_singleton.mp member]
  rfl

/-- The reading of a number after its sign. -/
def parseUnsigned (negative : Bool) (text : List Char) : Option (Num × List Char) :=
  match digits text with
  | ([], _) => none
  | (0 :: _ :: _, _) => none
  | (ds, rest) => do
    let (fs, rest) ← fractionDigits rest
    let (e, rest) ← exponent rest
    some (Num.ofDecimal negative (digitsValue (ds ++ fs)) (e - fs.length), rest)

def signText (neg : Bool) : List Char := if neg then ['-'] else []

def signOf : List Char → Bool × List Char
  | '-' :: rest => (true, rest)
  | rest => (false, rest)

theorem parseNumber_eq (text : List Char) :
    parseNumber text = parseUnsigned (signOf text).1 (signOf text).2 := rfl

theorem signOf_sign (neg : Bool) {c : Char} (plain : c ≠ '-') (text : List Char) :
    signOf (signText neg ++ c :: text) = (neg, c :: text) := by
  cases neg with
  | true => rfl
  | false =>
    rw [signText, if_neg Bool.false_ne_true, List.nil_append, signOf]
    rintro rest same
    exact absurd (List.cons.inj same).1 plain

/-- A number text is read part by part: sign, integer digits, fraction and exponent. -/
theorem parseNumber_parts (neg : Bool) {ds fs after rest rest' : List Char} {e : Int}
    (whole : Whole ds) (stop : ∀ c ∈ after.head?, c.isDigit = false)
    (fraction : fractionDigits after = some (fs.map fun c => c.toNat - 48, rest'))
    (power : exponent rest' = some (e, rest)) :
    parseNumber (signText neg ++ (ds ++ after)) =
      some (Num.ofDecimal neg (Nat.ofDigitChars 10 (ds ++ fs) 0) (e - fs.length), rest) := by
  have read := digits_append whole.all stop
  have parts : digitsValue ((ds.map fun c => c.toNat - 48) ++ fs.map fun c => c.toNat - 48) =
      Nat.ofDigitChars 10 (ds ++ fs) 0 := by
    rw [← List.map_append, digitsValue_map]
  obtain ⟨c, tail, isDs⟩ : ∃ c tail, ds = c :: tail := by
    rcases whole.lead with isZero | ⟨c, tail, isDs, _⟩
    · exact ⟨_, _, isZero⟩
    · exact ⟨_, _, isDs⟩
  have digit := isDigit_iff.mp (whole.all c (isDs ▸ List.mem_cons_self))
  have plain : c ≠ '-' := by
    rintro rfl
    exact absurd digit (by decide)
  have signed : parseNumber (signText neg ++ (ds ++ after)) =
      parseUnsigned neg (ds ++ after) := by
    rw [isDs, List.cons_append, parseNumber_eq, signOf_sign neg plain]
  rw [signed, parseUnsigned, read]
  split
  · rename_i empty
    rw [isDs] at empty
    cases empty
  · rename_i zero
    obtain ⟨isZero, _⟩ := Prod.mk.inj zero
    rcases whole.lead with single | ⟨c', tail', isDs', filled⟩
    · rw [single] at isZero
      cases isZero
    · rw [isDs] at isDs' isZero
      cases isDs'
      have low : 48 ≤ c.toNat := digit.1
      have first : c.toNat - 48 = 0 := (List.cons.inj isZero).1
      have same : c.toNat = '0'.toNat := Nat.le_antisymm (Nat.sub_eq_zero_iff_le.mp first) low
      exact absurd (Char.toNat_inj.mp same) filled
  · rename_i isRead
    obtain ⟨rfl, rfl⟩ := Prod.mk.inj isRead
    simp only [fraction, power, Option.bind_eq_bind, Option.bind_some, parts, List.length_map]

theorem fractionDigits_none {rest : List Char} (other : ∀ c ∈ rest.head?, c ≠ '.') :
    fractionDigits rest = some (([] : List Char).map fun c => c.toNat - 48, rest) := by
  rw [fractionDigits]
  · rfl
  · rintro tail rfl
    exact other '.' rfl rfl

theorem fractionDigits_point {fs rest : List Char} (filled : fs ≠ [])
    (all : ∀ c ∈ fs, c.isDigit = true) (stop : ∀ c ∈ rest.head?, c.isDigit = false) :
    fractionDigits ('.' :: (fs ++ rest)) = some (fs.map fun c => c.toNat - 48, rest) := by
  rw [fractionDigits, digits_append all stop]
  split
  · rename_i empty
    exact absurd (List.map_eq_nil_iff.mp (Prod.mk.inj empty).1) filled
  · rename_i isRead
    obtain ⟨rfl, rfl⟩ := Prod.mk.inj isRead
    rfl

theorem Follows.not_digit {rest : List Char} (follows : Follows rest) :
    ∀ c ∈ rest.head?, c.isDigit = false := by
  intro c first
  rcases follows c first with rfl | rfl | rfl
  · decide
  · decide
  · decide

theorem Follows.not_point {rest : List Char} (follows : Follows rest) :
    ∀ c ∈ rest.head?, c ≠ '.' := by
  intro c first
  rcases follows c first with rfl | rfl | rfl
  · decide
  · decide
  · decide

theorem exponent_none {rest : List Char} (follows : Follows rest) :
    exponent rest = some (0, rest) := by
  cases rest with
  | nil => rfl
  | cons c rest =>
    have other : ¬ (c = 'e' ∨ c = 'E') := by
      rcases follows c rfl with rfl | rfl | rfl
      · decide
      · decide
      · decide
    unfold exponent
    dsimp only
    rw [if_neg other]

theorem exponent_some {e : Int} {rest : List Char} (follows : Follows rest) :
    exponent ('e' :: (if 0 ≤ e then '+' else '-') :: (Nat.toDigits 10 e.natAbs ++ rest)) =
      some (e, rest) := by
  have read := digits_append (toDigits_isDigit e.natAbs) follows.not_digit
  have value : digitsValue ((Nat.toDigits 10 e.natAbs).map fun c => c.toNat - 48) = e.natAbs := by
    rw [digitsValue_map, Nat.ofDigitChars_ten_toDigits]
  have filled : ((Nat.toDigits 10 e.natAbs).map fun c => c.toNat - 48) ≠ [] := by
    rw [Ne, List.map_eq_nil_iff]
    exact Nat.toDigits_ne_nil
  generalize (Nat.toDigits 10 e.natAbs).map (fun c => c.toNat - 48) = ds at read value filled
  cases ds with
  | nil => exact absurd rfl filled
  | cons d ds =>
    unfold exponent
    dsimp only
    rw [if_pos (.inl rfl)]
    by_cases above : 0 ≤ e
    · simp only [if_pos above, read, value, Bool.false_eq_true, if_false]
      rw [Int.natAbs_of_nonneg above]
    · simp only [if_neg above, read, value, if_true]
      congr 2
      omega

theorem replicate_isDigit (n : Nat) : ∀ c ∈ List.replicate n '0', c.isDigit = true := by
  intro c member
  rw [List.eq_of_mem_replicate member]
  rfl

/-- Digits with zeros behind them, before an exponent or the end of the number. -/
theorem parseNumber_integer (neg : Bool) {digits : Nat} (positive : 0 < digits) (z : Nat)
    {after rest : List Char} {e : Int} (stop : ∀ c ∈ after.head?, c.isDigit = false)
    (noPoint : ∀ c ∈ after.head?, c ≠ '.') (power : exponent after = some (e, rest)) :
    parseNumber (signText neg ++ (Nat.toDigits 10 digits ++ List.replicate z '0' ++ after)) =
      some (Num.ofDecimal neg digits (e + z), rest) := by
  obtain ⟨c, tail, isDigits, filled⟩ := toDigits_head positive
  have whole : Whole (Nat.toDigits 10 digits ++ List.replicate z '0') := by
    constructor
    · intro c member
      rcases List.mem_append.mp member with inDigits | inZeros
      · exact toDigits_isDigit digits c inDigits
      · exact replicate_isDigit z c inZeros
    · exact .inr ⟨c, _, by rw [isDigits, List.cons_append], filled⟩
  rw [parseNumber_parts neg whole stop (fractionDigits_none noPoint) power, List.append_nil,
    Nat.ofDigitChars_append, Nat.ofDigitChars_ten_toDigits, Nat.ofDigitChars_replicate_zero,
    Nat.mul_comm, Num.ofDecimal_shift]
  congr 3
  simp

/-- Digits with the point after the first `i` of them. -/
theorem parseNumber_point (neg : Bool) {digits i : Nat} (positive : 0 < digits) (first : 0 < i)
    (inside : i < (Nat.toDigits 10 digits).length) {after rest : List Char} {e : Int}
    (stop : ∀ c ∈ after.head?, c.isDigit = false) (power : exponent after = some (e, rest)) :
    parseNumber (signText neg ++ ((Nat.toDigits 10 digits).take i ++
      '.' :: ((Nat.toDigits 10 digits).drop i ++ after))) =
        some (Num.ofDecimal neg digits (e - ((Nat.toDigits 10 digits).length - i : Nat)), rest) := by
  obtain ⟨c, tail, isDigits, filled⟩ := toDigits_head positive
  have all := toDigits_isDigit digits
  have whole : Whole ((Nat.toDigits 10 digits).take i) := by
    constructor
    · exact fun c member => all c (List.mem_of_mem_take member)
    · refine .inr ⟨c, tail.take (i - 1), ?_, filled⟩
      rw [isDigits, List.take_cons first]
  have filledTail : (Nat.toDigits 10 digits).drop i ≠ [] := by
    rw [Ne, List.drop_eq_nil_iff]
    omega
  have point := fractionDigits_point filledTail (fun c member => all c (List.mem_of_mem_drop member)) stop
  rw [parseNumber_parts neg whole (by intro c first; cases first; rfl) point power,
    List.take_append_drop, Nat.ofDigitChars_ten_toDigits, List.length_drop]

/-- Zeros between the point and the digits. -/
theorem parseNumber_small (neg : Bool) (digits z : Nat) {rest : List Char} (follows : Follows rest) :
    parseNumber (signText neg ++
      (['0'] ++ '.' :: (List.replicate z '0' ++ Nat.toDigits 10 digits ++ rest))) =
        some (Num.ofDecimal neg digits (-(z + (Nat.toDigits 10 digits).length : Nat)), rest) := by
  have all : ∀ c ∈ List.replicate z '0' ++ Nat.toDigits 10 digits, c.isDigit = true := by
    intro c member
    rcases List.mem_append.mp member with inZeros | inDigits
    · exact replicate_isDigit z c inZeros
    · exact toDigits_isDigit digits c inDigits
  have filled : List.replicate z '0' ++ Nat.toDigits 10 digits ≠ [] :=
    List.append_ne_nil_of_right_ne_nil _ Nat.toDigits_ne_nil
  have point := fractionDigits_point filled all follows.not_digit
  have value : Nat.ofDigitChars 10 (['0'] ++ (List.replicate z '0' ++ Nat.toDigits 10 digits)) 0 =
      digits := by
    rw [Nat.ofDigitChars_append, Nat.ofDigitChars_append, Nat.ofDigitChars_replicate_zero]
    exact Nat.ofDigitChars_ten_toDigits
  rw [parseNumber_parts neg whole_zero (by intro c first; cases first; rfl) point
    (exponent_none follows), value, List.length_append, List.length_replicate, zero_sub]

/-- The printed digits of a double are read back, wherever the point stands. -/
theorem parseNumber_layout (neg : Bool) {digits k : Nat} {s : Int} {rest : List Char} (filled : 0 < k)
    (low : 10 ^ (k - 1) ≤ digits) (high : digits < 10 ^ k) (follows : Follows rest) :
    parseNumber (signText neg ++ ((Num.layout (toString digits) k s).toList ++ rest)) =
      some (Num.ofDecimal neg digits (s - k), rest) := by
  have positive : 0 < digits := Nat.lt_of_lt_of_le (Nat.pow_pos (by decide)) low
  have length := toDigits_length filled low high
  have isText : (toString digits).toList = Nat.toDigits 10 digits := Nat.toList_repr
  unfold Num.layout
  dsimp only
  by_cases integer : (k : Int) ≤ s ∧ s ≤ 21
  · rw [if_pos integer, String.toList_append, isText, Num.zeros, String.toList_ofList,
      parseNumber_integer neg positive _ follows.not_digit follows.not_point (exponent_none follows)]
    congr 3
    omega
  rw [if_neg integer]
  by_cases pointed : 0 < s ∧ s ≤ 21
  · have read := parseNumber_point (i := s.toNat) neg positive (by omega) (by omega)
      follows.not_digit (exponent_none follows)
    rw [if_pos pointed]
    simp only [String.toList_append, String.toList_ofList, isText, List.append_assoc]
    refine Eq.trans read ?_
    congr 3
    omega
  rw [if_neg pointed]
  by_cases small : -6 < s ∧ s ≤ 0
  · have read := parseNumber_small neg digits (-s).toNat follows
    rw [if_pos small]
    simp only [String.toList_append, Num.zeros, String.toList_ofList, isText, List.append_assoc] at read ⊢
    refine Eq.trans read ?_
    congr 3
    omega
  rw [if_neg small]
  have power := exponent_some (e := s - 1) follows
  have sign : (if 0 ≤ s - 1 then "+" else "-").toList = [if 0 ≤ s - 1 then '+' else '-'] := by
    split_ifs
    · rfl
    · rfl
  have isPower : (toString (s - 1).natAbs).toList = Nat.toDigits 10 (s - 1).natAbs := Nat.toList_repr
  by_cases single : k = 1
  · have read := parseNumber_integer neg positive 0 (by intro c first; cases first; rfl)
      (by intro c first; cases first; decide) power
    rw [if_pos single]
    simp only [String.toList_append, sign, isText, isPower, List.append_assoc, List.replicate_zero,
      List.nil_append] at read ⊢
    refine Eq.trans read ?_
    congr 3
    omega
  · have read := parseNumber_point (i := 1) neg positive Nat.one_pos (by omega)
      (by intro c first; cases first; rfl) power
    rw [if_neg single]
    simp only [String.toList_append, String.toList_ofList, sign, isText, isPower, List.append_assoc]
    refine Eq.trans read ?_
    congr 3
    omega

/-- The numbers that have a JSON text of their own: zero and the finite doubles. -/
inductive Finite : Num → Prop
  | zero : Finite .zero
  | double (neg : Bool) {mant : Nat} {exp : Int} (double : Num.Double mant exp) :
      Finite (.finite neg mant exp)

theorem parseNumber_toText {n : Num} {rest : List Char} (finite : Finite n) (follows : Follows rest) :
    parseNumber (n.toText.toList ++ rest) = some (n, rest) := by
  cases finite with
  | zero =>
    exact parseNumber_parts false whole_zero follows.not_digit
      (fractionDigits_none follows.not_point) (exponent_none follows)
  | double neg double =>
    rename_i mant exp
    obtain ⟨digits, k, s, isShortest, filled, low, high, read⟩ := Num.shortest_spec double
    have sign : (if neg then "-" else "").toList = signText neg := by
      cases neg with
      | true => rfl
      | false => rfl
    rw [Num.toText, if_neg double.filled, isShortest]
    dsimp only
    rw [String.toList_append, sign, List.append_assoc, parseNumber_layout neg filled low high follows,
      Num.ofDecimal_sign neg double.filled read]

/-- A number starts with its sign or a digit, so with no blank and no other sign. -/
theorem parseNumber_head {text : List Char} {result : Num × List Char}
    (read : parseNumber text = some result) :
    ∃ c tail, text = c :: tail ∧ isSpace c = false ∧
      ∀ d : Char, d ≠ '-' → d.isDigit = false → c ≠ d := by
  cases text with
  | nil => cases read
  | cons c tail =>
    have other (d : Char) (plain : d ≠ '-') (letter : d.isDigit = false) : c ≠ d := by
      rintro rfl
      have outside : ¬ ('0' ≤ c ∧ c ≤ '9') := by
        rw [← isDigit_iff, letter]
        exact Bool.false_ne_true
      have sign : signOf (c :: tail) = (false, c :: tail) := signOf_sign false plain tail
      rw [parseNumber_eq, sign, parseUnsigned, digits, if_neg outside] at read
      cases read
    refine ⟨c, tail, rfl, ?_, other⟩
    simp [isSpace, other ' ' (by decide) rfl, other '\t' (by decide) rfl,
      other '\n' (by decide) rfl, other '\r' (by decide) rfl]

end Numbers

section Strings

/-- One printed character is read back as its code unit. -/
theorem stringUnits_quoteChar (c : Char) (text : List Char) :
    stringUnits (quoteChar c ++ text) =
      (stringUnits text).map fun (units, rest) => (c.toNat :: units, rest) := by
  have escaped {e c : Char} (other : e ≠ 'u') (isEscape : escape e = some c) :
      stringUnits (['\\', e] ++ text) =
        (stringUnits text).map fun (units, rest) => (c.toNat :: units, rest) := by
    rw [List.cons_append, List.cons_append, List.nil_append, stringUnits, isEscape]
    · cases stringUnits text <;> rfl
    · intro a b c d rest same
      exact absurd same other
  unfold quoteChar
  split_ifs with isQuote isSlash isLine isReturn isTab isBack isFeed isControl
  · rw [isQuote]
    exact escaped (by decide) rfl
  · rw [isSlash]
    exact escaped (by decide) rfl
  · rw [isLine]
    exact escaped (by decide) rfl
  · rw [isReturn]
    exact escaped (by decide) rfl
  · rw [isTab]
    exact escaped (by decide) rfl
  · rw [escaped (by decide) rfl, isBack]
    rfl
  · rw [escaped (by decide) rfl, isFeed]
    rfl
  · have hex : hex4 '0' '0' (hexChar (c.toNat / 16)) (hexChar (c.toNat % 16)).toLower =
        some c.toNat := by
      generalize c.toNat = n at isControl
      revert n
      decide
    simp only [List.cons_append, List.nil_append, stringUnits, hex, Option.bind_eq_bind, Option.bind_some]
    cases stringUnits text <;> rfl
  · rw [List.singleton_append, stringUnits]
    · rw [if_neg isControl]
      cases stringUnits text <;> rfl
    · exact fun same => absurd same isQuote
    · intro a b c d rest same
      exact absurd same isSlash
    · intro e rest same
      exact absurd same isSlash
    · exact fun same => absurd same isSlash

theorem stringUnits_quote (text rest : List Char) :
    stringUnits (text.flatMap quoteChar ++ '"' :: rest) = some (text.map Char.toNat, rest) := by
  induction text with
  | nil => rfl
  | cons c text ih =>
    rw [List.flatMap_cons, List.append_assoc, stringUnits_quoteChar, ih]
    rfl

/-- No character is a surrogate, so the units of a text are joined one by one. -/
theorem joinSurrogates_map (text : List Char) : joinSurrogates (text.map Char.toNat) = text := by
  have single (c : Char) : (scalar c.toNat).getD (Char.ofNat 0xFFFD) = c := by
    rw [scalar_toNat]
    rfl
  induction text with
  | nil => rfl
  | cons c text ih =>
    cases text with
    | nil =>
      rw [List.map_cons, List.map_nil, joinSurrogates, single]
    | cons d text =>
      have valid := toNat_valid c
      rw [List.map_cons] at ih ⊢
      rw [List.map_cons, joinSurrogates, if_neg (by omega), single, ih]

theorem parseString_quote (s : String) (rest : List Char) :
    parseString (s.toList.flatMap quoteChar ++ '"' :: rest) = some (s, rest) := by
  simp only [parseString, stringUnits_quote, Option.map_some, joinSurrogates_map, String.ofList_toList]

theorem quote_append (s : String) (rest : List Char) :
    (quote s).toList ++ rest = '"' :: (s.toList.flatMap quoteChar ++ '"' :: rest) := by
  rw [quote, String.toList_ofList, List.cons_append, List.append_assoc, List.singleton_append]

end Strings

section Values

mutual

/-- The values that have a JSON text of their own. -/
def Printable : Value → Prop
  | .undefined | .date _ => False
  | .null | .bool _ | .str _ => True
  | .num n => Finite n
  | .arr items => PrintableItems items
  | .obj fields => PrintableFields fields

def PrintableItems : List Value → Prop
  | [] => True
  | v :: rest => Printable v ∧ PrintableItems rest

def PrintableFields : List (String × Value) → Prop
  | [] => True
  | (_, v) :: rest => Printable v ∧ PrintableFields rest

end

mutual

/-- A value as a parser builds it, where a repeated key has taken the later value. -/
def canon : Value → Value
  | .arr items => .arr (canonItems items)
  | .obj fields => .obj (canonFields [] fields)
  | .undefined => .undefined
  | .null => .null
  | .bool b => .bool b
  | .num n => .num n
  | .str s => .str s
  | .date iso => .date iso

def canonItems : List Value → List Value
  | [] => []
  | v :: rest => canon v :: canonItems rest

def canonFields (fields : List (String × Value)) : List (String × Value) → List (String × Value)
  | [] => fields
  | (k, v) :: rest => canonFields (insertField k (canon v) fields) rest

end

theorem skipSpace_cons {c : Char} (filled : isSpace c = false) (text : List Char) :
    skipSpace (c :: text) = c :: text := by
  rw [skipSpace, filled]
  rfl

theorem stringify_num {n : Num} (finite : Finite n) : stringify (.num n) = n.toText := by
  cases finite with
  | zero => rfl
  | double neg double => rfl

theorem stringify_arr (items : List Value) (rest : List Char) :
    (stringify (.arr items)).toList ++ rest =
      '[' :: ((Value.joinComma (stringifyItems items)).toList ++ ']' :: rest) := by
  simp only [stringify, String.toList_append, List.append_assoc]
  rfl

theorem stringify_obj (fields : List (String × Value)) (rest : List Char) :
    (stringify (.obj fields)).toList ++ rest =
      '\x7b' :: ((Value.joinComma (stringifyFields fields)).toList ++ '\x7d' :: rest) := by
  simp only [stringify, String.toList_append, List.append_assoc]
  rfl

theorem stringifyFields_cons {k : String} {v : Value} (defined : v ≠ .undefined)
    (rest : List (String × Value)) :
    stringifyFields ((k, v) :: rest) = (quote k ++ ":" ++ stringify v) :: stringifyFields rest := by
  rw [stringifyFields]
  exact fun same => absurd same defined

theorem Printable.defined {v : Value} (printable : Printable v) : v ≠ .undefined := by
  rintro rfl
  exact printable

/-- No printed value starts with a blank or a closing bracket. -/
theorem stringify_head {v : Value} (printable : Printable v) :
    ∃ c tail, (stringify v).toList = c :: tail ∧ isSpace c = false ∧ c ≠ ']' := by
  cases v with
  | undefined => exact printable.elim
  | date iso => exact printable.elim
  | null => exact ⟨'n', _, rfl, rfl, by decide⟩
  | bool b =>
    cases b with
    | true => exact ⟨'t', _, rfl, rfl, by decide⟩
    | false => exact ⟨'f', _, rfl, rfl, by decide⟩
  | num n =>
    have read := parseNumber_toText printable follows_nil
    rw [List.append_nil] at read
    obtain ⟨c, tail, isText, filled, other⟩ := parseNumber_head read
    exact ⟨c, tail, by rw [stringify_num printable, isText], filled, other ']' (by decide) rfl⟩
  | str s =>
    have text := quote_append s []
    rw [List.append_nil] at text
    exact ⟨'"', _, text, rfl, by decide⟩
  | arr items =>
    have text := stringify_arr items []
    rw [List.append_nil] at text
    exact ⟨'[', _, text, rfl, by decide⟩
  | obj fields =>
    have text := stringify_obj fields []
    rw [List.append_nil] at text
    exact ⟨'\x7b', _, text, rfl, by decide⟩

/-- A text that starts a number is read as one. -/
theorem parseValue_number {fuel : Nat} {text rest : List Char} {n : Num}
    (read : parseNumber text = some (n, rest)) : parseValue (fuel + 1) text = some (.num n, rest) := by
  obtain ⟨c, tail, rfl, filled, other⟩ := parseNumber_head read
  rw [parseValue, skipSpace_cons filled]
  split
  · rename_i same
    exact absurd (List.cons.inj same).1 (other _ (by decide) rfl)
  · rename_i same
    exact absurd (List.cons.inj same).1 (other _ (by decide) rfl)
  · rename_i same
    exact absurd (List.cons.inj same).1 (other _ (by decide) rfl)
  · rename_i same
    exact absurd (List.cons.inj same).1 (other _ (by decide) rfl)
  · rename_i same
    exact absurd (List.cons.inj same).1 (other _ (by decide) rfl)
  · rename_i same
    exact absurd (List.cons.inj same).1 (other _ (by decide) rfl)
  · rw [read]
    rfl

theorem parseValue_str {fuel : Nat} (s : String) (rest : List Char) :
    parseValue (fuel + 1) ((quote s).toList ++ rest) = some (.str s, rest) := by
  rw [quote_append, parseValue, skipSpace_cons rfl]
  simp only [parseString_quote, Option.map_some]

theorem joinComma_cons (s : String) {texts : List String} (more : texts ≠ []) :
    Value.joinComma (s :: texts) = s ++ "," ++ Value.joinComma texts := by
  cases texts with
  | nil => exact absurd rfl more
  | cons t texts => rfl

theorem follows_cons {c : Char} (allowed : c = ',' ∨ c = ']' ∨ c = '\x7d') (rest : List Char) :
    Follows (c :: rest) := by
  intro d first
  cases first
  exact allowed

theorem parseItems_comma {fuel : Nat} {text more rest : List Char} {v : Value} {items : List Value}
    (read : parseValue fuel text = some (v, ',' :: more))
    (others : parseItems fuel more = some (items, rest)) :
    parseItems (fuel + 1) text = some (v :: items, rest) := by
  rw [parseItems, read]
  simp only [Option.bind_eq_bind, Option.bind_some, skipSpace_cons (show isSpace ',' = false from rfl),
    others]

theorem parseFields_field {fuel : Nat} {fields : List (String × Value)} {key : String} {v : Value}
    {text rest : List Char} (read : parseValue fuel text = some (v, '\x7d' :: rest)) :
    parseFields (fuel + 1) fields ((quote key).toList ++ ':' :: text) =
      some (insertField key v fields, rest) := by
  rw [quote_append, parseFields, skipSpace_cons rfl]
  simp only [parseString_quote, Option.bind_eq_bind, Option.bind_some,
    skipSpace_cons (show isSpace ':' = false from rfl), read,
    skipSpace_cons (show isSpace '\x7d' = false from rfl)]

theorem parseFields_comma {fuel : Nat} {fields : List (String × Value)} {key : String} {v : Value}
    {text more : List Char} (read : parseValue fuel text = some (v, ',' :: more)) :
    parseFields (fuel + 1) fields ((quote key).toList ++ ':' :: text) =
      parseFields fuel (insertField key v fields) more := by
  rw [quote_append, parseFields, skipSpace_cons rfl]
  simp only [parseString_quote, Option.bind_eq_bind, Option.bind_some,
    skipSpace_cons (show isSpace ':' = false from rfl), read,
    skipSpace_cons (show isSpace ',' = false from rfl)]

/-- The items of a printed array, up to its closing bracket. -/
theorem parseValue_arr {fuel : Nat} {text rest : List Char} {items : List Value}
    (starts : ∃ c tail, text = c :: tail ∧ isSpace c = false ∧ c ≠ ']')
    (read : parseItems fuel text = some (items, rest)) :
    parseValue (fuel + 1) ('[' :: text) = some (.arr items, rest) := by
  obtain ⟨c, tail, rfl, filled, other⟩ := starts
  rw [parseValue, skipSpace_cons rfl]
  simp only [skipSpace_cons filled]
  split
  · rename_i same
    exact absurd (List.cons.inj same).1 other
  · rw [read]
    rfl

theorem parseValue_obj {fuel : Nat} {key : String} {text rest : List Char}
    {fields : List (String × Value)}
    (read : parseFields fuel [] ((quote key).toList ++ text) = some (fields, rest)) :
    parseValue (fuel + 1) ('\x7b' :: ((quote key).toList ++ text)) = some (.obj fields, rest) := by
  rw [quote_append] at read ⊢
  rw [parseValue, skipSpace_cons rfl]
  simp only [skipSpace_cons (show isSpace '"' = false from rfl)]
  split
  · rename_i same
    exact absurd (List.cons.inj same).1 (by decide)
  · rw [read]
    rfl

theorem joinComma_head (s : String) (texts : List String) :
    ∃ tail, (Value.joinComma (s :: texts)).toList = s.toList ++ tail := by
  cases texts with
  | nil => exact ⟨[], by rw [List.append_nil]; rfl⟩
  | cons t texts =>
    refine ⟨',' :: (Value.joinComma (t :: texts)).toList, ?_⟩
    rw [joinComma_cons s (List.cons_ne_nil _ _), String.toList_append, String.toList_append,
      List.append_assoc]
    rfl

/-- A printed value is read back. The fuel is used up by the characters of the text. -/
def ReadsBack (v : Value) : Prop := ∀ (fuel : Nat) (rest : List Char), Printable v → Follows rest →
  2 * (stringify v).toList.length ≤ fuel + 1 →
  parseValue (fuel + 1) ((stringify v).toList ++ rest) = some (canon v, rest)

def ReadsBackItems (items : List Value) : Prop := ∀ (fuel : Nat) (rest : List Char), items ≠ [] →
  PrintableItems items → 2 * (Value.joinComma (stringifyItems items)).toList.length < fuel →
  parseItems fuel ((Value.joinComma (stringifyItems items)).toList ++ ']' :: rest) =
    some (canonItems items, rest)

def ReadsBackFields (fields : List (String × Value)) : Prop :=
  ∀ (fuel : Nat) (before : List (String × Value)) (rest : List Char), fields ≠ [] →
  PrintableFields fields → 2 * (Value.joinComma (stringifyFields fields)).toList.length < fuel →
  parseFields fuel before ((Value.joinComma (stringifyFields fields)).toList ++ '\x7d' :: rest) =
    some (canonFields before fields, rest)

theorem ReadsBackItems.arr {items : List Value} (reads : ReadsBackItems items) :
    ReadsBack (.arr items) := by
  intro fuel rest printable _ enough
  have size := congrArg List.length (stringify_arr items [])
  simp only [List.length_append, List.length_cons, List.length_nil] at size
  rw [stringify_arr]
  cases items with
  | nil =>
    rw [parseValue, skipSpace_cons rfl]
    rfl
  | cons v items =>
    have read := reads fuel rest (List.cons_ne_nil _ _) printable (by omega)
    obtain ⟨tail, isText⟩ := joinComma_head (stringify v) (stringifyItems items)
    obtain ⟨c, first, isFirst, filled, other⟩ := stringify_head printable.1
    refine parseValue_arr ⟨c, first ++ (tail ++ ']' :: rest), ?_, filled, other⟩ read
    rw [stringifyItems, isText, isFirst, List.append_assoc, List.cons_append]

theorem ReadsBackFields.obj {fields : List (String × Value)} (reads : ReadsBackFields fields) :
    ReadsBack (.obj fields) := by
  intro fuel rest printable _ enough
  have size := congrArg List.length (stringify_obj fields [])
  simp only [List.length_append, List.length_cons, List.length_nil] at size
  rw [stringify_obj]
  cases fields with
  | nil =>
    rw [parseValue, skipSpace_cons rfl]
    rfl
  | cons entry fields =>
    obtain ⟨key, v⟩ := entry
    have read := reads fuel [] rest (List.cons_ne_nil _ _) printable
      (by omega)
    obtain ⟨tail, isText⟩ := joinComma_head (quote key ++ ":" ++ stringify v) (stringifyFields fields)
    rw [stringifyFields_cons (Printable.defined printable.1), isText] at read ⊢
    simp only [String.toList_append, List.append_assoc] at read ⊢
    exact parseValue_obj read

theorem ReadsBack.item {v : Value} {items : List Value} (first : ReadsBack v)
    (others : ReadsBackItems items) : ReadsBackItems (v :: items) := by
  intro fuel rest _ printable enough
  obtain ⟨c, tail, isText, _⟩ := stringify_head printable.1
  cases items with
  | nil =>
    have isJoin : Value.joinComma (stringifyItems [v]) = stringify v := rfl
    rw [isJoin] at enough ⊢
    have size := congrArg List.length isText
    rw [List.length_cons] at size
    obtain ⟨f, rfl⟩ : ∃ f, fuel = f + 2 := ⟨fuel - 2, by omega⟩
    exact parseItems_item (first _ _ printable.1 (follows_cons (.inr (.inl rfl)) rest) (by omega))
  | cons w items =>
    have more : stringifyItems (w :: items) ≠ [] := List.cons_ne_nil _ _
    rw [stringifyItems, joinComma_cons _ more] at enough ⊢
    simp only [String.toList_append, List.append_assoc, List.length_append] at enough ⊢
    have size := congrArg List.length isText
    rw [List.length_cons] at size
    obtain ⟨f, rfl⟩ : ∃ f, fuel = f + 2 := ⟨fuel - 2, by omega⟩
    exact parseItems_comma (first _ _ printable.1 (follows_cons (.inl rfl) _) (by omega))
      (others _ _ (List.cons_ne_nil _ _) printable.2 (by omega))

theorem ReadsBack.field {key : String} {v : Value} {fields : List (String × Value)}
    (first : ReadsBack v) (others : ReadsBackFields fields) : ReadsBackFields ((key, v) :: fields) := by
  intro fuel before rest _ printable enough
  rw [stringifyFields_cons (Printable.defined printable.1)] at enough ⊢
  cases fields with
  | nil =>
    have isJoin : Value.joinComma ((quote key ++ ":" ++ stringify v) :: stringifyFields []) =
      quote key ++ ":" ++ stringify v := rfl
    rw [isJoin] at enough ⊢
    simp only [String.toList_append, List.append_assoc, List.length_append] at enough ⊢
    have colon : ":".toList.length = 1 := rfl
    obtain ⟨f, rfl⟩ : ∃ f, fuel = f + 2 := ⟨fuel - 2, by omega⟩
    exact parseFields_field (first _ _ printable.1 (follows_cons (.inr (.inr rfl)) rest) (by omega))
  | cons entry fields =>
    obtain ⟨key', w⟩ := entry
    have more : stringifyFields ((key', w) :: fields) ≠ [] := by
      rw [stringifyFields_cons (Printable.defined printable.2.1)]
      exact List.cons_ne_nil _ _
    rw [joinComma_cons _ more] at enough ⊢
    simp only [String.toList_append, List.append_assoc, List.length_append] at enough ⊢
    have colon : ":".toList.length = 1 := rfl
    obtain ⟨f, rfl⟩ : ∃ f, fuel = f + 2 := ⟨fuel - 2, by omega⟩
    have read := first f _ printable.1 (follows_cons (.inl rfl) ((Value.joinComma
      (stringifyFields ((key', w) :: fields))).toList ++ '\x7d' :: rest)) (by omega)
    refine (parseFields_comma read).trans ?_
    exact others _ _ _ (List.cons_ne_nil _ _) printable.2 (by omega)

theorem readsBack (v : Value) : ReadsBack v := by
  refine @Value.rec ReadsBack ReadsBackItems ReadsBackFields (fun entry => ReadsBack entry.2)
    ?undefined ?null ?bool ?num ?str ?date ?arr ?obj ?noItem ?item ?noField ?field ?entry v
  case undefined => exact fun _ _ printable => printable.elim
  case null =>
    intro fuel rest _ _ _
    simp only [stringify, canon]
    exact parseValue_null rest
  case bool =>
    intro b fuel rest _ _ _
    simp only [stringify, canon]
    exact parseValue_bool b rest
  case num =>
    intro n fuel rest printable follows _
    rw [stringify_num printable, canon]
    exact parseValue_number (parseNumber_toText printable follows)
  case str =>
    intro s fuel rest _ _ _
    simp only [stringify, canon]
    exact parseValue_str s rest
  case date => exact fun _ _ _ printable => printable.elim
  case arr => exact fun items reads => reads.arr
  case obj => exact fun fields reads => reads.obj
  case noItem => exact fun _ _ filled => absurd rfl filled
  case item => exact fun v items first others => first.item others
  case noField => exact fun _ _ _ filled => absurd rfl filled
  case field => exact fun (key, v) fields first others => first.field others
  case entry => exact fun key v reads => reads

/-- Reading a printed value gives it back. -/
theorem parse_stringify {v : Value} (printable : Printable v) :
    parse (stringify v) = some (canon v) := by
  have read := readsBack v (2 * (stringify v).toList.length + 1) [] printable follows_nil (by omega)
  rw [List.append_nil] at read
  rw [parse, read]
  rfl

end Values

section Keys

mutual

/-- No object inside the value repeats a key. -/
def Distinct : Value → Prop
  | .arr items => DistinctItems items
  | .obj fields => (fields.map Prod.fst).Nodup ∧ DistinctFields fields
  | .undefined | .null | .bool _ | .num _ | .str _ | .date _ => True

def DistinctItems : List Value → Prop
  | [] => True
  | v :: rest => Distinct v ∧ DistinctItems rest

def DistinctFields : List (String × Value) → Prop
  | [] => True
  | (_, v) :: rest => Distinct v ∧ DistinctFields rest

end

/-- The values that JSON can represent: each is the value of its own text. -/
structure Representable (v : Value) : Prop where
  printable : Printable v
  distinct : Distinct v

theorem insertField_new {key : String} {v : Value} {fields : List (String × Value)}
    (fresh : key ∉ fields.map Prod.fst) : insertField key v fields = fields ++ [(key, v)] := by
  induction fields with
  | nil => rfl
  | cons entry fields ih =>
    obtain ⟨k, w⟩ := entry
    rw [List.map_cons, List.mem_cons, not_or] at fresh
    rw [insertField, if_neg (Ne.symm fresh.1), ih fresh.2, List.cons_append]

theorem canonFields_distinct {fields : List (String × Value)}
    (values : ∀ entry ∈ fields, canon entry.2 = entry.2) (before : List (String × Value))
    (distinct : ((before ++ fields).map Prod.fst).Nodup) :
    canonFields before fields = before ++ fields := by
  induction fields generalizing before with
  | nil => rw [canonFields, List.append_nil]
  | cons entry fields ih =>
    obtain ⟨key, v⟩ := entry
    have fresh : key ∉ before.map Prod.fst := by
      rw [List.map_append, List.map_cons] at distinct
      intro member
      exact (List.nodup_append.mp distinct).2.2 key member key List.mem_cons_self rfl
    have shifted : before ++ (key, v) :: fields = before ++ [(key, v)] ++ fields := by
      rw [List.append_assoc, List.singleton_append]
    rw [canonFields, values (key, v) List.mem_cons_self, insertField_new fresh, shifted]
    rw [shifted] at distinct
    exact ih (fun entry member => values entry (List.mem_cons_of_mem _ member)) _ distinct

/-- A value without repeated keys is built as it stands. -/
theorem canon_distinct (v : Value) : Distinct v → canon v = v := by
  refine @Value.rec (fun v => Distinct v → canon v = v)
    (fun items => DistinctItems items → canonItems items = items)
    (fun fields => DistinctFields fields → ∀ entry ∈ fields, canon entry.2 = entry.2)
    (fun entry => Distinct entry.2 → canon entry.2 = entry.2)
    ?undefined ?null ?bool ?num ?str ?date ?arr ?obj ?noItem ?item ?noField ?field ?entry v
  case undefined => exact fun _ => rfl
  case null => exact fun _ => rfl
  case bool => exact fun _ _ => rfl
  case num => exact fun _ _ => rfl
  case str => exact fun _ _ => rfl
  case date => exact fun _ _ => rfl
  case arr => exact fun items ih distinct => congrArg Value.arr (ih distinct)
  case obj =>
    intro fields ih distinct
    exact congrArg Value.obj (canonFields_distinct (ih distinct.2) [] distinct.1)
  case noItem => exact fun _ => rfl
  case item =>
    intro v items first others distinct
    rw [canonItems, first distinct.1, others distinct.2]
  case noField => exact fun _ _ member => absurd member List.not_mem_nil
  case field =>
    rintro ⟨key, v⟩ fields first others distinct entry member
    rcases List.mem_cons.mp member with rfl | member
    · exact first distinct.1
    · exact others distinct.2 entry member
  case entry => exact fun _ _ ih => ih

/-- The JSON text of a value denotes the value. -/
theorem Representable.parse_eq {v : Value} (representable : Representable v) :
    parse (stringify v) = some v := by
  rw [parse_stringify representable.printable, canon_distinct v representable.distinct]

end Keys

end Js.Json
