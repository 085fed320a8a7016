import Mathlib.Data.List.Forall2
import ChurchManagement.Js.JsonText

namespace Js.Json

section Texts

/-- What a character contributes to the texts below. The weights are chosen so that neither reading
a JSON text nor decoding an escape can gain weight, and decoding loses some unless the escape stands
for a percent sign. -/
def charWeight (c : Char) : Nat :=
  if c = '%' then 3 else if c = '\\' ∨ c = 'u' then 2 else 0

def textWeight (text : List Char) : Nat := (text.map charWeight).sum

theorem textWeight_cons (c : Char) (text : List Char) :
    textWeight (c :: text) = charWeight c + textWeight text := rfl

theorem textWeight_append (text more : List Char) :
    textWeight (text ++ more) = textWeight text + textWeight more := by
  rw [textWeight, List.map_append, List.sum_append]
  rfl

theorem textWeight_suffix {rest text : List Char} (suffix : rest <:+ text) :
    textWeight rest ≤ textWeight text := by
  obtain ⟨before, rfl⟩ := suffix
  rw [textWeight_append]
  omega

theorem charWeight_le (c : Char) : charWeight c ≤ 3 := by
  unfold charWeight
  split_ifs
  · omega
  · omega
  · omega

theorem charWeight_percent {c : Char} (full : charWeight c = 3) : c = '%' := by
  unfold charWeight at full
  split_ifs at full with isPercent
  · exact isPercent
  · omega

theorem charWeight_zero {c : Char} (percent : c.toNat ≠ 37) (slash : c.toNat ≠ 92)
    (letter : c.toNat ≠ 117) : charWeight c = 0 := by
  have isPercent : c ≠ '%' := by
    rintro rfl
    exact percent rfl
  have other : ¬ (c = '\\' ∨ c = 'u') := by
    rintro (rfl | rfl)
    · exact slash rfl
    · exact letter rfl
  rw [charWeight, if_neg isPercent, if_neg other]

theorem charWeight_digit {c : Char} (digit : c.isDigit = true) : charWeight c = 0 := by
  have bounds := isDigit_iff.mp digit
  have low : 48 ≤ c.toNat := bounds.1
  have high : c.toNat ≤ 57 := bounds.2
  exact charWeight_zero (by omega) (by omega) (by omega)

theorem charWeight_hexDigit {c : Char} {n : Nat} (hex : hexDigit c = some n) : charWeight c = 0 := by
  unfold hexDigit at hex
  dsimp only at hex
  split_ifs at hex
  · exact charWeight_zero (by omega) (by omega) (by omega)
  · exact charWeight_zero (by omega) (by omega) (by omega)
  · exact charWeight_zero (by omega) (by omega) (by omega)

theorem textWeight_zero {text : List Char} (none : ∀ c ∈ text, charWeight c = 0) :
    textWeight text = 0 := by
  rw [textWeight, List.sum_eq_zero_iff]
  intro n member
  obtain ⟨c, inText, rfl⟩ := List.mem_map.mp member
  exact none c inText

end Texts

section Decoding

def unitWeight : UriUnit → Nat
  | .lit c => charWeight c
  | .byte _ => 3

def unitsWeight (units : List UriUnit) : Nat := (units.map unitWeight).sum

/-- A unit that decoding keeps: a character written out, or the escape of a percent sign. -/
inductive Kept : UriUnit → Char → Prop
  | lit (c : Char) : Kept (.lit c) c
  | percent : Kept (.byte 0x25) '%'

/-- Replaces the escapes of percent signs, and no other. -/
def unescape : List Char → List Char
  | '%' :: '2' :: '5' :: rest => '%' :: unescape rest
  | c :: rest => c :: unescape rest
  | [] => []

theorem unescape_cons {c : Char} (plain : c ≠ '%') (rest : List Char) :
    unescape (c :: rest) = c :: unescape rest := by
  rw [unescape]
  intro tail isPercent
  exact absurd isPercent plain

/-- An escape has the weight of its percent sign, and takes the place of three characters. -/
theorem uriUnits_weight {text : List Char} {units : List UriUnit} (split : uriUnits text = some units) :
    unitsWeight units = textWeight text ∧ units.length ≤ text.length ∧
      ('%' ∈ text → units.length < text.length) := by
  induction text using uriUnits.induct generalizing units with
  | case1 =>
    cases split
    exact ⟨rfl, Nat.le_refl _, fun member => absurd member List.not_mem_nil⟩
  | case2 h l rest ih =>
    simp only [uriUnits, Option.bind_eq_bind, Option.bind_eq_some_iff] at split
    obtain ⟨high, isHigh, low, isLow, others, isRest, isUnits⟩ := split
    cases isUnits
    obtain ⟨weight, shorter, _⟩ := ih isRest
    have size : unitsWeight (.byte (16 * high + low) :: others) = 3 + unitsWeight others := rfl
    have percent : charWeight '%' = 3 := rfl
    rw [size, textWeight_cons, textWeight_cons, textWeight_cons, charWeight_hexDigit isHigh,
      charWeight_hexDigit isLow, weight, percent]
    simp only [List.length_cons]
    omega
  | case3 rest short =>
    rw [uriUnits] at split
    · cases split
    · exact short
  | case4 c rest escape lone ih =>
    have plain : c ≠ '%' := fun same => lone same
    rw [uriUnits_lit plain, Option.map_eq_some_iff] at split
    obtain ⟨others, isRest, rfl⟩ := split
    obtain ⟨weight, shorter, strict⟩ := ih isRest
    have size : unitsWeight (.lit c :: others) = charWeight c + unitsWeight others := rfl
    rw [size, weight, textWeight_cons]
    refine ⟨rfl, Nat.succ_le_succ shorter, fun member => ?_⟩
    rcases List.mem_cons.mp member with same | inRest
    · exact absurd same.symm plain
    · exact Nat.succ_lt_succ (strict inRest)

/-- Decoding gains no weight: a decoded character weighs no more than its last byte. -/
theorem assemble_weight {units : List UriUnit} {want acc least : Nat} {out : List Char}
    (assembled : assemble want acc least units = some out) :
    textWeight out ≤ unitsWeight units ∧ out.length ≤ units.length := by
  induction units generalizing want acc least out with
  | nil =>
    rw [assemble] at assembled
    split_ifs at assembled
    cases assembled
    exact ⟨Nat.le_refl _, Nat.le_refl _⟩
  | cons unit units ih =>
    have size : unitsWeight (unit :: units) = unitWeight unit + unitsWeight units := rfl
    have char {c : Char} {rest : List Char} (isRest : assemble 0 0 0 units = some rest)
        (light : charWeight c ≤ unitWeight unit) :
        textWeight (c :: rest) ≤ unitsWeight (unit :: units) ∧
          (c :: rest).length ≤ (unit :: units).length := by
      have tail := ih isRest
      rw [size, textWeight_cons, List.length_cons, List.length_cons]
      omega
    have wait {want acc least : Nat} (isRest : assemble want acc least units = some out) :
        textWeight out ≤ unitsWeight (unit :: units) ∧ out.length ≤ (unit :: units).length := by
      have tail := ih isRest
      rw [size, List.length_cons]
      omega
    cases unit with
    | lit c =>
      rw [assemble] at assembled
      split_ifs at assembled
      simp only [Option.bind_eq_bind, Option.bind_eq_some_iff] at assembled
      obtain ⟨rest, isRest, isOut⟩ := assembled
      cases isOut
      exact char isRest (Nat.le_refl _)
    | byte b =>
      rw [assemble] at assembled
      split_ifs at assembled with start continues last
      · simp only [Option.bind_eq_bind, Option.bind_eq_some_iff] at assembled
        obtain ⟨⟨more, payload, low⟩, _, assembled⟩ := assembled
        dsimp only at assembled
        split_ifs at assembled
        · simp only [Option.bind_eq_some_iff] at assembled
          obtain ⟨c, _, rest, isRest, isOut⟩ := assembled
          cases isOut
          exact char isRest (charWeight_le c)
        · exact wait assembled
      · dsimp only at assembled
        split_ifs at assembled
        simp only [Option.bind_eq_bind, Option.bind_eq_some_iff] at assembled
        obtain ⟨c, _, rest, isRest, isOut⟩ := assembled
        cases isOut
        exact char isRest (charWeight_le c)
      · exact wait assembled

/-- Only the escape of a percent sign stands for one. -/
theorem leadByte_percent {b more payload low : Nat} (lead : leadByte b = some (more, payload, low))
    (single : more = 0) (isChar : scalar payload = some '%') : b = 0x25 := by
  have ascii : ∀ n < 0x80, scalar n = some '%' → n = 0x25 := by decide
  unfold leadByte at lead
  split_ifs at lead with small
  · have isPayload : b = payload := congrArg (fun t => t.2.1) (Option.some.inj lead)
    exact ascii b small (isPayload ▸ isChar)
  · exact absurd (congrArg Prod.fst (Option.some.inj lead)) (single ▸ Nat.one_ne_zero)
  · exact absurd (congrArg Prod.fst (Option.some.inj lead)) (single ▸ (Nat.succ_ne_zero 1))
  · exact absurd (congrArg Prod.fst (Option.some.inj lead)) (single ▸ (Nat.succ_ne_zero 2))

/-- Decoding that loses no weight has met no escape but those of percent signs. -/
theorem assemble_kept {units : List UriUnit} {out : List Char}
    (assembled : assemble 0 0 0 units = some out) (balance : unitsWeight units ≤ textWeight out) :
    List.Forall₂ Kept units out := by
  induction units generalizing out with
  | nil =>
    cases assembled
    exact .nil
  | cons unit units ih =>
    have size : unitsWeight (unit :: units) = unitWeight unit + unitsWeight units := rfl
    rw [size] at balance
    cases unit with
    | lit c =>
      rw [assemble, if_pos rfl] at assembled
      simp only [Option.bind_eq_bind, Option.bind_eq_some_iff] at assembled
      obtain ⟨rest, isRest, isOut⟩ := assembled
      cases isOut
      rw [textWeight_cons, unitWeight] at balance
      exact .cons (.lit c) (ih isRest (by omega))
    | byte b =>
      have three : unitWeight (.byte b) = 3 := rfl
      rw [assemble, if_pos rfl] at assembled
      simp only [Option.bind_eq_bind, Option.bind_eq_some_iff] at assembled
      obtain ⟨⟨more, payload, low⟩, lead, assembled⟩ := assembled
      dsimp only at assembled
      split_ifs at assembled with single
      · simp only [Option.bind_eq_some_iff] at assembled
        obtain ⟨c, isChar, rest, isRest, isOut⟩ := assembled
        cases isOut
        have tail := (assemble_weight isRest).1
        have light := charWeight_le c
        rw [textWeight_cons] at balance
        obtain rfl : c = '%' := charWeight_percent (by omega)
        rw [leadByte_percent lead single isChar]
        exact .cons .percent (ih isRest (by omega))
      · have tail := (assemble_weight assembled).1
        omega

/-- The digits of the escape of a percent sign. -/
theorem hexDigit_percent {h l : Char} {high low : Nat} (isHigh : hexDigit h = some high)
    (isLow : hexDigit l = some low) (isPercent : 16 * high + low = 0x25) : h = '2' ∧ l = '5' := by
  have small {c : Char} {n : Nat} (hex : hexDigit c = some n) :
      n < 16 ∧ (n < 10 → c.toNat = 48 + n) := by
    unfold hexDigit at hex
    dsimp only at hex
    split_ifs at hex
    · cases hex
      omega
    · cases hex
      omega
    · cases hex
      omega
  have highSmall := small isHigh
  have lowSmall := small isLow
  obtain rfl : high = 2 := by omega
  obtain rfl : low = 5 := by omega
  exact ⟨Char.toNat_inj.mp (highSmall.2 (by omega)), Char.toNat_inj.mp (lowSmall.2 (by omega))⟩

theorem unescape_kept {text : List Char} {units : List UriUnit} {out : List Char}
    (split : uriUnits text = some units) (kept : List.Forall₂ Kept units out) :
    out = unescape text := by
  induction text using uriUnits.induct generalizing units out with
  | case1 =>
    cases split
    cases kept
    rfl
  | case2 h l rest ih =>
    simp only [uriUnits, Option.bind_eq_bind, Option.bind_eq_some_iff] at split
    obtain ⟨high, isHigh, low, isLow, others, isRest, isUnits⟩ := split
    cases isUnits
    generalize isByte : 16 * high + low = b at kept
    obtain _ | ⟨head, tail⟩ := kept
    cases head
    obtain ⟨rfl, rfl⟩ := hexDigit_percent isHigh isLow isByte
    rw [ih isRest tail, unescape]
  | case3 rest short =>
    rw [uriUnits] at split
    · cases split
    · exact short
  | case4 c rest escape lone ih =>
    have plain : c ≠ '%' := fun same => lone same
    rw [uriUnits_lit plain, Option.map_eq_some_iff] at split
    obtain ⟨others, isRest, rfl⟩ := split
    obtain _ | ⟨head, tail⟩ := kept
    cases head
    rw [ih isRest tail, unescape_cons plain]

/-- What decoding does to the weight of a text. -/
theorem decodeURIComponent_weight {s t : String} (decoded : decodeURIComponent s = some t) :
    textWeight t.toList ≤ textWeight s.toList ∧
      ('%' ∈ s.toList → t.toList.length < s.toList.length) ∧
      (textWeight s.toList ≤ textWeight t.toList → t.toList = unescape s.toList) := by
  simp only [decodeURIComponent, Option.bind_eq_some_iff, Option.map_eq_some_iff] at decoded
  obtain ⟨units, split, out, assembled, rfl⟩ := decoded
  obtain ⟨weight, _, shorter⟩ := uriUnits_weight split
  obtain ⟨light, short⟩ := assemble_weight assembled
  rw [String.toList_ofList]
  refine ⟨by omega, fun member => ?_, fun balance => ?_⟩
  · exact Nat.lt_of_le_of_lt short (shorter member)
  · exact unescape_kept split (assemble_kept assembled (by omega))

end Decoding

section Reading

def quotedWeight (text : List Char) : Nat := textWeight (text.flatMap quoteChar)

theorem quotedWeight_cons (c : Char) (text : List Char) :
    quotedWeight (c :: text) = textWeight (quoteChar c) + quotedWeight text := by
  rw [quotedWeight, List.flatMap_cons, textWeight_append]
  rfl

mutual

/-- The weight of the printed value. -/
def weight : Value → Nat
  | .undefined | .null => textWeight "null".toList
  | .bool b => textWeight (if b then "true" else "false").toList
  | .num _ => 0
  | .str s | .date s => quotedWeight s.toList
  | .arr items => weightItems items
  | .obj fields => weightFields fields

def weightItems : List Value → Nat
  | [] => 0
  | v :: rest => weight v + weightItems rest

def weightFields : List (String × Value) → Nat
  | [] => 0
  | (k, v) :: rest => quotedWeight k.toList + weight v + weightFields rest

end

theorem quoteChar_plain {c : Char} (quote : c ≠ '"') (slash : c ≠ '\\') (control : ¬ c.toNat < 0x20) :
    quoteChar c = [c] := by
  have different {d : Char} (low : d.toNat < 0x20) : c ≠ d := by
    rintro rfl
    exact control low
  unfold quoteChar
  rw [if_neg quote, if_neg slash, if_neg (different (by decide)), if_neg (different (by decide)),
    if_neg (different (by decide)), if_neg (by omega), if_neg (by omega), if_neg control]

/-- A character is printed as a control character, as one of the two with an escape of their own,
or as it is. -/
theorem quoteChar_cases {P : List Char → Prop} (c : Char)
    (controls : ∀ n < 0x20, P (quoteChar (Char.ofNat n))) (quotes : P (quoteChar '"'))
    (slashes : P (quoteChar '\\')) (plain : P [c]) : P (quoteChar c) := by
  by_cases control : c.toNat < 0x20
  · have low := controls c.toNat control
    rwa [Char.ofNat_toNat] at low
  by_cases quote : c = '"'
  · rwa [quote]
  by_cases slash : c = '\\'
  · rwa [slash]
  · rwa [quoteChar_plain quote slash control]

/-- A printed character weighs no more than a backslash and the letter `u`. -/
theorem quoteChar_weight (c : Char) : textWeight (quoteChar c) ≤ 4 := by
  refine quoteChar_cases (P := fun text => textWeight text ≤ 4) c (by decide) (by decide) (by decide) ?_
  rw [textWeight_cons]
  exact Nat.le_succ_of_le (charWeight_le c)

/-- A one-character escape weighs as much as the character is printed with. -/
theorem escape_weight {e c : Char} (isEscape : escape e = some c) :
    textWeight (quoteChar c) ≤ 2 + charWeight e := by
  unfold escape at isEscape
  split at isEscape
  all_goals cases isEscape
  all_goals decide

/-- What the character of a code unit weighs when it is printed. -/
def codeWeight (unit : Nat) : Nat := ((scalar unit).map fun c => textWeight (quoteChar c)).getD 0

theorem codeWeight_le (unit : Nat) : codeWeight unit ≤ 4 := by
  unfold codeWeight
  cases scalar unit with
  | none => exact Nat.zero_le 4
  | some c => exact quoteChar_weight c

theorem codeWeight_toNat (c : Char) : codeWeight c.toNat = textWeight (quoteChar c) := by
  rw [codeWeight, scalar_toNat]
  rfl

theorem stringUnits_weight {text rest : List Char} {units : List Nat}
    (read : stringUnits text = some (units, rest)) :
    (units.map codeWeight).sum + textWeight rest ≤ textWeight text := by
  induction text using stringUnits.induct generalizing units rest with
  | case1 => cases read
  | case2 tail =>
    cases read
    rw [textWeight_cons, List.map_nil, List.sum_nil]
    omega
  | case3 a b c d tail ih =>
    simp only [stringUnits, Option.bind_eq_bind, Option.bind_eq_some_iff] at read
    obtain ⟨unit, _, ⟨others, tail'⟩, isRest, isRead⟩ := read
    cases isRead
    have light := ih isRest
    have bound := codeWeight_le unit
    have slash : charWeight '\\' = 2 := rfl
    have letter : charWeight 'u' = 2 := rfl
    simp only [textWeight_cons, List.map_cons, List.sum_cons]
    omega
  | case4 e tail other ih =>
    rw [stringUnits] at read
    · simp only [Option.bind_eq_bind, Option.bind_eq_some_iff] at read
      obtain ⟨c, isEscape, ⟨others, tail'⟩, isRest, isRead⟩ := read
      cases isRead
      have light := ih isRest
      have bound := escape_weight isEscape
      have slash : charWeight '\\' = 2 := rfl
      simp only [textWeight_cons, List.map_cons, List.sum_cons, codeWeight_toNat]
      omega
    · exact other
  | case5 => cases read
  | case6 c tail quote hex slash lone control =>
    rw [stringUnits, if_pos control] at read
    · cases read
    · exact quote
    · exact hex
    · exact slash
    · exact lone
  | case7 c tail quote hex slash lone control ih =>
    rw [stringUnits, if_neg control] at read
    · simp only [Option.bind_eq_bind, Option.bind_eq_some_iff] at read
      obtain ⟨⟨others, tail'⟩, isRest, isRead⟩ := read
      cases isRead
      have light := ih isRest
      have notSlash : c ≠ '\\' := by
        rintro rfl
        cases tail with
        | nil => exact lone rfl rfl
        | cons e tail => exact slash e tail rfl rfl
      have printed := quoteChar_plain (fun same => quote same) notSlash control
      have empty : textWeight ([] : List Char) = 0 := rfl
      simp only [textWeight_cons, List.map_cons, List.sum_cons, codeWeight_toNat, printed, empty]
      omega
    · exact quote
    · exact hex
    · exact slash
    · exact lone

/-- Joining surrogates gains no weight: a joined or replaced character has none. -/
theorem joinSurrogates_weight (units : List Nat) :
    quotedWeight (joinSurrogates units) ≤ (units.map codeWeight).sum := by
  have single (unit : Nat) :
      textWeight (quoteChar ((scalar unit).getD (Char.ofNat 0xFFFD))) ≤ codeWeight unit := by
    unfold codeWeight
    cases scalar unit with
    | none => decide
    | some c => exact Nat.le_refl _
  induction units using joinSurrogates.induct with
  | case1 => exact Nat.le_refl _
  | case2 high low rest pair ih =>
    have joined : textWeight (quoteChar
        (Char.ofNat (0x10000 + (high - 0xD800) * 0x400 + (low - 0xDC00)))) = 0 := by
      generalize isPoint : 0x10000 + (high - 0xD800) * 0x400 + (low - 0xDC00) = point
      have isNat : (Char.ofNat point).toNat = point := by
        have valid : point.isValidChar := .inr (by omega)
        rw [Char.ofNat, dif_pos valid]
        rfl
      have different {d : Char} (low : d.toNat < 0x10000) : Char.ofNat point ≠ d := by
        intro same
        rw [← same, isNat] at low
        omega
      rw [quoteChar_plain (different (by decide)) (different (by decide)) (by omega), textWeight_cons,
        charWeight_zero (by omega) (by omega) (by omega)]
      rfl
    rw [joinSurrogates, if_pos pair, quotedWeight_cons, joined]
    simp only [List.map_cons, List.sum_cons]
    omega
  | case3 high low rest apart ih =>
    have light := single high
    rw [joinSurrogates, if_neg apart, quotedWeight_cons, List.map_cons, List.sum_cons]
    omega
  | case4 unit =>
    have light := single unit
    rw [joinSurrogates, quotedWeight_cons, List.map_cons, List.sum_cons, List.map_nil, List.sum_nil]
    exact light

theorem parseString_weight {text rest : List Char} {s : String}
    (read : parseString text = some (s, rest)) :
    quotedWeight s.toList + textWeight rest ≤ textWeight text := by
  rw [parseString, Option.map_eq_some_iff] at read
  obtain ⟨⟨units, tail⟩, isUnits, isRead⟩ := read
  cases isRead
  have light := stringUnits_weight isUnits
  have joined := joinSurrogates_weight units
  rw [String.toList_ofList]
  omega

theorem skipSpace_suffix (text : List Char) : skipSpace text <:+ text := by
  induction text with
  | nil => exact List.suffix_rfl
  | cons c text ih =>
    rw [skipSpace]
    split
    · exact ih.trans (List.suffix_cons c text)
    · exact List.suffix_rfl

theorem digits_suffix (text : List Char) : (digits text).2 <:+ text := by
  induction text with
  | nil => exact List.suffix_rfl
  | cons c text ih =>
    rw [digits]
    split
    · exact ih.trans (List.suffix_cons c text)
    · exact List.suffix_rfl

theorem fractionDigits_suffix {text rest : List Char} {ds : List Nat}
    (read : fractionDigits text = some (ds, rest)) : rest <:+ text := by
  unfold fractionDigits at read
  split at read
  · rename_i tail
    have suffix := digits_suffix tail
    split at read
    · cases read
    · rename_i isDigits
      cases read
      rw [isDigits] at suffix
      exact suffix.trans (List.suffix_cons _ _)
  · cases read
    exact List.suffix_rfl

def exponentSign : List Char → Bool × List Char
  | '+' :: rest => (false, rest)
  | '-' :: rest => (true, rest)
  | rest => (false, rest)

theorem exponent_eq (c : Char) (tail : List Char) :
    exponent (c :: tail) = if c = 'e' ∨ c = 'E' then
      match digits (exponentSign tail).2 with
      | ([], _) => none
      | (ds, rest) =>
        some (if (exponentSign tail).1 then -(digitsValue ds : Int) else digitsValue ds, rest)
    else some (0, c :: tail) := rfl

theorem exponent_suffix {text rest : List Char} {e : Int}
    (read : exponent text = some (e, rest)) : rest <:+ text := by
  cases text with
  | nil =>
    cases read
    exact List.suffix_rfl
  | cons c tail =>
    have sign : (exponentSign tail).2 <:+ tail := by
      unfold exponentSign
      split
      · exact List.suffix_cons _ _
      · exact List.suffix_cons _ _
      · exact List.suffix_rfl
    have suffix := digits_suffix (exponentSign tail).2
    rw [exponent_eq] at read
    split at read
    · split at read
      · cases read
      · rename_i isDigits
        cases read
        rw [isDigits] at suffix
        exact suffix.trans (sign.trans (List.suffix_cons c tail))
    · cases read
      exact List.suffix_rfl

theorem parseNumber_suffix {text rest : List Char} {n : Num}
    (read : parseNumber text = some (n, rest)) : rest <:+ text := by
  have sign : (signOf text).2 <:+ text := by
    unfold signOf
    split
    · exact List.suffix_cons _ _
    · exact List.suffix_rfl
  have suffix := digits_suffix (signOf text).2
  rw [parseNumber_eq, parseUnsigned] at read
  split at read
  · cases read
  · cases read
  · rename_i isDigits
    simp only [Option.bind_eq_bind, Option.bind_eq_some_iff] at read
    obtain ⟨⟨fs, after⟩, isFraction, ⟨e, tail⟩, isExponent, isRead⟩ := read
    cases isRead
    rw [isDigits] at suffix
    exact (exponent_suffix isExponent).trans ((fractionDigits_suffix isFraction).trans (suffix.trans sign))

theorem keyword_weight {word : String} {v result : Value} {text rest : List Char}
    (read : keyword word v text = some (result, rest)) (printed : weight v = textWeight word.toList) :
    weight result + textWeight rest ≤ textWeight text := by
  unfold keyword at read
  split at read
  · rename_i starts
    cases read
    obtain ⟨tail, rfl⟩ := List.isPrefixOf_iff_prefix.mp starts
    rw [← String.length_toList, List.drop_left, textWeight_append, printed]
  · cases read

theorem insertField_weight (key : String) (v : Value) (fields : List (String × Value)) :
    weightFields (insertField key v fields) ≤ weightFields fields + quotedWeight key.toList + weight v := by
  induction fields with
  | nil => simp only [insertField, weightFields]; omega
  | cons entry fields ih =>
    obtain ⟨k, w⟩ := entry
    rw [insertField]
    split
    · rename_i same
      simp only [weightFields, same]
      omega
    · simp only [weightFields]
      omega

theorem skipSpace_weight {text tail : List Char} {c : Char} (isText : skipSpace text = c :: tail) :
    charWeight c + textWeight tail ≤ textWeight text := by
  have light := textWeight_suffix (skipSpace_suffix text)
  rwa [isText] at light

/-- Reading a value gains no weight: it is paid by the characters it consumes. -/
def ValuePaid (fuel : Nat) : Prop := ∀ ⦃text rest : List Char⦄ ⦃v : Value⦄,
  parseValue fuel text = some (v, rest) → weight v + textWeight rest ≤ textWeight text

def ItemsPaid (fuel : Nat) : Prop := ∀ ⦃text rest : List Char⦄ ⦃items : List Value⦄,
  parseItems fuel text = some (items, rest) → weightItems items + textWeight rest ≤ textWeight text

def FieldsPaid (fuel : Nat) : Prop :=
  ∀ ⦃text rest : List Char⦄ ⦃before fields : List (String × Value)⦄,
  parseFields fuel before text = some (fields, rest) →
  weightFields fields + textWeight rest ≤ weightFields before + textWeight text

theorem ValuePaid.step {fuel : Nat} (items : ItemsPaid fuel) (fields : FieldsPaid fuel) :
    ValuePaid (fuel + 1) := by
  intro text rest v read
  have light := textWeight_suffix (skipSpace_suffix text)
  rw [parseValue] at read
  split at read
  · rename_i isText
    exact (keyword_weight read rfl).trans (isText ▸ light)
  · rename_i isText
    exact (keyword_weight read rfl).trans (isText ▸ light)
  · rename_i isText
    exact (keyword_weight read rfl).trans (isText ▸ light)
  · rename_i isText
    obtain ⟨⟨s, tail⟩, isString, isRead⟩ := Option.map_eq_some_iff.mp read
    cases isRead
    have string := parseString_weight isString
    have quote := skipSpace_weight isText
    rw [weight]
    omega
  · rename_i inner isText
    have bracket := skipSpace_weight isText
    have skipped := textWeight_suffix (skipSpace_suffix inner)
    split at read
    · rename_i isEmpty
      cases read
      have closing := skipSpace_weight isEmpty
      rw [weight, weightItems]
      omega
    · obtain ⟨⟨found, tail⟩, isItems, isRead⟩ := Option.map_eq_some_iff.mp read
      cases isRead
      have inside := items isItems
      rw [weight]
      omega
  · rename_i inner isText
    have brace := skipSpace_weight isText
    have skipped := textWeight_suffix (skipSpace_suffix inner)
    split at read
    · rename_i isEmpty
      cases read
      have closing := skipSpace_weight isEmpty
      rw [weight, weightFields]
      omega
    · obtain ⟨⟨found, tail⟩, isFields, isRead⟩ := Option.map_eq_some_iff.mp read
      cases isRead
      have inside := fields isFields
      rw [weightFields] at inside
      rw [weight]
      omega
  · obtain ⟨⟨n, tail⟩, isNumber, isRead⟩ := Option.map_eq_some_iff.mp read
    cases isRead
    have number := textWeight_suffix (parseNumber_suffix isNumber)
    rw [weight]
    omega

theorem ItemsPaid.step {fuel : Nat} (values : ValuePaid fuel) (items : ItemsPaid fuel) :
    ItemsPaid (fuel + 1) := by
  intro text rest found read
  rw [parseItems] at read
  simp only [Option.bind_eq_bind, Option.bind_eq_some_iff] at read
  obtain ⟨⟨item, after⟩, isItem, read⟩ := read
  have first := values isItem
  dsimp only at read
  split at read
  · rename_i isAfter
    cases read
    have closing := skipSpace_weight isAfter
    simp only [weightItems]
    omega
  · rename_i isAfter
    obtain ⟨⟨others, tail⟩, isOthers, isRead⟩ := Option.bind_eq_some_iff.mp read
    cases isRead
    have comma := skipSpace_weight isAfter
    have inside := items isOthers
    dsimp only
    rw [weightItems]
    omega
  · cases read

theorem FieldsPaid.step {fuel : Nat} (values : ValuePaid fuel) (fields : FieldsPaid fuel) :
    FieldsPaid (fuel + 1) := by
  intro text rest before found read
  rw [parseFields] at read
  split at read
  · rename_i isText
    have quote := skipSpace_weight isText
    obtain ⟨⟨key, after⟩, isKey, read⟩ := Option.bind_eq_some_iff.mp read
    have string := parseString_weight isKey
    dsimp only at read
    split at read
    · rename_i isAfter
      have colon := skipSpace_weight isAfter
      obtain ⟨⟨v, more⟩, isValue, read⟩ := Option.bind_eq_some_iff.mp read
      have value := values isValue
      have inserted := insertField_weight key v before
      dsimp only at read
      split at read
      · rename_i isMore
        cases read
        have closing := skipSpace_weight isMore
        omega
      · rename_i isMore
        have comma := skipSpace_weight isMore
        have inside := fields read
        omega
      · cases read
    · cases read
  · cases read

theorem parse_paid (fuel : Nat) : ValuePaid fuel ∧ ItemsPaid fuel ∧ FieldsPaid fuel := by
  induction fuel with
  | zero =>
    refine ⟨?_, ?_, ?_⟩
    · intro text rest v read
      cases read
    · intro text rest items read
      cases read
    · intro text rest before fields read
      cases read
  | succ fuel ih =>
    obtain ⟨values, items, fields⟩ := ih
    exact ⟨ValuePaid.step items fields, ItemsPaid.step values items, FieldsPaid.step values fields⟩

/-- The value of a JSON text weighs no more than the text. -/
theorem parse_weight {text : String} {v : Value} (read : parse text = some v) :
    weight v ≤ textWeight text.toList := by
  unfold parse at read
  split at read
  · rename_i found
    have paid := (parse_paid _).1 found
    split at read
    · cases read
      omega
    · cases read
  · cases read

end Reading

section Printing

/-- The characters of a printed number. -/
def isNumeral (c : Char) : Bool := c.isDigit || c = '.' || c = 'e' || c = '+' || c = '-'

theorem isNumeral_light {c : Char} (numeral : isNumeral c = true) : charWeight c = 0 := by
  simp only [isNumeral, Bool.or_eq_true, decide_eq_true_eq] at numeral
  rcases numeral with (((digit | rfl) | rfl) | rfl) | rfl
  · exact charWeight_digit digit
  · rfl
  · rfl
  · rfl
  · rfl

def Numeral (s : String) : Prop := s.toList.all isNumeral = true

theorem numeral_iff {s : String} : Numeral s ↔ ∀ c ∈ s.toList, isNumeral c = true := List.all_eq_true

theorem Numeral.append {s t : String} (first : Numeral s) (second : Numeral t) : Numeral (s ++ t) := by
  rw [Numeral, String.toList_append, List.all_append, Bool.and_eq_true]
  exact ⟨first, second⟩

theorem isNumeral_digit {c : Char} (digit : c.isDigit = true) : isNumeral c = true := by
  simp only [isNumeral, digit, Bool.true_or]

theorem numeral_nat (n : Nat) : Numeral (toString n) := by
  refine numeral_iff.mpr fun c member => ?_
  have digits : c ∈ Nat.toDigits 10 n := by
    rw [← Nat.toList_repr]
    exact member
  exact isNumeral_digit (toDigits_isDigit n c digits)

theorem layout_numeral {digits : String} (all : Numeral digits) (k : Nat) (s : Int) :
    Numeral (Num.layout digits k s) := by
  have zeros (n : Nat) : Numeral (Num.zeros n) := by
    refine numeral_iff.mpr fun c member => ?_
    rw [Num.zeros, String.toList_ofList] at member
    exact isNumeral_digit (replicate_isDigit n c member)
  have parts (i : Nat) : Numeral (String.ofList (digits.toList.take i) ++ "." ++
      String.ofList (digits.toList.drop i)) := by
    have taken : Numeral (String.ofList (digits.toList.take i)) := by
      refine numeral_iff.mpr fun c member => ?_
      rw [String.toList_ofList] at member
      exact numeral_iff.mp all c (List.mem_of_mem_take member)
    have dropped : Numeral (String.ofList (digits.toList.drop i)) := by
      refine numeral_iff.mpr fun c member => ?_
      rw [String.toList_ofList] at member
      exact numeral_iff.mp all c (List.mem_of_mem_drop member)
    exact (taken.append (show Numeral "." from rfl)).append dropped
  unfold Num.layout
  dsimp only
  split
  · exact all.append (zeros _)
  split
  · exact parts _
  split
  · exact (Numeral.append (show Numeral "0." from rfl) (zeros _)).append all
  · have mantissa : Numeral (if k = 1 then digits else String.ofList (digits.toList.take 1) ++ "." ++
        String.ofList (digits.toList.drop 1)) := by
      split
      · exact all
      · exact parts 1
    have sign : Numeral (if 0 ≤ s - 1 then "+" else "-") := by
      split
      · rfl
      · rfl
    exact ((mantissa.append (show Numeral "e" from rfl)).append sign).append (numeral_nat _)

theorem toText_numeral {n : Num} (finite : Finite n) : Numeral n.toText := by
  cases finite with
  | zero => rfl
  | double neg double =>
    rw [Num.toText, if_neg double.filled]
    dsimp only
    refine Numeral.append ?_ (layout_numeral (numeral_nat _) _ _)
    cases neg with
    | true => rfl
    | false => rfl

theorem joinComma_weight (texts : List String) :
    textWeight (Value.joinComma texts).toList = (texts.map fun t => textWeight t.toList).sum := by
  induction texts with
  | nil => rfl
  | cons t texts ih =>
    cases texts with
    | nil => exact (Nat.add_zero _).symm
    | cons u texts =>
      have comma : textWeight ",".toList = 0 := rfl
      rw [joinComma_cons t (List.cons_ne_nil _ _), String.toList_append, String.toList_append,
        textWeight_append, textWeight_append, comma, ih, Nat.add_zero]
      rfl

theorem quote_weight (s : String) : textWeight (quote s).toList = quotedWeight s.toList := by
  have quoteMark : charWeight '"' = 0 := rfl
  have empty : textWeight [] = 0 := rfl
  rw [quote, String.toList_ofList, textWeight_cons, textWeight_append, textWeight_cons, quoteMark, empty,
    quotedWeight]
  omega

/-- A printed value has the weight of its text. -/
theorem stringify_weight (v : Value) : Printable v → textWeight (stringify v).toList = weight v := by
  refine @Value.rec (fun v => Printable v → textWeight (stringify v).toList = weight v)
    (fun items => PrintableItems items →
      ((stringifyItems items).map fun t => textWeight t.toList).sum = weightItems items)
    (fun fields => PrintableFields fields →
      ((stringifyFields fields).map fun t => textWeight t.toList).sum = weightFields fields)
    (fun entry => Printable entry.2 → textWeight (stringify entry.2).toList = weight entry.2)
    ?undefined ?null ?bool ?num ?str ?date ?arr ?obj ?noItem ?item ?noField ?field ?entry v
  case undefined => exact fun printable => printable.elim
  case null => exact fun _ => rfl
  case bool => exact fun b _ => by rw [stringify, weight]
  case num =>
    intro n finite
    rw [stringify_num finite, weight]
    exact textWeight_zero fun c member => isNumeral_light (numeral_iff.mp (toText_numeral finite) c member)
  case str =>
    intro s _
    rw [stringify, weight]
    exact quote_weight s
  case date => exact fun _ printable => printable.elim
  case arr =>
    intro items ih printable
    have text := stringify_arr items []
    rw [List.append_nil] at text
    rw [text, textWeight_cons, textWeight_append, joinComma_weight, ih printable, weight]
    exact Nat.zero_add _
  case obj =>
    intro fields ih printable
    have text := stringify_obj fields []
    rw [List.append_nil] at text
    rw [text, textWeight_cons, textWeight_append, joinComma_weight, ih printable, weight]
    exact Nat.zero_add _
  case noItem => exact fun _ => rfl
  case item =>
    intro v items first others printable
    rw [stringifyItems, List.map_cons, List.sum_cons, first printable.1, others printable.2, weightItems]
  case noField => exact fun _ => rfl
  case field =>
    rintro ⟨key, v⟩ fields first others printable
    have colon : textWeight ":".toList = 0 := rfl
    rw [stringifyFields_cons (Printable.defined printable.1), List.map_cons, List.sum_cons,
      others printable.2, weightFields, String.toList_append, String.toList_append, textWeight_append,
      textWeight_append, quote_weight, colon, first printable.1, Nat.add_zero]
  case entry => exact fun _ _ ih => ih

end Printing

section Unescaping

theorem quoteChar_head (c : Char) : ∃ h tail, quoteChar c = h :: tail ∧ (h = c ∨ h = '\\') := by
  unfold quoteChar
  split_ifs
  all_goals first
    | exact ⟨_, _, rfl, .inr rfl⟩
    | exact ⟨_, _, rfl, .inl rfl⟩

theorem quoteChar_no_percent {c : Char} (plain : c ≠ '%') : '%' ∉ quoteChar c := by
  refine quoteChar_cases (P := fun text => '%' ∉ text) c (by decide) (by decide) (by decide) ?_
  rw [List.mem_singleton]
  exact plain.symm

theorem unescape_append {text : List Char} (plain : '%' ∉ text) (rest : List Char) :
    unescape (text ++ rest) = text ++ unescape rest := by
  induction text with
  | nil => rfl
  | cons c text ih =>
    rw [List.mem_cons, not_or] at plain
    rw [List.cons_append, unescape_cons (Ne.symm plain.1), ih plain.2, List.cons_append]

/-- A character that needs no escape starts a printed string only if it starts the string. -/
theorem quoted_starts {text rest more : List Char} {d : Char} (quote : d ≠ '"') (slash : d ≠ '\\')
    (plain : quoteChar d = [d]) (starts : text.flatMap quoteChar ++ '"' :: rest = d :: more) :
    ∃ tail, text = d :: tail ∧ tail.flatMap quoteChar ++ '"' :: rest = more := by
  cases text with
  | nil => exact absurd (List.cons.inj starts).1.symm quote
  | cons c tail =>
    obtain ⟨h, printed, isPrinted, isHead⟩ := quoteChar_head c
    rw [List.flatMap_cons, isPrinted, List.cons_append, List.cons_append] at starts
    obtain ⟨sameHead, sameTail⟩ := List.cons.inj starts
    rcases isHead with isChar | isSlash
    · rw [← isChar, sameHead, plain] at isPrinted
      obtain ⟨_, rfl⟩ := List.cons.inj isPrinted
      exact ⟨tail, by rw [← isChar, sameHead], sameTail⟩
    · exact absurd (sameHead.symm.trans isSlash) slash

/-- Inside a printed string the escapes of percent signs are those of the string itself. -/
theorem unescape_quoted (text rest : List Char) :
    unescape (text.flatMap quoteChar ++ '"' :: rest) =
      (unescape text).flatMap quoteChar ++ '"' :: unescape rest := by
  induction text using unescape.induct with
  | case1 tail ih =>
    have percent : quoteChar '%' = ['%'] := by decide
    have two : quoteChar '2' = ['2'] := by decide
    have five : quoteChar '5' = ['5'] := by decide
    simp only [List.flatMap_cons, percent, two, five, List.cons_append, List.nil_append, unescape, ih]
  | case2 c tail other ih =>
    rw [List.flatMap_cons, List.append_assoc, unescape, List.flatMap_cons, List.append_assoc, ← ih]
    · by_cases isPercent : c = '%'
      · have percent : quoteChar '%' = ['%'] := by decide
        rw [isPercent, percent, List.singleton_append, List.singleton_append, unescape]
        intro more _ starts
        obtain ⟨tail', isTail, starts'⟩ := quoted_starts (by decide) (by decide) (by decide) starts
        obtain ⟨tail'', isTail', _⟩ := quoted_starts (by decide) (by decide) (by decide) starts'
        exact other tail'' isPercent (by rw [isTail, isTail'])
      · exact unescape_append (quoteChar_no_percent isPercent) _
    · exact other
  | case3 => exact unescape_cons (by decide) rest

/-- The second text is the first one with the escapes of percent signs replaced, wherever it
stands. -/
def Unescapes (s t : String) : Prop :=
  ∀ rest, unescape (s.toList ++ rest) = t.toList ++ unescape rest

theorem Unescapes.append {s t s' t' : String} (first : Unescapes s s') (second : Unescapes t t') :
    Unescapes (s ++ t) (s' ++ t') := by
  intro rest
  rw [String.toList_append, List.append_assoc, first, second, String.toList_append, List.append_assoc]

theorem unescapes_plain {s : String} (plain : '%' ∉ s.toList) : Unescapes s s :=
  unescape_append plain

theorem unescapes_quote (s : String) : Unescapes (quote s) (quote (String.ofList (unescape s.toList))) := by
  intro rest
  rw [quote_append, quote_append, unescape_cons (by decide), unescape_quoted, String.toList_ofList]

theorem Unescapes.joinComma {texts texts' : List String} (all : List.Forall₂ Unescapes texts texts') :
    Unescapes (Value.joinComma texts) (Value.joinComma texts') := by
  induction all with
  | nil => exact unescapes_plain (by decide)
  | cons first others ih =>
    cases others with
    | nil => exact first
    | cons second others =>
      rw [joinComma_cons _ (List.cons_ne_nil _ _), joinComma_cons _ (List.cons_ne_nil _ _)]
      exact (first.append (unescapes_plain (by decide))).append ih

mutual

/-- The value with the escapes of percent signs replaced in every text. -/
def unescaped : Value → Value
  | .undefined => .undefined
  | .null => .null
  | .bool b => .bool b
  | .num n => .num n
  | .str s => .str (String.ofList (unescape s.toList))
  | .date iso => .date (String.ofList (unescape iso.toList))
  | .arr items => .arr (unescapedItems items)
  | .obj fields => .obj (unescapedFields fields)

def unescapedItems : List Value → List Value
  | [] => []
  | v :: rest => unescaped v :: unescapedItems rest

def unescapedFields : List (String × Value) → List (String × Value)
  | [] => []
  | (k, v) :: rest => (String.ofList (unescape k.toList), unescaped v) :: unescapedFields rest

end

/-- Replacing the escapes in the text of a value is replacing them in the value. -/
theorem stringify_unescapes (v : Value) :
    Printable v → Printable (unescaped v) ∧ Unescapes (stringify v) (stringify (unescaped v)) := by
  refine @Value.rec
    (fun v => Printable v → Printable (unescaped v) ∧ Unescapes (stringify v) (stringify (unescaped v)))
    (fun items => PrintableItems items → PrintableItems (unescapedItems items) ∧
      List.Forall₂ Unescapes (stringifyItems items) (stringifyItems (unescapedItems items)))
    (fun fields => PrintableFields fields → PrintableFields (unescapedFields fields) ∧
      List.Forall₂ Unescapes (stringifyFields fields) (stringifyFields (unescapedFields fields)))
    (fun entry => Printable entry.2 → Printable (unescaped entry.2) ∧
      Unescapes (stringify entry.2) (stringify (unescaped entry.2)))
    ?undefined ?null ?bool ?num ?str ?date ?arr ?obj ?noItem ?item ?noField ?field ?entry v
  case undefined => exact fun printable => printable.elim
  case null => exact fun _ => ⟨trivial, unescapes_plain (by decide)⟩
  case bool =>
    intro b _
    refine ⟨trivial, unescapes_plain ?_⟩
    cases b with
    | true => decide
    | false => decide
  case num =>
    intro n finite
    refine ⟨finite, ?_⟩
    rw [unescaped, stringify_num finite]
    refine unescapes_plain fun member => ?_
    exact absurd (numeral_iff.mp (toText_numeral finite) '%' member) (by decide)
  case str => exact fun s _ => ⟨trivial, unescapes_quote s⟩
  case date => exact fun _ printable => printable.elim
  case arr =>
    intro items ih printable
    obtain ⟨printable', texts⟩ := ih printable
    refine ⟨printable', ?_⟩
    rw [unescaped, stringify, stringify]
    exact ((unescapes_plain (by decide)).append (.joinComma texts)).append (unescapes_plain (by decide))
  case obj =>
    intro fields ih printable
    obtain ⟨printable', texts⟩ := ih printable
    refine ⟨printable', ?_⟩
    rw [unescaped, stringify, stringify]
    exact ((unescapes_plain (by decide)).append (.joinComma texts)).append (unescapes_plain (by decide))
  case noItem => exact fun _ => ⟨trivial, .nil⟩
  case item =>
    intro v items first others printable
    obtain ⟨printable', text⟩ := first printable.1
    obtain ⟨printables', texts⟩ := others printable.2
    exact ⟨⟨printable', printables'⟩, .cons text texts⟩
  case noField => exact fun _ => ⟨trivial, .nil⟩
  case field =>
    rintro ⟨key, v⟩ fields first others printable
    obtain ⟨printable', text⟩ := first printable.1
    obtain ⟨printables', texts⟩ := others printable.2
    refine ⟨⟨printable', printables'⟩, ?_⟩
    rw [unescapedFields, stringifyFields_cons (Printable.defined printable.1),
      stringifyFields_cons printable'.defined]
    exact .cons (((unescapes_quote key).append (unescapes_plain (by decide))).append text) texts
  case entry => exact fun _ _ ih => ih

end Unescaping

section Lengths

/-- The characters of some texts with a separator after each. -/
def joinedLength (texts : List String) : Nat := (texts.map fun t => t.toList.length + 1).sum

theorem joinedLength_cons (t : String) (texts : List String) :
    joinedLength (t :: texts) = t.toList.length + 1 + joinedLength texts := rfl

theorem joinComma_length (texts : List String) :
    (Value.joinComma texts).toList.length = joinedLength texts - 1 := by
  induction texts with
  | nil => rfl
  | cons t texts ih =>
    cases texts with
    | nil => rfl
    | cons u texts =>
      have comma : ",".toList.length = 1 := rfl
      rw [joinComma_cons t (List.cons_ne_nil _ _), joinedLength_cons, String.toList_append,
        String.toList_append, List.length_append, List.length_append, comma, ih, joinedLength_cons]
      omega

theorem stringifyFields_split (entry : String × Value) (fields : List (String × Value)) :
    joinedLength (stringifyFields (entry :: fields)) =
      joinedLength (stringifyFields [entry]) + joinedLength (stringifyFields fields) := by
  obtain ⟨key, v⟩ := entry
  have none : joinedLength (stringifyFields []) = 0 := rfl
  by_cases undefined : v = .undefined
  · have skip (fields : List (String × Value)) :
        stringifyFields ((key, .undefined) :: fields) = stringifyFields fields := by
      rw [stringifyFields]
    rw [undefined, skip, skip, none, Nat.zero_add]
  · rw [stringifyFields_cons undefined, stringifyFields_cons undefined, joinedLength_cons,
      joinedLength_cons, none, Nat.add_zero]

theorem insertField_length (key : String) (v : Value) (fields : List (String × Value)) :
    joinedLength (stringifyFields (insertField key v fields)) ≤
      joinedLength (stringifyFields fields) + joinedLength (stringifyFields [(key, v)]) := by
  induction fields with
  | nil =>
    rw [insertField]
    exact Nat.le_add_left _ _
  | cons entry fields ih =>
    obtain ⟨k, w⟩ := entry
    rw [insertField]
    split
    · rename_i same
      rw [stringifyFields_split _ fields, stringifyFields_split (k, w) fields, same]
      omega
    · rw [stringifyFields_split _ (insertField key v fields), stringifyFields_split (k, w) fields]
      omega

theorem canon_defined {v : Value} (defined : v ≠ .undefined) : canon v ≠ .undefined := by
  cases v with
  | undefined => exact absurd rfl defined
  | null => exact Value.noConfusion
  | bool b => exact Value.noConfusion
  | num n => exact Value.noConfusion
  | str s => exact Value.noConfusion
  | date iso => exact Value.noConfusion
  | arr items => exact Value.noConfusion
  | obj fields => exact Value.noConfusion

/-- Dropping the earlier values of repeated keys makes no text longer. -/
theorem stringify_canon_length (v : Value) :
    (stringify (canon v)).toList.length ≤ (stringify v).toList.length := by
  refine @Value.rec (fun v => (stringify (canon v)).toList.length ≤ (stringify v).toList.length)
    (fun items => joinedLength (stringifyItems (canonItems items)) ≤ joinedLength (stringifyItems items))
    (fun fields => ∀ before, joinedLength (stringifyFields (canonFields before fields)) ≤
      joinedLength (stringifyFields before) + joinedLength (stringifyFields fields))
    (fun entry => (stringify (canon entry.2)).toList.length ≤ (stringify entry.2).toList.length)
    ?undefined ?null ?bool ?num ?str ?date ?arr ?obj ?noItem ?item ?noField ?field ?entry v
  case undefined => exact Nat.le_refl _
  case null => exact Nat.le_refl _
  case bool => exact fun _ => Nat.le_refl _
  case num => exact fun _ => Nat.le_refl _
  case str => exact fun _ => Nat.le_refl _
  case date => exact fun _ => Nat.le_refl _
  case arr =>
    intro items ih
    rw [canon, stringify, stringify]
    simp only [String.toList_append, List.length_append, joinComma_length]
    omega
  case obj =>
    intro fields ih
    have shorter := ih []
    have none : joinedLength (stringifyFields []) = 0 := rfl
    rw [canon, stringify, stringify]
    simp only [String.toList_append, List.length_append, joinComma_length]
    omega
  case noItem => exact Nat.le_refl _
  case item =>
    intro v items first others
    rw [canonItems, stringifyItems, stringifyItems, joinedLength_cons, joinedLength_cons]
    omega
  case noField =>
    intro before
    rw [canonFields]
    exact Nat.le_add_right _ _
  case field =>
    rintro ⟨key, v⟩ fields first others before
    have inserted := insertField_length key (canon v) before
    have rest := others (insertField key (canon v) before)
    have single : joinedLength (stringifyFields [(key, canon v)]) ≤
        joinedLength (stringifyFields [(key, v)]) := by
      by_cases undefined : v = .undefined
      · rw [undefined, canon]
      · rw [stringifyFields_cons undefined, stringifyFields_cons (canon_defined undefined),
          joinedLength_cons, joinedLength_cons]
        simp only [String.toList_append, List.length_append]
        dsimp only at first
        omega
    rw [canonFields, stringifyFields_split (key, v)]
    omega
  case entry => exact fun _ _ ih => ih

end Lengths

section PercentSigns

mutual

/-- No text inside the value holds a percent sign, and no key does. -/
def PercentFree : Value → Prop
  | .undefined | .null | .bool _ | .num _ => True
  | .str s | .date s => '%' ∉ s.toList
  | .arr items => PercentFreeItems items
  | .obj fields => PercentFreeFields fields

def PercentFreeItems : List Value → Prop
  | [] => True
  | v :: rest => PercentFree v ∧ PercentFreeItems rest

def PercentFreeFields : List (String × Value) → Prop
  | [] => True
  | (k, v) :: rest => '%' ∉ k.toList ∧ PercentFree v ∧ PercentFreeFields rest

end

theorem not_mem_append {c : Char} {s t : String} :
    c ∉ (s ++ t).toList ↔ c ∉ s.toList ∧ c ∉ t.toList := by
  rw [String.toList_append, List.mem_append, not_or]

theorem quote_percent (s : String) : '%' ∉ (quote s).toList ↔ '%' ∉ s.toList := by
  rw [quote, String.toList_ofList, not_iff_not]
  constructor
  · intro member
    rcases List.mem_cons.mp member with isQuote | member
    · exact absurd isQuote (by decide)
    rcases List.mem_append.mp member with inText | isQuote
    · obtain ⟨c, inText, printed⟩ := List.mem_flatMap.mp inText
      by_cases isPercent : c = '%'
      · exact isPercent ▸ inText
      · exact absurd printed (quoteChar_no_percent isPercent)
    · exact absurd isQuote (by decide)
  · intro inText
    refine List.mem_cons_of_mem _ (List.mem_append_left _ ?_)
    exact List.mem_flatMap.mpr ⟨'%', inText, by decide⟩

theorem joinComma_percent (texts : List String) :
    '%' ∉ (Value.joinComma texts).toList ↔ ∀ t ∈ texts, '%' ∉ t.toList := by
  induction texts with
  | nil => exact ⟨fun _ _ member => absurd member List.not_mem_nil, fun _ => by decide⟩
  | cons t texts ih =>
    have comma : '%' ∉ ",".toList := by decide
    cases texts with
    | nil => rw [List.forall_mem_singleton]; rfl
    | cons u texts =>
      rw [joinComma_cons t (List.cons_ne_nil _ _), not_mem_append, not_mem_append, ih,
        List.forall_mem_cons (a := t)]
      exact ⟨fun free => ⟨free.1.1, free.2⟩, fun free => ⟨⟨free.1, comma⟩, free.2⟩⟩

/-- The text of a value holds a percent sign exactly when the value does. -/
theorem stringify_percent (v : Value) :
    Printable v → ('%' ∉ (stringify v).toList ↔ PercentFree v) := by
  refine @Value.rec (fun v => Printable v → ('%' ∉ (stringify v).toList ↔ PercentFree v))
    (fun items => PrintableItems items →
      ((∀ t ∈ stringifyItems items, '%' ∉ t.toList) ↔ PercentFreeItems items))
    (fun fields => PrintableFields fields →
      ((∀ t ∈ stringifyFields fields, '%' ∉ t.toList) ↔ PercentFreeFields fields))
    (fun entry => Printable entry.2 → ('%' ∉ (stringify entry.2).toList ↔ PercentFree entry.2))
    ?undefined ?null ?bool ?num ?str ?date ?arr ?obj ?noItem ?item ?noField ?field ?entry v
  case undefined => exact fun printable => printable.elim
  case null => exact fun _ => ⟨fun _ => trivial, fun _ => by decide⟩
  case bool =>
    intro b _
    refine ⟨fun _ => trivial, fun _ => ?_⟩
    cases b with
    | true => decide
    | false => decide
  case num =>
    intro n finite
    refine ⟨fun _ => trivial, fun _ member => ?_⟩
    rw [stringify_num finite] at member
    exact absurd (numeral_iff.mp (toText_numeral finite) '%' member) (by decide)
  case str =>
    intro s _
    rw [stringify, PercentFree, quote_percent]
  case date => exact fun _ printable => printable.elim
  case arr =>
    intro items ih printable
    have brackets : '%' ∉ "[".toList ∧ '%' ∉ "]".toList := by decide
    rw [stringify, PercentFree, not_mem_append, not_mem_append, joinComma_percent, ih printable]
    exact ⟨fun free => free.1.2, fun free => ⟨⟨brackets.1, free⟩, brackets.2⟩⟩
  case obj =>
    intro fields ih printable
    have braces : '%' ∉ "\x7b".toList ∧ '%' ∉ "\x7d".toList := by decide
    rw [stringify, PercentFree, not_mem_append, not_mem_append, joinComma_percent, ih printable]
    exact ⟨fun free => free.1.2, fun free => ⟨⟨braces.1, free⟩, braces.2⟩⟩
  case noItem => exact fun _ => ⟨fun _ => trivial, fun _ _ member => absurd member List.not_mem_nil⟩
  case item =>
    intro v items first others printable
    rw [stringifyItems, List.forall_mem_cons, first printable.1, others printable.2, PercentFreeItems]
  case noField => exact fun _ => ⟨fun _ => trivial, fun _ _ member => absurd member List.not_mem_nil⟩
  case field =>
    rintro ⟨key, v⟩ fields first others printable
    have colon : '%' ∉ ":".toList := by decide
    rw [stringifyFields_cons (Printable.defined printable.1), List.forall_mem_cons, not_mem_append,
      not_mem_append, quote_percent, first printable.1, others printable.2, PercentFreeFields]
    exact ⟨fun free => ⟨free.1.1.1, free.1.2, free.2⟩, fun free => ⟨⟨⟨free.1, colon⟩, free.2.1⟩, free.2.2⟩⟩
  case entry => exact fun _ _ ih => ih

end PercentSigns

end Js.Json
