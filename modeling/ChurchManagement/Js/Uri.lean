import Mathlib.Data.List.Basic

namespace Js

def hexDigit (c : Char) : Option Nat :=
  let n := c.toNat
  if 48 ≤ n ∧ n ≤ 57 then some (n - 48)
  else if 65 ≤ n ∧ n ≤ 70 then some (n - 55)
  else if 97 ≤ n ∧ n ≤ 102 then some (n - 87)
  else none

/-- One unit of a percent-encoded text: a character written out, or an escaped byte. -/
inductive UriUnit
  | lit (c : Char)
  | byte (b : Nat)
  deriving DecidableEq, Repr

/-- Splits a text into its units; a percent sign must start an escape of two hex digits. -/
def uriUnits : List Char → Option (List UriUnit)
  | [] => some []
  | '%' :: h :: l :: rest => do
    let high ← hexDigit h
    let low ← hexDigit l
    some (.byte (16 * high + low) :: (← uriUnits rest))
  | '%' :: _ => none
  | c :: rest => do some (.lit c :: (← uriUnits rest))

/-- The number of continuation bytes a leading byte asks for, its payload, and the smallest
code point that needs that many. -/
def leadByte (b : Nat) : Option (Nat × Nat × Nat) :=
  if b < 0x80 then some (0, b, 0)
  else if 0xC0 ≤ b ∧ b < 0xE0 then some (1, b - 0xC0, 0x80)
  else if 0xE0 ≤ b ∧ b < 0xF0 then some (2, b - 0xE0, 0x800)
  else if 0xF0 ≤ b ∧ b < 0xF8 then some (3, b - 0xF0, 0x10000)
  else none

def scalar (n : Nat) : Option Char :=
  if n < 0xD800 ∨ (0xDFFF < n ∧ n < 0x110000) then some (Char.ofNat n) else none

/-- Reads the bytes of the escapes as UTF-8. `want` is the number of continuation bytes still
missing, `acc` the payload so far and `least` the smallest code point allowed. -/
def assemble (want acc least : Nat) : List UriUnit → Option (List Char)
  | [] => if want = 0 then some [] else none
  | .lit c :: rest => if want = 0 then do some (c :: (← assemble 0 0 0 rest)) else none
  | .byte b :: rest =>
    if want = 0 then do
      let (more, payload, low) ← leadByte b
      if more = 0 then some ((← scalar payload) :: (← assemble 0 0 0 rest))
      else assemble more payload low rest
    else if 0x80 ≤ b ∧ b < 0xC0 then
      let acc := acc * 64 + (b - 0x80)
      if want = 1 then
        if acc < least then none
        else do some ((← scalar acc) :: (← assemble 0 0 0 rest))
      else assemble (want - 1) acc least rest
    else none

/-- `decodeURIComponent`: every escape is decoded, and a malformed one is a `URIError`. -/
def decodeURIComponent (s : String) : Option String :=
  (uriUnits s.toList).bind fun units => (assemble 0 0 0 units).map String.ofList

theorem uriUnits_lit {c : Char} (plain : c ≠ '%') (rest : List Char) :
    uriUnits (c :: rest) = (uriUnits rest).map (.lit c :: ·) := by
  rw [uriUnits]
  · cases uriUnits rest <;> rfl
  · intro h l rest same
    exact absurd same plain
  · intro same
    exact absurd same plain

theorem uriUnits_plain {text : List Char} (plain : '%' ∉ text) :
    uriUnits text = some (text.map .lit) := by
  induction text with
  | nil => rfl
  | cons c rest ih =>
    obtain ⟨other, plain⟩ := not_or.mp (List.mem_cons.not.mp plain)
    rw [uriUnits_lit (Ne.symm other), ih plain]
    rfl

theorem assemble_lits (text : List Char) : assemble 0 0 0 (text.map .lit) = some text := by
  induction text with
  | nil => rfl
  | cons c rest ih =>
    simp only [List.map_cons, assemble, if_true, ih]
    rfl

/-- A text without escapes is left as it is. -/
theorem decodeURIComponent_plain {s : String} (plain : '%' ∉ s.toList) :
    decodeURIComponent s = some s := by
  simp [decodeURIComponent, uriUnits_plain plain, assemble_lits]

/-- The characters `encodeURIComponent` leaves alone. -/
def uriUnreserved (c : Char) : Bool :=
  ('a' ≤ c && c ≤ 'z') || ('A' ≤ c && c ≤ 'Z') || ('0' ≤ c && c ≤ '9') ||
    "-_.!~*'()".toList.contains c

def utf8Bytes (c : Char) : List Nat :=
  let n := c.toNat
  if n < 0x80 then [n]
  else if n < 0x800 then [0xC0 + n / 64, 0x80 + n % 64]
  else if n < 0x10000 then [0xE0 + n / 4096, 0x80 + n / 64 % 64, 0x80 + n % 64]
  else [0xF0 + n / 262144, 0x80 + n / 4096 % 64, 0x80 + n / 64 % 64, 0x80 + n % 64]

def hexChar (n : Nat) : Char := Char.ofNat (if n < 10 then 48 + n else 55 + n)

def percentByte (b : Nat) : List Char := ['%', hexChar (b / 16), hexChar (b % 16)]

/-- `encodeURIComponent`; it has no failure here because a Lean string holds no lone surrogate. -/
def encodeURIComponent (s : String) : String :=
  String.ofList (s.toList.flatMap fun c =>
    if uriUnreserved c then [c] else (utf8Bytes c).flatMap percentByte)

theorem hexDigit_hexChar {n : Nat} (small : n < 16) : hexDigit (hexChar n) = some n := by
  have digits : ∀ n < 16, hexDigit (hexChar n) = some n := by decide
  exact digits n small

/-- An escaped byte is read back as one unit. -/
theorem uriUnits_percentByte {b : Nat} (small : b < 256) (rest : List Char) :
    uriUnits (percentByte b ++ rest) = (uriUnits rest).map (.byte b :: ·) := by
  have high := hexDigit_hexChar (show b / 16 < 16 by omega)
  have low := hexDigit_hexChar (show b % 16 < 16 by omega)
  have whole : 16 * (b / 16) + b % 16 = b := Nat.div_add_mod b 16
  simp only [percentByte, List.cons_append, List.nil_append, uriUnits, high, low, whole,
    Option.bind_eq_bind, Option.bind_some]
  cases uriUnits rest <;> rfl

theorem uriUnits_percentBytes {bytes : List Nat} (small : ∀ b ∈ bytes, b < 256) (rest : List Char) :
    uriUnits (bytes.flatMap percentByte ++ rest) = (uriUnits rest).map (bytes.map .byte ++ ·) := by
  induction bytes with
  | nil => simp
  | cons b bytes ih =>
    have first := small b List.mem_cons_self
    have others := ih fun b member => small b (List.mem_cons_of_mem _ member)
    rw [List.flatMap_cons, List.append_assoc, uriUnits_percentByte first, others, Option.map_map]
    rfl

theorem toNat_valid (c : Char) : c.toNat < 0xD800 ∨ (0xDFFF < c.toNat ∧ c.toNat < 0x110000) :=
  c.valid

theorem scalar_toNat (c : Char) : scalar c.toNat = some c := by
  rw [scalar, if_pos (toNat_valid c), Char.ofNat_toNat]

theorem utf8Bytes_small (c : Char) : ∀ b ∈ utf8Bytes c, b < 256 := by
  have valid := toNat_valid c
  unfold utf8Bytes
  dsimp only
  split
  · simp only [List.mem_singleton]
    omega
  · split
    · simp only [List.mem_cons, List.not_mem_nil, or_false]
      omega
    · split
      · simp only [List.mem_cons, List.not_mem_nil, or_false]
        omega
      · simp only [List.mem_cons, List.not_mem_nil, or_false]
        omega

/-- A continuation byte that is not the last one. -/
theorem assemble_continue {want acc least x : Nat} (more : 1 < want) (small : x < 64)
    (rest : List UriUnit) :
    assemble want acc least (.byte (0x80 + x) :: rest) = assemble (want - 1) (acc * 64 + x) least rest := by
  have other : want ≠ 0 := by omega
  have range : 0x80 ≤ 0x80 + x ∧ 0x80 + x < 0xC0 := by omega
  have last : want ≠ 1 := by omega
  simp only [assemble, if_neg other, if_pos range, if_neg last, Nat.add_sub_cancel_left]

/-- The last continuation byte completes the character. -/
theorem assemble_last {acc least x : Nat} {c : Char} (small : x < 64) (whole : acc * 64 + x = c.toNat)
    (large : least ≤ c.toNat) (rest : List UriUnit) :
    assemble 1 acc least (.byte (0x80 + x) :: rest) = (assemble 0 0 0 rest).map (c :: ·) := by
  have range : 0x80 ≤ 0x80 + x ∧ 0x80 + x < 0xC0 := by omega
  have reached : ¬ c.toNat < least := by omega
  simp only [assemble, if_neg Nat.one_ne_zero, if_pos range, if_true, Nat.add_sub_cancel_left, whole,
    if_neg reached, scalar_toNat]
  cases assemble 0 0 0 rest <;> rfl

/-- A leading byte asks for its continuation bytes. -/
theorem assemble_lead {b more payload low : Nat} (lead : leadByte b = some (more, payload, low))
    (several : more ≠ 0) (rest : List UriUnit) :
    assemble 0 0 0 (.byte b :: rest) = assemble more payload low rest := by
  simp only [assemble, if_true, lead, Option.bind_eq_bind, Option.bind_some, if_neg several]

/-- The bytes of a character are assembled to it again. -/
theorem assemble_utf8Bytes (c : Char) (rest : List UriUnit) :
    assemble 0 0 0 ((utf8Bytes c).map .byte ++ rest) = (assemble 0 0 0 rest).map (c :: ·) := by
  have valid := toNat_valid c
  unfold utf8Bytes
  dsimp only
  split
  · rename_i ascii
    have lead : leadByte c.toNat = some (0, c.toNat, 0) := by rw [leadByte, if_pos ascii]
    simp only [List.map_cons, List.map_nil, List.cons_append, List.nil_append, assemble, if_true, lead,
      Option.bind_eq_bind, Option.bind_some, scalar_toNat]
    cases assemble 0 0 0 rest <;> rfl
  · split
    · have lead : leadByte (0xC0 + c.toNat / 64) = some (1, c.toNat / 64, 0x80) := by
        rw [leadByte, if_neg (by omega), if_pos (by omega), Nat.add_sub_cancel_left]
      simp only [List.map_cons, List.map_nil, List.cons_append, List.nil_append]
      rw [assemble_lead lead (by decide)]
      exact assemble_last (by omega) (by omega) (by omega) rest
    · split
      · have lead : leadByte (0xE0 + c.toNat / 4096) = some (2, c.toNat / 4096, 0x800) := by
          rw [leadByte, if_neg (by omega), if_neg (by omega), if_pos (by omega),
            Nat.add_sub_cancel_left]
        simp only [List.map_cons, List.map_nil, List.cons_append, List.nil_append]
        rw [assemble_lead lead (by decide), assemble_continue (by decide) (by omega)]
        exact assemble_last (by omega) (by omega) (by omega) rest
      · have lead : leadByte (0xF0 + c.toNat / 262144) = some (3, c.toNat / 262144, 0x10000) := by
          rw [leadByte, if_neg (by omega), if_neg (by omega), if_neg (by omega), if_pos (by omega),
            Nat.add_sub_cancel_left]
        simp only [List.map_cons, List.map_nil, List.cons_append, List.nil_append]
        rw [assemble_lead lead (by decide), assemble_continue (by decide) (by omega),
          assemble_continue (by decide) (by omega)]
        exact assemble_last (by omega) (by omega) (by omega) rest

theorem uriUnreserved_plain {c : Char} (unreserved : uriUnreserved c = true) : c ≠ '%' := by
  rintro rfl
  revert unreserved
  decide

/-- Decoding undoes encoding. -/
theorem decodeURIComponent_encode (s : String) :
    decodeURIComponent (encodeURIComponent s) = some s := by
  have units (text : List Char) : ∃ units, uriUnits (text.flatMap fun c =>
      if uriUnreserved c then [c] else (utf8Bytes c).flatMap percentByte) = some units ∧
      assemble 0 0 0 units = some text := by
    induction text with
    | nil => exact ⟨[], rfl, rfl⟩
    | cons c rest ih =>
      obtain ⟨units, read, assembled⟩ := ih
      rw [List.flatMap_cons]
      split
      · rename_i unreserved
        refine ⟨.lit c :: units, ?_, ?_⟩
        · rw [List.singleton_append, uriUnits_lit (uriUnreserved_plain unreserved), read, Option.map_some]
        · simp only [assemble, if_true, assembled]
          rfl
      · refine ⟨(utf8Bytes c).map .byte ++ units, ?_, ?_⟩
        · rw [uriUnits_percentBytes (utf8Bytes_small c), read, Option.map_some]
        · rw [assemble_utf8Bytes, assembled, Option.map_some]
  obtain ⟨units, read, assembled⟩ := units s.toList
  simp only [decodeURIComponent, encodeURIComponent, String.toList_ofList, read, Option.bind_some,
    assembled, Option.map_some, String.ofList_toList]

/-- What is encoded consists of unreserved characters and escapes. -/
theorem encodeURIComponent_chars {s : String} {c : Char} (member : c ∈ (encodeURIComponent s).toList) :
    c = '%' ∨ uriUnreserved c = true := by
  have hex {n : Nat} (small : n < 16) : uriUnreserved (hexChar n) = true := by
    revert n
    decide
  rw [encodeURIComponent, String.toList_ofList] at member
  obtain ⟨d, _, printed⟩ := List.mem_flatMap.mp member
  split at printed
  · rename_i unreserved
    rw [List.mem_singleton] at printed
    exact .inr (printed ▸ unreserved)
  · obtain ⟨b, isByte, escape⟩ := List.mem_flatMap.mp printed
    have small := utf8Bytes_small d b isByte
    simp only [percentByte, List.mem_cons, List.not_mem_nil, or_false] at escape
    rcases escape with rfl | rfl | rfl
    · exact .inl rfl
    · exact .inr (hex (by omega))
    · exact .inr (hex (by omega))

example : decodeURIComponent "a%20b%C3%A9%F0%9F%98%80" = some "a bé😀" := by decide

example : decodeURIComponent "100%" = none ∧ decodeURIComponent "%C0%80" = none ∧
    decodeURIComponent "%ED%A0%80" = none := by decide

example : encodeURIComponent "\x7b\"é\":1\x7d" = "%7B%22%C3%A9%22%3A1%7D" := by decide

end Js
