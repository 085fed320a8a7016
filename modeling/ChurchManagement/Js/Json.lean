import ChurchManagement.Js.Value
import ChurchManagement.Js.Uri

namespace Js.Json

def isSpace (c : Char) : Bool := c = ' ' || c = '\t' || c = '\n' || c = '\r'

def skipSpace : List Char → List Char
  | [] => []
  | c :: rest => if isSpace c then skipSpace rest else c :: rest

def hex4 (a b c d : Char) : Option Nat := do
  some (((16 * (← hexDigit a) + (← hexDigit b)) * 16 + (← hexDigit c)) * 16 + (← hexDigit d))

/-- The one-character escapes of a JSON string. -/
def escape : Char → Option Char
  | '"' => some '"'
  | '\\' => some '\\'
  | '/' => some '/'
  | 'b' => some (Char.ofNat 8)
  | 'f' => some (Char.ofNat 12)
  | 'n' => some '\n'
  | 'r' => some '\r'
  | 't' => some '\t'
  | _ => none

/-- The code units of a string body up to its closing quote, and the text after it. A
character outside the basic plane is kept as one unit. -/
def stringUnits : List Char → Option (List Nat × List Char)
  | [] => none
  | '"' :: rest => some ([], rest)
  | '\\' :: 'u' :: a :: b :: c :: d :: rest => do
    let unit ← hex4 a b c d
    let (units, rest) ← stringUnits rest
    some (unit :: units, rest)
  | '\\' :: e :: rest => do
    let c ← escape e
    let (units, rest) ← stringUnits rest
    some (c.toNat :: units, rest)
  | '\\' :: [] => none
  | c :: rest =>
    if c.toNat < 0x20 then none
    else do
      let (units, rest) ← stringUnits rest
      some (c.toNat :: units, rest)

/-- Joins surrogate pairs. A lone surrogate has no counterpart in a Lean string and becomes
the replacement character. -/
def joinSurrogates : List Nat → List Char
  | [] => []
  | high :: low :: rest =>
    if 0xD800 ≤ high ∧ high < 0xDC00 ∧ 0xDC00 ≤ low ∧ low < 0xE000 then
      Char.ofNat (0x10000 + (high - 0xD800) * 0x400 + (low - 0xDC00)) :: joinSurrogates rest
    else (scalar high).getD (Char.ofNat 0xFFFD) :: joinSurrogates (low :: rest)
  | [unit] => [(scalar unit).getD (Char.ofNat 0xFFFD)]

def parseString (text : List Char) : Option (String × List Char) :=
  (stringUnits text).map fun (units, rest) => (String.ofList (joinSurrogates units), rest)

def digits : List Char → List Nat × List Char
  | [] => ([], [])
  | c :: rest =>
    if '0' ≤ c ∧ c ≤ '9' then
      let (ds, rest) := digits rest
      ((c.toNat - 48) :: ds, rest)
    else ([], c :: rest)

def digitsValue (ds : List Nat) : Nat := ds.foldl (fun acc d => acc * 10 + d) 0

/-- The part of a number after its integer digits: a point with at least one digit. -/
def fractionDigits : List Char → Option (List Nat × List Char)
  | '.' :: rest =>
    match digits rest with
    | ([], _) => none
    | (ds, rest) => some (ds, rest)
  | rest => some ([], rest)

/-- The exponent of a number, zero when there is none. -/
def exponent : List Char → Option (Int × List Char)
  | c :: rest =>
    if c = 'e' ∨ c = 'E' then
      let (negative, rest) := match rest with
        | '+' :: rest => (false, rest)
        | '-' :: rest => (true, rest)
        | rest => (false, rest)
      match digits rest with
      | ([], _) => none
      | (ds, rest) => some (if negative then -(digitsValue ds : Int) else digitsValue ds, rest)
    else some (0, c :: rest)
  | [] => some (0, [])

def parseNumber (text : List Char) : Option (Num × List Char) :=
  let (negative, text) := match text with
    | '-' :: rest => (true, rest)
    | rest => (false, rest)
  match digits text with
  | ([], _) => none
  | (0 :: _ :: _, _) => none
  | (ds, rest) => do
    let (fs, rest) ← fractionDigits rest
    let (e, rest) ← exponent rest
    some (Num.ofDecimal negative (digitsValue (ds ++ fs)) (e - fs.length), rest)

/-- A repeated key keeps its place and takes the later value. -/
def insertField (key : String) (value : Value) :
    List (String × Value) → List (String × Value)
  | [] => [(key, value)]
  | (k, v) :: rest =>
    if k = key then (k, value) :: rest else (k, v) :: insertField key value rest

def keyword (word : String) (value : Value) (text : List Char) : Option (Value × List Char) :=
  if word.toList.isPrefixOf text then some (value, text.drop word.length) else none

mutual

/-- Reads one value at the start of a text. Every nested call reads a shorter text, so the
length of the text is enough fuel. -/
def parseValue : Nat → List Char → Option (Value × List Char)
  | 0, _ => none
  | fuel + 1, text =>
    match skipSpace text with
    | 'n' :: rest => keyword "null" .null ('n' :: rest)
    | 't' :: rest => keyword "true" (.bool true) ('t' :: rest)
    | 'f' :: rest => keyword "false" (.bool false) ('f' :: rest)
    | '"' :: rest => (parseString rest).map fun (s, rest) => (.str s, rest)
    | '[' :: rest =>
      match skipSpace rest with
      | ']' :: rest => some (.arr [], rest)
      | rest => (parseItems fuel rest).map fun (items, rest) => (.arr items, rest)
    | '\x7b' :: rest =>
      match skipSpace rest with
      | '\x7d' :: rest => some (.obj [], rest)
      | rest => (parseFields fuel [] rest).map fun (fields, rest) => (.obj fields, rest)
    | rest => (parseNumber rest).map fun (n, rest) => (.num n, rest)

def parseItems : Nat → List Char → Option (List Value × List Char)
  | 0, _ => none
  | fuel + 1, text => do
    let (item, rest) ← parseValue fuel text
    match skipSpace rest with
    | ']' :: rest => some ([item], rest)
    | ',' :: rest =>
      let (items, rest) ← parseItems fuel rest
      some (item :: items, rest)
    | _ => none

def parseFields : Nat → List (String × Value) → List Char →
    Option (List (String × Value) × List Char)
  | 0, _, _ => none
  | fuel + 1, fields, text =>
    match skipSpace text with
    | '"' :: rest => do
      let (key, rest) ← parseString rest
      match skipSpace rest with
      | ':' :: rest =>
        let (value, rest) ← parseValue fuel rest
        let fields := insertField key value fields
        match skipSpace rest with
        | '\x7d' :: rest => some (fields, rest)
        | ',' :: rest => parseFields fuel fields rest
        | _ => none
      | _ => none
    | _ => none

end

theorem keyword_append (word : String) (v : Value) (rest : List Char) :
    keyword word v (word.toList ++ rest) = some (v, rest) := by
  have starts : word.toList.isPrefixOf (word.toList ++ rest) = true := by
    rw [List.isPrefixOf_iff_prefix]
    exact List.prefix_append _ _
  rw [keyword, if_pos starts, ← String.length_toList, List.drop_left]

theorem parseValue_null {fuel : Nat} (rest : List Char) :
    parseValue (fuel + 1) ("null".toList ++ rest) = some (.null, rest) := by
  have read := keyword_append "null" .null rest
  rw [parseValue]
  exact read

theorem parseValue_bool {fuel : Nat} (b : Bool) (rest : List Char) :
    parseValue (fuel + 1) ((if b then "true" else "false").toList ++ rest) = some (.bool b, rest) := by
  cases b with
  | true =>
    have read := keyword_append "true" (.bool true) rest
    rw [parseValue]
    exact read
  | false =>
    have read := keyword_append "false" (.bool false) rest
    rw [parseValue]
    exact read

/-- An item before a comma or the closing bracket. -/
theorem parseItems_item {fuel : Nat} {text rest : List Char} {v : Value}
    (read : parseValue fuel text = some (v, ']' :: rest)) :
    parseItems (fuel + 1) text = some ([v], rest) := by
  rw [parseItems, read]
  rfl

/-- `JSON.parse`; `none` is its `SyntaxError`. -/
def parse (text : String) : Option Value :=
  match parseValue (2 * text.toList.length + 2) text.toList with
  | some (value, rest) => if skipSpace rest = [] then some value else none
  | none => none

def quoteChar (c : Char) : List Char :=
  if c = '"' then ['\\', '"']
  else if c = '\\' then ['\\', '\\']
  else if c = '\n' then ['\\', 'n']
  else if c = '\r' then ['\\', 'r']
  else if c = '\t' then ['\\', 't']
  else if c.toNat = 8 then ['\\', 'b']
  else if c.toNat = 12 then ['\\', 'f']
  else if c.toNat < 0x20 then
    ['\\', 'u', '0', '0', hexChar (c.toNat / 16), (hexChar (c.toNat % 16)).toLower]
  else [c]

def quote (s : String) : String :=
  String.ofList ('"' :: (s.toList.flatMap quoteChar ++ ['"']))

mutual

/-- `JSON.stringify` of a value inside a text. Undefined has no JSON text: it is `null` in an
array, and a field holding it is left out. -/
def stringify : Value → String
  | .undefined | .null => "null"
  | .bool b => if b then "true" else "false"
  | .num (.infinite _) => "null"
  | .num n => n.toText
  | .str s => quote s
  | .date iso => quote iso
  | .arr items => "[" ++ Value.joinComma (stringifyItems items) ++ "]"
  | .obj fields => "\x7b" ++ Value.joinComma (stringifyFields fields) ++ "\x7d"

def stringifyItems : List Value → List String
  | [] => []
  | v :: rest => stringify v :: stringifyItems rest

def stringifyFields : List (String × Value) → List String
  | [] => []
  | (_, .undefined) :: rest => stringifyFields rest
  | (k, v) :: rest => (quote k ++ ":" ++ stringify v) :: stringifyFields rest

end

end Js.Json
