import Mathlib.Data.List.Basic

namespace Html

/-- The name of a tag and its attributes, whose values stand as they are written. -/
structure Tag where
  name : List Char
  attributes : List (List Char × List Char) := []
  deriving DecidableEq, Repr

/-- An attribute is added to a tag; the first one of a name is kept. -/
def Tag.add (name value : List Char) (tag : Tag) : Tag :=
  if name ∈ tag.attributes.map Prod.fst then tag
  else { tag with attributes := tag.attributes ++ [(name, value)] }

/-- What the tokenizer hands on: a character of a text, a tag, or a sign that a comment or a
declaration begins, which is not followed any further. -/
inductive Token
  | char (c : Char)
  | startTag (tag : Tag)
  | endTag (name : List Char)
  | other
  deriving DecidableEq, Repr

/-- A tag that is being read. -/
structure Reading where
  closing : Bool
  tag : Tag
  deriving DecidableEq, Repr

def Reading.token (reading : Reading) : Token :=
  if reading.closing then .endTag reading.tag.name else .startTag reading.tag

def Reading.add (name value : List Char) (reading : Reading) : Reading :=
  { reading with tag := reading.tag.add name value }

inductive State
  | data
  | tagOpen
  | endTagOpen
  | tagName (reading : Reading)
  | beforeAttributeName (reading : Reading)
  | attributeName (reading : Reading) (name : List Char)
  | afterAttributeName (reading : Reading) (name : List Char)
  | beforeAttributeValue (reading : Reading) (name : List Char)
  | doubleQuoted (reading : Reading) (name value : List Char)
  | singleQuoted (reading : Reading) (name value : List Char)
  | unquoted (reading : Reading) (name value : List Char)
  | afterQuoted (reading : Reading)
  | selfClosing (reading : Reading)
  | skipped
  deriving DecidableEq, Repr

def isSpace (c : Char) : Bool := c = ' ' || c = '\n' || c = '\t' || c = '\x0c' || c = '\r'

/-- A character of a name, in lower case; a null is replaced. -/
def nameChar (c : Char) : Char := if c = '\x00' then '\uFFFD' else c.toLower

section Steps

variable (reading : Reading) (name value : List Char) (c : Char)

def inData : List Token × State := if c = '<' then ([], .tagOpen) else ([.char c], .data)

def inTagOpen : List Token × State :=
  if c = '/' then ([], .endTagOpen)
  else if c = '!' ∨ c = '?' then ([.other], .skipped)
  else if c.isAlpha then ([], .tagName ⟨false, ⟨[nameChar c], []⟩⟩)
  else (.char '<' :: (inData c).1, (inData c).2)

def inEndTagOpen : List Token × State :=
  if c.isAlpha then ([], .tagName ⟨true, ⟨[nameChar c], []⟩⟩)
  else if c = '>' then ([], .data)
  else ([.other], .skipped)

/-- A character that ends what was read of a tag, or starts an attribute. -/
def inBeforeAttributeName : List Token × State :=
  if isSpace c then ([], .beforeAttributeName reading)
  else if c = '/' then ([], .selfClosing reading)
  else if c = '>' then ([reading.token], .data)
  else ([], .attributeName reading [nameChar c])

def inTagName : List Token × State :=
  if isSpace c ∨ c = '/' ∨ c = '>' then inBeforeAttributeName reading c
  else ([], .tagName { reading with tag := ⟨reading.tag.name ++ [nameChar c], reading.tag.attributes⟩ })

/-- The attribute has no value unless a sign of equality follows. -/
def inAfterAttributeName : List Token × State :=
  if isSpace c then ([], .afterAttributeName reading name)
  else if c = '=' then ([], .beforeAttributeValue reading name)
  else inBeforeAttributeName (reading.add name []) c

def inAttributeName : List Token × State :=
  if isSpace c ∨ c = '/' ∨ c = '>' ∨ c = '=' then inAfterAttributeName reading name c
  else ([], .attributeName reading (name ++ [nameChar c]))

def inUnquoted : List Token × State :=
  if isSpace c then ([], .beforeAttributeName (reading.add name value))
  else if c = '>' then ([(reading.add name value).token], .data)
  else ([], .unquoted reading name (value ++ [c]))

def inBeforeAttributeValue : List Token × State :=
  if isSpace c then ([], .beforeAttributeValue reading name)
  else if c = '"' then ([], .doubleQuoted reading name [])
  else if c = '\'' then ([], .singleQuoted reading name [])
  else inUnquoted reading name [] c

end Steps

/-- One character, in the state the tokenizer is in. -/
def step : State → Char → List Token × State
  | .data, c => inData c
  | .tagOpen, c => inTagOpen c
  | .endTagOpen, c => inEndTagOpen c
  | .tagName reading, c => inTagName reading c
  | .beforeAttributeName reading, c => inBeforeAttributeName reading c
  | .attributeName reading name, c => inAttributeName reading name c
  | .afterAttributeName reading name, c => inAfterAttributeName reading name c
  | .beforeAttributeValue reading name, c => inBeforeAttributeValue reading name c
  | .doubleQuoted reading name value, c =>
    if c = '"' then ([], .afterQuoted (reading.add name value))
    else ([], .doubleQuoted reading name (value ++ [c]))
  | .singleQuoted reading name value, c =>
    if c = '\'' then ([], .afterQuoted (reading.add name value))
    else ([], .singleQuoted reading name (value ++ [c]))
  | .unquoted reading name value, c => inUnquoted reading name value c
  | .afterQuoted reading, c => inBeforeAttributeName reading c
  | .selfClosing reading, c => inBeforeAttributeName reading c
  | .skipped, _ => ([], .skipped)

/-- The tokens of a text that starts in the state, and the state behind it. -/
def feed (state : State) : List Char → List Token × State
  | [] => ([], state)
  | c :: rest =>
    let (first, next) := step state c
    let (others, last) := feed next rest
    (first ++ others, last)

/-- What the end of the text makes of the state. A tag that is not closed is dropped. -/
def State.finish : State → List Token
  | .tagOpen => [.char '<']
  | .endTagOpen => [.char '<', .char '/']
  | _ => []

def tokens (text : List Char) : List Token := (feed .data text).1 ++ (feed .data text).2.finish

section Feed

variable {state : State} {reading : Reading} {name value : List Char}

theorem feed_nil (state : State) : feed state [] = ([], state) := rfl

theorem feed_cons (state : State) (c : Char) (rest : List Char) :
    feed state (c :: rest) =
      ((step state c).1 ++ (feed (step state c).2 rest).1, (feed (step state c).2 rest).2) := rfl

theorem feed_append (state : State) (first second : List Char) :
    feed state (first ++ second) =
      ((feed state first).1 ++ (feed (feed state first).2 second).1,
        (feed (feed state first).2 second).2) := by
  induction first generalizing state with
  | nil => simp [feed_nil]
  | cons c rest ih => simp [feed_cons, ih, List.append_assoc]

/-- The text of a tag moves the tokenizer from one state to another, with no token. -/
def Silent (state : State) (text : List Char) (next : State) : Prop := feed state text = ([], next)

theorem Silent.feed {next : State} {text : List Char} (silent : Silent state text next)
    (rest : List Char) : feed state (text ++ rest) = Html.feed next rest := by
  rw [feed_append, silent]
  rfl

theorem Silent.append {next last : State} {first second : List Char} (silent : Silent state first next)
    (silent' : Silent next second last) : Silent state (first ++ second) last := by
  rw [Silent, silent.feed, silent']

/-- The characters that names are written with here. -/
def plainName (c : Char) : Bool := c.isLower || c.isDigit

theorem plainName_spec {c : Char} (plain : plainName c = true) :
    ¬ (isSpace c = true ∨ c = '/' ∨ c = '>' ∨ c = '=') ∧ nameChar c = c := by
  constructor
  · rintro (space | rfl | rfl | rfl)
    · simp only [isSpace, Bool.or_eq_true, decide_eq_true_eq] at space
      rcases space with (((rfl | rfl) | rfl) | rfl) | rfl <;> revert plain <;> decide
    · revert plain
      decide
    · revert plain
      decide
    · revert plain
      decide
  · have notNull : c ≠ '\x00' := by
      rintro rfl
      revert plain
      decide
    have isLower : c.isLower = (decide ('a'.val ≤ c.val) && decide (c.val ≤ 'z'.val)) := rfl
    have notUpper : ¬ (c.val ≥ 'A'.val ∧ c.val ≤ 'Z'.val) := by
      simp only [plainName, isLower, Char.isDigit, Bool.or_eq_true, Bool.and_eq_true,
        decide_eq_true_eq, ge_iff_le, UInt32.le_iff_toNat_le] at plain ⊢
      have big : 'A'.val.toNat = 65 ∧ 'Z'.val.toNat = 90 ∧ 'a'.val.toNat = 97 ∧ '9'.val.toNat = 57 := by
        decide
      omega
    rw [nameChar, if_neg notNull]
    exact dif_neg notUpper

theorem silent_tagName {letters : List Char} (plain : ∀ c ∈ letters, plainName c = true) :
    Silent (.tagName reading) letters
      (.tagName ⟨reading.closing, ⟨reading.tag.name ++ letters, reading.tag.attributes⟩⟩) := by
  induction letters generalizing reading with
  | nil => simp [Silent, feed_nil]
  | cons c rest ih =>
    obtain ⟨first, later⟩ := List.forall_mem_cons.mp plain
    obtain ⟨inside, same⟩ := plainName_spec first
    have going : ¬ (isSpace c = true ∨ c = '/' ∨ c = '>') := by tauto
    have moved : step (.tagName reading) c =
        ([], .tagName ⟨reading.closing, ⟨reading.tag.name ++ [c], reading.tag.attributes⟩⟩) := by
      rw [step, inTagName, if_neg going, same]
    rw [Silent, feed_cons, moved, ih later]
    simp

theorem silent_attributeName {letters : List Char} (plain : ∀ c ∈ letters, plainName c = true) :
    Silent (.attributeName reading name) letters (.attributeName reading (name ++ letters)) := by
  induction letters generalizing name with
  | nil => simp [Silent, feed_nil]
  | cons c rest ih =>
    obtain ⟨first, later⟩ := List.forall_mem_cons.mp plain
    obtain ⟨inside, same⟩ := plainName_spec first
    have moved : step (.attributeName reading name) c =
        ([], .attributeName reading (name ++ [c])) := by
      rw [step, inAttributeName, if_neg inside, same]
    rw [Silent, feed_cons, moved, ih later]
    simp

/-- Within quotes everything but a quote belongs to the value. -/
theorem silent_doubleQuoted {text : List Char} (unquoted : '"' ∉ text) :
    Silent (.doubleQuoted reading name value) text (.doubleQuoted reading name (value ++ text)) := by
  induction text generalizing value with
  | nil => simp [Silent, feed_nil]
  | cons c rest ih =>
    have other := List.ne_of_not_mem_cons unquoted
    have later := List.not_mem_of_not_mem_cons unquoted
    have first : step (.doubleQuoted reading name value) c =
        ([], .doubleQuoted reading name (value ++ [c])) := if_neg (Ne.symm other)
    rw [Silent, feed_cons, first, ih later]
    simp

/-- Outside of tags every character is a token until a tag opens. -/
theorem feed_text {text : List Char} (plain : '<' ∉ text) :
    feed .data text = (text.map .char, .data) := by
  induction text with
  | nil => rfl
  | cons c rest ih =>
    have other := List.ne_of_not_mem_cons plain
    have later := List.not_mem_of_not_mem_cons plain
    have first : step .data c = ([.char c], .data) := if_neg (Ne.symm other)
    rw [feed_cons, first, ih later]
    rfl

end Feed

section Write

/-- Elements without contents. -/
def voidNames : List (List Char) :=
  ["area", "base", "br", "col", "embed", "hr", "img", "input", "link", "meta", "source", "track",
    "wbr"].map String.toList

instance (name : List Char) : Decidable (name ∈ voidNames) :=
  List.instDecidableMemOfLawfulBEq name voidNames

def writeAttribute (attr : List Char × List Char) : List Char :=
  ' ' :: attr.1 ++ ('=' :: '"' :: (attr.2 ++ ['"']))

def Tag.write (tag : Tag) : List Char :=
  '<' :: tag.name ++ (tag.attributes.flatMap writeAttribute ++
    if tag.name ∈ voidNames then [' ', '/', '>'] else ['>'])

/-- The text that a token is written with. -/
def Token.write : Token → List Char
  | .char c => [c]
  | .startTag tag => tag.write
  | .endTag name => '<' :: '/' :: (name ++ ['>'])
  | .other => []

/-- A name of small letters and digits that starts with a letter. -/
def CleanName (name : List Char) : Prop :=
  ∃ first rest, name = first :: rest ∧ first.isLower = true ∧ ∀ c ∈ rest, plainName c = true

instance : DecidablePred CleanName
  | [] => isFalse (by rintro ⟨first, rest, empty, _⟩; cases empty)
  | first :: rest =>
    decidable_of_iff (first.isLower = true ∧ rest.all plainName = true) (by
      constructor
      · rintro ⟨lower, plain⟩
        exact ⟨first, rest, rfl, lower, List.all_eq_true.mp plain⟩
      · rintro ⟨_, _, same, lower, plain⟩
        cases same
        exact ⟨lower, List.all_eq_true.mpr plain⟩)

/-- A tag that reads back as it is written. -/
structure Tag.Clean (tag : Tag) : Prop where
  name : CleanName tag.name
  names : ∀ attr ∈ tag.attributes, CleanName attr.1
  values : ∀ attr ∈ tag.attributes, '"' ∉ attr.2
  distinct : (tag.attributes.map Prod.fst).Nodup

instance (tag : Tag) : Decidable tag.Clean :=
  decidable_of_iff (CleanName tag.name ∧ (∀ attr ∈ tag.attributes, CleanName attr.1) ∧
    (∀ attr ∈ tag.attributes, '"' ∉ attr.2) ∧ (tag.attributes.map Prod.fst).Nodup) (by
      constructor
      · rintro ⟨name, names, values, distinct⟩
        exact ⟨name, names, values, distinct⟩
      · rintro ⟨name, names, values, distinct⟩
        exact ⟨name, names, values, distinct⟩)

def Token.Clean : Token → Prop
  | .char c => c ≠ '<'
  | .startTag tag => tag.Clean
  | .endTag name => CleanName name
  | .other => False

variable {state : State} {reading : Reading} {name value : List Char}

/-- A clean tag stays clean with another attribute. -/
theorem Tag.Clean.extend {tag : Tag} (clean : tag.Clean) (cleanName : CleanName name)
    (fresh : name ∉ tag.attributes.map Prod.fst) (unquoted : '"' ∉ value) :
    Tag.Clean ⟨tag.name, tag.attributes ++ [(name, value)]⟩ where
  name := clean.name
  names := List.forall_mem_append.mpr ⟨clean.names, List.forall_mem_singleton.mpr cleanName⟩
  values := List.forall_mem_append.mpr ⟨clean.values, List.forall_mem_singleton.mpr unquoted⟩
  distinct := by
    rw [List.map_append, List.nodup_append]
    refine ⟨clean.distinct, by simp, ?_⟩
    intro taken member other single same
    rw [List.map_singleton, List.mem_singleton] at single
    rw [same, single] at member
    exact fresh member

theorem isAlpha_of_isLower {c : Char} (lower : c.isLower = true) : c.isAlpha = true :=
  Bool.or_eq_true_iff.mpr (.inr lower)

theorem plainName_of_isLower {c : Char} (lower : c.isLower = true) : plainName c = true := by
  simp [plainName, lower]

theorem silent_tagStart (clean : CleanName name) :
    Silent .data ('<' :: name) (.tagName ⟨false, ⟨name, []⟩⟩) := by
  obtain ⟨first, rest, rfl, lower, plain⟩ := clean
  have same := (plainName_spec (plainName_of_isLower lower)).2
  have opened : Silent .data ['<'] .tagOpen := rfl
  have other : ¬ first = '/' ∧ ¬ first = '!' ∧ ¬ first = '?' := by
    refine ⟨?_, ?_, ?_⟩ <;> rintro rfl <;> revert lower <;> decide
  have named : Silent .tagOpen [first] (.tagName ⟨false, ⟨[first], []⟩⟩) := by
    simp [Silent, feed_cons, feed_nil, step, inTagOpen, other, isAlpha_of_isLower lower, same]
  exact opened.append (named.append (silent_tagName plain))

theorem feed_endTag (clean : CleanName name) :
    feed .data ('<' :: '/' :: (name ++ ['>'])) = ([.endTag name], .data) := by
  obtain ⟨first, rest, rfl, lower, plain⟩ := clean
  have same := (plainName_spec (plainName_of_isLower lower)).2
  have opened : Silent .data ['<', '/'] .endTagOpen := rfl
  have named : Silent .endTagOpen [first] (.tagName ⟨true, ⟨[first], []⟩⟩) := by
    simp [Silent, feed_cons, feed_nil, step, inEndTagOpen, isAlpha_of_isLower lower, same]
  have read := opened.append (named.append (silent_tagName plain))
  exact (read.feed ['>']).trans rfl

/-- Behind its name or a value a tag can be closed or get another attribute. -/
def Resting (reading : Reading) (state : State) : Prop :=
  state = .tagName reading ∨ state = .afterQuoted reading

theorem Resting.silent_space (resting : Resting reading state) :
    Silent state [' '] (.beforeAttributeName reading) := by
  rcases resting with rfl | rfl
  · rfl
  · rfl

theorem Resting.feed_close (resting : Resting reading state) (void : Bool) :
    feed state (if void then [' ', '/', '>'] else ['>']) = ([reading.token], .data) := by
  rcases resting with rfl | rfl <;> cases void <;> rfl

/-- An attribute up to its value. -/
theorem Resting.silent_attribute (resting : Resting reading state) (clean : CleanName name) :
    Silent state (' ' :: name ++ ['=', '"']) (.doubleQuoted reading name []) := by
  obtain ⟨first, rest, rfl, lower, plain⟩ := clean
  obtain ⟨inside, same⟩ := plainName_spec (plainName_of_isLower lower)
  have named : Silent (.beforeAttributeName reading) [first] (.attributeName reading [first]) := by
    simp only [not_or] at inside
    simp [Silent, feed_cons, feed_nil, step, inBeforeAttributeName, inside, same]
  have valued : Silent (.attributeName reading (first :: rest)) ['=', '"']
      (.doubleQuoted reading (first :: rest) []) := rfl
  exact resting.silent_space.append (named.append ((silent_attributeName plain).append valued))

theorem Resting.silent_writeAttribute (resting : Resting reading state) (clean : CleanName name)
    (unquoted : '"' ∉ value) :
    Silent state (writeAttribute (name, value)) (.afterQuoted (reading.add name value)) := by
  have closed : Silent (.doubleQuoted reading name value) ['"'] (.afterQuoted (reading.add name value)) :=
    rfl
  have whole := (resting.silent_attribute clean).append ((silent_doubleQuoted unquoted).append closed)
  simpa [writeAttribute] using whole

theorem Reading.add_new (fresh : name ∉ reading.tag.attributes.map Prod.fst) :
    reading.add name value =
      ⟨reading.closing, ⟨reading.tag.name, reading.tag.attributes ++ [(name, value)]⟩⟩ := by
  rw [Reading.add, Tag.add, if_neg fresh]

/-- Attributes are read in the order they are written in. -/
theorem Resting.silent_attributes {attrs : List (List Char × List Char)} (resting : Resting reading state)
    (names : ∀ attr ∈ attrs, CleanName attr.1) (values : ∀ attr ∈ attrs, '"' ∉ attr.2)
    (distinct : ((reading.tag.attributes ++ attrs).map Prod.fst).Nodup) :
    ∃ next, Resting ⟨reading.closing, ⟨reading.tag.name, reading.tag.attributes ++ attrs⟩⟩ next ∧
      Silent state (attrs.flatMap writeAttribute) next := by
  induction attrs generalizing reading state with
  | nil =>
    refine ⟨state, ?_, rfl⟩
    rw [List.append_nil]
    exact resting
  | cons attr rest ih =>
    obtain ⟨name, value⟩ := attr
    have fresh : name ∉ reading.tag.attributes.map Prod.fst := by
      intro taken
      rw [List.map_append, List.nodup_append] at distinct
      exact distinct.2.2 name taken name (by simp) rfl
    have first := resting.silent_writeAttribute (names _ List.mem_cons_self)
      (values _ List.mem_cons_self)
    rw [Reading.add_new fresh] at first
    have valued : Resting ⟨reading.closing, ⟨reading.tag.name, reading.tag.attributes ++ [(name, value)]⟩⟩
      (.afterQuoted _) := .inr rfl
    obtain ⟨next, atRest, silent⟩ := ih valued
      (fun attr member => names attr (List.mem_cons_of_mem _ member))
      (fun attr member => values attr (List.mem_cons_of_mem _ member)) (by simpa using distinct)
    refine ⟨next, by simpa using atRest, ?_⟩
    rw [List.flatMap_cons]
    exact first.append silent

/-- A clean tag up to the end of its attributes. -/
theorem Tag.Clean.silent {tag : Tag} (clean : tag.Clean) :
    ∃ next, Resting ⟨false, tag⟩ next ∧
      Silent .data ('<' :: tag.name ++ tag.attributes.flatMap writeAttribute) next := by
  have start := silent_tagStart clean.name
  have named : Resting ⟨false, ⟨tag.name, []⟩⟩ (.tagName ⟨false, ⟨tag.name, []⟩⟩) := .inl rfl
  obtain ⟨next, atRest, silent⟩ := named.silent_attributes clean.names clean.values
    (by simpa using clean.distinct)
  exact ⟨next, atRest, start.append silent⟩

theorem Tag.Clean.feed_write {tag : Tag} (clean : tag.Clean) :
    feed .data tag.write = ([.startTag tag], .data) := by
  obtain ⟨next, atRest, silent⟩ := clean.silent
  rw [Tag.write, ← List.append_assoc, silent.feed]
  have closed := atRest.feed_close (decide (tag.name ∈ voidNames))
  simp only [decide_eq_true_eq] at closed
  exact closed

theorem Token.Clean.feed_write {token : Token} (clean : token.Clean) :
    feed .data token.write = ([token], .data) := by
  cases token with
  | char c =>
    have plain : '<' ∉ [c] := fun member => clean (List.mem_singleton.mp member).symm
    exact feed_text plain
  | startTag tag => exact Tag.Clean.feed_write clean
  | endTag name => exact feed_endTag clean
  | other => exact clean.elim

/-- Clean tokens read back as they are written. -/
theorem feed_write {known : List Token} (clean : ∀ token ∈ known, token.Clean) :
    feed .data (known.flatMap Token.write) = (known, .data) := by
  induction known with
  | nil => rfl
  | cons token rest ih =>
    obtain ⟨first, others⟩ := List.forall_mem_cons.mp clean
    rw [List.flatMap_cons, feed_append, first.feed_write, ih others]
    rfl

theorem tokens_write {known : List Token} (clean : ∀ token ∈ known, token.Clean) :
    tokens (known.flatMap Token.write) = known := by
  rw [tokens, feed_write clean]
  exact List.append_nil _

/-- Tokens are clean, or there is a first one that is not. -/
theorem clean_or_first (known : List Token) : (∀ token ∈ known, token.Clean) ∨
    ∃ before token after, known = before ++ token :: after ∧ (∀ token ∈ before, token.Clean) ∧
      ¬ token.Clean := by
  induction known with
  | nil => exact .inl (List.forall_mem_nil _)
  | cons token rest ih =>
    by_cases first : token.Clean
    · rcases ih with clean | ⟨before, broken, after, split, clean, unclean⟩
      · exact .inl (List.forall_mem_cons.mpr ⟨first, clean⟩)
      · exact .inr ⟨token :: before, broken, after, by rw [split]; rfl,
          List.forall_mem_cons.mpr ⟨first, clean⟩, unclean⟩
    · exact .inr ⟨[], token, rest, rfl, List.forall_mem_nil _, first⟩

end Write

section Broken

variable {tag : Tag} {reading : Reading} {state : State} {name value : List Char}

/-- The tag that is being read is the given one, with more attributes perhaps. -/
def Reading.Continues (tag : Tag) (reading : Reading) : Prop :=
  reading.closing = false ∧ reading.tag.name = tag.name ∧ tag.attributes <+: reading.tag.attributes

theorem Reading.Continues.add (continues : reading.Continues tag) (name value : List Char) :
    (reading.add name value).Continues tag := by
  obtain ⟨opening, same, most⟩ := continues
  rw [Reading.add, Tag.add]
  split
  · exact ⟨opening, same, most⟩
  · exact ⟨opening, same, most.trans (List.prefix_append _ _)⟩

/-- Among the attributes of such a tag. -/
def State.Inside (tag : Tag) : State → Prop
  | .beforeAttributeName reading | .attributeName reading _ | .afterAttributeName reading _
  | .beforeAttributeValue reading _ | .doubleQuoted reading _ _ | .singleQuoted reading _ _
  | .unquoted reading _ _ | .afterQuoted reading | .selfClosing reading => reading.Continues tag
  | _ => False

/-- Reading on brings nothing yet, or first of all such a tag. -/
def Ends (tag : Tag) (result : List Token × State) : Prop :=
  result.1 = [] ∧ result.2.Inside tag ∨
    ∃ whole others, result.1 = .startTag whole :: others ∧ whole.name = tag.name ∧
      tag.attributes <+: whole.attributes

theorem Reading.Continues.ends_token (continues : reading.Continues tag) :
    Ends tag ([reading.token], .data) := by
  obtain ⟨opening, same, most⟩ := continues
  refine .inr ⟨reading.tag, [], ?_, same, most⟩
  rw [Reading.token, opening]
  rfl

theorem Reading.Continues.ends_before (continues : reading.Continues tag) (c : Char) :
    Ends tag (inBeforeAttributeName reading c) := by
  unfold inBeforeAttributeName
  split
  · exact .inl ⟨rfl, continues⟩
  · split
    · exact .inl ⟨rfl, continues⟩
    · split
      · exact continues.ends_token
      · exact .inl ⟨rfl, continues⟩

theorem Reading.Continues.ends_after (continues : reading.Continues tag) (name : List Char) (c : Char) :
    Ends tag (inAfterAttributeName reading name c) := by
  unfold inAfterAttributeName
  split
  · exact .inl ⟨rfl, continues⟩
  · split
    · exact .inl ⟨rfl, continues⟩
    · exact (continues.add name []).ends_before c

theorem Reading.Continues.ends_unquoted (continues : reading.Continues tag) (name value : List Char)
    (c : Char) : Ends tag (inUnquoted reading name value c) := by
  unfold inUnquoted
  split
  · exact .inl ⟨rfl, continues.add name value⟩
  · split
    · exact (continues.add name value).ends_token
    · exact .inl ⟨rfl, continues⟩

/-- No character leads out of the tag without it. -/
theorem State.Inside.step (inside : state.Inside tag) (c : Char) : Ends tag (step state c) := by
  cases state with
  | data | tagOpen | endTagOpen | tagName reading | skipped => exact inside.elim
  | beforeAttributeName reading => exact Reading.Continues.ends_before inside c
  | afterQuoted reading => exact Reading.Continues.ends_before inside c
  | selfClosing reading => exact Reading.Continues.ends_before inside c
  | afterAttributeName reading name => exact Reading.Continues.ends_after inside name c
  | attributeName reading name =>
    change Ends tag (inAttributeName reading name c)
    unfold inAttributeName
    split
    · exact Reading.Continues.ends_after inside name c
    · exact .inl ⟨rfl, inside⟩
  | unquoted reading name value => exact Reading.Continues.ends_unquoted inside name value c
  | beforeAttributeValue reading name =>
    change Ends tag (inBeforeAttributeValue reading name c)
    unfold inBeforeAttributeValue
    split
    · exact .inl ⟨rfl, inside⟩
    · split
      · exact .inl ⟨rfl, inside⟩
      · split
        · exact .inl ⟨rfl, inside⟩
        · exact Reading.Continues.ends_unquoted inside name [] c
  | doubleQuoted reading name value =>
    change Ends tag (if c = '"' then _ else _)
    split
    · exact .inl ⟨rfl, Reading.Continues.add inside name value⟩
    · exact .inl ⟨rfl, inside⟩
  | singleQuoted reading name value =>
    change Ends tag (if c = '\'' then _ else _)
    split
    · exact .inl ⟨rfl, Reading.Continues.add inside name value⟩
    · exact .inl ⟨rfl, inside⟩

theorem State.Inside.feed (inside : state.Inside tag) (text : List Char) :
    Ends tag (feed state text) := by
  induction text generalizing state with
  | nil => exact .inl ⟨rfl, inside⟩
  | cons c rest ih =>
    rw [feed_cons]
    rcases inside.step c with ⟨none, within⟩ | ⟨whole, others, first, same, most⟩
    · rw [none]
      exact ih within
    · exact .inr ⟨whole, others ++ _, by rw [first]; rfl, same, most⟩

theorem State.Inside.finish (inside : state.Inside tag) : state.finish = [] := by
  cases state with
  | data | tagOpen | endTagOpen | tagName reading | skipped => exact inside.elim
  | _ => rfl

/-- Whatever follows the quote that closes the value of an attribute, the next token is the tag
with this attribute, or the text ends before the tag is closed. -/
theorem tokens_attribute {known : List Token} (clean : ∀ token ∈ known, token.Clean)
    (cleanTag : tag.Clean) (cleanName : CleanName name) (fresh : name ∉ tag.attributes.map Prod.fst)
    (unquoted : '"' ∉ value) (rest : List Char) :
    let text := known.flatMap Token.write ++ ('<' :: tag.name ++ tag.attributes.flatMap writeAttribute ++
      (writeAttribute (name, value) ++ rest))
    tokens text = known ∨ ∃ whole others, tokens text = known ++ .startTag whole :: others ∧
      whole.name = tag.name ∧ tag.attributes ++ [(name, value)] <+: whole.attributes := by
  intro text
  obtain ⟨next, atRest, silent⟩ := cleanTag.silent
  have read := silent.append (atRest.silent_writeAttribute cleanName unquoted)
  rw [Reading.add_new fresh] at read
  have inside : State.Inside ⟨tag.name, tag.attributes ++ [(name, value)]⟩
      (.afterQuoted ⟨false, ⟨tag.name, tag.attributes ++ [(name, value)]⟩⟩) :=
    ⟨rfl, rfl, List.prefix_rfl⟩
  generalize State.afterQuoted _ = behind at read inside
  have isFeed : feed .data text = (known ++ (feed behind rest).1, (feed behind rest).2) := by
    rw [feed_append, feed_write clean, ← List.append_assoc, read.feed]
  rw [tokens, isFeed]
  rcases inside.feed rest with ⟨none, within⟩ | ⟨whole, others, first, same, most⟩
  · rw [none, within.finish]
    exact .inl (by simp)
  · rw [first]
    exact .inr ⟨whole, _, by rw [List.append_assoc]; rfl, same, most⟩

end Broken

end Html
