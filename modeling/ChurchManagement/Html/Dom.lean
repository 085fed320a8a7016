import ChurchManagement.Html.Tokenizer

namespace Html

/-- What stands between two tags: characters and elements, each with what follows it. -/
inductive Dom
  | empty
  | char (c : Char) (rest : Dom)
  | element (tag : Tag) (children rest : Dom)
  deriving DecidableEq, Repr

def Tag.mapValues (f : List Char → List Char) (tag : Tag) : Tag :=
  { tag with attributes := tag.attributes.map fun attr => (attr.1, f attr.2) }

/-- The value of the attribute, empty where the tag has none. -/
def Tag.value (name : String) (tag : Tag) : List Char :=
  ((tag.attributes.find? fun attr => attr.1 = name.toList).map Prod.snd).getD []

/-- A clean tag has no quote in a value. -/
theorem Tag.Clean.value_unquoted {tag : Tag} (clean : tag.Clean) (name : String) : '"' ∉ tag.value name := by
  unfold Tag.value
  cases found : tag.attributes.find? fun attr => attr.1 = name.toList with
  | none => exact List.not_mem_nil
  | some attr => exact clean.values attr (List.mem_of_find?_eq_some found)

def Tag.isInput (tag : Tag) : Bool := tag.name = "input".toList

namespace Dom

def append : Dom → Dom → Dom
  | empty, last => last
  | char c rest, last => char c (rest.append last)
  | element tag children rest, last => element tag children (rest.append last)

def chars (text : List Char) (rest : Dom) : Dom := text.foldr char rest

/-- The elements at the top, each with what it contains. -/
def siblings : Dom → List (Tag × Dom)
  | empty => []
  | char _ rest => rest.siblings
  | element tag children rest => (tag, children) :: rest.siblings

/-- All elements in the order of the document. -/
def elements : Dom → List (Tag × Dom)
  | empty => []
  | char _ rest => rest.elements
  | element tag children rest => (tag, children) :: (children.elements ++ rest.elements)

def tags (dom : Dom) : List Tag := dom.elements.map Prod.fst

def inputs (dom : Dom) : List Tag := dom.tags.filter Tag.isInput

def mapValues (f : List Char → List Char) : Dom → Dom
  | empty => empty
  | char c rest => char c (rest.mapValues f)
  | element tag children rest => element (tag.mapValues f) (children.mapValues f) (rest.mapValues f)

/-- The tokens that the tree is written with. -/
def tokens : Dom → List Token
  | empty => []
  | char c rest => .char c :: rest.tokens
  | element tag children rest =>
    .startTag tag :: (children.tokens ++
      ((if tag.name ∈ voidNames then [] else [.endTag tag.name]) ++ rest.tokens))

/-- The text of the tree. -/
def write (dom : Dom) : List Char := dom.tokens.flatMap Token.write

section Basic

variable {tag : Tag} {children rest dom : Dom} {text : List Char}

@[simp] theorem tags_empty : empty.tags = [] := rfl

@[simp] theorem tags_char (c : Char) : (char c rest).tags = rest.tags := rfl

@[simp] theorem tags_element : (element tag children rest).tags =
    tag :: (children.tags ++ rest.tags) := by
  simp [tags, elements]

@[simp] theorem append_empty (dom : Dom) : dom.append empty = dom := by
  induction dom with
  | empty => rfl
  | char c rest ih => rw [append, ih]
  | element tag children rest _ ih => rw [append, ih]

theorem append_assoc (first second third : Dom) :
    (first.append second).append third = first.append (second.append third) := by
  induction first with
  | empty => rfl
  | char c rest ih => simp only [append, ih]
  | element tag children rest _ ih => simp only [append, ih]

@[simp] theorem tags_append (first second : Dom) :
    (first.append second).tags = first.tags ++ second.tags := by
  induction first with
  | empty => rfl
  | char c rest ih => rw [append, tags_char, tags_char, ih]
  | element tag children rest _ ih =>
    rw [append, tags_element, tags_element, ih, List.cons_append, List.append_assoc]

@[simp] theorem tags_chars : (chars text rest).tags = rest.tags := by
  induction text with
  | nil => rfl
  | cons c text ih => exact ih

@[simp] theorem siblings_chars : (chars text rest).siblings = rest.siblings := by
  induction text with
  | nil => rfl
  | cons c text ih => exact ih

@[simp] theorem elements_chars : (chars text rest).elements = rest.elements := by
  induction text with
  | nil => rfl
  | cons c text ih => exact ih

@[simp] theorem tokens_chars : (chars text rest).tokens = text.map .char ++ rest.tokens := by
  induction text with
  | nil => rfl
  | cons c text ih => exact congrArg (.char c :: ·) ih

@[simp] theorem write_empty : empty.write = [] := rfl

@[simp] theorem write_chars : (chars text rest).write = text ++ rest.write := by
  rw [write, tokens_chars, List.flatMap_append, List.flatMap_map]
  exact congrArg (· ++ rest.write) (List.flatMap_singleton' text)

/-- An element with an end tag is written around its contents. -/
theorem write_container (closed : tag.name ∉ voidNames) : (element tag children rest).write =
    tag.write ++ (children.write ++ '<' :: '/' :: (tag.name ++ '>' :: rest.write)) := by
  rw [write, tokens, if_neg closed, List.flatMap_cons, List.flatMap_append, List.flatMap_append]
  simp [Token.write, write]

theorem write_void (void : tag.name ∈ voidNames) :
    (element tag .empty rest).write = tag.write ++ rest.write := by
  rw [write, tokens, if_pos void, List.flatMap_cons]
  rfl

/-- What an element contains is part of the document. -/
theorem tags_sublist_of_mem (member : (tag, children) ∈ dom.elements) : children.tags.Sublist dom.tags := by
  induction dom with
  | empty => cases member
  | char c rest ih => exact ih member
  | element top inner rest ih ih' =>
    rw [elements, List.mem_cons, List.mem_append] at member
    rw [tags_element]
    rcases member with same | inside | after
    · cases same
      exact (List.sublist_append_left _ _).cons _
    · exact ((ih inside).trans (List.sublist_append_left _ _)).cons _
    · exact ((ih' after).trans (List.sublist_append_right _ _)).cons _

/-- What some of the elements at the top contain is part of the document, in its order. -/
theorem siblings_sublist (p : Tag × Dom → Bool) (dom : Dom) :
    ((dom.siblings.filter p).flatMap fun sibling => sibling.2.tags).Sublist dom.tags := by
  induction dom with
  | empty => exact List.Sublist.slnil
  | char c rest ih => exact ih
  | element tag children rest _ ih =>
    rw [siblings, tags_element, List.filter_cons]
    split
    · rw [List.flatMap_cons]
      exact (List.Sublist.append (List.Sublist.refl _) ih).cons _
    · exact (ih.trans (List.sublist_append_right _ _)).cons _

end Basic

end Dom

section Browser

/-- Elements that open and close where their tags stand. -/
def plainNames : List (List Char) :=
  ["div", "form", "h2", "hr", "input", "label"].map String.toList

/-- A character, or a tag of such an element. -/
def Token.Plain : Token → Prop
  | .char _ => True
  | .startTag tag => tag.name ∈ plainNames
  | .endTag name => name ∈ plainNames
  | .other => False

def Token.opened : Token → Option Tag
  | .startTag tag => some tag
  | _ => none

/-- The tags of input elements among the tokens. -/
def inputTags (known : List Token) : List Tag := (known.filterMap Token.opened).filter Tag.isInput

theorem inputTags_append (first second : List Token) :
    inputTags (first ++ second) = inputTags first ++ inputTags second := by
  rw [inputTags, List.filterMap_append, List.filter_append]
  rfl

/-- The characters that do not stand for themselves in a value or between tags. -/
def special : List Char := ['<', '"', '&', '\r', '\x00']

/-- A text without them. -/
def Literal (text : List Char) : Prop := ∀ c ∈ text, c ∉ special

instance (text : List Char) : Decidable (Literal text) :=
  List.decidableBAll (fun c => c ∉ special) text

theorem Literal.append {first second : List Char} (literal : Literal first) (literal' : Literal second) :
    Literal (first ++ second) :=
  List.forall_mem_append.mpr ⟨literal, literal'⟩

theorem Literal.unquoted {text : List Char} (literal : Literal text) : '"' ∉ text :=
  fun member => literal '"' member (by simp [special])

/-- A tree of such elements that the standard lets a text write: characters that stand for
themselves, nothing in elements without contents, and no form or heading within another. -/
def Dom.Proper : Dom → Prop
  | .empty => True
  | .char c rest => c ∉ special ∧ rest.Proper
  | .element tag children rest =>
    tag.name ∈ plainNames ∧ (tag.name ∈ voidNames → children = .empty) ∧
      (tag.name ∈ ["form", "h2"].map String.toList → ∀ inner ∈ children.tags, inner.name ≠ tag.name) ∧
      children.Proper ∧ rest.Proper

theorem Dom.opened_tokens (dom : Dom) : dom.tokens.filterMap Token.opened = dom.tags := by
  induction dom with
  | empty => rfl
  | char c rest ih => exact ih
  | element tag children rest ih ih' =>
    have opens : (Token.startTag tag).opened = some tag := rfl
    rw [Dom.tokens, Dom.tags_element, List.filterMap_cons_some opens, List.filterMap_append,
      List.filterMap_append, ih, ih']
    split
    · rfl
    · rfl

theorem Dom.inputTags_tokens (dom : Dom) : inputTags dom.tokens = dom.inputs := by
  rw [inputTags, dom.opened_tokens, Dom.inputs]

theorem cleanName_of_plainNames : ∀ name ∈ plainNames, CleanName name := by decide +kernel

/-- The tokens of a proper tree are characters that open no tag, and its tags. -/
theorem Dom.Proper.token {dom : Dom} (proper : dom.Proper) {token : Token} (member : token ∈ dom.tokens) :
    token.Plain ∧ (token.Clean ∨ ∃ tag ∈ dom.tags, token = .startTag tag) := by
  induction dom with
  | empty => cases member
  | char c rest ih =>
    rcases List.mem_cons.mp member with rfl | later
    · exact ⟨trivial, .inl fun opens => proper.1 (by simp [opens, special])⟩
    · exact ih proper.2 later
  | element tag children rest ih ih' =>
    obtain ⟨known, _, _, inside, after⟩ := proper
    rw [Dom.tokens, List.mem_cons, List.mem_append, List.mem_append] at member
    rw [Dom.tags_element]
    rcases member with rfl | within | closing | later
    · exact ⟨known, .inr ⟨tag, List.mem_cons_self, rfl⟩⟩
    · obtain ⟨plain, clean⟩ := ih inside within
      refine ⟨plain, clean.imp id ?_⟩
      rintro ⟨inner, listed, isTag⟩
      exact ⟨inner, List.mem_cons_of_mem _ (List.mem_append_left _ listed), isTag⟩
    · split at closing
      · cases closing
      · rw [List.mem_singleton.mp closing]
        exact ⟨known, .inl (cleanName_of_plainNames _ known)⟩
    · obtain ⟨plain, clean⟩ := ih' after later
      refine ⟨plain, clean.imp id ?_⟩
      rintro ⟨inner, listed, isTag⟩
      exact ⟨inner, List.mem_cons_of_mem _ (List.mem_append_right _ listed), isTag⟩

/-- A proper tree of clean tags reads back as it is written. -/
theorem Dom.Proper.tokens_write {dom : Dom} (proper : dom.Proper) (clean : ∀ tag ∈ dom.tags, tag.Clean) :
    Html.tokens dom.write = dom.tokens := by
  refine Html.tokens_write fun token member => ?_
  rcases (proper.token member).2 with isClean | ⟨tag, listed, rfl⟩
  · exact isClean
  · exact clean tag listed

theorem Dom.proper_chars {text : List Char} {rest : Dom} (literal : Literal text) (proper : rest.Proper) :
    (chars text rest).Proper := by
  induction text with
  | nil => exact proper
  | cons c text ih =>
    obtain ⟨first, others⟩ := List.forall_mem_cons.mp literal
    exact ⟨first, ih others⟩

theorem Dom.proper_container {tag : Tag} {children rest : Dom}
    (known : tag.name ∈ ["div", "label"].map String.toList) (inside : children.Proper) (after : rest.Proper) :
    (element tag children rest).Proper := by
  have kinds : ∀ name ∈ ["div", "label"].map String.toList, name ∈ plainNames ∧ name ∉ voidNames ∧
      name ∉ ["form", "h2"].map String.toList := by decide +kernel
  obtain ⟨plain, filled, free⟩ := kinds _ known
  exact ⟨plain, fun void => absurd void filled, fun alone => absurd alone free, inside, after⟩

theorem Dom.proper_void {tag : Tag} {rest : Dom} (known : tag.name ∈ ["hr", "input"].map String.toList)
    (after : rest.Proper) : (element tag empty rest).Proper := by
  have kinds : ∀ name ∈ ["hr", "input"].map String.toList, name ∈ plainNames := by decide +kernel
  exact ⟨kinds _ known, fun _ => rfl, fun _ inner member => (List.not_mem_nil member).elim, trivial, after⟩

@[simp] theorem Dom.mapValues_chars (f : List Char → List Char) (text : List Char) (rest : Dom) :
    (chars text rest).mapValues f = chars text (rest.mapValues f) := by
  induction text with
  | nil => rfl
  | cons c text ih => exact congrArg (char c) ih

/-- What a browser makes of a text that is assigned to the contents of a `div` outside of forms.
The value of an attribute is decoded: its character references and line ends are replaced, which
never makes it longer. A tree of plain elements is built as it is written. Input elements stay in
the document in the order of their tags as long as all tags are plain ones, whatever comes behind
them. -/
structure Browser where
  decode : List Char → List Char
  decode_plain : ∀ text, (∀ c ∈ text, c ∉ ['&', '\r', '\x00']) → decode text = text
  decode_length : ∀ text, (decode text).length ≤ text.length
  parse : List Char → Dom
  parse_tree : ∀ (text : List Char) (dom : Dom), dom.Proper → tokens text = dom.tokens →
    parse text = dom.mapValues decode
  parse_inputs : ∀ (text : List Char) (known others : List Token), tokens text = known ++ others → (∀ token ∈ known, token.Plain) →
    ∃ more, (parse text).inputs =
      (inputTags known).map (Tag.mapValues decode) ++ more ∧ (others = [] → more = [])

theorem Literal.decode {text : List Char} (literal : Literal text) (browser : Browser) :
    browser.decode text = text :=
  browser.decode_plain text fun c member reserved =>
    literal c member (List.mem_cons_of_mem _ (List.mem_cons_of_mem _ reserved))

end Browser

section Builder

/-- The elements that are open, the innermost first, each with what stands before it, and what
the innermost one contains so far. -/
structure Builder where
  stack : List (Tag × Dom)
  current : Dom

def Builder.add (builder : Builder) (token : Token) : Builder :=
  match token, builder.stack with
  | .char c, _ => { builder with current := builder.current.append (.char c .empty) }
  | .startTag tag, _ =>
    if tag.name ∈ voidNames then
      { builder with current := builder.current.append (.element tag .empty .empty) }
    else ⟨(tag, builder.current) :: builder.stack, .empty⟩
  | .endTag name, (tag, before) :: rest =>
    if tag.name = name then ⟨rest, before.append (.element tag builder.current .empty)⟩ else builder
  | _, _ => builder

/-- The end of the text closes all that is open. -/
def closeAll (current : Dom) : List (Tag × Dom) → Dom
  | [] => current
  | (tag, before) :: rest => closeAll (before.append (.element tag current .empty)) rest

def build (given : List Token) : Dom :=
  let builder := given.foldl Builder.add ⟨[], .empty⟩
  closeAll builder.current builder.stack

theorem Builder.add_tokens {dom : Dom} (proper : dom.Proper) (builder : Builder) :
    dom.tokens.foldl Builder.add builder = ⟨builder.stack, builder.current.append dom⟩ := by
  induction dom generalizing builder with
  | empty => rw [Dom.append_empty]; rfl
  | char c rest ih =>
    rw [Dom.tokens, List.foldl_cons, ih proper.2]
    simp only [Builder.add, Dom.append_assoc]
    rfl
  | element tag children rest ih ih' =>
    obtain ⟨_, void, _, inside, after⟩ := proper
    rw [Dom.tokens, List.foldl_cons, List.foldl_append, List.foldl_append, ih' after]
    by_cases isVoid : tag.name ∈ voidNames
    · rw [void isVoid, if_pos isVoid]
      simp only [Dom.tokens, List.foldl_nil, Builder.add, if_pos isVoid, Dom.append_assoc]
      rfl
    · rw [ih inside, if_neg isVoid]
      simp only [Builder.add, if_neg isVoid, List.foldl_cons, List.foldl_nil, if_true, Dom.append_assoc]
      rfl

/-- The tags that have been opened before the innermost contents. -/
def stackTags : List (Tag × Dom) → List Tag
  | [] => []
  | (tag, before) :: rest => stackTags rest ++ (before.tags ++ [tag])

theorem tags_closeAll (current : Dom) (stack : List (Tag × Dom)) :
    (closeAll current stack).tags = stackTags stack ++ current.tags := by
  induction stack generalizing current with
  | nil => rfl
  | cons frame rest ih =>
    obtain ⟨tag, before⟩ := frame
    rw [closeAll, ih, stackTags]
    simp

/-- Every start tag makes one element, behind those that are there. -/
theorem Builder.add_tags (builder : Builder) (token : Token) :
    stackTags (builder.add token).stack ++ (builder.add token).current.tags =
      stackTags builder.stack ++ builder.current.tags ++ token.opened.toList := by
  cases token with
  | char c => simp [Builder.add, Token.opened]
  | startTag tag =>
    by_cases isVoid : tag.name ∈ voidNames
    · simp [Builder.add, if_pos isVoid, Token.opened]
    · simp [Builder.add, if_neg isVoid, stackTags, Token.opened]
  | other => simp [Builder.add, Token.opened]
  | endTag name =>
    obtain ⟨stack, current⟩ := builder
    cases stack with
    | nil => simp [Builder.add, Token.opened]
    | cons frame rest =>
      obtain ⟨tag, before⟩ := frame
      by_cases same : tag.name = name
      · simp [Builder.add, if_pos same, stackTags, Token.opened]
      · simp [Builder.add, if_neg same, Token.opened]

theorem tags_build (given : List Token) : (build given).tags = given.filterMap Token.opened := by
  have folded (builder : Builder) :
      stackTags (given.foldl Builder.add builder).stack ++ (given.foldl Builder.add builder).current.tags =
        stackTags builder.stack ++ builder.current.tags ++ given.filterMap Token.opened := by
    induction given generalizing builder with
    | nil => simp
    | cons token rest ih =>
      rw [List.foldl_cons, ih, builder.add_tags, List.append_assoc]
      cases opened : token.opened with
      | none => simp [opened]
      | some tag => simp [opened]
  rw [build, tags_closeAll, folded]
  rfl

theorem Dom.mapValues_id (dom : Dom) : dom.mapValues (fun value => value) = dom := by
  induction dom with
  | empty => rfl
  | char c rest ih => rw [mapValues, ih]
  | element tag children rest ih ih' =>
    rw [mapValues, ih, ih']
    simp [Tag.mapValues]

/-- A browser that knows no character references and builds every element where its tags stand. -/
def plainBrowser : Browser where
  decode value := value
  decode_plain _ _ := rfl
  decode_length _ := Nat.le_refl _
  parse text := build (tokens text)
  parse_tree text dom proper written := by
    rw [written, build, Builder.add_tokens proper, Dom.mapValues_id]
    rfl
  parse_inputs text known others split _ := by
    refine ⟨inputTags others, ?_, fun none => by rw [none]; rfl⟩
    have same : Tag.mapValues (fun value => value) = id := by
      funext tag
      simp [Tag.mapValues]
    rw [Dom.inputs, tags_build, split, same, List.map_id, ← inputTags_append]
    rfl


end Builder

end Html
