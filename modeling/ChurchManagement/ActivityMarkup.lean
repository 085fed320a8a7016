import ChurchManagement.Html.Dom
import ChurchManagement.Public.Script

namespace ChurchManagement

open Js Effect

/-- The fields that the template reads of an activity. -/
def activityKeys : List String := ["ACTIVITYTYPE", "DATE", "TIME", "RESPONSE"]

/-- The text of a field, empty where it is absent. -/
def fieldOf (activity : Value) (key : String) : List Char :=
  match activity.propD key with
  | .str text => text.toList
  | _ => []

/-- An activity as the server sends it: an object whose fields are texts or absent. -/
def TextActivity (activity : Value) : Prop :=
  ∃ fields, activity = .obj fields ∧ ∀ key ∈ activityKeys,
    (∃ text, Value.field key fields = .str text) ∨ Value.field key fields = .undefined ∨
      Value.field key fields = .null

section Shown

/-- The groups of a form are its `div` elements of the class. -/
def isGroup (sibling : Html.Tag × Html.Dom) : Bool :=
  sibling.1.name = "div".toList && sibling.1.value "class" = "activity-input-group".toList

def groupValues (group : Html.Tag × Html.Dom) : List (List Char) :=
  group.2.inputs.map (Html.Tag.value "value")

/-- The elements of a group and the line behind it. -/
def groupNames : List String :=
  ["div", "label", "input", "label", "input", "label", "input", "label", "input", "hr"]

/-- The names of all elements for a number of activities. -/
def skeleton (n : Nat) : List String :=
  ["div", "h2", "form"] ++ (List.replicate n groupNames).flatten

/-- There is one form, its groups have the values of the activities, in order, and there are no
other elements. -/
structure FaithfulForm (activities : List Value) (dom : Html.Dom) : Prop where
  form : ∃ form, dom.elements.filter (fun element => element.1.name = "form".toList) = [form] ∧
    (form.2.siblings.filter isGroup).map groupValues =
      activities.map fun activity => activityKeys.map (fieldOf activity)
  elements : dom.tags.map Html.Tag.name = (skeleton activities.length).map String.toList

/-- The dialog shows the activities as they are. -/
def ShownFaithfully (browser : Html.Browser) (userId : String) (activities : List Value) (page : Page) :
    Prop :=
  FaithfulForm activities (browser.parse
    (exec (logActivity userId (.answered true (.ok (some activities)))) page).2.modalBody.toList)

end Shown

section Tree

open Html (Dom Tag)

/-- An input of the template: its label, its type, its name and the field it shows. -/
structure Slot where
  label : String
  type : String
  name : String
  key : String

def slots : List Slot :=
  [⟨"Activity Type", "text", "activityType", "ACTIVITYTYPE"⟩, ⟨"Date", "date", "activityDate", "DATE"⟩,
    ⟨"Time", "time", "activityTime", "TIME"⟩, ⟨"Response", "text", "activityResponse", "RESPONSE"⟩]

def newline (n : Nat) : List Char := '\n' :: List.replicate n ' '

/-- The tag of an input up to its value. -/
def openTag (slot : Slot) (idx : Nat) : Tag where
  name := "input".toList
  attributes := [("type".toList, slot.type.toList),
    ("name".toList, slot.name.toList ++ (toString idx).toList)]

def inputTag (slot : Slot) (idx : Nat) (value : List Char) : Tag where
  name := "input".toList
  attributes := (openTag slot idx).attributes ++ [("value".toList, value)]

@[simp] theorem inputTag_name (slot : Slot) (idx : Nat) (value : List Char) :
    (inputTag slot idx value).name = "input".toList := rfl

@[simp] theorem inputTag_attributes (slot : Slot) (idx : Nat) (value : List Char) :
    (inputTag slot idx value).attributes = [("type".toList, slot.type.toList),
      ("name".toList, slot.name.toList ++ (toString idx).toList), ("value".toList, value)] := rfl

def labelTag : Tag := ⟨"label".toList, []⟩

def lineTag : Tag := ⟨"hr".toList, []⟩

def groupTag : Tag := ⟨"div".toList, [("class".toList, "activity-input-group".toList)]⟩

/-- The tree of some of the inputs with their labels. -/
def slotsDom (idx : Nat) (text : String → List Char) : List Slot → Dom
  | [] => .chars (newline 24) .empty
  | slot :: rest =>
    .chars (newline 28) (.element labelTag (.chars slot.label.toList .empty)
      (.chars (newline 28) (.element (inputTag slot idx (text slot.key)) .empty (slotsDom idx text rest))))

/-- The trees of the groups, from an index on. -/
def groupsDom (idx : Nat) : List (String → List Char) → Dom
  | [] => .empty
  | text :: rest =>
    .chars (newline 24) (.element groupTag (slotsDom idx text slots)
      (.chars (newline 24) (.element lineTag .empty (groupsDom (idx + 1) rest))))

def activitiesDom (texts : List (String → List Char)) : Dom :=
  .element ⟨"div".toList, [("class".toList, "profile-section".toList)]⟩
    (.element ⟨"h2".toList, []⟩ (.chars "My Activities".toList .empty)
      (.element ⟨"form".toList, [("id".toList, "activityForm".toList)]⟩ (groupsDom 0 texts) .empty)) .empty

/-- Elements that are closed by a tag of their own, and elements that are not. -/
theorem containers_closed : "div".toList ∉ Html.voidNames ∧ "form".toList ∉ Html.voidNames ∧
    "h2".toList ∉ Html.voidNames ∧ "label".toList ∉ Html.voidNames := by decide

theorem voids_open : "hr".toList ∈ Html.voidNames ∧ "input".toList ∈ Html.voidNames := by decide

end Tree

section Markup

open Html (Dom)

variable {activity : Value} {activities : List Value}

theorem TextActivity.field (known : TextActivity activity) {key : String} (listed : key ∈ activityKeys) :
    activityField activity key = .ok (String.ofList (fieldOf activity key)) := by
  obtain ⟨fields, rfl, texts⟩ := known
  have isField : (Value.obj fields).propD key = Value.field key fields := rfl
  have read : (Value.obj fields).prop key = .ok (Value.field key fields) := rfl
  rw [activityField, read, fieldOf, isField]
  rcases texts key listed with ⟨text, isText⟩ | absent | null
  · rw [isText]
    by_cases empty : text = ""
    · rw [empty]
      rfl
    · simp [Value.orElse, Value.truthy, empty, bind, Except.bind]
  · rw [absent]
    rfl
  · rw [null]
    rfl

theorem indent_toList (n : Nat) : (indent n).toList = newline n := by
  simp [indent, newline]

/-- The text of an input is the text of its tree. -/
theorem labelledInput_write (slot : Slot) (idx : Nat) (text : String → List Char) (rest : List Slot) :
    (labelledInput slot.label slot.type slot.name idx (String.ofList (text slot.key))).toList ++
      (slotsDom idx text rest).write = (slotsDom idx text (slot :: rest)).write := by
  have label : labelTag.name ∉ Html.voidNames := containers_closed.2.2.2
  have input : (inputTag slot idx (text slot.key)).name ∈ Html.voidNames := voids_open.2
  rw [slotsDom, Dom.write_chars, Dom.write_container label, Dom.write_chars, Dom.write_empty,
    Dom.write_chars, Dom.write_void input, Html.Tag.write.eq_def (inputTag _ _ _), if_pos input]
  simp only [labelledInput, inputTag_name, inputTag_attributes, String.toList_append, String.toList_ofList,
    indent_toList, Html.writeAttribute, List.flatMap_cons, List.flatMap_nil, List.append_assoc,
    List.cons_append, List.nil_append, List.append_nil]
  rfl

theorem TextActivity.group (known : TextActivity activity) (idx : Nat) :
    activityGroup idx activity = .ok (groupMarkup idx (String.ofList (fieldOf activity "ACTIVITYTYPE"))
      (String.ofList (fieldOf activity "DATE")) (String.ofList (fieldOf activity "TIME"))
      (String.ofList (fieldOf activity "RESPONSE"))) := by
  have read {key : String} (listed : key ∈ activityKeys) := known.field listed
  rw [activityGroup, read (by simp [activityKeys]), read (by simp [activityKeys]),
    read (by simp [activityKeys]), read (by simp [activityKeys])]
  rfl

theorem groupMarkup_write (idx : Nat) (text : String → List Char) (rest : List (String → List Char)) :
    (groupMarkup idx (String.ofList (text "ACTIVITYTYPE")) (String.ofList (text "DATE"))
        (String.ofList (text "TIME")) (String.ofList (text "RESPONSE"))).toList ++
      (groupsDom (idx + 1) rest).write = (groupsDom idx (text :: rest)).write := by
  have last : (slotsDom idx text []).write = newline 24 := by
    rw [slotsDom, Dom.write_chars, Dom.write_empty, List.append_nil]
  have group : groupTag.name ∉ Html.voidNames := containers_closed.1
  have line : lineTag.name ∈ Html.voidNames := voids_open.1
  have opening : groupTag.write = "<div class=\"activity-input-group\">".toList := by decide
  have ruled : lineTag.write = "<hr />".toList := by decide
  rw [groupsDom, Dom.write_chars, Dom.write_container group, Dom.write_chars, Dom.write_void line, slots,
    ← labelledInput_write, ← labelledInput_write, ← labelledInput_write, ← labelledInput_write, last,
    opening, ruled]
  simp only [groupMarkup, String.toList_append, indent_toList, List.append_assoc]
  rfl

theorem activityGroups_write (known : ∀ activity ∈ activities, TextActivity activity) (idx : Nat) :
    ∃ groups, activityGroups idx activities = .ok groups ∧
      groups.toList = (groupsDom idx (activities.map fieldOf)).write := by
  induction activities generalizing idx with
  | nil => exact ⟨"", rfl, rfl⟩
  | cons activity rest ih =>
    obtain ⟨first, others⟩ := List.forall_mem_cons.mp known
    obtain ⟨groups, made, written⟩ := ih others (idx + 1)
    refine ⟨_ ++ groups, by rw [activityGroups, first.group, made]; rfl, ?_⟩
    rw [String.toList_append, written, List.map_cons, groupMarkup_write]

/-- The markup is the text of the tree of the activities. -/
theorem activityInputs_write (known : ∀ activity ∈ activities, TextActivity activity) :
    ∃ markup, activityInputs activities = .ok markup ∧
      markup.toList = (activitiesDom (activities.map fieldOf)).write := by
  obtain ⟨groups, made, written⟩ := activityGroups_write known 0
  refine ⟨"<div class=\"profile-section\">" ++ "<h2>My Activities</h2>" ++
    "<form id=\"activityForm\">" ++ groups ++ "</form></div>", by rw [activityInputs, made]; rfl, ?_⟩
  rw [activitiesDom, Dom.write_container containers_closed.1, Dom.write_container containers_closed.2.2.1,
    Dom.write_container containers_closed.2.1, Dom.write_chars, Dom.write_empty]
  simp only [String.toList_append, written, List.append_assoc, List.cons_append]
  rfl

theorem logActivity_modalBody (known : ∀ activity ∈ activities, TextActivity activity)
    (present : activities ≠ []) (userId : String) (page : Page) :
    (exec (logActivity userId (.answered true (.ok (some activities)))) page).2.modalBody.toList =
      (activitiesDom (activities.map fieldOf)).write := by
  obtain ⟨markup, made, written⟩ := activityInputs_write known
  rw [← written]
  obtain ⟨activity, rest, rfl⟩ := List.exists_cons_of_ne_nil present
  refine congrArg String.toList ?_
  rw [logActivity]
  simp only [made]
  rfl

end Markup

section Contents

open Html (Dom Tag)

variable (idx : Nat) (text : String → List Char) (texts : List (String → List Char))

theorem tags_slotsDom (some : List Slot) : (slotsDom idx text some).tags =
    some.flatMap fun slot => [labelTag, inputTag slot idx (text slot.key)] := by
  induction some with
  | nil => simp [slotsDom]
  | cons slot rest ih => simp [slotsDom, ih]

theorem tags_groupsDom_cons : (groupsDom idx (text :: texts)).tags =
    groupTag :: ((slotsDom idx text slots).tags ++ lineTag :: (groupsDom (idx + 1) texts).tags) := by
  rw [groupsDom, Dom.tags_chars, Dom.tags_element, Dom.tags_chars, Dom.tags_element, Dom.tags_empty,
    List.nil_append]

/-- A group has the inputs of its four fields. -/
theorem inputs_slotsDom : (slotsDom idx text slots).inputs.map (Tag.value "value") =
    activityKeys.map text := by
  rw [Dom.inputs, tags_slotsDom]
  rfl

theorem inputs_groupsDom : (groupsDom idx texts).inputs.map (Tag.value "value") =
    texts.flatMap fun text => activityKeys.map text := by
  induction texts generalizing idx with
  | nil => rfl
  | cons text rest ih =>
    have own := inputs_slotsDom idx text
    have later := ih (idx + 1)
    have group : ¬ groupTag.isInput = true := by decide
    have line : ¬ lineTag.isInput = true := by decide
    rw [Dom.inputs] at own later ⊢
    rw [tags_groupsDom_cons, List.filter_cons_of_neg group, List.filter_append,
      List.filter_cons_of_neg line, List.map_append, own, later, List.flatMap_cons]

theorem inputs_activitiesDom : (activitiesDom texts).inputs.map (Tag.value "value") =
    texts.flatMap fun text => activityKeys.map text := by
  rw [← inputs_groupsDom 0 texts]
  simp [activitiesDom, Dom.inputs, Tag.isInput]

theorem names_groupsDom : (groupsDom idx texts).tags.map Tag.name =
    (List.replicate texts.length groupNames).flatten.map String.toList := by
  induction texts generalizing idx with
  | nil => rfl
  | cons text rest ih =>
    rw [tags_groupsDom_cons, tags_slotsDom, List.length_cons, List.replicate_succ, List.flatten_cons,
      List.map_append, ← ih (idx + 1)]
    rfl

theorem names_activitiesDom : (activitiesDom texts).tags.map Tag.name =
    (skeleton texts.length).map String.toList := by
  have groups := names_groupsDom 0 texts
  simp [activitiesDom, skeleton, groups]

theorem siblings_groupsDom : ((groupsDom idx texts).siblings.filter isGroup).map groupValues =
    texts.map fun text => activityKeys.map text := by
  induction texts generalizing idx with
  | nil => rfl
  | cons text rest ih =>
    have group : isGroup (groupTag, slotsDom idx text slots) = true := rfl
    have line : ¬ isGroup (lineTag, .empty) = true := by decide
    have siblings : (groupsDom idx (text :: rest)).siblings =
        (groupTag, slotsDom idx text slots) :: (lineTag, .empty) ::
          (groupsDom (idx + 1) rest).siblings := by
      rw [groupsDom, Dom.siblings_chars, Dom.siblings, Dom.siblings_chars, Dom.siblings]
    rw [siblings, List.filter_cons_of_pos group, List.filter_cons_of_neg line, List.map_cons, ih,
      List.map_cons]
    exact congrArg (· :: _) (inputs_slotsDom idx text)

/-- There is no form in the groups. -/
theorem groupsDom_formless : ∀ tag ∈ (groupsDom idx texts).tags, tag.name ≠ "form".toList := by
  intro tag member isForm
  have kinds : ∀ element ∈ groupNames, element.toList ≠ "form".toList := by decide
  have listed : tag.name ∈ (groupsDom idx texts).tags.map Tag.name := List.mem_map_of_mem member
  rw [names_groupsDom] at listed
  obtain ⟨element, inGroups, isName⟩ := List.mem_map.mp listed
  obtain ⟨group, inReplicate, inGroup⟩ := List.mem_flatten.mp inGroups
  rw [List.eq_of_mem_replicate inReplicate] at inGroup
  exact kinds element inGroup (isName.trans isForm)

theorem forms_activitiesDom : (activitiesDom texts).elements.filter
    (fun element => element.1.name = "form".toList) =
      [(⟨"form".toList, [("id".toList, "activityForm".toList)]⟩, groupsDom 0 texts)] := by
  have none : (groupsDom 0 texts).elements.filter (fun element => element.1.name = "form".toList) = [] := by
    rw [List.filter_eq_nil_iff]
    intro element member isForm
    exact groupsDom_formless 0 texts element.1 (List.mem_map_of_mem member) (of_decide_eq_true isForm)
  simp only [activitiesDom, Dom.elements, Dom.elements_chars, List.nil_append, List.append_nil,
    List.filter_cons, none]
  rfl

/-- The tree is faithful to activities with its texts. -/
theorem faithful_activitiesDom {activities : List Value}
    (same : (texts.map fun text => activityKeys.map text) =
      activities.map fun activity => activityKeys.map (fieldOf activity)) :
    FaithfulForm activities (activitiesDom texts) where
  form := ⟨_, forms_activitiesDom texts, (siblings_groupsDom 0 texts).trans same⟩
  elements := by
    have lengths := congrArg List.length same
    rw [List.length_map, List.length_map] at lengths
    rw [names_activitiesDom, lengths]

theorem flatMap_keys_length (activities : List Value) :
    (activities.flatMap fun activity => activityKeys.map (fieldOf activity)).length =
      4 * activities.length := by
  induction activities with
  | nil => rfl
  | cons activity rest ih =>
    rw [List.flatMap_cons, List.length_append, ih, List.length_map, List.length_cons]
    have four : activityKeys.length = 4 := rfl
    omega

theorem skeleton_inputs (n : Nat) :
    (((skeleton n).map String.toList).filter fun name => name = "input".toList).length = 4 * n := by
  have groups : (((List.replicate n groupNames).flatten.map String.toList).filter
      fun name => name = "input".toList).length = 4 * n := by
    induction n with
    | zero => rfl
    | succ n ih =>
      have four : ((groupNames.map String.toList).filter fun name => name = "input".toList).length = 4 := rfl
      rw [List.replicate_succ, List.flatten_cons, List.map_append, List.filter_append, List.length_append,
        four, ih]
      omega
  rw [skeleton, List.map_append, List.filter_append, List.length_append, groups]
  exact Nat.zero_add _

theorem inputs_count {dom : Dom} {n : Nat} (names : dom.tags.map Tag.name = (skeleton n).map String.toList) :
    dom.inputs.length = 4 * n := by
  rw [← skeleton_inputs, ← names, List.filter_map, List.length_map]
  rfl

/-- All inputs of a faithful document stand in its groups. -/
theorem FaithfulForm.inputs {activities : List Value} {dom : Dom} (faithful : FaithfulForm activities dom) :
    dom.inputs.map (Tag.value "value") =
      activities.flatMap fun activity => activityKeys.map (fieldOf activity) := by
  obtain ⟨⟨form, isForm, groups⟩, names⟩ := faithful
  have member : form ∈ dom.elements :=
    (List.mem_filter.mp (isForm ▸ List.mem_singleton.mpr rfl : form ∈ dom.elements.filter _)).1
  have inside : ((form.2.siblings.filter isGroup).flatMap fun group => group.2.inputs).Sublist dom.inputs := by
    have tags := (Dom.siblings_sublist isGroup form.2).trans (Dom.tags_sublist_of_mem member)
    have filtered := tags.filter Tag.isInput
    rwa [List.filter_flatMap] at filtered
  have values : ((form.2.siblings.filter isGroup).flatMap fun group => group.2.inputs).map
      (Tag.value "value") = activities.flatMap fun activity => activityKeys.map (fieldOf activity) := by
    rw [List.map_flatMap, List.flatMap_def, List.flatMap_def]
    exact congrArg List.flatten groups
  -- as many inputs as there are in the whole document
  have same : ((form.2.siblings.filter isGroup).flatMap fun group => group.2.inputs) = dom.inputs := by
    refine inside.eq_of_length ?_
    rw [← List.length_map, values, inputs_count names, flatMap_keys_length]
  rw [← same, values]

end Contents

section Reading

open Html (Dom Tag Token Browser Literal)

variable {idx : Nat} {texts : List (String → List Char)}

/-- The fixed texts of an input stand for themselves. -/
def Slot.Plain (slot : Slot) : Prop :=
  Literal slot.label.toList ∧ Literal slot.type.toList ∧ Literal slot.name.toList

instance (slot : Slot) : Decidable slot.Plain := inferInstanceAs (Decidable (_ ∧ _ ∧ _))

theorem slots_plain : ∀ slot ∈ slots, slot.Plain := by decide

theorem newline_literal (n : Nat) : Literal (newline n) := by
  have two : '\n' ∉ Html.special ∧ ' ' ∉ Html.special := by decide
  refine List.forall_mem_cons.mpr ⟨two.1, fun c member => ?_⟩
  rw [List.eq_of_mem_replicate member]
  exact two.2

theorem Slot.Plain.name_literal {slot : Slot} (plain : slot.Plain) (idx : Nat) :
    Literal (slot.name.toList ++ (toString idx).toList) := by
  refine plain.2.2.append fun c member reserved => ?_
  have digit : c.isDigit = true := by
    rw [Nat.toString_eq_repr, Nat.toList_repr] at member
    exact Nat.isDigit_of_mem_toDigits (by omega) (by omega) member
  have others : Html.special.all (fun c => !c.isDigit) = true := by decide
  have other := List.all_eq_true.mp others c reserved
  rw [digit] at other
  cases other

theorem proper_slotsDom {some : List Slot} (plain : ∀ slot ∈ some, slot.Plain) (idx : Nat)
    (text : String → List Char) : (slotsDom idx text some).Proper := by
  induction some with
  | nil => exact Dom.proper_chars (newline_literal 24) trivial
  | cons slot rest ih =>
    obtain ⟨first, others⟩ := List.forall_mem_cons.mp plain
    have label : (Dom.chars slot.label.toList .empty).Proper := Dom.proper_chars first.1 trivial
    have input : (Dom.element (inputTag slot idx (text slot.key)) .empty (slotsDom idx text rest)).Proper :=
      Dom.proper_void (List.mem_map_of_mem (by simp : "input" ∈ ["hr", "input"])) (ih others)
    exact Dom.proper_chars (newline_literal 28)
      (Dom.proper_container (List.mem_map_of_mem (by simp : "label" ∈ ["div", "label"])) label
        (Dom.proper_chars (newline_literal 28) input))

theorem proper_groupsDom (idx : Nat) (texts : List (String → List Char)) : (groupsDom idx texts).Proper := by
  induction texts generalizing idx with
  | nil => trivial
  | cons text rest ih =>
    have line : (Dom.element lineTag .empty (groupsDom (idx + 1) rest)).Proper :=
      Dom.proper_void (List.mem_map_of_mem (by simp : "hr" ∈ ["hr", "input"])) (ih (idx + 1))
    exact Dom.proper_chars (newline_literal 24)
      (Dom.proper_container (List.mem_map_of_mem (by simp : "div" ∈ ["div", "label"]))
        (proper_slotsDom slots_plain idx text) (Dom.proper_chars (newline_literal 24) line))

theorem proper_activitiesDom (texts : List (String → List Char)) : (activitiesDom texts).Proper := by
  have heading : (Dom.chars "My Activities".toList .empty).Proper :=
    Dom.proper_chars (by decide) trivial
  have plain : "form".toList ∈ Html.plainNames ∧ "h2".toList ∈ Html.plainNames := by decide
  obtain ⟨_, form_closed, h2_closed, _⟩ := containers_closed
  refine Dom.proper_container (List.mem_map_of_mem (by simp : "div" ∈ ["div", "label"]))
    ⟨plain.2, fun void => absurd void h2_closed, ?_, heading, plain.1,
      fun void => absurd void form_closed, fun _ => groupsDom_formless 0 texts,
      proper_groupsDom 0 texts, trivial⟩ trivial
  intro _ inner member
  rw [Dom.tags_chars] at member
  cases member

/-- One of the inputs of the form. -/
def InputOf (texts : List (String → List Char)) (tag : Tag) : Prop :=
  ∃ slot ∈ slots, ∃ idx, ∃ text ∈ texts, tag = inputTag slot idx (text slot.key)

theorem groupsDom_tags {tag : Tag} (member : tag ∈ (groupsDom idx texts).tags) :
    tag.Clean ∨ InputOf texts tag := by
  induction texts generalizing idx with
  | nil => cases member
  | cons text rest ih =>
    have fixed : groupTag.Clean ∧ labelTag.Clean ∧ lineTag.Clean := by decide
    rw [tags_groupsDom_cons, tags_slotsDom, List.mem_cons, List.mem_append, List.mem_cons,
      List.mem_flatMap] at member
    rcases member with rfl | ⟨slot, listed, own⟩ | rfl | later
    · exact .inl fixed.1
    · rcases List.mem_cons.mp own with rfl | isInput
      · exact .inl fixed.2.1
      · exact .inr ⟨slot, listed, idx, text, List.mem_cons_self, List.mem_singleton.mp isInput⟩
    · exact .inl fixed.2.2
    · refine (ih later).imp id ?_
      rintro ⟨slot, listed, idx, text, inRest, isTag⟩
      exact ⟨slot, listed, idx, text, List.mem_cons_of_mem _ inRest, isTag⟩

/-- A tag of the form is always clean, or is one of the inputs. -/
theorem activitiesDom_tags {tag : Tag} (member : tag ∈ (activitiesDom texts).tags) :
    tag.Clean ∨ InputOf texts tag := by
  have fixed : Tag.Clean ⟨"div".toList, [("class".toList, "profile-section".toList)]⟩ ∧
      Tag.Clean ⟨"h2".toList, []⟩ ∧ Tag.Clean ⟨"form".toList, [("id".toList, "activityForm".toList)]⟩ := by
    decide
  simp only [activitiesDom, Dom.tags_element, Dom.tags_chars, Dom.tags_empty, List.nil_append,
    List.append_nil, List.mem_cons] at member
  rcases member with rfl | rfl | rfl | inGroups
  · exact .inl fixed.1
  · exact .inl fixed.2.1
  · exact .inl fixed.2.2
  · exact groupsDom_tags inGroups

theorem clean_openTag {slot : Slot} (listed : slot ∈ slots) (idx : Nat) : (openTag slot idx).Clean where
  name := (by decide : Html.CleanName "input".toList)
  names := List.forall_mem_cons.mpr ⟨(by decide : Html.CleanName "type".toList),
    List.forall_mem_singleton.mpr (by decide : Html.CleanName "name".toList)⟩
  values := by
    have plain := slots_plain slot listed
    exact List.forall_mem_cons.mpr ⟨plain.2.1.unquoted,
      List.forall_mem_singleton.mpr (plain.name_literal idx).unquoted⟩
  distinct := (by decide : ["type".toList, "name".toList].Nodup)

theorem value_clean : Html.CleanName "value".toList := by decide

theorem value_fresh (slot : Slot) (idx : Nat) :
    "value".toList ∉ (openTag slot idx).attributes.map Prod.fst :=
  (by decide : "value".toList ∉ ["type".toList, "name".toList])

theorem clean_inputTag {slot : Slot} (listed : slot ∈ slots) (idx : Nat) {value : List Char}
    (unquoted : '"' ∉ value) : (inputTag slot idx value).Clean :=
  (clean_openTag listed idx).extend value_clean (value_fresh slot idx) unquoted

/-- The tags are clean when no field has a quote. -/
theorem clean_activitiesDom (unquoted : ∀ text ∈ texts, ∀ key ∈ activityKeys, '"' ∉ text key) :
    ∀ tag ∈ (activitiesDom texts).tags, tag.Clean := by
  intro tag member
  rcases activitiesDom_tags member with clean | ⟨slot, isSlot, idx, text, listed, rfl⟩
  · exact clean
  · exact clean_inputTag isSlot idx (unquoted text listed slot.key (List.mem_map_of_mem isSlot))

/-- The texts as a browser decodes them. -/
def decoded (browser : Browser) (texts : List (String → List Char)) : List (String → List Char) :=
  texts.map fun text key => browser.decode (text key)

theorem mapValues_slotsDom (browser : Browser) {some : List Slot} (plain : ∀ slot ∈ some, slot.Plain)
    (idx : Nat) (text : String → List Char) :
    (slotsDom idx text some).mapValues browser.decode =
      slotsDom idx (fun key => browser.decode (text key)) some := by
  induction some with
  | nil => exact Dom.mapValues_chars _ _ _
  | cons slot rest ih =>
    obtain ⟨first, others⟩ := List.forall_mem_cons.mp plain
    have isTag : (inputTag slot idx (text slot.key)).mapValues browser.decode =
        inputTag slot idx (browser.decode (text slot.key)) := by
      refine congrArg (Tag.mk _) ?_
      rw [inputTag_attributes, List.map_cons, List.map_cons, List.map_singleton, first.2.1.decode browser,
        (first.name_literal idx).decode browser]
      rfl
    simp only [slotsDom, Dom.mapValues_chars, Dom.mapValues, isTag, ih others]
    rfl

theorem mapValues_groupsDom (browser : Browser) (idx : Nat) (texts : List (String → List Char)) :
    (groupsDom idx texts).mapValues browser.decode = groupsDom idx (decoded browser texts) := by
  induction texts generalizing idx with
  | nil => rfl
  | cons text rest ih =>
    have literal : Literal "activity-input-group".toList := by decide
    have isTag : groupTag.mapValues browser.decode = groupTag := by
      refine congrArg (fun value => Tag.mk _ [("class".toList, value)]) ?_
      exact literal.decode browser
    simp only [groupsDom, decoded, List.map_cons, Dom.mapValues_chars, Dom.mapValues, isTag,
      mapValues_slotsDom browser slots_plain, ih]
    rfl

/-- A browser sees the tree of the activities with its values decoded. -/
theorem mapValues_activitiesDom (browser : Browser) (texts : List (String → List Char)) :
    (activitiesDom texts).mapValues browser.decode = activitiesDom (decoded browser texts) := by
  have fixed : Literal "profile-section".toList ∧ Literal "activityForm".toList := by decide
  simp only [activitiesDom, Dom.mapValues, Dom.mapValues_chars, Tag.mapValues, List.map_cons, List.map_nil,
    fixed.1.decode browser, fixed.2.decode browser, mapValues_groupsDom]

variable (browser : Browser) {activities : List Value}

/-- Without quotes the form is built, and its values are decoded. -/
theorem parse_unquoted (unquoted : ∀ text ∈ texts, ∀ key ∈ activityKeys, '"' ∉ text key) :
    browser.parse (activitiesDom texts).write = activitiesDom (decoded browser texts) := by
  rw [← mapValues_activitiesDom]
  exact browser.parse_tree _ _ (proper_activitiesDom texts)
    ((proper_activitiesDom texts).tokens_write (clean_activitiesDom unquoted))

/-- The first of the attributes that are called `value` counts. -/
theorem value_whole {slot : Slot} {value : List Char} {whole : Tag}
    (most : (openTag slot idx).attributes ++ [("value".toList, value)] <+: whole.attributes)
    (f : List Char → List Char) : (whole.mapValues f).value "value" = f value := by
  obtain ⟨more, isWhole⟩ := most
  rw [Tag.value, Tag.mapValues, ← isWhole]
  rfl

/-- A clean form has no quote in any of its fields. -/
theorem unquoted_of_clean (clean : ∀ token ∈ (activitiesDom texts).tokens, token.Clean) :
    ∀ text ∈ texts, ∀ key ∈ activityKeys, '"' ∉ text key := by
  intro text listed key isKey
  have shown : text key ∈ (activitiesDom texts).inputs.map (Tag.value "value") := by
    rw [inputs_activitiesDom]
    exact List.mem_flatMap.mpr ⟨text, listed, List.mem_map_of_mem isKey⟩
  obtain ⟨tag, isInput, isValue⟩ := List.mem_map.mp shown
  have inTags := (List.mem_filter.mp isInput).1
  rw [← Dom.opened_tokens] at inTags
  obtain ⟨token, member, opened⟩ := List.mem_filterMap.mp inTags
  cases token with
  | startTag tag' =>
    cases Option.some.inj opened
    rw [← isValue]
    exact Tag.Clean.value_unquoted (clean _ member) "value"
  | char c => cases opened
  | endTag name => cases opened
  | other => cases opened

/-- What a tokenizer makes of a text from an input on whose value it cuts short: the tokens before
it, and perhaps the input with the start of its value. -/
def Cut (slot : Slot) (idx : Nat) (start : List Char) (before : List Token) (found : List Token) : Prop :=
  found = before ∨ ∃ whole others, found = before ++ .startTag whole :: others ∧
    whole.name = "input".toList ∧
    (openTag slot idx).attributes ++ [("value".toList, start)] <+: whole.attributes

/-- The first input with a quote in its value is read with a shorter value, or never. -/
theorem tokens_quoted {slot : Slot} (listed : slot ∈ slots) (idx : Nat) {value : List Char}
    (quoted : '"' ∈ value) {before : List Token} (clean : ∀ token ∈ before, token.Clean)
    (after : List Token) : ∃ start : List Char, start.length < value.length ∧ Cut slot idx start before
      (Html.tokens ((before ++ .startTag (inputTag slot idx value) :: after).flatMap Token.write)) := by
  obtain ⟨start, rest, isValue, unquoted⟩ := List.eq_append_cons_of_mem quoted
  have read := Html.tokens_attribute clean (clean_openTag listed idx) value_clean (value_fresh slot idx)
    unquoted (rest ++ ('"' :: ' ' :: '/' :: '>' :: after.flatMap Token.write))
  have isText : (before ++ .startTag (inputTag slot idx value) :: after).flatMap Token.write =
      before.flatMap Token.write ++ ('<' :: (openTag slot idx).name ++
        (openTag slot idx).attributes.flatMap Html.writeAttribute ++
        (Html.writeAttribute ("value".toList, start) ++
          (rest ++ ('"' :: ' ' :: '/' :: '>' :: after.flatMap Token.write)))) := by
    rw [List.flatMap_append, List.flatMap_cons]
    simp only [Token.write, Tag.write, inputTag_name, inputTag_attributes, openTag, isValue, if_pos voids_open.2,
      Html.writeAttribute, List.flatMap_cons, List.flatMap_nil, List.append_assoc, List.cons_append,
      List.nil_append, List.append_nil]
  refine ⟨start, by rw [isValue]; simp, ?_⟩
  rw [isText]
  exact read

/-- A browser that reads the start of a value only, or not even the tag, shows other values. -/
theorem inputs_cut {slot : Slot} {before : List Token} {markup start value : List Char}
    (plain : ∀ token ∈ before, token.Plain) (shorter : start.length < value.length)
    (cut : Cut slot idx start before (Html.tokens markup)) (others : List (List Char)) :
    (browser.parse markup).inputs.map (Tag.value "value") ≠
      (Html.inputTags before).map (Tag.value "value") ++ value :: others := by
  intro shown
  rcases cut with dropped | ⟨whole, behind, closed, isInput, most⟩
  · -- the tag is never closed, so there are too few inputs
    obtain ⟨more, isInputs, none⟩ :=
      browser.parse_inputs markup before [] (dropped.trans (List.append_nil _).symm) plain
    rw [isInputs, none rfl, List.append_nil] at shown
    have lengths := congrArg List.length shown
    simp only [List.length_map, List.length_append, List.length_cons] at lengths
    omega
  · -- the tag is closed later on, and its value ends at the quote
    have known : ∀ token ∈ before ++ [.startTag whole], token.Plain := by
      have listed : "input".toList ∈ Html.plainNames := by decide
      refine List.forall_mem_append.mpr ⟨plain, List.forall_mem_singleton.mpr ?_⟩
      change whole.name ∈ Html.plainNames
      rwa [isInput]
    obtain ⟨more, isInputs, _⟩ := browser.parse_inputs markup (before ++ [.startTag whole]) behind
      (by rw [closed, List.append_assoc]; rfl) known
    have last : Html.inputTags [.startTag whole] = [whole] := by
      simp [Html.inputTags, Token.opened, Tag.isInput, isInput]
    rw [isInputs, Html.inputTags_append, last, List.map_append, List.map_append, List.map_append,
      List.append_assoc] at shown
    have heads := (List.append_inj shown (by rw [List.length_map, List.length_map, List.length_map])).2
    have isStart : browser.decode start = value := by
      rw [← value_whole most browser.decode]
      exact List.head_eq_of_cons_eq heads
    have length := browser.decode_length start
    rw [isStart] at length
    omega

/-- A quote in a field cuts the value of its input short, or the form ends before this input. -/
theorem not_faithful_quoted (quoted : ¬ ∀ text ∈ texts, ∀ key ∈ activityKeys, '"' ∉ text key)
    (same : (texts.flatMap fun text => activityKeys.map text) =
      activities.flatMap fun activity => activityKeys.map (fieldOf activity)) :
    ¬ FaithfulForm activities (browser.parse (activitiesDom texts).write) := by
  intro faithful
  have proper := proper_activitiesDom texts
  have shown := faithful.inputs
  rw [← same, ← inputs_activitiesDom, ← (activitiesDom texts).inputTags_tokens] at shown
  rcases Html.clean_or_first (activitiesDom texts).tokens with clean |
    ⟨before, token, after, split, clean, unclean⟩
  · exact quoted (unquoted_of_clean clean)
  · have member : token ∈ (activitiesDom texts).tokens := by
      rw [split]
      exact List.mem_append_right _ List.mem_cons_self
    obtain isClean | ⟨tag, inTags, rfl⟩ := (proper.token member).2
    · exact unclean isClean
    obtain isClean | ⟨slot, listed, idx, text, _, rfl⟩ := activitiesDom_tags inTags
    · exact unclean isClean
    have quotedHere : '"' ∈ text slot.key := by
      by_contra unquoted
      exact unclean (clean_inputTag listed idx unquoted)
    have plain : ∀ token ∈ before, token.Plain := by
      intro token inBefore
      refine (proper.token ?_).1
      rw [split]
      exact List.mem_append_left _ inBefore
    obtain ⟨start, shorter, cut⟩ := tokens_quoted listed idx quotedHere clean after
    refine inputs_cut browser plain shorter cut ((Html.inputTags after).map (Tag.value "value")) ?_
    rw [Dom.write, split, Html.inputTags_append, List.map_append] at shown
    exact shown

/-- The decoded form is faithful when decoding changes no field. -/
theorem faithful_decoded_iff (browser : Browser) (activities : List Value) :
    FaithfulForm activities (activitiesDom (decoded browser (activities.map fieldOf))) ↔
      ∀ activity ∈ activities, ∀ key ∈ activityKeys,
        browser.decode (fieldOf activity key) = fieldOf activity key := by
  constructor
  · intro faithful activity member key isKey
    have fields : (activities.flatMap fun activity => activityKeys.map (fieldOf activity)).map
        browser.decode = (activities.flatMap fun activity => activityKeys.map (fieldOf activity)).map id := by
      calc
        _ = (decoded browser (activities.map fieldOf)).flatMap fun text => activityKeys.map text := by
          rw [decoded, List.map_map, List.flatMap_map, List.map_flatMap]
          simp only [List.map_map]
          rfl
        _ = (activitiesDom (decoded browser (activities.map fieldOf))).inputs.map (Tag.value "value") :=
          (inputs_activitiesDom _).symm
        _ = activities.flatMap fun activity => activityKeys.map (fieldOf activity) := faithful.inputs
        _ = _ := (List.map_id _).symm
    exact List.map_inj_left.mp fields _
      (List.mem_flatMap.mpr ⟨activity, member, List.mem_map_of_mem isKey⟩)
  · intro same
    refine faithful_activitiesDom _ ?_
    rw [decoded, List.map_map, List.map_map]
    refine List.map_congr_left fun activity member => ?_
    exact List.map_congr_left fun key isKey => same activity member key isKey

end Reading

/-- The dialog shows the activities as they are when no field has a quote and no field is changed
by the decoding of attributes, and never otherwise. -/
theorem shown_faithfully_iff (browser : Html.Browser) (userId : String) (activities : List Value)
    (page : Page) (present : activities ≠ []) (known : ∀ activity ∈ activities, TextActivity activity) :
    ShownFaithfully browser userId activities page ↔
      ∀ activity ∈ activities, ∀ key ∈ activityKeys, '"' ∉ fieldOf activity key ∧
        browser.decode (fieldOf activity key) = fieldOf activity key := by
  rw [ShownFaithfully, logActivity_modalBody known present]
  by_cases unquoted : ∀ text ∈ activities.map fieldOf, ∀ key ∈ activityKeys, '"' ∉ text key
  · rw [parse_unquoted browser unquoted, faithful_decoded_iff]
    constructor
    · intro same activity member key isKey
      exact ⟨unquoted _ (List.mem_map_of_mem member) key isKey, same activity member key isKey⟩
    · intro condition activity member key isKey
      exact (condition activity member key isKey).2
  · refine iff_of_false (not_faithful_quoted browser unquoted (by rw [List.flatMap_map])) ?_
    intro condition
    refine unquoted fun text listed key isKey => ?_
    obtain ⟨activity, member, rfl⟩ := List.mem_map.mp listed
    exact (condition activity member key isKey).1

section Samples

/-- An attendance with the response of the member. -/
def responded (response : String) : Value :=
  .obj [("ACTIVITYTYPE", .str "Attendance"), ("DATE", .str "2024-01-07"), ("TIME", .str "09:30:00"),
    ("RESPONSE", .str response), ("PERFORMER", .null)]

theorem responded_text (response : String) : TextActivity (responded response) := by
  refine ⟨_, rfl, fun key listed => .inl ?_⟩
  simp only [activityKeys, List.mem_cons, List.not_mem_nil, or_false] at listed
  rcases listed with rfl | rfl | rfl | rfl
  · exact ⟨"Attendance", rfl⟩
  · exact ⟨"2024-01-07", rfl⟩
  · exact ⟨"09:30:00", rfl⟩
  · exact ⟨response, rfl⟩

/-- A response that closes its attribute is not shown. -/
theorem quoting_response_lost :
    TextActivity (responded "\" onfocus=\"alert(1)") ∧
      ¬ ShownFaithfully Html.plainBrowser "u1" [responded "\" onfocus=\"alert(1)"] {} := by
  refine ⟨responded_text _, ?_⟩
  have known : ∀ activity ∈ [responded "\" onfocus=\"alert(1)"], TextActivity activity :=
    List.forall_mem_singleton.mpr (responded_text _)
  have quoted : '"' ∈ fieldOf (responded "\" onfocus=\"alert(1)") "RESPONSE" := by decide +kernel
  rw [ShownFaithfully, logActivity_modalBody known (List.cons_ne_nil _ _)]
  refine not_faithful_quoted Html.plainBrowser (fun unquoted => ?_) (by rw [List.flatMap_map])
  exact unquoted _ (List.mem_map_of_mem (List.mem_singleton.mpr rfl)) "RESPONSE" (by decide +kernel) quoted

/-- A response without quotes is shown as it is. -/
theorem plain_response_shown :
    ShownFaithfully Html.plainBrowser "u1" [responded "present", responded "<b>late</b> & waiting"] {} := by
  refine (shown_faithfully_iff Html.plainBrowser "u1" _ {} (by simp) ?_).mpr ?_
  · intro activity member
    rcases List.mem_cons.mp member with rfl | last
    · exact responded_text _
    · rw [List.mem_singleton.mp last]
      exact responded_text _
  · intro activity member key isKey
    refine ⟨?_, rfl⟩
    revert key
    rcases List.mem_cons.mp member with rfl | last
    · decide +kernel
    · rw [List.mem_singleton.mp last]
      decide +kernel

end Samples

end ChurchManagement
