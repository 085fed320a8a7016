import ChurchManagement.Effect
import ChurchManagement.Js.Value

namespace ChurchManagement

open Js Effect

/-- What a visitor sees of the page: the alerts so far, the contents of the element
`modal-activity-content`, and how the dialog around it is displayed. -/
structure Page where
  alerts : List String := []
  modalBody : String := ""
  display : String := ""
  deriving DecidableEq, Repr

/-- What the request for the activities of a member brings: an exception, or an answer whose body
may be no JSON and whose `activities` are a list where it has them. -/
inductive Fetched
  | rejected (error : String)
  | answered (ok : Bool) (json : Except String (Option (List Value)))

def alert (text : String) : Prog String Page Unit :=
  modify fun page => { page with alerts := page.alerts ++ [text] }

/-- The text that the template puts into an attribute: `activity[key] || ""`. -/
def activityField (activity : Value) (key : String) : Except String String := do
  let value ← activity.prop key
  match (value.orElse (.str "")).toText with
  | some text => .ok text
  | none => .error "TypeError: Cannot convert object to primitive value"

/-- The start of a line of the template. -/
def indent (n : Nat) : String := "\n" ++ String.ofList (List.replicate n ' ')

/-- A label and an input of the template. -/
def labelledInput (label type name : String) (idx : Nat) (value : String) : String :=
  indent 28 ++ "<label>" ++ label ++ "</label>" ++ indent 28 ++ "<input type=\"" ++ type ++
    "\" name=\"" ++ name ++ toString idx ++ "\" value=\"" ++ value ++ "\" />"

/-- The template of a group. -/
def groupMarkup (idx : Nat) (activityType date time response : String) : String :=
  indent 24 ++ "<div class=\"activity-input-group\">" ++
    labelledInput "Activity Type" "text" "activityType" idx activityType ++
    labelledInput "Date" "date" "activityDate" idx date ++
    labelledInput "Time" "time" "activityTime" idx time ++
    labelledInput "Response" "text" "activityResponse" idx response ++
    indent 24 ++ "</div>" ++ indent 24 ++ "<hr />"

def activityGroup (idx : Nat) (activity : Value) : Except String String := do
  let activityType ← activityField activity "ACTIVITYTYPE"
  let date ← activityField activity "DATE"
  let time ← activityField activity "TIME"
  let response ← activityField activity "RESPONSE"
  return groupMarkup idx activityType date time response

/-- The groups that `forEach` appends, from an index on. -/
def activityGroups (idx : Nat) : List Value → Except String String
  | [] => .ok ""
  | activity :: rest => do
    let group ← activityGroup idx activity
    let others ← activityGroups (idx + 1) rest
    return group ++ others

def activityInputs (activities : List Value) : Except String String := do
  let groups ← activityGroups 0 activities
  return "<div class=\"profile-section\">" ++ "<h2>My Activities</h2>" ++
    "<form id=\"activityForm\">" ++ groups ++ "</form></div>"

/-- Shows the activities of a member in a dialog. Every exception ends in an alert. -/
def logActivity (userId : String) (fetched : Fetched) : Prog String Page Unit := do
  alert ("Log activity for user ID: " ++ userId)
  attempt (do
    match fetched with
    | .rejected error => throw error
    | .answered ok json =>
      if !ok then throw "Error: User not found."
      match json with
      | .error error => throw error
      | .ok (some (activity :: rest)) =>
        match activityInputs (activity :: rest) with
        | .error error => throw error
        | .ok markup => modify fun page => { page with modalBody := markup }
      | .ok _ =>
        modify fun page => { page with modalBody :=
          "<div class=\"profile-section\"><h2>My Activities</h2><p>You have no recorded activities yet.</p></div>" }
      modify fun page => { page with display := "block" })
    fun _ => alert "An error occurred while fetching user data."

end ChurchManagement
