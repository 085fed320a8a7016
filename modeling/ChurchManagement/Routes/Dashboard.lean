import ChurchManagement.Js.Json
import ChurchManagement.Server

namespace ChurchManagement

open Js Effect Sequelize

def excelSchema : Joi.Schema :=
  [("DATE", { kind := .date }), ("NAME", { required := true }),
    ("SEX", { valid := some ["M", "F"], required := true }), ("ADDRESS", { allowEmpty := true }),
    ("FOLLOWUP", { allowEmpty := true }),
    ("CAT", { valid := some ["NC", "FT", "OLD MEMBER"], required := true }),
    ("PHONENUMBER", { required := true }), ("PRAYER", { allowEmpty := true }),
    ("EMAIL", { email := true, allowEmpty := true }), ("CREATOR", { allowEmpty := true }),
    ("UNIT", { allowEmpty := true })]

/-- One worksheet row as an object from header to cell value. -/
def rowData (headers : List Value) : List Value → List (String × Value) → List (String × Value)
  | [], fields => fields
  | cell :: cells, fields =>
    let header := headers.headD .undefined
    rowData headers.tail cells (Json.insertField (header.toText.getD "") cell fields)

/-- The rows after the header that hold a value, as objects. -/
def worksheetData : List (List Value) → List Value
  | [] => []
  | headers :: rows =>
    (rows.filter fun row => row.any (· != .null)).map fun row => .obj (rowData headers row [])

section

variable (p : Platform)

def getUserActivities (req : Request) (userId : String) : Act Unit :=
  attempt (do
    let cond ← whereColumn p (.str userId)
    db req .Activity .findAll
    let userActivities := orderDesc [ActivityColumn.DATE, .TIME]
      ((← get).server.activities.rows.filter fun row => cond (row.get .USERID))
    respond (.send 200 (.obj [("activities", .arr (userActivities.map Row.toJSON))])))
  fun _ => respond (.send 500 (.str "An error occurred while fetching user information."))

/-- `renderDashboard(res)` reads `req`, which is not among its parameters, so its catch always
answers. -/
def getDashboard (req : Request) : Act Unit :=
  attempt (do
    db req .User .findAll
    db req .Activity .findAll
    undeclared "req")
  fun _ => respond (.send 500 (.str "An error occurred while fetching data."))

/-- `User.bulkCreate(value)`: all rows are created, or none. -/
def bulkCreate (ids : Nat → String) : Nat → List Value → Table UserColumn →
    Option (Table UserColumn)
  | _, [], users => some users
  | n, value :: rest, users => do
    let fields := match value with
      | .obj fields => fields
      | _ => []
    bulkCreate ids (n + 1) rest (← users.insert (← create p.toOrm (ids n) fields))

/-- `renderIndex` is defined nowhere, so every way through the handler ends in an exception. -/
def postUploadExcel (req : Request) : Act Unit :=
  attempt (do
    match req.worksheet with
    | none => undeclared "renderIndex"
    | some rows =>
      let checked := p.validate excelSchema (.arr (worksheetData rows))
      if checked.error.isSome then undeclared "renderIndex"
      else
        let values := match checked.value with
          | .arr items => items
          | _ => []
        db req .User .bulkCreate
        let users ← orThrow "SequelizeValidationError"
          (bulkCreate p req.rowId 0 values (← get).server.users)
        setServer fun s => { s with users := users }
        undeclared "renderIndex")
  fun _ => undeclared "renderIndex"

/-- `Op` is not imported. -/
def getMemberStatistics (req : Request) : Act Unit :=
  attempt (do
    db req .User .count
    undeclared "Op")
  fun _ => respond (.send 500 (.str "Internal Server Error"))

/-- The mail function handles its own errors. -/
def postEvents : Act Unit :=
  respond (.send 201 (.obj [("error_msg", .str "error sending notification")]))

/-- The two search routes call `User.find`, which does not exist, and their catch assigns to an
undeclared name. -/
def searchMembers : Act Unit :=
  attempt (throw "TypeError: User.find is not a function") fun _ => undeclared "error_msg"

def getSearchMembers : Act Unit := searchMembers

def getAdvancedSearchMembers : Act Unit := searchMembers

/-- `findUsersByUnit` is not imported. -/
def getUnit : Act Unit :=
  attempt (undeclared "findUsersByUnit") fun _ => respond (.send 500 (.str "Internal Server Error"))

theorem keeps_getUserActivities (req : Request) (userId : String) :
    Keeps (Same Ctx.core) (getUserActivities p req userId) :=
  keeps_attempt (keeps_bind (keeps_whereColumn _ _ _) fun _ => keeps_bind (keeps_db _ _ _ _) fun _ =>
    keeps_bind keeps_get fun _ => keeps_respond _) fun _ => keeps_respond _

theorem keeps_getDashboard (req : Request) : Keeps (Same Ctx.core) (getDashboard req) :=
  keeps_attempt (keeps_bind (keeps_db _ _ _ _) fun _ => keeps_bind (keeps_db _ _ _ _) fun _ =>
    keeps_undeclared _ _) fun _ => keeps_respond _

/-- The schema is for one row and is given the array of all rows, so the check always fails and
no user is created. -/
theorem keeps_postUploadExcel (req : Request) : Keeps (Same Ctx.core) (postUploadExcel p req) := by
  refine keeps_attempt ?_ fun _ => keeps_undeclared _ _
  split
  · exact keeps_undeclared _ _
  · rename_i rows _
    have failed := Option.isSome_iff_ne_none.mpr
      (p.validate_array excelSchema (worksheetData rows))
    simp only [failed, if_true]
    exact keeps_undeclared _ _

theorem keeps_getMemberStatistics (req : Request) :
    Keeps (Same Ctx.core) (getMemberStatistics req) :=
  keeps_attempt (keeps_bind (keeps_db _ _ _ _) fun _ => keeps_undeclared _ _) fun _ =>
    keeps_respond _

theorem keeps_searchMembers : Keeps (Same Ctx.core) searchMembers :=
  keeps_attempt (keeps_throw _) fun _ => keeps_undeclared _ _

theorem keeps_getUnit : Keeps (Same Ctx.core) getUnit :=
  keeps_attempt (keeps_undeclared _ _) fun _ => keeps_respond _

end

end ChurchManagement
