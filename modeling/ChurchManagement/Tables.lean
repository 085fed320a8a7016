import ChurchManagement.Sequelize

namespace ChurchManagement

open Js Sequelize

/-- The columns of the table `User`. -/
inductive UserColumn
  | DATE
  | NAME
  | SEX
  | ADDRESS
  | FOLLOWUP
  | CAT
  | PHONENUMBER
  | PRAYER
  | EMAIL
  | CREATOR
  | UNIT
  | ACTIVITYCOUNT
  | ATTENDANCECOUNT
  | LASTATTENDANCEDATE
  deriving DecidableEq, Repr

instance : Model UserColumn where
  columns := [.DATE, .NAME, .SEX, .ADDRESS, .FOLLOWUP, .CAT, .PHONENUMBER, .PRAYER, .EMAIL,
    .CREATOR, .UNIT, .ACTIVITYCOUNT, .ATTENDANCECOUNT, .LASTATTENDANCEDATE]
  declared
    | .DATE => { name := "DATE", type := .dateonly, allowNull := false }
    | .NAME => { name := "NAME", type := .string, allowNull := false }
    | .SEX => { name := "SEX", type := .string }
    | .ADDRESS => { name := "ADDRESS", type := .string }
    | .FOLLOWUP => { name := "FOLLOWUP", type := .string }
    | .CAT => { name := "CAT", type := .string }
    | .PHONENUMBER => { name := "PHONENUMBER", type := .string }
    | .PRAYER => { name := "PRAYER", type := .text }
    | .EMAIL => { name := "EMAIL", type := .string }
    | .CREATOR => { name := "CREATOR", type := .string }
    | .UNIT => { name := "UNIT", type := .string }
    | .ACTIVITYCOUNT => { name := "ACTIVITYCOUNT", type := .integer }
    | .ATTENDANCECOUNT => { name := "ATTENDANCECOUNT", type := .integer }
    | .LASTATTENDANCEDATE => { name := "LASTATTENDANCEDATE", type := .date }
  complete col := by cases col <;> decide

abbrev User := Row UserColumn

inductive ActivityColumn
  | USERID
  | ACTIVITYTYPE
  | DATE
  | TIME
  | RESPONSE
  | PERFORMER
  deriving DecidableEq, Repr

instance : Model ActivityColumn where
  columns := [.USERID, .ACTIVITYTYPE, .DATE, .TIME, .RESPONSE, .PERFORMER]
  declared
    | .USERID => { name := "USERID", type := .uuid }
    | .ACTIVITYTYPE => { name := "ACTIVITYTYPE", type := .string }
    | .DATE => { name := "DATE", type := .dateonly }
    | .TIME => { name := "TIME", type := .time }
    | .RESPONSE => { name := "RESPONSE", type := .text }
    | .PERFORMER => { name := "PERFORMER", type := .string }
  complete col := by cases col <;> decide

abbrev Activity := Row ActivityColumn

inductive UserAgentColumn
  | USERID
  | IPADDRESS
  | USERAGENT
  | LASTACTIVITY
  | ISACTIVE
  | FAILEDCOUNT
  | LOCATION
  | ROLE
  deriving DecidableEq, Repr

instance : Model UserAgentColumn where
  columns := [.USERID, .IPADDRESS, .USERAGENT, .LASTACTIVITY, .ISACTIVE, .FAILEDCOUNT,
    .LOCATION, .ROLE]
  declared
    | .USERID => { name := "USERID", type := .uuid }
    | .IPADDRESS => { name := "IPADDRESS", type := .string, allowNull := false }
    | .USERAGENT => { name := "USERAGENT", type := .string, allowNull := false }
    | .LASTACTIVITY => { name := "LASTACTIVITY", type := .date }
    | .ISACTIVE =>
      { name := "ISACTIVE", type := .boolean, allowNull := false, defaultValue := .bool false }
    | .FAILEDCOUNT =>
      { name := "FAILEDCOUNT", type := .integer, allowNull := false, defaultValue := .num .zero }
    | .LOCATION => { name := "LOCATION", type := .json }
    | .ROLE => { name := "ROLE", type := .string }
  complete col := by cases col <;> decide

abbrev UserAgent := Row UserAgentColumn

inductive SubscriptionColumn
  | USERID
  | ip
  | EMAIL
  | ENDPOINT
  | KEYS
  | EXPIRATIONTIME
  | ISACTIVE
  deriving DecidableEq, Repr

instance : Model SubscriptionColumn where
  columns := [.USERID, .ip, .EMAIL, .ENDPOINT, .KEYS, .EXPIRATIONTIME, .ISACTIVE]
  declared
    | .USERID => { name := "USERID", type := .uuid }
    | .ip => { name := "ip", type := .string }
    | .EMAIL => { name := "EMAIL", type := .string }
    | .ENDPOINT => { name := "ENDPOINT", type := .string, allowNull := false }
    | .KEYS => { name := "KEYS", type := .json, allowNull := false }
    | .EXPIRATIONTIME => { name := "EXPIRATIONTIME", type := .date }
    | .ISACTIVE =>
      { name := "ISACTIVE", type := .boolean, allowNull := false, defaultValue := .bool true }
  complete col := by cases col <;> decide

abbrev NotificationSubscription := Row SubscriptionColumn

/-- The tables, as the name of a failing database call tells them apart. -/
inductive TableName
  | User
  | Activity
  | UserAgent
  | NotificationSubscription
  deriving DecidableEq, Repr

inductive DbOp
  | findOne
  | findByPk
  | findAll
  | count
  | create
  | update
  | destroy
  | bulkCreate
  deriving DecidableEq, Repr

end ChurchManagement
