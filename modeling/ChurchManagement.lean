import ChurchManagement.Access
import ChurchManagement.Identity
import ChurchManagement.UserTable
import ChurchManagement.Logout
import ChurchManagement.LoginRecords
import ChurchManagement.Visitor
import ChurchManagement.Answers
import ChurchManagement.Rejections
import ChurchManagement.RegisterRace
import ChurchManagement.Privileges
import ChurchManagement.Subscriptions
import ChurchManagement.AgentToken
import ChurchManagement.Redirects
import ChurchManagement.Continuity
import ChurchManagement.Attendance
import ChurchManagement.Denials
import ChurchManagement.ExcelUpload
import ChurchManagement.MemberLogin
import ChurchManagement.ActivityOrder
import ChurchManagement.FallThrough
import ChurchManagement.Lockout
import ChurchManagement.LockoutRace
import ChurchManagement.ActivityMarkup
import ChurchManagement.BookKeeping
import ChurchManagement.Onlookers
import ChurchManagement.SingleAnswer
import ChurchManagement.MemberRace
import ChurchManagement.Journey
import ChurchManagement.ActivityDialog
import ChurchManagement.PushRecords
import ChurchManagement.LoginRace
