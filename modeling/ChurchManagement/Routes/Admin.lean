import ChurchManagement.Server

namespace ChurchManagement

open Js Effect Sequelize

section

variable (p : Platform)

/-- The ending of the admin pages when a query fails. -/
def adminError (msg page : String) : Act Unit := do
  flash "error_msg" (.str msg)
  redirect page

def getAdminDashboard (req : Request) : Act Unit :=
  attempt (do
    db req .User .findAll
    db req .Activity .findAll
    let server := (← get).server
    render "admin/dashboard" [("users", .arr (server.users.rows.map Row.toJSON)),
      ("activities", .arr (server.activities.rows.map Row.toJSON)),
      ("agent", p.query req.url "agent")])
  fun _ => adminError "Error loading admin dashboard" "/admin/login"

def getAdminUsers (req : Request) : Act Unit :=
  attempt (do
    db req .User .findAll
    render "admin/users" [("users", .arr ((← get).server.users.rows.map Row.toJSON))])
  fun _ => adminError "Error loading users" "/admin/dashboard"

def getAdminActivities (req : Request) : Act Unit :=
  attempt (do
    db req .Activity .findAll
    render "admin/activities" [("activities", .arr ((← get).server.activities.rows.map Row.toJSON))])
  fun _ => adminError "Error loading activities" "/admin/dashboard"

theorem keeps_adminError (msg page : String) : Keeps (Same Ctx.core) (adminError msg page) :=
  keeps_bind (keeps_flash _ _) fun _ => keeps_redirect _

theorem keeps_getAdminDashboard (req : Request) :
    Keeps (Same Ctx.core) (getAdminDashboard p req) :=
  keeps_attempt (keeps_bind (keeps_db _ _ _ _) fun _ => keeps_bind (keeps_db _ _ _ _) fun _ =>
    keeps_bind keeps_get fun _ => keeps_render _ _) fun _ => keeps_adminError _ _

theorem keeps_getAdminUsers (req : Request) : Keeps (Same Ctx.core) (getAdminUsers req) :=
  keeps_attempt (keeps_bind (keeps_db _ _ _ _) fun _ => keeps_bind keeps_get fun _ =>
    keeps_render _ _) fun _ => keeps_adminError _ _

theorem keeps_getAdminActivities (req : Request) : Keeps (Same Ctx.core) (getAdminActivities req) :=
  keeps_attempt (keeps_bind (keeps_db _ _ _ _) fun _ => keeps_bind keeps_get fun _ =>
    keeps_render _ _) fun _ => keeps_adminError _ _

end

end ChurchManagement
