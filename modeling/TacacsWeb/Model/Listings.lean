import TacacsWeb.Library.Browsing
import TacacsWeb.Library.Result
import TacacsWeb.Model.Accounting
import TacacsWeb.Model.Audit
import TacacsWeb.Model.MyAccess
import TacacsWeb.Model.ProfileForm

/-!
# The two log pages

`GET /audit-log` and `GET /accounting`, which count the rows that their filters select and then read
one window of them, and the pages `AuditLogPage.tsx` and `AccountingPage.tsx`, which ask for windows
of 50 rows. Other transactions may commit between the two statements.
-/

namespace TacacsWeb.Model

open TacacsWeb.Library TacacsWeb.Library.Browsing

/-! ## The endpoints -/

/-- `Query(max_length=bound)`. -/
def withinLength (bound : Nat) (value : Option String) : Bool :=
  value.all fun text => decide (text.length ≤ bound)

/-- `Query(ge=1, le=500)` and `Query(ge=0)`. -/
def windowValid (limit offset : Int) : Bool :=
  decide (1 ≤ limit) && decide (limit ≤ 500) && decide (0 ≤ offset)

/-- The parameters of `list_audit_log`. -/
structure AuditLogQuery (Instant : Type) where
  /-- How many rows. -/
  limit : Int := 100
  /-- After how many newer ones. -/
  offset : Int := 0
  /-- What was done. -/
  action : Option String := none
  /-- A part of the name of the actor. -/
  username : Option String := none
  /-- How the actor was authenticated. -/
  authMethod : Option String := none
  /-- The first instant. -/
  since : Option Instant := none
  /-- The instant after the last. -/
  till : Option Instant := none

/-- The parameters of `list_accounting`. -/
structure AccountingQuery (Instant : Type) where
  /-- How many rows. -/
  limit : Int := 100
  /-- After how many newer ones. -/
  offset : Int := 0
  /-- The kind of record. -/
  action : Option String := none
  /-- A part of the login name. -/
  username : Option String := none
  /-- The NAS address. -/
  nasIp : Option String := none
  /-- The id of a session. -/
  taskId : Option String := none
  /-- A part of the command. -/
  cmd : Option String := none
  /-- The first instant. -/
  since : Option Instant := none
  /-- The instant after the last. -/
  till : Option Instant := none

section Endpoints

variable {Instant : Type} [LinearOrder Instant]

/-- The bounds of the parameters. -/
def AuditLogQuery.valid (query : AuditLogQuery Instant) : Bool :=
  windowValid query.limit query.offset && withinLength 64 query.action &&
    withinLength 256 query.username && withinLength 16 query.authMethod

/-- The bounds of the parameters. -/
def AccountingQuery.valid (query : AccountingQuery Instant) : Bool :=
  windowValid query.limit query.offset && withinLength 16 query.action &&
    withinLength 256 query.username && withinLength 64 query.nasIp &&
    withinLength 64 query.taskId && withinLength 512 query.cmd

end Endpoints

/-! ## The pages -/

/-- `PAGE_SIZE`. -/
def pageSize : Nat := 50

section Pages

variable {Instant : Type} [LinearOrder Instant]

end Pages

end TacacsWeb.Model
