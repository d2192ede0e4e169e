import TacacsWeb.Model.AdminTables
import TacacsWeb.Model.InternalMavis

/-!
# MAVIS requests over their session

`mavis_auth` and `mavis_info` of `app.api.internal_mavis` as scripts: the lookups, the decision,
which touches no table, and the audit row in the one commit. What a caller sees when nothing goes
wrong with the database is what `mavisAuth` and `mavisInfo` compute.
-/

namespace TacacsWeb.Model

open TacacsWeb.Library TacacsWeb.Library.UnitOfWork

/-- The tables that the MAVIS handlers read. -/
def AdminTables.database (tables : AdminTables) : Database where
  identity := tables.identity
  deviceGroups := tables.deviceGroups
  devices := tables.devices
  privilegeProfiles := tables.privilegeProfiles
  authorizations := tables.authorizations
  systemSettings := tables.systemSettings

/-- `mavis_auth` over its session. -/
def mavisAuthHandler (fold : CaseFolding) (server : LdapServer) (req : AuthRequest) :
    Script AdminTables AdminSequences AdminChange AuthResponse :=
  .query fun tables _ =>
    match findByUsername fold tables.identity.users req.username with
    | .error _ => .raise
    | .ok user =>
      .query fun tables _ =>
        match (evaluate user (resolveLdapEndpoint fold tables.systemSettings) req.password
            (verifyLdapPassword server)).1 with
        -- Nothing around `evaluate` catches what it does not.
        | .error _ => .raise
        | .ok outcome =>
          .stage (.audit (authAudit req user outcome))
            (.commit .raise (.respond ⟨outcome.result, outcome.reason⟩))

/-- `mavis_info` over its session. -/
def mavisInfoHandler (fold : CaseFolding) (deviceOrder : RowOrder Device)
    (authorizationOrder : RowOrder Authorization) (req : InfoRequest) :
    Script AdminTables AdminSequences AdminChange InfoResponse :=
  .query fun tables _ =>
    match findByUsername fold tables.identity.users req.username with
    | .error _ => .raise
    | .ok user =>
      .query fun tables _ =>
        let resolved := resolveInfo tables.database deviceOrder authorizationOrder req user
        .stage (.audit (infoAudit req user resolved))
          (.commit .raise (.respond resolved.response))

/-- What a request puts into its audit row fits: the name, the address and the id of the user. -/
structure AuthRequest.Fits (req : AuthRequest) (user : Option User) : Prop where
  /-- The login name. -/
  username : textFits (some 256) (some req.username) = true
  /-- The NAS address. -/
  nasIp : textFits (some 64) req.nasIp = true
  /-- The id of the user, when there is one. -/
  userId : integerFits (user.map fun user => (user.id : Int)) = true

/-- What a lookup puts into its audit row fits: the name and the address. -/
structure InfoRequest.Fits (req : InfoRequest) : Prop where
  /-- The login name. -/
  username : textFits (some 256) (some req.username) = true
  /-- The NAS address. -/
  nasIp : textFits (some 64) (some req.nasIp) = true

end TacacsWeb.Model
