import TacacsWeb.Verif.LoginProvenance
import TacacsWeb.Verif.TaskEffects

/-!
# What a step leaves alone

Every step of the application writes only the parts of the database that its kind may write. The
settings, the secrets and the identity tables are out of reach of a request whose caller is no
admin, of a login, of a logout and of a MAVIS request; the local admin is only written by a local
login and by the command.
-/

namespace TacacsWeb.Verif

open TacacsWeb.Library TacacsWeb.Library.UnitOfWork TacacsWeb.Model

/-- The parts that a step may write. -/
def ApplicationEvent.areas : ApplicationEvent → List Area
  | .loginLocal _ _ _ _ => [.localAdmin]
  | .perform task _ => ApplicationTask.areas task
  | .tick _ => [.identity, .syncResult]
  | .ingest _ _ => [.accounting]
  | .samlAcs _ _ _ | .authenticate _ _ _ | .logout _ _ _ | .mavisAuth _ _ | .mavisInfo _ _ _ _
  | .note _ => []

section Frames

variable {fold : CaseFolding} {app next : Application}

/-- Writing the audit log writes no part. -/
theorem same_auditLog (tables : AdminTables) (log : List AuditLog) (area : Area) :
    area.Same tables { tables with auditLog := log } := by
  cases area with
  | resources => exact ⟨rfl, rfl, rfl, rfl⟩
  | settings => exact ⟨rfl, rfl⟩
  | _ => exact rfl

/-- A documented change is of a resource. -/
theorem documents_areas {tables : AdminTables} {change : AdminChange} {rowId : Nat} {row : AuditLog}
    (documents : Documents tables change rowId row) :
    AdminChange.areas change = resourceAreas := by
  cases documents <;> rfl

/-- A handler of a resource keeps everything else. -/
theorem documented_same {ctx : SessionContext} {tables : AdminTables} {sequences : AdminSequences}
    {version : Version AdminTables AdminChange}
    (documented : CommitsDocumented ctx tables sequences version) {area : Area}
    (other : area ∉ resourceAreas) : area.Same tables version.tables := by
  cases documented with
  | untouched => exact Area.Same.refl tables area
  | changed both taken documents own =>
    rename_i after rowId moved row
    have kept : area.Same tables after := by
      refine adminEngine_same taken ?_
      rw [documents_areas documents]
      exact other
    exact kept.trans (same_auditLog after _ area)

/-- A task keeps what it may not write. -/
theorem task_same (host : ApplicationHost fold) (task : ApplicationTask)
    (plan : List UnitOfWork.Outcome) {area : Area} (outside : area ∉ ApplicationTask.areas task) :
    area.Same app.tables (app.perform (task.script host) plan).tables := by
  cases caller : task.caller with
  | none =>
    have own : ApplicationTask.areas task = [.localAdmin] := by
      cases task with
      | audited operation =>
        cases operation with
        | bootstrapAdmin username password resetPassword => rfl
        | _ => cases caller
      | _ => cases caller
    rw [own] at outside
    exact (command_effect host caller app plan).others area outside
  | some ctx =>
    rcases task_effect host caller app plan with ⟨version, documented, own, same⟩ | ⟨-, kept⟩
    · rw [own] at outside
      rw [same]
      exact documented_same documented outside
    · exact kept.others area outside

/-- A login handler keeps everything but the local admin. -/
theorem afterLogin_same (after : LoginTables) {area : Area} (other : area ≠ .localAdmin) :
    area.Same app.tables (app.afterLogin after).tables := by
  cases area with
  | resources => exact ⟨rfl, rfl, rfl, rfl⟩
  | settings => exact ⟨rfl, rfl⟩
  | localAdmin => exact absurd rfl other
  | _ => exact rfl

/-- A SAML login keeps the local admin. -/
theorem samlAcs_localAdmins {env : SamlEnvironment} {before after : LoginTables} {now : Nat}
    {token : SessionToken} {request : AcsRequest}
    (effect : SamlLoginEffect env before now token request after) :
    after.localAdmins = before.localAdmins := by
  cases effect <;> rfl

/-- A step keeps what it may not write. -/
theorem step_same {host : ApplicationHost fold} {event : ApplicationEvent}
    (stepped : Application.step fold app (host, event) = some next) {area : Area}
    (outside : area ∉ ApplicationEvent.areas event) : area.Same app.tables next.tables := by
  cases event with
  | loginLocal now token payload request =>
    obtain rfl := Option.some.inj stepped
    exact afterLogin_same _ fun same => outside (same ▸ List.mem_singleton_self _)
  | samlAcs now token request =>
    simp only [Application.step] at stepped
    split at stepped
    · obtain rfl := Option.some.inj stepped
      exact Area.Same.refl _ _
    · obtain rfl := Option.some.inj stepped
      by_cases local' : area = .localAdmin
      · rw [local']
        have kept := samlAcs_localAdmins
          (samlAcs_effect (app.samlEnvironment host) app.loginTables now token request)
        change (samlAcs (app.samlEnvironment host) app.loginTables now token
          request).1.localAdmins.head? = app.tables.localAdmin
        rw [kept]
        exact Option.head?_toList
      · exact afterLogin_same _ local'
  | authenticate now cookieToken request =>
    simp only [Application.step] at stepped
    split at stepped
    all_goals
      obtain rfl := Option.some.inj stepped
      exact Area.Same.refl _ _
  | perform task plan =>
    simp only [Application.step] at stepped
    split at stepped
    · obtain rfl := Option.some.inj stepped
      exact task_same host task plan outside
    · split at stepped
      · obtain rfl := Option.some.inj stepped
        exact task_same host task plan outside
      · cases stepped
  | logout now cookieToken request =>
    obtain rfl := Option.some.inj stepped
    exact same_auditLog app.tables _ area
  | mavisAuth req plan =>
    obtain rfl := Option.some.inj stepped
    exact (perform_keptOutside (mavisAuth_stages fold host.server req) plan).others area outside
  | mavisInfo req deviceOrder authorizationOrder plan =>
    obtain rfl := Option.some.inj stepped
    exact (perform_keptOutside (mavisInfo_stages fold deviceOrder authorizationOrder req)
      plan).others area outside
  | tick times =>
    obtain rfl := Option.some.inj stepped
    cases area with
    | identity => exact absurd List.mem_cons_self outside
    | syncResult => exact absurd (List.mem_cons_of_mem _ (List.mem_singleton_self _)) outside
    | resources => exact ⟨rfl, rfl, rfl, rfl⟩
    | settings => exact ⟨rfl, rfl⟩
    | _ => exact rfl
  | ingest nasIp position =>
    obtain rfl := Option.some.inj stepped
    cases area with
    | accounting => exact absurd List.mem_cons_self outside
    | resources => exact ⟨rfl, rfl, rfl, rfl⟩
    | settings => exact ⟨rfl, rfl⟩
    | _ => exact rfl
  | note writes =>
    obtain rfl := Option.some.inj stepped
    exact Area.Same.refl _ _

end Frames

end TacacsWeb.Verif
