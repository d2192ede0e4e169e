import TacacsWeb.Model.Columns

/-!
# The audit log

`app.audit`: the closed vocabulary of actions and the one insertion path. The vocabulary
is a type here, so the check in `append` that an action is known holds by construction.
-/

namespace TacacsWeb.Model

/-- The actions of `app.audit.actions`, but for `auth.session_expired`, which nothing records. -/
inductive AuditAction where
  /-- A TACACS+ password was accepted. -/
  | tacacsAuthnSucceeded
  /-- A TACACS+ password was not accepted. -/
  | tacacsAuthnFailed
  /-- A profile was granted. -/
  | tacacsAuthzSucceeded
  /-- No profile was granted. -/
  | tacacsAuthzFailed
  /-- A device was created. -/
  | deviceCreated
  /-- A device was edited. -/
  | deviceUpdated
  /-- A device was deleted. -/
  | deviceDeleted
  /-- A device got a new shared secret. -/
  | deviceSecretRotated
  /-- The previous shared secret of a device was dropped. -/
  | devicePreviousRetired
  /-- `hosts.cfg` was rewritten on request. -/
  | nasConfigRegenerated
  /-- A privilege profile was created. -/
  | privilegeProfileCreated
  /-- A privilege profile was edited. -/
  | privilegeProfileUpdated
  /-- A sync started by hand went through. -/
  | ldapSyncRunSucceeded
  /-- A sync started by hand failed. -/
  | ldapSyncRunFailed
  /-- The local admin was created. -/
  | localAdminBootstrapped
  /-- The password of the local admin was replaced. -/
  | localAdminPasswordReset
  /-- A login went through. -/
  | authLoginSucceeded
  /-- A login was refused. -/
  | authLoginFailed
  /-- A session was ended by its holder. -/
  | authLogout
  /-- A device group was created. -/
  | deviceGroupCreated
  /-- A device group was edited. -/
  | deviceGroupUpdated
  /-- A privilege profile was deleted. -/
  | privilegeProfileDeleted
  /-- An authorization was created. -/
  | authorizationCreated
  /-- An authorization was deleted. -/
  | authorizationDeleted
  /-- A device group was deleted. -/
  | deviceGroupDeleted
  /-- The LDAPS endpoint was set. -/
  | settingLdapUrlUpdated
  /-- The address of the web interface was set. -/
  | settingWebBaseUrlUpdated
  /-- The metadata of the identity provider was imported. -/
  | samlIdpMetadataImported
  /-- The role mapping of SAML logins was set. -/
  | samlMappingUpdated
  /-- The keypair of SAML logins was made anew. -/
  | samlSpKeypairRegenerated
  /-- The directory sync was configured. -/
  | ldapSyncConfigUpdated
  /-- The syslog forwarder was configured. -/
  | syslogConfigUpdated
  /-- A certificate and its key were uploaded. -/
  | tlsCertUploaded
  /-- A PKCS#12 container was uploaded. -/
  | tlsPfxUploaded
  /-- The certificate was made anew. -/
  | tlsCertRegenerated
  /-- A bind at the directory went through. -/
  | ldapSyncTestSucceeded
  /-- A bind at the directory failed. -/
  | ldapSyncTestFailed
  /-- A test message was sent. -/
  | syslogTestSucceeded
  /-- A test message could not be sent. -/
  | syslogTestFailed
  /-- The setup wizard was closed. -/
  | setupWizardCompleted
  /-- The setup wizard was opened again. -/
  | setupWizardReopened
deriving DecidableEq

/-- The stored code of an action. -/
def AuditAction.code : AuditAction → String
  | tacacsAuthnSucceeded => "tacacs.authn_succeeded"
  | tacacsAuthnFailed => "tacacs.authn_failed"
  | tacacsAuthzSucceeded => "tacacs.authz_succeeded"
  | tacacsAuthzFailed => "tacacs.authz_failed"
  | deviceCreated => "device.created"
  | deviceUpdated => "device.updated"
  | deviceDeleted => "device.deleted"
  | deviceSecretRotated => "device.secret_rotated"
  | devicePreviousRetired => "device.previous_secret_retired"
  | nasConfigRegenerated => "nas_config.regenerated"
  | privilegeProfileCreated => "privilege_profile.created"
  | privilegeProfileUpdated => "privilege_profile.updated"
  | ldapSyncRunSucceeded => "ldap_sync.run_succeeded"
  | ldapSyncRunFailed => "ldap_sync.run_failed"
  | localAdminBootstrapped => "local_admin.bootstrapped"
  | localAdminPasswordReset => "local_admin.password_reset"
  | authLoginSucceeded => "auth.login_succeeded"
  | authLoginFailed => "auth.login_failed"
  | authLogout => "auth.logout"
  | deviceGroupCreated => "device_group.created"
  | deviceGroupUpdated => "device_group.updated"
  | privilegeProfileDeleted => "privilege_profile.deleted"
  | authorizationCreated => "authorization.created"
  | authorizationDeleted => "authorization.deleted"
  | deviceGroupDeleted => "device_group.deleted"
  | settingLdapUrlUpdated => "setting.ldap_url_updated"
  | settingWebBaseUrlUpdated => "setting.web_base_url_updated"
  | samlIdpMetadataImported => "saml.idp_metadata_imported"
  | samlMappingUpdated => "saml.mapping_updated"
  | samlSpKeypairRegenerated => "saml.sp_keypair_regenerated"
  | ldapSyncConfigUpdated => "ldap_sync.config_updated"
  | syslogConfigUpdated => "syslog.config_updated"
  | tlsCertUploaded => "tls.cert_uploaded"
  | tlsPfxUploaded => "tls.pfx_uploaded"
  | tlsCertRegenerated => "tls.cert_regenerated_self_signed"
  | ldapSyncTestSucceeded => "ldap_sync.test_succeeded"
  | ldapSyncTestFailed => "ldap_sync.test_failed"
  | syslogTestSucceeded => "syslog.test_succeeded"
  | syslogTestFailed => "syslog.test_failed"
  | setupWizardCompleted => "setup.wizard_completed"
  | setupWizardReopened => "setup.wizard_reopened"

/-- A row of `audit_log`, less its id and time. -/
structure AuditLog where
  /-- The acting account, when it is known. -/
  actorId : Option Nat
  /-- The name the actor used. -/
  actorUsernameSnapshot : String
  /-- The role the actor had. -/
  actorRole : String
  /-- How the actor was authenticated. -/
  authMethod : String
  /-- What was done. -/
  action : AuditAction
  /-- The kind of object acted on. -/
  targetType : Option String
  /-- The object acted on. -/
  targetId : Option Nat
  /-- Free text. -/
  summary : Option String
  /-- The address the request came from. -/
  clientIp : Option String
  /-- The browser of the request. -/
  userAgent : Option String
deriving DecidableEq

/-- The database takes the row: every value fits its column. -/
def AuditLog.fits (row : AuditLog) : Bool :=
  integerFits (row.actorId.map fun id : Nat => (id : Int)) &&
    textFits (some 256) (some row.actorUsernameSnapshot) &&
    textFits (some 16) (some row.actorRole) && textFits (some 16) (some row.authMethod) &&
    textFits (some 64) (some row.action.code) && textFits (some 64) row.targetType &&
    integerFits (row.targetId.map fun id : Nat => (id : Int)) && textFits none row.summary &&
    textFits (some 64) row.clientIp && textFits (some 512) row.userAgent

/-- `SessionContext`: the caller's identity for one HTTP request. -/
structure SessionContext where
  /-- The name the caller logged in with. -/
  username : String
  /-- The role of the session. -/
  role : String
  /-- How the caller was authenticated. -/
  authMethod : String
  /-- The account, when it is known. -/
  actorId : Option Nat
  /-- The address the request came from. -/
  clientIp : Option String
  /-- The browser of the request. -/
  userAgent : Option String
deriving DecidableEq

/-- `append_crud`. -/
def appendCrud (ctx : SessionContext) (action : AuditAction) (targetType : String) (targetId : Nat)
    (summary : Option String) : AuditLog where
  actorId := ctx.actorId
  actorUsernameSnapshot := ctx.username
  actorRole := ctx.role
  authMethod := ctx.authMethod
  action := action
  targetType := some targetType
  targetId := some targetId
  summary := summary
  clientIp := ctx.clientIp
  userAgent := ctx.userAgent

end TacacsWeb.Model
