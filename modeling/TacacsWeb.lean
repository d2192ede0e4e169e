import TacacsWeb.Library.AttributeScript
import TacacsWeb.Library.Base64
import TacacsWeb.Library.Browsing
import TacacsWeb.Library.ByteOrder
import TacacsWeb.Library.Claiming
import TacacsWeb.Library.Dict
import TacacsWeb.Library.FirstMatch
import TacacsWeb.Library.IntText
import TacacsWeb.Library.IpAddress
import TacacsWeb.Library.LdapFilter
import TacacsWeb.Library.Lease
import TacacsWeb.Library.Lexer
import TacacsWeb.Library.LikePattern
import TacacsWeb.Library.OctetCounting
import TacacsWeb.Library.ReadModifyWrite
import TacacsWeb.Library.Relabel
import TacacsWeb.Library.Result
import TacacsWeb.Library.Run
import TacacsWeb.Library.Shlex
import TacacsWeb.Library.StagedChanges
import TacacsWeb.Library.StructuredData
import TacacsWeb.Library.Table
import TacacsWeb.Library.Text
import TacacsWeb.Library.UnitOfWork
import TacacsWeb.Library.Utf8
import TacacsWeb.Model.Accounting
import TacacsWeb.Model.AdminRequests
import TacacsWeb.Model.AdminTables
import TacacsWeb.Model.Application
import TacacsWeb.Model.Audit
import TacacsWeb.Model.AuditedOperations
import TacacsWeb.Model.Browser
import TacacsWeb.Model.Columns
import TacacsWeb.Model.DaemonScript
import TacacsWeb.Model.DeviceEdits
import TacacsWeb.Model.DeviceResolution
import TacacsWeb.Model.Devices
import TacacsWeb.Model.EffectivePermissions
import TacacsWeb.Model.Forwarder
import TacacsWeb.Model.IdpMetadata
import TacacsWeb.Model.Ingestor
import TacacsWeb.Model.IngestorRuns
import TacacsWeb.Model.InternalMavis
import TacacsWeb.Model.Json
import TacacsWeb.Model.JsonText
import TacacsWeb.Model.Ldap3Client
import TacacsWeb.Model.LdapSync
import TacacsWeb.Model.Listings
import TacacsWeb.Model.LocalLogin
import TacacsWeb.Model.LogRotation
import TacacsWeb.Model.Maintenance
import TacacsWeb.Model.MavisAuthn
import TacacsWeb.Model.MavisChild
import TacacsWeb.Model.MavisExchange
import TacacsWeb.Model.MavisRequests
import TacacsWeb.Model.MyAccess
import TacacsWeb.Model.NasConfig
import TacacsWeb.Model.NasConfigRuns
import TacacsWeb.Model.Policy
import TacacsWeb.Model.PrivilegeProfiles
import TacacsWeb.Model.ProfileForm
import TacacsWeb.Model.ProfileRender
import TacacsWeb.Model.ProfileScript
import TacacsWeb.Model.ReloadLoop
import TacacsWeb.Model.SamlRoutes
import TacacsWeb.Model.SamlRuns
import TacacsWeb.Model.SamlSettings
import TacacsWeb.Model.Schema
import TacacsWeb.Model.Secrets
import TacacsWeb.Model.SessionRuns
import TacacsWeb.Model.Sessions
import TacacsWeb.Model.SyncRuns
import TacacsWeb.Model.SyncWorker
import TacacsWeb.Model.SyslogLines
import TacacsWeb.Model.TlsVolume
import TacacsWeb.Verif.AccessTrace
import TacacsWeb.Verif.AccountingLines
import TacacsWeb.Verif.AddressText
import TacacsWeb.Verif.AdminAtomicity
import TacacsWeb.Verif.AdminStatements
import TacacsWeb.Verif.Attribution
import TacacsWeb.Verif.AuditReplay
import TacacsWeb.Verif.AuditedTogether
import TacacsWeb.Verif.CommandFilter
import TacacsWeb.Verif.ConcurrentEdits
import TacacsWeb.Verif.Constraints
import TacacsWeb.Verif.DeviceEdits
import TacacsWeb.Verif.Directory
import TacacsWeb.Verif.DirectoryTree
import TacacsWeb.Verif.EnforcedProfile
import TacacsWeb.Verif.FailClosed
import TacacsWeb.Verif.Forwarding
import TacacsWeb.Verif.GroupDeletion
import TacacsWeb.Verif.HighWater
import TacacsWeb.Verif.HostBlockAgreement
import TacacsWeb.Verif.HostLabels
import TacacsWeb.Verif.HostsFile
import TacacsWeb.Verif.HostsReader
import TacacsWeb.Verif.IdentitySteps
import TacacsWeb.Verif.IdpKeys
import TacacsWeb.Verif.InfoAgreement
import TacacsWeb.Verif.IngestedOnce
import TacacsWeb.Verif.Ingestion
import TacacsWeb.Verif.IngestorProgress
import TacacsWeb.Verif.LeaverLockout
import TacacsWeb.Verif.LogPages
import TacacsWeb.Verif.LogRotation
import TacacsWeb.Verif.LoginAudit
import TacacsWeb.Verif.LoginProvenance
import TacacsWeb.Verif.LongestPrefix
import TacacsWeb.Verif.MavisAnswers
import TacacsWeb.Verif.MavisVerdicts
import TacacsWeb.Verif.MavisWire
import TacacsWeb.Verif.MemberFilter
import TacacsWeb.Verif.OpenLiterals
import TacacsWeb.Verif.OwnAccess
import TacacsWeb.Verif.PolicyAgreement
import TacacsWeb.Verif.PolicyChoice
import TacacsWeb.Verif.Privileges
import TacacsWeb.Verif.RegexLiterals
import TacacsWeb.Verif.Reload
import TacacsWeb.Verif.ResolutionOrder
import TacacsWeb.Verif.ResourceLog
import TacacsWeb.Verif.RoleMapping
import TacacsWeb.Verif.SamlConfigured
import TacacsWeb.Verif.SamlReplay
import TacacsWeb.Verif.SavedForm
import TacacsWeb.Verif.ScriptKeys
import TacacsWeb.Verif.ScriptReader
import TacacsWeb.Verif.SecretIndicators
import TacacsWeb.Verif.SecretRotation
import TacacsWeb.Verif.SecretStore
import TacacsWeb.Verif.SessionCookie
import TacacsWeb.Verif.SessionLevel
import TacacsWeb.Verif.SessionLifetime
import TacacsWeb.Verif.SettingsInForce
import TacacsWeb.Verif.SidNames
import TacacsWeb.Verif.StepFrames
import TacacsWeb.Verif.StoredSettings
import TacacsWeb.Verif.SyncCompletes
import TacacsWeb.Verif.SyncFailures
import TacacsWeb.Verif.SyncGroups
import TacacsWeb.Verif.SyncIdentity
import TacacsWeb.Verif.SyncMemberships
import TacacsWeb.Verif.SyncOrder
import TacacsWeb.Verif.SyncOutcome
import TacacsWeb.Verif.SyncOverlap
import TacacsWeb.Verif.SyncProgress
import TacacsWeb.Verif.SyncRepeat
import TacacsWeb.Verif.SyncRows
import TacacsWeb.Verif.SyncTables
import TacacsWeb.Verif.SyslogFraming
import TacacsWeb.Verif.SyslogHeader
import TacacsWeb.Verif.SyslogParams
import TacacsWeb.Verif.TaskEffects
import TacacsWeb.Verif.TlsPair
