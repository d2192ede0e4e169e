import TacacsWeb.Verif.IdentitySteps
import TacacsWeb.Verif.SyncTables

/-!
# The constraints of the tables

Every reachable state of the application meets the primary keys, the unique columns and the foreign
keys. The statements of the handlers are checked one by one; a sync run rewrites the identity tables
as a whole, and keeps the references of the authorizations to users and groups because it removes
neither.
-/

namespace TacacsWeb.Verif

open TacacsWeb.Library TacacsWeb.Library.UnitOfWork TacacsWeb.Model

section Sync

variable {fold : CaseFolding}

/-- No user and no group is gone. -/
structure IdsKept (before after : IdentityTables) : Prop where
  /-- `user`. -/
  users : ∀ user ∈ before.users, ∃ later ∈ after.users, later.id = user.id
  /-- `ad_group`. -/
  adGroups : ∀ group ∈ before.adGroups, ∃ later ∈ after.adGroups, later.id = group.id

/-- Ids that two changes keep are kept by one after the other. -/
theorem IdsKept.trans {before middle after : IdentityTables} (first : IdsKept before middle)
    (second : IdsKept middle after) : IdsKept before after where
  users := by
    intro user listed
    obtain ⟨later, there, same⟩ := first.users user listed
    obtain ⟨last, still, sameToo⟩ := second.users later there
    exact ⟨last, still, sameToo.trans same⟩
  adGroups := by
    intro group listed
    obtain ⟨later, there, same⟩ := first.adGroups group listed
    obtain ⟨last, still, sameToo⟩ := second.adGroups later there
    exact ⟨last, still, sameToo.trans same⟩

/-- Writing the row of a record removes nothing. -/
theorem upsertUser_idsKept {tables after : IdentityTables} {record : ADUserRecord} {now : Nat}
    {user : User} {inserted : Bool}
    (written : upsertUser fold tables record now = .ok (after, user, inserted)) :
    IdsKept tables after := by
  refine ⟨fun row listed => ?_, fun group listed => ?_⟩
  · rcases upsertUser_cases written with ⟨-, -, -, -, rfl⟩ | ⟨existing, -, -, -, -, rfl⟩
    · exact ⟨row, List.mem_append_left _ listed, rfl⟩
    · exact exists_key_replaceRow.mpr ⟨row, listed, rfl⟩
  · rw [upsertUser_adGroups written]
    exact ⟨group, listed, rfl⟩

/-- Syncing a record removes nothing. -/
theorem syncRecord_idsKept {now : Nat} {state next : SyncState} {record : ADUserRecord}
    (kept : SyncInvariant fold state) (passed : syncRecord fold now state record = .ok next) :
    IdsKept state.tables next.tables := by
  obtain ⟨written, user, inserted, last, known, upserted, replaced, rfl⟩ := syncRecord_cases passed
  have groups := replaceUserGroups_kept (upsertUser_valid kept.valid upserted)
    (kept.remembered.upsert upserted) replaced
  refine (upsertUser_idsKept upserted).trans ⟨fun row listed => ?_, fun group listed => ?_⟩
  · change ∃ later ∈ last.users, later.id = row.id
    rw [groups.frame.users]
    exact ⟨row, listed, rfl⟩
  · obtain ⟨later, there, same, -⟩ := groups.frame.adGroups group listed
    exact ⟨later, there, same⟩

/-- A run removes no user and no group. -/
theorem runSync_idsKept {tables committed : IdentityTables} {call : SyncCall} {result : SyncResult}
    (valid : tables.Valid fold) (ran : runSync fold tables call = .ok (committed, result)) :
    IdsKept tables committed := by
  obtain ⟨last, passed, finished⟩ := runSync_eq_ok.mp ran
  have start : SyncInvariant fold (SyncState.initial call.startedAt tables) ∧
      IdsKept tables (SyncState.initial call.startedAt tables).tables :=
    ⟨syncInvariant_initial call.startedAt valid,
      fun user listed => ⟨user, listed, rfl⟩, fun group listed => ⟨group, listed, rfl⟩⟩
  have kept : SyncInvariant fold last ∧ IdsKept tables last.tables := by
    refine Step.run_invariant (fun state => SyncInvariant fold state ∧ IdsKept tables state.tables)
      (fun state record next before stepped => ?_) start passed
    exact ⟨syncInvariant_step state record next before.1 stepped,
      before.2.trans (syncRecord_idsKept before.1 (passes_eq_some.mp stepped))⟩
  obtain ⟨change, same, ended⟩ := finishSync_users call.finishedAt last
  have tablesAfter : committed = { last.tables with users := last.tables.users.map change } := by
    rw [← ended, finished]
  rw [tablesAfter]
  refine kept.2.trans ⟨fun user listed => ?_, fun group listed => ⟨group, listed, rfl⟩⟩
  exact ⟨change user, List.mem_map_of_mem listed, (same user).1⟩

/-- The records that a run fetches with the settings and the secrets of the store. -/
def fetchedRecords (host : SyncHost) (store : SyncStore) : Option (List ADUserRecord) :=
  match loadConfig host.fold host.loads store.systemSettings with
  | .ok (some config) =>
    match store.systemSecrets.get? "ldap.bind_password" with
    | some password =>
      (fetchRecords host.client (config.endpoint host.fold) config password).toOption
    | none => none
  | _ => none

/-- What a run makes of the identity tables. -/
theorem runFullSync_ok {host : SyncHost} {store : SyncStore} {times : RunTimes}
    {after : IdentityTables} {summary : LdapSyncRunSummary}
    (ran : runFullSync host store times = .ok (after, summary)) :
    ∃ call result, fetchedRecords host store = some call.records ∧
      runSync host.fold store.identity call = .ok (after, result) ∧
        summary.usersSeen = result.usersSeen := by
  unfold runFullSync at ran
  split at ran
  · cases ran
  · cases ran
  · rename_i config configured
    split at ran
    · cases ran
    · rename_i password kept
      obtain ⟨records, fetched, rest⟩ := bind_eq_ok.mp ran
      obtain ⟨⟨committed, result⟩, inner, same⟩ := map_eq_ok.mp rest
      cases same
      have found : fetchedRecords host store = some records := by
        simp only [fetchedRecords, configured, kept, fetched, Except.toOption]
      cases synced : runSync host.fold store.identity
        ⟨times.startedAt, times.now, times.finishedAt, records⟩ with
      | error fault =>
        rw [synced] at inner
        cases inner
      | ok outcome =>
        rw [synced] at inner
        cases inner
        exact ⟨_, _, found, synced, rfl⟩

end Sync

section Steps

variable {fold : CaseFolding} {tables after : AdminTables}

/-- The constraints are about the resources and the identity tables. -/
theorem valid_of_same (valid : tables.Valid fold) (kept : ResourcesKept tables after)
    (accounting : after.accountingDeviceIds = tables.accountingDeviceIds)
    (identity : after.identity = tables.identity) : after.Valid fold := by
  obtain ⟨devices, deviceGroups, privilegeProfiles, authorizations⟩ := kept
  constructor
  all_goals simp only [devices, deviceGroups, privilegeProfiles, authorizations,
    accounting, identity]
  · exact valid.identity
  · exact valid.deviceGroupId
  · exact valid.deviceGroupName
  · exact valid.deviceId
  · exact valid.deviceName
  · exact valid.deviceIpOrCidr
  · exact valid.deviceGroup
  · exact valid.privilegeProfileId
  · exact valid.privilegeProfileName
  · exact valid.authorizationId
  · exact valid.authorizationUserEdge
  · exact valid.authorizationAdGroupEdge
  · exact valid.authorizationUser
  · exact valid.authorizationAdGroup
  · exact valid.authorizationDeviceGroup
  · exact valid.authorizationProfile
  · exact valid.accountingDevice

/-- Identity tables that meet their own constraints and have lost no row may take the place of
others. -/
theorem valid_withIdentity {identity : IdentityTables} (valid : tables.Valid fold)
    (own : identity.Valid fold) (kept : IdsKept tables.identity identity) :
    ({ tables with identity := identity } : AdminTables).Valid fold :=
  { valid with
    identity := own
    authorizationUser := by
      intro row listed userId named
      obtain ⟨user, there, same⟩ := valid.authorizationUser row listed userId named
      obtain ⟨later, still, sameToo⟩ := kept.users user there
      exact ⟨later, still, sameToo.trans same⟩
    authorizationAdGroup := by
      intro row listed groupId named
      obtain ⟨group, there, same⟩ := valid.authorizationAdGroup row listed groupId named
      obtain ⟨later, still, sameToo⟩ := kept.adGroups group there
      exact ⟨later, still, sameToo.trans same⟩ }

/-- Deleting a device group that no device is in keeps the constraints: the authorizations about it
go with it. -/
theorem deleteDeviceGroup_valid {groupId rowId : Nat} (valid : tables.Valid fold)
    (taken : deleteDeviceGroupRow tables groupId = .ok (after, rowId)) : after.Valid fold := by
  unfold deleteDeviceGroupRow at taken
  obtain ⟨fine, rfl, -⟩ := statement_eq_ok taken
  have unused : ∀ device ∈ tables.devices, device.deviceGroupId ≠ groupId := by
    simpa using fine
  have before : ∀ edge : Authorization,
      edge ∈ tables.authorizations.filter (fun row => row.deviceGroupId ≠ groupId) →
        edge ∈ tables.authorizations := fun edge present => (List.mem_filter.mp present).1
  exact { valid with
    deviceGroupId := valid.deviceGroupId.sublist (List.filter_sublist.map _)
    deviceGroupName := valid.deviceGroupName.sublist (List.filter_sublist.map _)
    deviceGroup := by
      intro device present
      obtain ⟨group, listed, same⟩ := valid.deviceGroup device present
      have away : group.id ≠ groupId := fun equal => unused device present (same.symm.trans equal)
      exact ⟨group, List.mem_filter.mpr ⟨listed, decide_eq_true away⟩, same⟩
    authorizationId := valid.authorizationId.sublist (List.filter_sublist.map _)
    authorizationUserEdge := valid.authorizationUserEdge.sublist (List.filter_sublist.filterMap _)
    authorizationAdGroupEdge :=
      valid.authorizationAdGroupEdge.sublist (List.filter_sublist.filterMap _)
    authorizationUser := fun edge present => valid.authorizationUser edge (before edge present)
    authorizationAdGroup := fun edge present =>
      valid.authorizationAdGroup edge (before edge present)
    authorizationDeviceGroup := by
      intro edge present
      obtain ⟨group, listed, same⟩ := valid.authorizationDeviceGroup edge (before edge present)
      have kept : edge.deviceGroupId ≠ groupId :=
        of_decide_eq_true (List.mem_filter.mp present).2
      have away : group.id ≠ groupId := fun equal => kept (same.symm.trans equal)
      exact ⟨group, List.mem_filter.mpr ⟨listed, decide_eq_true away⟩, same⟩
    authorizationProfile := fun edge present =>
      valid.authorizationProfile edge (before edge present) }

/-- A documented change keeps the constraints. -/
theorem documents_valid {change : AdminChange} {rowId : Nat} {sequences moved : AdminSequences}
    {row : AuditLog} (valid : tables.Valid fold)
    (taken : adminEngine change tables sequences = (.ok (after, rowId), moved))
    (documents : Documents tables change rowId row) : after.Valid fold := by
  have answer := congrArg Prod.fst taken
  cases documents with
  | insertDevice recorded => exact (insertDevice_changed valid answer).constraints
  | insertDeviceGroup recorded => exact (insertDeviceGroup_changed valid answer).constraints
  | insertPrivilegeProfile recorded =>
    exact (insertPrivilegeProfile_changed valid answer).constraints
  | insertAuthorization recorded described =>
    exact (insertAuthorization_changed valid answer).constraints
  | deleteDevice recorded listed =>
    obtain ⟨device, there, rfl⟩ := listed
    exact (@deleteDevice_changed fold tables after rowId sequences device valid there
      answer).constraints
  | deletePrivilegeProfile recorded listed =>
    obtain ⟨profile, there, rfl⟩ := listed
    exact (deletePrivilegeProfile_changed valid there answer).constraints
  | deleteDeviceGroup recorded listed => exact deleteDeviceGroup_valid valid answer
  | deleteAuthorization recorded listed =>
    obtain ⟨authorization, there, rfl⟩ := listed
    exact (deleteAuthorization_changed valid there answer).constraints
  | updateDevice silent =>
    rename_i deviceId columns
    change writeDevice tables sequences (.update deviceId columns) = .ok (after, rowId) at answer
    by_cases empty : columns.isEmpty = true
    · simp only [writeDevice, empty, if_true] at answer
      cases answer
      exact valid
    · -- An UPDATE that is sent needs its row.
      have sent := answer
      simp only [writeDevice, empty] at sent
      have fits := statement_fits sent
      simp only [Bool.and_eq_true, List.any_eq_true, decide_eq_true_eq] at fits
      obtain ⟨-, device, there, rfl⟩ := fits
      exact (updateDevice_changed valid there answer).2.constraints
  | replaceDeviceGroup silent =>
    have fits := statement_fits answer
    simp only [Bool.and_eq_true, List.any_eq_true, decide_eq_true_eq] at fits
    obtain ⟨-, group, there, same⟩ := fits
    exact (replaceDeviceGroup_changed valid there same.symm answer).2.constraints
  | replacePrivilegeProfile silent =>
    have fits := statement_fits answer
    simp only [Bool.and_eq_true, List.any_eq_true, decide_eq_true_eq] at fits
    obtain ⟨-, profile, there, same⟩ := fits
    exact (replacePrivilegeProfile_changed valid there same.symm answer).2.constraints

/-- A handler of a resource keeps the constraints. -/
theorem documented_valid {ctx : SessionContext} {sequences : AdminSequences}
    {version : Version AdminTables AdminChange} (valid : tables.Valid fold)
    (documented : CommitsDocumented ctx tables sequences version) : version.tables.Valid fold := by
  cases documented with
  | untouched => exact valid
  | changed both taken documents own =>
    exact valid_of_same (documents_valid valid taken documents) ⟨rfl, rfl, rfl, rfl⟩ rfl rfl

/-- What a sync run leaves meets the constraints of its own tables, and has lost no row. -/
theorem synced_valid {host : ApplicationHost fold} {identity : IdentityTables}
    (valid : tables.Valid fold) (synced : SyncedFrom host.admin.sync tables identity) :
    identity.Valid fold ∧ IdsKept tables.identity identity := by
  obtain ⟨times, summary, ran⟩ := synced
  obtain ⟨call, result, -, inner, -⟩ := runFullSync_ok ran
  rw [host.folding] at inner
  exact ⟨runSync_valid valid.identity inner, runSync_idsKept valid.identity inner⟩

/-- The accounting records are written with the resources, or by the ingestor. -/
theorem ingest_of_accounting {event : ApplicationEvent}
    (apart : Area.resources ∉ ApplicationEvent.areas event)
    (written : Area.accounting ∈ ApplicationEvent.areas event) :
    ∃ nasIp position, event = .ingest nasIp position := by
  cases event with
  | ingest nasIp position => exact ⟨nasIp, position, rfl⟩
  | perform task plan =>
    have settings : ∀ ctx areas, Area.accounting ∉ areas →
        Area.accounting ∉ adminAreas ctx areas := by
      intro ctx areas absent
      unfold adminAreas
      split
      · exact absent
      · exact List.not_mem_nil
    cases task with
    | audited operation =>
      cases operation with
      | request ctx asked => exact absurd List.mem_cons_self apart
      | deleteDeviceGroup ctx deviceGroupId => exact absurd List.mem_cons_self apart
      | bootstrapAdmin username password resetPassword =>
        simp [ApplicationEvent.areas, ApplicationTask.areas] at written
      | _ => exact absurd written (settings _ _ (by decide))
    | regenerate ctx writable => simp [ApplicationEvent.areas, ApplicationTask.areas] at written
    | _ => exact absurd written (settings _ _ (by decide))
  | _ => simp [ApplicationEvent.areas] at written

/-- A record of a device that is stored may be added. -/
theorem ingest_valid (valid : tables.Valid fold) (nasIp : Option String) :
    ({ tables with
      accountingDeviceIds :=
        tables.accountingDeviceIds ++ [resolveDeviceId tables.devices nasIp] } :
      AdminTables).Valid fold :=
  { valid with
    accountingDevice := by
      intro deviceId listed
      rcases List.mem_append.mp listed with earlier | now
      · exact valid.accountingDevice deviceId earlier
      · have found : resolveDeviceId tables.devices nasIp = some deviceId :=
          (List.mem_singleton.mp now).symm
        unfold resolveDeviceId at found
        split at found
        · cases found
        · split at found
          · cases found
          · obtain ⟨device, resolved, same⟩ := Option.map_eq_some_iff.mp found
            exact ⟨device, mem_of_resolveDeviceForIp resolved, same⟩ }

/-- Every step keeps the constraints. -/
theorem valid_step {app next : Application} {label : ApplicationHost fold × ApplicationEvent}
    (valid : app.tables.Valid fold) (stepped : Application.step fold app label = some next) :
    next.tables.Valid fold := by
  obtain ⟨host, event⟩ := label
  -- A handler of a resource is told by the part of the database that it may write.
  by_cases resources : Area.resources ∈ ApplicationEvent.areas event
  · cases event with
    | perform task plan =>
      simp only [Application.step] at stepped
      split at stepped
      · rename_i command
        obtain rfl := Option.some.inj stepped
        have kept := command_effect host command app plan
        exact valid_of_same valid (kept.others .resources (by decide))
          (kept.others .accounting (by decide)) (kept.others .identity (by decide))
      · rename_i ctx caller
        split at stepped
        · obtain rfl := Option.some.inj stepped
          rcases task_effect host caller app plan with ⟨version, documented, -, same⟩ | ⟨apart, -⟩
          · change (app.perform (task.script host) plan).tables.Valid fold
            rw [same]
            exact documented_valid valid documented
          · exact absurd resources apart
        · cases stepped
    | _ => simp [ApplicationEvent.areas] at resources
  · by_cases written : Area.accounting ∈ ApplicationEvent.areas event
    · obtain ⟨nasIp, position, rfl⟩ := ingest_of_accounting resources written
      obtain rfl := Option.some.inj stepped
      exact ingest_valid valid nasIp
    · have kept : Area.resources.Same app.tables next.tables := step_same stepped resources
      have accounting : Area.accounting.Same app.tables next.tables := step_same stepped written
      rcases identity_step stepped with same | ⟨-, synced⟩
      · exact valid_of_same valid kept accounting same
      · obtain ⟨own, ids⟩ := synced_valid valid synced
        exact valid_of_same (valid_withIdentity valid own ids) ⟨kept.devices, kept.deviceGroups,
          kept.privilegeProfiles, kept.authorizations⟩ accounting rfl

/-- A new installation meets the constraints. -/
theorem valid_installed : Application.installed.tables.Valid fold where
  identity := reachable_valid .empty
  deviceGroupId := List.nodup_nil
  deviceGroupName := List.nodup_nil
  deviceId := List.nodup_nil
  deviceName := List.nodup_nil
  deviceIpOrCidr := List.nodup_nil
  deviceGroup := fun _ listed => absurd listed List.not_mem_nil
  privilegeProfileId := List.nodup_nil
  privilegeProfileName := List.nodup_nil
  authorizationId := List.nodup_nil
  authorizationUserEdge := List.nodup_nil
  authorizationAdGroupEdge := List.nodup_nil
  authorizationUser := fun _ listed => absurd listed List.not_mem_nil
  authorizationAdGroup := fun _ listed => absurd listed List.not_mem_nil
  authorizationDeviceGroup := fun _ listed => absurd listed List.not_mem_nil
  authorizationProfile := fun _ listed => absurd listed List.not_mem_nil
  accountingDevice := fun _ listed => absurd listed List.not_mem_nil

/-- Every state of a run of a new installation meets the constraints. -/
theorem run_valid {app : Application} {labels : List (ApplicationHost fold × ApplicationEvent)}
    (ran : (Application.step fold).run .installed labels = some app) : app.tables.Valid fold :=
  Step.run_invariant (fun state => state.tables.Valid fold)
    (fun _ _ _ valid stepped => valid_step valid stepped) valid_installed ran

end Steps

end TacacsWeb.Verif
