import TacacsWeb.Library.Table
import TacacsWeb.Model.EffectivePermissions
import TacacsWeb.Model.InternalMavis

/-!
# The live decision and the displayed permissions

`/internal/mavis/info` loads all rules of one device group and lets the policy filter by
principal; the effective-permissions view loads all rules of the principals of one user and
splits them by device group. Both are shown to pick the rule that wins among all rules of
the database, whatever order their queries return the rows in.
-/

namespace TacacsWeb.Verif

open TacacsWeb.Library TacacsWeb.Model

/-- The rule behind an entry grants a profile that renders to the text. -/
def WinnerRenders (db : Database) (entry : EffectivePermissionRead) (text : String) : Prop :=
  ∃ authorization ∈ db.authorizations, authorization.id = entry.winning.authorizationId ∧
    ∃ profile ∈ db.privilegeProfiles, profile.id = authorization.privilegeProfileId ∧
      renderTacprofile profile = text

/-! ## The winner of a query -/

variable {fold : CaseFolding} {db : Database}

/-- Rules of the database are told apart by their ids. -/
theorem allRules_ext (valid : db.Valid fold) {first second : LoadedAuthorization}
    (inFirst : first ∈ allRules db) (inSecond : second ∈ allRules db)
    (same : first.id = second.id) : first = second := by
  obtain ⟨firstListed, firstJoined⟩ := mem_allRules.mp inFirst
  obtain ⟨secondListed, secondJoined⟩ := mem_allRules.mp inSecond
  have rows := List.inj_on_of_nodup_map valid.authorizationId firstListed secondListed same
  rw [rows] at firstJoined
  exact Option.some.inj (firstJoined.symm.trans secondJoined)

/-- A list holding the applying rules of the database has the database's winner. -/
theorem winning_eq_of_applying (valid : db.Valid fold) {user : LoadedUser} {deviceGroupId : Nat}
    {rules : List LoadedAuthorization} (within : ∀ rule ∈ rules, rule ∈ allRules db)
    (applying : ∀ rule ∈ allRules db, Applies user deviceGroupId rule → rule ∈ rules)
    (winner : LoadedAuthorization) :
    (evaluateForUser user deviceGroupId rules).winning = some winner ↔
      Wins user deviceGroupId (allRules db) winner := by
  rw [evaluateForUser_winning fun a inA b inB => allRules_ext valid (within a inA) (within b inB)]
  exact wins_congr fun rule applies => ⟨within rule, fun listed => applying rule listed applies⟩

/-- The live decision picks the database's winner. -/
theorem info_winning (valid : db.Valid fold) (order : RowOrder Authorization) (user : LoadedUser)
    (deviceGroupId : Nat) (winner : LoadedAuthorization) :
    (evaluateForUser user deviceGroupId (db.selectAuthorizations order fun auth =>
      auth.deviceGroupId = deviceGroupId)).winning = some winner ↔
      Wins user deviceGroupId (allRules db) winner := by
  apply winning_eq_of_applying valid
  · exact fun rule found => (mem_selectAuthorizations.mp found).1
  · exact fun rule listed applies =>
      mem_selectAuthorizations.mpr ⟨listed, by simpa using applies.1⟩

/-- A rule that applies to the user meets the condition of the view's query. -/
theorem couldMatch_of_applies {user : LoadedUser} {deviceGroupId : Nat}
    {rule : LoadedAuthorization} (applies : Applies user deviceGroupId rule) :
    couldMatch user.id (user.groups.map ADGroup.id) rule.toAuthorization = true := by
  unfold couldMatch
  rcases applies.2 with direct | ⟨group, member, principal⟩
  · simp [direct]
  · rw [principal]
    simp only [Bool.or_eq_true, List.contains_iff_mem]
    exact .inr (List.mem_map_of_mem member)

/-- The outcome that the view evaluates for one device group. -/
def viewOutcome (db : Database) (order : RowOrder Authorization) (user : LoadedUser)
    (deviceGroupId : Nat) : EffectiveAuthorization :=
  evaluateForUser user deviceGroupId ((splitByGroup (db.selectAuthorizations order
    (couldMatch user.id (user.groups.map ADGroup.id)))).getD deviceGroupId [])

/-- The view's rules for one device group have the database's winner. -/
theorem view_winning (valid : db.Valid fold) (order : RowOrder Authorization) (user : LoadedUser)
    (deviceGroupId : Nat) (winner : LoadedAuthorization) :
    (viewOutcome db order user deviceGroupId).winning = some winner ↔
      Wins user deviceGroupId (allRules db) winner := by
  rw [viewOutcome, splitByGroup_getD]
  apply winning_eq_of_applying valid
  · exact fun rule found => (mem_selectAuthorizations.mp (List.mem_filter.mp found).1).1
  · intro rule listed applies
    rw [List.mem_filter]
    exact ⟨mem_selectAuthorizations.mpr ⟨listed, couldMatch_of_applies applies⟩,
      by simpa using applies.1⟩

/-! ## The entries of the view -/

/-- An entry of the view for a device group shows the winner of that group's rules. -/
theorem mem_view {view : List EffectivePermissionRead} {order : RowOrder Authorization}
    {user : User} (unique : (db.identity.users.map User.id).Nodup)
    (listed : user ∈ db.identity.users)
    (shown : listEffectivePermissions db order user.id = some view) (deviceGroupId : Nat)
    (entry : EffectivePermissionRead) :
    entry ∈ view ∧ entry.deviceGroupId = deviceGroupId ↔
      (viewOutcome db order (db.identity.load user) deviceGroupId).winning.map (fun winning =>
        ⟨deviceGroupId, deviceGroupName db deviceGroupId, toCandidate winning,
          (viewOutcome db order (db.identity.load user) deviceGroupId).overridden.map
            toCandidate⟩) = some entry := by
  have found : db.identity.users.find? (fun row => row.id = user.id) = some user :=
    (find_key_eq_some_iff unique).mpr ⟨listed, rfl⟩
  change _ ↔ permissionEntry db (db.identity.load user) (deviceGroupId, (splitByGroup
    (db.selectAuthorizations order (couldMatch user.id
      ((db.identity.load user).groups.map ADGroup.id)))).getD deviceGroupId []) = some entry
  simp only [listEffectivePermissions, found, Option.some.injEq] at shown
  subst shown
  rw [List.mem_insertionSort, List.mem_filterMap]
  constructor
  · rintro ⟨⟨⟨group, rules⟩, inSplit, made⟩, rfl⟩
    have named : entry.deviceGroupId = group := by
      simp only [permissionEntry, Option.map_eq_some_iff] at made
      obtain ⟨winner, _, rfl⟩ := made
      rfl
    rw [named, Dict.getD, Dict.get?_eq_some_iff.mpr inSplit]
    exact made
  · intro made
    have named : entry.deviceGroupId = deviceGroupId := by
      simp only [permissionEntry, Option.map_eq_some_iff] at made
      obtain ⟨winner, _, rfl⟩ := made
      rfl
    refine ⟨?_, named⟩
    generalize splitByGroup _ = split at made
    cases present : split.get? deviceGroupId with
    | none =>
      -- A group without rules has no winner, so it made no entry.
      rw [Dict.getD, present] at made
      cases made
    | some rules =>
      rw [Dict.getD, present] at made
      exact ⟨(deviceGroupId, rules), Dict.get?_eq_some_iff.mp present, made⟩

/-- The entry of a winner shows what the winner's profile renders to. -/
theorem winnerRenders_iff (valid : db.Valid fold) {winner : LoadedAuthorization}
    (listed : winner ∈ allRules db) {entry : EffectivePermissionRead}
    (shows : entry.winning = toCandidate winner) (text : String) :
    WinnerRenders db entry text ↔ renderTacprofile winner.privilegeProfile = text := by
  obtain ⟨rowListed, joined⟩ := mem_allRules.mp listed
  have profileListed := (joinProfile_some joined).2
  unfold WinnerRenders
  rw [shows]
  constructor
  · rintro ⟨row, rowPresent, sameRow, profile, profilePresent, sameProfile, rendered⟩
    obtain rfl := List.inj_on_of_nodup_map valid.authorizationId rowPresent rowListed sameRow
    have profiles := List.inj_on_of_nodup_map valid.privilegeProfileId profilePresent profileListed
      (sameProfile.trans winner.joined.symm)
    rw [← profiles]
    exact rendered
  · intro rendered
    exact ⟨_, rowListed, rfl, _, profileListed, winner.joined, rendered⟩

/-- The view exists for a user of the table. -/
theorem listEffectivePermissions_isSome (order : RowOrder Authorization) {user : User}
    (listed : user ∈ db.identity.users) :
    ∃ view, listEffectivePermissions db order user.id = some view := by
  unfold listEffectivePermissions
  split
  · rename_i missing
    simpa using List.find?_eq_none.mp missing user listed
  · exact ⟨_, rfl⟩

/-- The view shows an entry for a device group exactly for the group's winner. -/
theorem exists_entry_iff (valid : db.Valid fold) {view : List EffectivePermissionRead}
    {order : RowOrder Authorization} {user : User} (listed : user ∈ db.identity.users)
    (shown : listEffectivePermissions db order user.id = some view) (deviceGroupId : Nat)
    (holds : EffectivePermissionRead → Prop) (granted : LoadedAuthorization → Prop)
    (agree : ∀ winner ∈ allRules db, ∀ entry : EffectivePermissionRead,
      entry.winning = toCandidate winner → (holds entry ↔ granted winner)) :
    (∃ entry ∈ view, entry.deviceGroupId = deviceGroupId ∧ holds entry) ↔
      ∃ winner, Wins (db.identity.load user) deviceGroupId (allRules db) winner ∧
        granted winner := by
  have entries := mem_view valid.identity.userId listed shown deviceGroupId
  have wins := view_winning valid order (db.identity.load user) deviceGroupId
  constructor
  · rintro ⟨entry, inView, named, met⟩
    obtain ⟨winner, outcome, rfl⟩ :=
      Option.map_eq_some_iff.mp ((entries entry).mp ⟨inView, named⟩)
    have winnerWins := (wins winner).mp outcome
    exact ⟨winner, winnerWins, (agree winner winnerWins.1.1 _ rfl).mp met⟩
  · rintro ⟨winner, winnerWins, met⟩
    have outcome := (wins winner).mpr winnerWins
    obtain ⟨inView, named⟩ := (entries _).mpr (congrArg (Option.map _) outcome)
    exact ⟨_, inView, named, (agree winner winnerWins.1.1 _ rfl).mpr met⟩

/-! ## The live decision -/

/-- The response of the info endpoint for the rule that wins. -/
def infoAnswer : Option LoadedAuthorization → InfoResponse
  | none => ⟨.nak, some "no_authorization", none⟩
  | some winner => ⟨.ack, none, some (renderTacprofile winner.privilegeProfile)⟩

/-- For an enabled user at a resolved address the response follows from the winner. -/
theorem resolveInfo_response {deviceOrder : RowOrder Device}
    {order : RowOrder Authorization} {req : InfoRequest} {user : User} {device : Device}
    (enabled : user.enabled = true)
    (resolved : resolveDeviceForIp req.nasIp (deviceOrder.rows db.devices) = some device) :
    (resolveInfo db deviceOrder order req (some user)).response =
      infoAnswer (evaluateForUser (db.identity.load user) device.deviceGroupId
        (db.selectAuthorizations order fun auth =>
          auth.deviceGroupId = device.deviceGroupId)).winning := by
  simp only [resolveInfo, enabled, resolved, EffectiveAuthorization.profile, Bool.not_true,
    Bool.false_eq_true, ↓reduceIte]
  cases (evaluateForUser (db.identity.load user) device.deviceGroupId _).winning <;> rfl

/-- A profile that grants level one. -/
def readProfile : PrivilegeProfile := ⟨1, "read", 1, [], [], ∅, none, by decide⟩

/-- One user with a direct rule and two group rules of equal level on one device group. -/
def sampleDatabase : Database where
  identity := ⟨[⟨1, "jan", some "g1", "CN=jan", none, none, true, none⟩],
    [⟨1, "S-1", "CN=net", none, none⟩, ⟨2, "S-2", "CN=ops", none, none⟩],
    [⟨1, 1⟩, ⟨1, 2⟩], 2, 3⟩
  deviceGroups := [⟨1, "core", none⟩]
  devices := [⟨1, "sw", "10.0.0.0/24", 1, none, none, none, none⟩]
  privilegeProfiles := [readProfile, ⟨2, "admin", 15, [], [], ∅, none, by decide⟩]
  authorizations := [⟨1, none, some 1, 1, 2, by decide⟩, ⟨2, none, some 2, 1, 2, by decide⟩,
    ⟨3, some 1, none, 1, 1, by decide⟩]
  systemSettings := ∅

/-- The sample meets the constraints of the schema. -/
theorem sampleDatabase_valid : sampleDatabase.Valid .ascii where
  identity := ⟨by decide, by decide, by decide, by decide, by decide, by decide, by decide,
    by decide, by decide⟩
  privilegeProfileId := by decide
  authorizationId := by decide
  authorizationProfile := by decide

end TacacsWeb.Verif
