import TacacsWeb.Library.Result
import TacacsWeb.Verif.MavisVerdicts
import TacacsWeb.Verif.PolicyAgreement

/-!
# The info endpoint and the effective permissions of a user

Both answer from the rule that wins for a user on a device group. The endpoint finds the user by
name, with Python's `lower()` on one side of the comparison and the database's on the other, and
commits an audit row before it answers. So it agrees with the view of a user exactly when the name
finds an enabled user to whom the same is granted and the row is one that the database takes.
-/

namespace TacacsWeb.Verif

open TacacsWeb.Library TacacsWeb.Library.UnitOfWork TacacsWeb.Model

/-! ## The statement -/

/-- The rows hold values that their columns can hold. -/
structure ColumnValues (db : Database) : Prop where
  /-- The ids of the users are integers. -/
  userId : ∀ user ∈ db.identity.users, integerFits (some (user.id : Int)) = true
  /-- The ids of the devices are integers. -/
  deviceId : ∀ device ∈ db.devices, integerFits (some (device.id : Int)) = true
  /-- The names of the devices have no NUL. -/
  deviceName : ∀ device ∈ db.devices, textFits none (some device.name) = true
  /-- The names of the profiles have no NUL. -/
  profileName : ∀ profile ∈ db.privilegeProfiles, textFits none (some profile.name) = true

/-- A lookup over its session, with a database that does what it is told. -/
def informed (fold : CaseFolding) (tables : AdminTables) (sequences : AdminSequences)
    (deviceOrder : RowOrder Device) (order : RowOrder Authorization) (req : InfoRequest) :
    Version AdminTables AdminChange × Ending InfoResponse :=
  let ran := (mavisInfoHandler fold deviceOrder order req).run adminEngine
    (.start tables sequences) []
  (ran.1.durable, ran.2)

/-- The endpoint accepts with a text exactly when the view of the user has an entry for the device
group whose winner renders to it, and refuses for want of an authorization exactly when the view
has no entry for the group. -/
def AgreesWithView (tables : AdminTables) (ending : Ending InfoResponse)
    (viewOrder : RowOrder Authorization) (user : User) (deviceGroupId : Nat) : Prop :=
  ∃ view, listEffectivePermissions tables.database viewOrder user.id = some view ∧
    (∀ text, ending = .answered ⟨.ack, none, some text⟩ ↔
      ∃ entry ∈ view, entry.deviceGroupId = deviceGroupId ∧
        WinnerRenders tables.database entry text) ∧
    (ending = .answered ⟨.nak, some "no_authorization", none⟩ ↔
      ¬∃ entry ∈ view, entry.deviceGroupId = deviceGroupId)

/-- The rules grant the user a profile that renders to the text. -/
def GrantsText (db : Database) (user : User) (deviceGroupId : Nat) (text : String) : Prop :=
  ∃ rule, Wins (db.identity.load user) deviceGroupId (allRules db) rule ∧
    renderTacprofile rule.privilegeProfile = text

/-- The name, lowered by Python, finds an enabled user by the name that the database lowers, and the
rules grant that one what they grant the user: it is the user or one who is granted the same. -/
def FindsEqual (fold : CaseFolding) (db : Database) (username : String) (user : User)
    (deviceGroupId : Nat) : Prop :=
  ∃ found ∈ db.identity.users, fold.sql found.samAccountName = fold.python username ∧
    found.enabled = true ∧
    ∀ text, GrantsText db found deviceGroupId text ↔ GrantsText db user deviceGroupId text

/-! ## The audit row -/

section Row

variable {fold : CaseFolding} {db : Database} {deviceOrder : RowOrder Device}
  {order : RowOrder Authorization} {req : InfoRequest}

/-- What a summary is made of has no NUL, so the summary has none. -/
theorem infoSummary_fits {device profile : String} (first : textFits none (some device) = true)
    (second : textFits none (some profile) = true) :
    textFits none (some ("device=" ++ device ++ ", profile=" ++ profile)) = true := by
  simp only [textFits, Option.all_some, Option.all_none, Bool.true_and, Bool.not_eq_true'] at *
  simp only [String.toList_append, List.contains_append, first, second, Bool.or_false]
  decide

/-- The target and the texts of a decision are values that the audit row can hold. -/
structure Recordable (resolved : ResolvedInfo) : Prop where
  /-- The device. -/
  target : integerFits (resolved.targetId.map fun id : Nat => (id : Int)) = true
  /-- The reason of a refusal. -/
  reason : textFits none resolved.reason = true
  /-- The summary of an acceptance. -/
  summary : textFits none resolved.summary = true

/-- A decision without a device is recordable when its reason is. -/
theorem refusal_recordable {response : InfoResponse} {reason : String}
    (fits : textFits none (some reason) = true) :
    Recordable ⟨response, some reason, none, none⟩ :=
  ⟨rfl, fits, rfl⟩

/-- Every decision is recordable. -/
theorem resolveInfo_recordable (values : ColumnValues db) (user : Option User) :
    Recordable (resolveInfo db deviceOrder order req user) := by
  cases user with
  | none => exact refusal_recordable (by decide)
  | some user =>
    cases enabled : user.enabled with
    | false =>
      simp only [resolveInfo, enabled, Bool.not_false, if_true]
      exact refusal_recordable (by decide)
    | true =>
      simp only [resolveInfo, enabled, Bool.not_true, Bool.false_eq_true, if_false]
      cases resolved : resolveDeviceForIp req.nasIp (deviceOrder.rows db.devices) with
      | none => exact refusal_recordable (by decide)
      | some device =>
        have listed : device ∈ db.devices :=
          (deviceOrder.perm _).mem_iff.mp (mem_of_resolveDeviceForIp resolved)
        have target := values.deviceId device listed
        simp only [EffectiveAuthorization.profile]
        cases winner : (evaluateForUser (db.identity.load user) device.deviceGroupId
          (db.selectAuthorizations order fun auth =>
            auth.deviceGroupId = device.deviceGroupId)).winning with
        | none =>
          have reason : textFits none (some "no_authorization") = true := by decide
          exact ⟨target, reason, rfl⟩
        | some rule =>
          have among : rule ∈ allRules db :=
            (mem_selectAuthorizations.mp (evaluateForUser_wins winner).1.1).1
          have stored := (joinProfile_some (mem_allRules.mp among).2).2
          exact ⟨target, rfl,
            infoSummary_fits (values.deviceName device listed) (values.profileName _ stored)⟩

/-- The database takes the audit row of a lookup exactly when it takes the name and the address. -/
theorem infoAudit_fits_iff (values : ColumnValues db) {user : Option User}
    (known : ∀ row, user = some row → row ∈ db.identity.users) :
    (infoAudit req user (resolveInfo db deviceOrder order req user)).fits = true ↔ req.Fits := by
  have actor : integerFits ((user.map User.id).map fun id : Nat => (id : Int)) = true := by
    cases user with
    | none => rfl
    | some row => exact values.userId row (known row rfl)
  have recordable := @resolveInfo_recordable db deviceOrder order req values user
  generalize resolveInfo db deviceOrder order req user = resolved at recordable
  have action : textFits (some 64) (some (if resolved.response.result = .ack then
      AuditAction.tacacsAuthzSucceeded else .tacacsAuthzFailed).code) = true := by
    split <;> decide
  have kind : textFits (some 64)
      (if resolved.targetId.isSome = true then some "device" else some "nas") = true := by
    split <;> decide
  have told : textFits none (if resolved.response.result = .ack then resolved.summary
      else resolved.reason) = true := by
    split
    · exact recordable.summary
    · exact recordable.reason
  have role : textFits (some 16) (some "tacacs_user") = true := by decide
  have method : textFits (some 16) (some "tacacs") = true := by decide
  have agent : textFits (some 512) none = true := rfl
  simp only [AuditLog.fits, infoAudit, actor, recordable.target, action, kind, told, role, method,
    agent, Bool.true_and, Bool.and_true, Bool.and_eq_true]
  exact ⟨fun fits => ⟨fits.1, fits.2⟩, fun fits => ⟨fits.username, fits.nasIp⟩⟩

/-- The row of a success is that of an acceptance. -/
theorem infoAudit_action_iff {user : Option User} {resolved : ResolvedInfo} :
    (infoAudit req user resolved).action = .tacacsAuthzSucceeded ↔
      resolved.response.result = .ack := by
  unfold infoAudit
  by_cases accepted : resolved.response.result = .ack
  · rw [if_pos accepted]
    exact iff_of_true rfl accepted
  · rw [if_neg accepted]
    apply iff_of_false _ accepted
    intro claimed
    cases claimed

end Row

/-! ## The transaction -/

section Transaction

variable {fold : CaseFolding} {tables : AdminTables} {sequences : AdminSequences}
  {deviceOrder : RowOrder Device} {order : RowOrder Authorization} {req : InfoRequest}

/-- A lookup commits its audit row and answers when the database takes the row, and raises
otherwise. -/
theorem informed_of_found {user : Option User}
    (found : findByUsername fold tables.identity.users req.username = .ok user) :
    informed fold tables sequences deviceOrder order req =
      committedAnswer tables
        (infoAudit req user (resolveInfo tables.database deviceOrder order req user))
        (resolveInfo tables.database deviceOrder order req user).response := by
  have here : (Session.start tables sequences :
    Session AdminTables AdminSequences AdminChange).working.tables = tables := rfl
  simp only [informed, mavisInfoHandler, Script.run, List.headD_nil, List.tail_nil, here, found]
  exact run_committedAnswer

/-- What the session answers is what the handler computes. -/
theorem informed_answered_iff {response : InfoResponse} :
    (informed fold tables sequences deviceOrder order req).2 = .answered response ↔
      ∃ row, mavisInfo fold tables.database deviceOrder order req = .ok (response, row) := by
  have lookup : findByUsername fold tables.database.identity.users req.username =
    findByUsername fold tables.identity.users req.username := rfl
  cases found : findByUsername fold tables.identity.users req.username with
  | error error =>
    have here : (Session.start tables sequences :
      Session AdminTables AdminSequences AdminChange).working.tables = tables := rfl
    simp only [informed, mavisInfoHandler, Script.run, here, found, mavisInfo, lookup]
    simp
  | ok user =>
    rw [informed_of_found found]
    simp only [mavisInfo, lookup, found, committedAnswer]
    by_cases fits : (infoAudit req user
      (resolveInfo tables.database deviceOrder order req user)).fits = true
    · simp [fits]
    · simp [fits]

end Transaction

/-! ## Agreement -/

section Agreement

variable {fold : CaseFolding} {tables : AdminTables} {sequences : AdminSequences}
  {deviceOrder : RowOrder Device} {order : RowOrder Authorization} {req : InfoRequest}
  {device : Device}

/-- What a user is granted is what the endpoint makes of the rule that wins. -/
theorem grantsText_iff {db : Database} (valid : db.Valid fold) {user : User} {text : String}
    {deviceGroupId : Nat} :
    GrantsText db user deviceGroupId text ↔
      infoAnswer (evaluateForUser (db.identity.load user) deviceGroupId
        (db.selectAuthorizations order fun auth =>
          auth.deviceGroupId = deviceGroupId)).winning = ⟨.ack, none, some text⟩ := by
  have wins := info_winning valid order (db.identity.load user) deviceGroupId
  unfold GrantsText
  simp only [← wins]
  generalize (evaluateForUser (db.identity.load user) deviceGroupId _).winning = outcome
  cases outcome with
  | none => simp [infoAnswer]
  | some winner => simp [infoAnswer]

/-- The endpoint refuses for want of an authorization when nothing is granted. -/
theorem grantsNothing_iff {db : Database} (valid : db.Valid fold) {user : User}
    {deviceGroupId : Nat} :
    (¬∃ text, GrantsText db user deviceGroupId text) ↔
      infoAnswer (evaluateForUser (db.identity.load user) deviceGroupId
        (db.selectAuthorizations order fun auth =>
          auth.deviceGroupId = deviceGroupId)).winning =
            ⟨.nak, some "no_authorization", none⟩ := by
  simp only [@grantsText_iff fold order db valid]
  generalize (evaluateForUser (db.identity.load user) deviceGroupId _).winning = outcome
  cases outcome with
  | none => simp [infoAnswer]
  | some winner => simp [infoAnswer]

/-- The view of a user shows what the user is granted. -/
theorem view_shows {db : Database} (valid : db.Valid fold) {user : User}
    (listed : user ∈ db.identity.users) (viewOrder : RowOrder Authorization)
    (deviceGroupId : Nat) :
    ∃ view, listEffectivePermissions db viewOrder user.id = some view ∧
      (∀ text, (∃ entry ∈ view, entry.deviceGroupId = deviceGroupId ∧
        WinnerRenders db entry text) ↔ GrantsText db user deviceGroupId text) ∧
      ((∃ entry ∈ view, entry.deviceGroupId = deviceGroupId) ↔
        ∃ text, GrantsText db user deviceGroupId text) := by
  obtain ⟨view, shown⟩ := listEffectivePermissions_isSome viewOrder listed
  have entries := exists_entry_iff valid listed shown deviceGroupId
  refine ⟨view, shown, fun text => ?_, ?_⟩
  · exact entries _ (fun winner => renderTacprofile winner.privilegeProfile = text)
      fun winner inRules entry shows => winnerRenders_iff valid inRules shows text
  · have present := entries (fun _ => True) (fun _ => True) fun _ _ _ _ => Iff.rfl
    simp only [and_true] at present
    rw [present]
    constructor
    · rintro ⟨winner, wins⟩
      exact ⟨_, winner, wins, rfl⟩
    · rintro ⟨text, winner, wins, -⟩
      exact ⟨winner, wins⟩

/-- The endpoint answers for the enabled user that the name finds, when the audit row fits. -/
theorem informed_found (valid : tables.database.Valid fold) (values : ColumnValues tables.database)
    {found : User} (listed : found ∈ tables.database.identity.users)
    (named : fold.sql found.samAccountName = fold.python req.username)
    (enabled : found.enabled = true)
    (resolved : resolveDeviceForIp req.nasIp (deviceOrder.rows tables.database.devices) =
      some device) (fits : req.Fits) :
    (informed fold tables sequences deviceOrder order req).2 =
      .answered (infoAnswer (evaluateForUser (tables.database.identity.load found)
        device.deviceGroupId (tables.database.selectAuthorizations order fun auth =>
          auth.deviceGroupId = device.deviceGroupId)).winning) := by
  have lookup : findByUsername fold tables.identity.users req.username = .ok (some found) :=
    findByUsername_of_unique valid.identity.lowerSamAccountName listed named
  have taken : (infoAudit req (some found)
      (resolveInfo tables.database deviceOrder order req (some found))).fits = true := by
    apply (infoAudit_fits_iff values _).mpr fits
    intro row same
    exact Option.some.inj same ▸ listed
  rw [informed_of_found lookup, committedAnswer, if_pos taken,
    resolveInfo_response enabled resolved]

/-- An acceptance and a refusal for want of an authorization are answers for an enabled user that
the name finds, with an audit row that fits. -/
theorem found_of_informed (values : ColumnValues tables.database) {response : InfoResponse}
    (decided : response.result = .ack ∨ response.reason = some "no_authorization")
    (ending : (informed fold tables sequences deviceOrder order req).2 = .answered response) :
    req.Fits ∧ ∃ found ∈ tables.database.identity.users,
      fold.sql found.samAccountName = fold.python req.username ∧ found.enabled = true := by
  obtain ⟨row, handled⟩ := informed_answered_iff.mp ending
  unfold mavisInfo at handled
  cases lookup : findByUsername fold tables.database.identity.users req.username with
  | error error =>
    rw [lookup] at handled
    cases handled
  | ok user =>
    rw [lookup] at handled
    obtain ⟨taken, same⟩ := ite_eq_ok.mp handled
    have known : ∀ row, user = some row → row ∈ tables.database.identity.users := by
      intro row same
      rw [same] at lookup
      exact (findByUsername_some lookup).1
    refine ⟨(infoAudit_fits_iff values known).mp taken, ?_⟩
    obtain rfl := congrArg Prod.fst same
    cases user with
    | none => simp [resolveInfo] at decided
    | some found =>
      obtain ⟨listed, named⟩ := findByUsername_some lookup
      refine ⟨found, listed, named, ?_⟩
      cases enabled : found.enabled with
      | true => rfl
      | false => simp [resolveInfo, enabled] at decided

/-- For a request from an address of a device group, the endpoint agrees with the view of a user,
whatever order the queries return their rows in, exactly when the audit row of the lookup fits and
the name finds the user, or an enabled user to whom the same is granted. -/
theorem agreesWithView_iff (valid : tables.database.Valid fold)
    (values : ColumnValues tables.database) {user : User}
    (listed : user ∈ tables.database.identity.users) (viewOrder : RowOrder Authorization)
    (resolved : resolveDeviceForIp req.nasIp (deviceOrder.rows tables.database.devices) =
      some device) :
    AgreesWithView tables (informed fold tables sequences deviceOrder order req).2 viewOrder user
        device.deviceGroupId ↔
      req.Fits ∧
        FindsEqual fold tables.database req.username user device.deviceGroupId := by
  obtain ⟨view, shown, texts, present⟩ := view_shows valid listed viewOrder device.deviceGroupId
  constructor
  · rintro ⟨same, sameShown, accepts, refuses⟩
    obtain rfl : same = view := Option.some.inj (sameShown.symm.trans shown)
    simp only [texts] at accepts
    rw [present] at refuses
    have answered : ∃ response : InfoResponse,
        (response.result = .ack ∨ response.reason = some "no_authorization") ∧
          (informed fold tables sequences deviceOrder order req).2 = .answered response := by
      by_cases granted : ∃ text, GrantsText tables.database user device.deviceGroupId text
      · obtain ⟨text, grants⟩ := granted
        exact ⟨_, .inl rfl, (accepts text).mpr grants⟩
      · exact ⟨_, .inr rfl, refuses.mpr granted⟩
    obtain ⟨response, decided, ending⟩ := answered
    obtain ⟨fits, found, foundListed, named, enabled⟩ := found_of_informed values decided ending
    refine ⟨fits, found, foundListed, named, enabled, fun text => ?_⟩
    rw [← accepts text, informed_found valid values foundListed named enabled resolved fits,
      @grantsText_iff fold order _ valid]
    simp
  · rintro ⟨fits, found, foundListed, named, enabled, same⟩
    refine ⟨view, shown, fun text => ?_, ?_⟩
    · rw [texts, ← same, informed_found valid values foundListed named enabled resolved fits,
        @grantsText_iff fold order _ valid]
      simp
    · rw [present, informed_found valid values foundListed named enabled resolved fits]
      simp only [← same]
      rw [@grantsNothing_iff fold order _ valid]
      simp

end Agreement

/-! ## A name with a final sigma -/

/-- The tables around a database. -/
def tablesOf (db : Database) : AdminTables where
  identity := db.identity
  deviceGroups := db.deviceGroups
  devices := db.devices
  privilegeProfiles := db.privilegeProfiles
  authorizations := db.authorizations
  accountingDeviceIds := []
  systemSettings := db.systemSettings
  systemSecrets := ∅
  lastSyncResult := none
  localAdmin := none
  auditLog := []

/-- The sample holds values of its columns. -/
theorem sampleDatabase_values : ColumnValues sampleDatabase where
  userId := by decide
  deviceId := by decide
  deviceName := by decide
  profileName := by decide

/-- The user of the sample. -/
def janRow : User := ⟨1, "jan", some "g1", "CN=jan", none, none, true, none⟩

/-- Jan, written with a capital, on the switch of the sample. -/
def janAsks : InfoRequest := ⟨"Jan", "10.0.0.7", by decide, by decide⟩

/-- The agreement at the sample, with the queries returning rows in opposite orders. -/
theorem agreesWithView_sample :
    AgreesWithView (tablesOf sampleDatabase) (informed .ascii (tablesOf sampleDatabase)
        ⟨2, 2, 3, 4⟩ (.asStored _) (.asStored _) janAsks).2 (.reversed _) janRow 1 ↔
      janAsks.Fits ∧ FindsEqual .ascii sampleDatabase "Jan" janRow 1 :=
  @agreesWithView_iff .ascii (tablesOf sampleDatabase) ⟨2, 2, 3, 4⟩ (.asStored _) (.asStored _)
    janAsks ⟨1, "sw", "10.0.0.0/24", 1, none, none, none, none⟩ sampleDatabase_valid
    sampleDatabase_values janRow (by decide) (.reversed _) (by decide)

/-- The lower-case letter of a Greek capital, and of an ASCII one. -/
def lowerGreek (character : Char) : Char :=
  if 'Α' ≤ character ∧ character ≤ 'Ω' then Char.ofNat (character.toNat + 32)
  else character.toLower

/-- The last letter of a word, where a sigma has a form of its own. -/
def finalSigma : List Char → List Char
  | [] => []
  | [last] => [if last = 'σ' then 'ς' else last]
  | first :: rest => first :: finalSigma rest

/-- The two lower-casing functions on a Greek word: only Python's knows the final sigma. -/
def greekFolding : CaseFolding where
  sql text := String.ofList (text.toList.map lowerGreek)
  python text := String.ofList (finalSigma (text.toList.map lowerGreek))

/-- A user with a Greek name. -/
def giannisRow : User := ⟨1, "ΓΙΑΝΝΗΣ", some "g1", "CN=giannis", none, none, true, none⟩

/-- The user may read on one switch. -/
def greekDatabase : Database where
  identity := ⟨[giannisRow], [], [], 2, 1⟩
  deviceGroups := [⟨1, "core", none⟩]
  devices := [⟨1, "sw", "10.0.0.0/24", 1, none, none, none, none⟩]
  privilegeProfiles := [readProfile]
  authorizations := [⟨1, some 1, none, 1, 1, Bool.false_ne_true.symm⟩]
  systemSettings := ∅

/-- The tables meet the constraints of the schema. -/
theorem greekDatabase_valid : greekDatabase.Valid greekFolding where
  identity := ⟨by decide, by decide, by decide, by decide, by decide, by decide, by decide,
    by decide, by decide⟩
  privilegeProfileId := by decide
  authorizationId := by decide
  authorizationProfile := by decide

/-- The tables hold values of their columns. -/
theorem greekDatabase_values : ColumnValues greekDatabase where
  userId := by decide
  deviceId := by decide
  deviceName := by decide
  profileName := by decide

/-- The user's own name on that switch. -/
def giannisAsks : InfoRequest := ⟨"ΓΙΑΝΝΗΣ", "10.0.0.7", by decide, by decide⟩

/-- Nobody is found for the name of the user, whose view has an entry for the device group. -/
theorem finalSigma_disagrees :
    ¬ ∀ (fold : CaseFolding) (tables : AdminTables) (sequences : AdminSequences)
        (deviceOrder : RowOrder Device) (order viewOrder : RowOrder Authorization)
        (req : InfoRequest) (user : User) (device : Device),
      tables.database.Valid fold → ColumnValues tables.database →
        user ∈ tables.database.identity.users → user.enabled = true →
          req.username = user.samAccountName →
            resolveDeviceForIp req.nasIp (deviceOrder.rows tables.database.devices) =
                some device →
              AgreesWithView tables (informed fold tables sequences deviceOrder order req).2
                viewOrder user device.deviceGroupId := by
  intro claimed
  obtain ⟨view, shown, accepts, refuses⟩ := claimed greekFolding (tablesOf greekDatabase)
    ⟨2, 2, 2, 2⟩ (.asStored _) (.asStored _) (.asStored _) giannisAsks giannisRow
    ⟨1, "sw", "10.0.0.0/24", 1, none, none, none, none⟩ greekDatabase_valid greekDatabase_values
    (by decide) rfl rfl (by decide)
  have ending : (informed greekFolding (tablesOf greekDatabase) ⟨2, 2, 2, 2⟩ (.asStored _)
      (.asStored _) giannisAsks).2 = .answered ⟨.nfd, some "unknown_user", none⟩ := by
    decide +kernel
  rw [ending] at accepts refuses
  have entry : ∃ entry ∈ view, entry.deviceGroupId = 1 := by
    by_contra none
    have refused := refuses.mpr none
    cases refused
  obtain ⟨read, granted⟩ : ∃ text, ∃ entry ∈ view, entry.deviceGroupId = 1 ∧
      WinnerRenders greekDatabase entry text := by
    obtain ⟨other, sameShown, texts, present⟩ := view_shows greekDatabase_valid
      (show giannisRow ∈ greekDatabase.identity.users by decide) (.asStored _) 1
    obtain rfl : other = view := Option.some.inj (sameShown.symm.trans shown)
    obtain ⟨text, grants⟩ := present.mp entry
    exact ⟨text, (texts text).mpr grants⟩
  have accepted := (accepts read).mpr granted
  cases accepted

end TacacsWeb.Verif
