import Mathlib.Data.List.Pairwise
import TacacsWeb.Model.LdapSync

/-!
# User rows under a sync

The row that a record is matched with, the row it writes, and the unique indexes of `user`
before and after it.
-/

namespace TacacsWeb.Verif

open TacacsWeb.Library TacacsWeb.Model

variable {fold : CaseFolding} {tables after : IdentityTables} {now : Nat}

/-! ## The constraints of a user row -/

/-- No unique index of `user` sees these two rows as equal. -/
structure Distinct (fold : CaseFolding) (left right : User) : Prop where
  /-- Their names differ. -/
  samAccountName : left.samAccountName ≠ right.samAccountName
  /-- Their lowered names differ. -/
  lower : fold.sql left.samAccountName ≠ fold.sql right.samAccountName
  /-- They carry no GUID in common. -/
  adObjectGuid : ∀ guid, left.adObjectGuid = some guid → right.adObjectGuid ≠ some guid

/-- The order of the two rows does not matter. -/
theorem Distinct.symm {left right : User} (distinct : Distinct fold left right) :
    Distinct fold right left :=
  ⟨distinct.samAccountName.symm, distinct.lower.symm,
    fun guid first second => distinct.adObjectGuid guid second first⟩

instance : Std.Symm (Distinct fold) := ⟨fun _ _ distinct => distinct.symm⟩

/-- The unique columns of the rows, as a relation between any two of them. -/
theorem pairwise_distinct_iff {users : List User} :
    users.Pairwise (Distinct fold) ↔ (users.map User.samAccountName).Nodup ∧
      (users.map fun user => fold.sql user.samAccountName).Nodup ∧
      (users.filterMap User.adObjectGuid).Nodup := by
  simp only [List.Nodup, List.pairwise_map, List.pairwise_filterMap]
  constructor
  · intro distinct
    refine ⟨distinct.imp fun both => both.samAccountName, distinct.imp fun both => both.lower,
      distinct.imp ?_⟩
    rintro left right both guid first other second rfl
    exact both.adObjectGuid guid first second
  · rintro ⟨names, lowered, guids⟩
    refine ((names.and lowered).and guids).imp fun both => ?_
    exact ⟨both.1.1, both.1.2, fun guid left right => both.2 guid left guid right rfl⟩

/-- The rows of valid tables are distinct. -/
theorem users_distinct (valid : tables.Valid fold) : tables.users.Pairwise (Distinct fold) :=
  pairwise_distinct_iff.mpr ⟨valid.samAccountName, valid.lowerSamAccountName, valid.adObjectGuid⟩

/-- Valid tables stay valid with other users that meet the constraints of `user`. -/
theorem valid_withUsers {users : List User} {nextUserId : Nat} (valid : tables.Valid fold)
    (ids : (users.map User.id).Nodup) (distinct : users.Pairwise (Distinct fold))
    (sequence : ∀ user ∈ users, user.id < nextUserId) :
    ({ tables with users := users, nextUserId := nextUserId } : IdentityTables).Valid fold :=
  have columns := pairwise_distinct_iff.mp distinct
  { valid with
    userId := ids
    samAccountName := columns.1
    lowerSamAccountName := columns.2.1
    adObjectGuid := columns.2.2
    userSequence := sequence }

/-- Two rows of valid tables are one when they carry one GUID. -/
theorem eq_of_guid (valid : tables.Valid fold) {left right : User} {guid : String}
    (first : left ∈ tables.users) (second : right ∈ tables.users)
    (leftGuid : left.adObjectGuid = some guid) (rightGuid : right.adObjectGuid = some guid) :
    left = right := by
  by_contra different
  have apart := (users_distinct valid).forall first second different
  exact apart.adObjectGuid guid leftGuid rightGuid

/-- Two rows of valid tables are one when their lowered names are. -/
theorem eq_of_lower (valid : tables.Valid fold) {left right : User} (first : left ∈ tables.users)
    (second : right ∈ tables.users)
    (same : fold.sql left.samAccountName = fold.sql right.samAccountName) : left = right :=
  List.inj_on_of_nodup_map valid.lowerSamAccountName first second same

/-- No row with another id meets a test. -/
theorem not_any_others {users : List User} {id : Nat} {test : User → Bool} :
    ¬(users.filter fun other => other.id ≠ id).any test ↔
      ∀ other ∈ users, other.id ≠ id → ¬test other := by
  simp only [List.any_filter, List.any_eq_true, not_exists, not_and, Bool.and_eq_true,
    decide_eq_true_eq]

/-- A flush passes when the row is distinct from those with other ids. -/
theorem checkUserUnique_eq_ok {users : List User} {user : User} :
    checkUserUnique fold users user = .ok () ↔
      ∀ other ∈ users, other.id ≠ user.id → Distinct fold other user := by
  simp only [checkUserUnique]
  constructor
  · intro passed other listed different
    split at passed
    · cases passed
    · rename_i names
      split at passed
      · cases passed
      · rename_i lowered
        split at passed
        · cases passed
        · rename_i guids
          refine ⟨fun same => not_any_others.mp names other listed different (decide_eq_true same),
            fun same => not_any_others.mp lowered other listed different (decide_eq_true same),
            fun guid carried again => guids ?_⟩
          have shared : (users.filter fun other => other.id ≠ user.id).any
              fun other => other.adObjectGuid = user.adObjectGuid := by
            by_contra nobody
            exact not_any_others.mp nobody other listed different
              (decide_eq_true (carried.trans again.symm))
          rw [shared, again]
          rfl
  · intro distinct
    have names : ¬(users.filter fun other => other.id ≠ user.id).any
        fun other => other.samAccountName = user.samAccountName :=
      not_any_others.mpr fun other listed different same =>
        (distinct other listed different).samAccountName (of_decide_eq_true same)
    have lowered : ¬(users.filter fun other => other.id ≠ user.id).any
        fun other => fold.sql other.samAccountName = fold.sql user.samAccountName :=
      not_any_others.mpr fun other listed different same =>
        (distinct other listed different).lower (of_decide_eq_true same)
    have guids : ¬(user.adObjectGuid.isSome && (users.filter fun other => other.id ≠ user.id).any
        fun other => other.adObjectGuid = user.adObjectGuid) := by
      rw [Bool.and_eq_true]
      rintro ⟨carried, shared⟩
      obtain ⟨guid, given⟩ := Option.isSome_iff_exists.mp carried
      refine not_any_others.mpr (fun other listed different same => ?_) shared
      have equal := of_decide_eq_true same
      exact (distinct other listed different).adObjectGuid guid (equal.trans given) given
    rw [if_neg names, if_neg lowered, if_neg guids]

/-! ## The row of a record -/

/-- A GUID that is not empty is true. -/
theorem guid_of_ne {record : ADUserRecord} {guid : String} (nonempty : guid ≠ "")
    (given : record.adObjectGuid = some guid) : record.guid = some guid := by
  simp [ADUserRecord.guid, given, nonempty]

/-- At most one selected row, and it is what the query returns. -/
theorem syncOneOrNone_eq_ok {Row : Type} {rows : List Row} {found : Option Row} :
    syncOneOrNone rows = .ok found ↔ rows = found.toList := by
  match rows with
  | [] => cases found <;> simp [syncOneOrNone, scalarOneOrNone, Except.mapError]
  | [row] => cases found <;> simp [syncOneOrNone, scalarOneOrNone, Except.mapError]
  | first :: second :: rest =>
    cases found <;> simp [syncOneOrNone, scalarOneOrNone, Except.mapError]

/-- The fallback finds a row by its lowered name. -/
theorem findByName_some {users : List User} {record : ADUserRecord} {user : User}
    (found : findByName fold users record = some user) :
    user ∈ users ∧ fold.sql user.samAccountName = fold.python record.samAccountName := by
  have candidate : user ∈ (users.filter fun user =>
      fold.sql user.samAccountName = fold.python record.samAccountName).insertionSort
        fun left right => left.id ≤ right.id := by
    simp only [findByName, Option.or_eq_some_iff] at found
    rcases found with exact | ⟨-, first⟩
    · exact List.mem_of_find?_eq_some exact
    · exact List.mem_of_head? first
  rw [List.mem_insertionSort, List.mem_filter] at candidate
  exact ⟨candidate.1, of_decide_eq_true candidate.2⟩

/-- The fallback finds nothing when no row has the lowered name. -/
theorem findByName_none {users : List User} {record : ADUserRecord}
    (missed : findByName fold users record = none) :
    ∀ user ∈ users, fold.sql user.samAccountName ≠ fold.python record.samAccountName := by
  intro user listed same
  simp only [findByName, Option.or_eq_none_iff, List.head?_eq_none_iff] at missed
  have candidate : user ∈ (users.filter fun user =>
      fold.sql user.samAccountName = fold.python record.samAccountName).insertionSort
        fun left right => left.id ≤ right.id := by
    rw [List.mem_insertionSort, List.mem_filter]
    exact ⟨listed, decide_eq_true same⟩
  rw [missed.2] at candidate
  exact List.not_mem_nil candidate

/-- A record is matched with the row that carries its GUID. -/
theorem findExistingUser_byGuid (valid : tables.Valid fold) {record : ADUserRecord} {user : User}
    {guid : String} (given : record.guid = some guid) (listed : user ∈ tables.users)
    (carried : user.adObjectGuid = some guid) :
    findExistingUser fold tables.users record = .ok (some user) := by
  have alone : tables.users.filter (fun user => user.adObjectGuid = some guid) = [user] := by
    refine filter_eq_singleton ((users_distinct valid).imp fun both met => ?_) listed
      (decide_eq_true carried)
    exact both.adObjectGuid guid (of_decide_eq_true met.1) (of_decide_eq_true met.2)
  simp only [findExistingUser, given, alone]
  rfl

/-- Without such a row it is matched by its name. -/
theorem findExistingUser_byName (fold : CaseFolding) {users : List User} {record : ADUserRecord}
    (missing : ∀ guid, record.guid = some guid → ∀ user ∈ users, user.adObjectGuid ≠ some guid) :
    findExistingUser fold users record = .ok (findByName fold users record) := by
  cases given : record.guid with
  | none => simp only [findExistingUser, given]
  | some guid =>
    have none : users.filter (fun user => user.adObjectGuid = some guid) = [] := by
      rw [List.filter_eq_nil_iff]
      exact fun user listed => by simpa using missing guid given user listed
    simp only [findExistingUser, given, none]
    rfl

/-- How a record comes to its row: the row carries its GUID, or no row does and the lowered name
is the record's. -/
theorem findExistingUser_some {users : List User} {record : ADUserRecord} {user : User}
    (found : findExistingUser fold users record = .ok (some user)) :
    user ∈ users ∧ ((∃ guid, record.guid = some guid ∧ user.adObjectGuid = some guid) ∨
      (∀ guid, record.guid = some guid → ∀ other ∈ users, other.adObjectGuid ≠ some guid) ∧
        fold.sql user.samAccountName = fold.python record.samAccountName) := by
  cases given : record.guid with
  | none =>
    simp only [findExistingUser, given, Except.ok.injEq] at found
    obtain ⟨listed, same⟩ := findByName_some found
    exact ⟨listed, .inr ⟨fun _ absent => (nomatch absent), same⟩⟩
  | some guid =>
    simp only [findExistingUser, given] at found
    obtain ⟨selected, queried, chosen⟩ := map_eq_ok.mp found
    rw [syncOneOrNone_eq_ok] at queried
    cases selected with
    | none =>
      obtain ⟨listed, same⟩ := findByName_some chosen
      refine ⟨listed, .inr ⟨?_, same⟩⟩
      intro other wanted row present carried
      obtain rfl := Option.some.inj wanted
      have nobody := List.filter_eq_nil_iff.mp queried row present
      exact nobody (decide_eq_true carried)
    | some row =>
      obtain rfl := Option.some.inj chosen
      have selected : row ∈ users.filter fun user => user.adObjectGuid = some guid := by
        rw [queried]
        exact List.mem_singleton_self row
      obtain ⟨listed, carried⟩ := List.mem_filter.mp selected
      exact ⟨listed, .inl ⟨guid, rfl, of_decide_eq_true carried⟩⟩

/-! ## Writing the row -/

/-- A flush passes when the values fit and the keys are free. -/
theorem flushUser_eq_ok {users : List User} {user : User} :
    flushUser fold users user = .ok () ↔
      user.fits = true ∧ checkUserUnique fold users user = .ok () := by
  unfold flushUser
  by_cases fits : user.fits = true
  · rw [if_pos fits]
    exact (and_iff_right fits).symm
  · rw [if_neg fits]
    exact iff_of_false nofun fun both => fits both.1

/-- What writing a record can do: insert a row, or update the one it is matched with. -/
theorem upsertUser_cases {record : ADUserRecord} {user : User} {inserted : Bool}
    (written : upsertUser fold tables record now = .ok (after, user, inserted)) :
    (findExistingUser fold tables.users record = .ok none ∧ inserted = true ∧
      user = newUser record tables.nextUserId now ∧
      checkUserUnique fold tables.users user = .ok () ∧
      after = { tables with
        users := tables.users ++ [user], nextUserId := tables.nextUserId + 1 }) ∨
    ∃ existing, findExistingUser fold tables.users record = .ok (some existing) ∧
      inserted = false ∧ user = updatedUser record now existing ∧
      checkUserUnique fold tables.users user = .ok () ∧
      after = { tables with users := replaceRow User.id user tables.users } := by
  simp only [upsertUser] at written
  obtain ⟨found, matched, rest⟩ := bind_eq_ok.mp written
  cases found with
  | none =>
    obtain ⟨_, flushed, same⟩ := map_eq_ok.mp rest
    cases same
    exact .inl ⟨matched, rfl, rfl, (flushUser_eq_ok.mp flushed).2, rfl⟩
  | some existing =>
    obtain ⟨_, flushed, same⟩ := map_eq_ok.mp rest
    cases same
    exact .inr ⟨existing, matched, rfl, rfl, (flushUser_eq_ok.mp flushed).2, rfl⟩

/-- A row that is written fits its columns. -/
theorem upsertUser_fits {record : ADUserRecord} {user : User} {inserted : Bool}
    (written : upsertUser fold tables record now = .ok (after, user, inserted)) :
    user.fits = true := by
  simp only [upsertUser] at written
  obtain ⟨found, matched, rest⟩ := bind_eq_ok.mp written
  cases found with
  | none =>
    obtain ⟨_, flushed, same⟩ := map_eq_ok.mp rest
    cases same
    exact (flushUser_eq_ok.mp flushed).1
  | some existing =>
    obtain ⟨_, flushed, same⟩ := map_eq_ok.mp rest
    cases same
    exact (flushUser_eq_ok.mp flushed).1

/-- Writing a record keeps the tables valid. -/
theorem upsertUser_valid {record : ADUserRecord} {user : User} {inserted : Bool}
    (valid : tables.Valid fold)
    (written : upsertUser fold tables record now = .ok (after, user, inserted)) :
    after.Valid fold := by
  rcases upsertUser_cases written with
    ⟨-, -, rfl, checked, rfl⟩ | ⟨existing, found, -, rfl, checked, rfl⟩
  · have fresh : ∀ other ∈ tables.users, other.id ≠ (newUser record tables.nextUserId now).id :=
      fun other listed => (valid.userSequence other listed).ne
    refine valid_withUsers valid ?_ ?_ ?_
    · rw [List.Nodup, List.pairwise_map]
      exact pairwise_insertRow (List.pairwise_map.mp valid.userId) fresh
    · exact pairwise_insertRow (users_distinct valid) fun other listed =>
        checkUserUnique_eq_ok.mp checked other listed (fresh other listed)
    · intro other listed
      rcases List.mem_append.mp listed with before | last
      · exact Nat.lt_succ_of_lt (valid.userSequence other before)
      · obtain rfl := List.mem_singleton.mp last
        exact Nat.lt_succ_self _
  · refine valid_withUsers valid ?_ ?_ ?_
    · rw [map_key_replaceRow]
      exact valid.userId
    · exact pairwise_replaceRow valid.userId (users_distinct valid) (fun _ _ both => both.symm)
        (checkUserUnique_eq_ok.mp checked)
    · intro other listed
      rcases mem_replaceRow listed with rfl | ⟨before, -⟩
      · exact valid.userSequence existing (findExistingUser_some found).1
      · exact valid.userSequence other before

/-- Writing a record leaves the groups as they are. -/
theorem upsertUser_adGroups {record : ADUserRecord} {user : User} {inserted : Bool}
    (written : upsertUser fold tables record now = .ok (after, user, inserted)) :
    after.adGroups = tables.adGroups := by
  rcases upsertUser_cases written with ⟨-, -, -, -, rfl⟩ | ⟨existing, -, -, -, -, rfl⟩
  · rfl
  · rfl

end TacacsWeb.Verif
