import Mathlib.Logic.Relation
import TacacsWeb.Model.Ldap3Client
import TacacsWeb.Verif.Directory

/-!
# What a directory holds and what a fetch makes of it

The entries of a directory, where they are and who is a member of what. A server that answers every
search completely determines the records of a fetch: base DN by base DN, the accounts under it, each
with the groups under that same base DN.
-/

namespace TacacsWeb.Verif

open TacacsWeb.Library TacacsWeb.Model

variable {fold : CaseFolding}

/-! ## Entries -/

/-- The record of a group, none without a SID. -/
def groupRecord (entry : SearchItem) : Option ADGroupRecord :=
  (formatSid (entryRaw entry "objectSid")).map fun sid => ⟨sid, entry.dn, entryText entry "name"⟩

/-- The record of an account with some groups, none without a name. -/
def accountRecord (groups : List ADGroupRecord) (entry : SearchItem) : Option ADUserRecord :=
  (entryText entry "sAMAccountName").map fun sam =>
    { samAccountName := sam
      distinguishedName := entry.dn
      adObjectGuid := formatGuid (entryRaw entry "objectGUID")
      upn := entryText entry "userPrincipalName"
      displayName := entryText entry "displayName"
      groups := groups }

/-- A directory: its accounts, its groups, where they are, and the direct memberships. -/
structure DirectoryTree (fold : CaseFolding) where
  /-- The accounts that the user filter matches. -/
  users : List SearchItem
  /-- The groups. -/
  groups : List SearchItem
  /-- The entry with a DN is in the subtree of a base DN. -/
  located : String → PyString → Bool
  /-- The entry with the first DN is a direct member of the group with the second. -/
  member : String → String → Prop
  /-- Accounts have GUIDs, and no two the same GUID or name. -/
  accounts : ToldApart fold (users.filterMap (accountRecord []))
  /-- A DN is that of one group. -/
  groupDns : (groups.map SearchItem.dn).Nodup
  /-- A SID is that of one group. -/
  groupSids : ((groups.filterMap groupRecord).map ADGroupRecord.sid).Nodup

namespace DirectoryTree

variable (tree : DirectoryTree fold)

/-- An account is a member of a group, directly or through other groups. -/
def TransitiveMember (userDn groupDn : String) : Prop := Relation.TransGen tree.member userDn groupDn

end DirectoryTree

/-! ## Complete answers -/

/-- The entries of a reply, less its referrals. -/
def entriesOf (reply : SearchReply) : List SearchItem :=
  reply.items.filter fun item => item.type = "searchResEntry"

/-- A search that ends, and yields every entry that meets a condition once. -/
structure Complete (reply : SearchReply) (holds : SearchItem → Prop) : Prop where
  /-- Nothing is raised. -/
  raised : reply.raised = none
  /-- No entry comes twice. -/
  once : (entriesOf reply).Nodup
  /-- The entries are those that meet the condition. -/
  entry : ∀ entry, entry ∈ entriesOf reply ↔ holds entry

/-- The filter for the groups of an account. -/
def memberFilter (userDn : String) : String :=
  "(member:" ++ transitiveMemberRule ++ ":=" ++ escapeFilterValue userDn ++ ")"

/-- The server answers every search of a fetch completely, and evaluates the in-chain filter as the
transitive membership. -/
structure AnswersCompletely (tree : DirectoryTree fold) (client : LdapClient) (userFilter : String) :
    Prop where
  /-- The search for accounts. -/
  users : ∀ baseDn, Complete (client.search baseDn userFilter userAttrs 500)
    fun entry => entry ∈ tree.users ∧ tree.located entry.dn baseDn = true
  /-- The search for the groups of an account. -/
  groups : ∀ baseDn, ∀ user ∈ tree.users,
    Complete (client.search baseDn (memberFilter user.dn) groupAttrs 500)
      fun entry => entry ∈ tree.groups ∧ tree.located entry.dn baseDn = true ∧
        tree.TransitiveMember user.dn entry.dn

/-! ## The records of a fetch -/

/-- The groups of an account under one base DN. -/
def groupsUnder (client : LdapClient) (baseDn : PyString) (userDn : String) :
    List ADGroupRecord :=
  (entriesOf (client.search baseDn (memberFilter userDn) groupAttrs 500)).filterMap groupRecord

/-- The record of an account under one base DN. -/
def recordUnder (client : LdapClient) (baseDn : PyString) (entry : SearchItem) :
    Option ADUserRecord :=
  accountRecord (groupsUnder client baseDn entry.dn) entry

/-- The records of the accounts under one base DN. -/
def recordsUnder (client : LdapClient) (userFilter : String) (baseDn : PyString) :
    List ADUserRecord :=
  (entriesOf (client.search baseDn userFilter userAttrs 500)).filterMap (recordUnder client baseDn)

/-- The cache holds records of groups under their DNs. -/
def CacheCoherent (tree : DirectoryTree fold) (groupCache : GroupCache) : Prop :=
  ∀ dn record, groupCache.get? dn = some record →
    ∃ entry ∈ tree.groups, entry.dn = dn ∧ groupRecord entry = some record

/-- A loop over a reply without an exception is a loop over its entries. -/
theorem forEntries_eq {State : Type} {reply : SearchReply} (unraised : reply.raised = none)
    (pass : State → SearchItem → Except LdapRaised State) (state : State) :
    forEntries reply pass state = (entriesOf reply).foldlM pass state := by
  unfold forEntries
  rw [unraised]
  show ((entriesOf reply).foldlM pass state).bind _ = _
  cases (entriesOf reply).foldlM pass state with
  | error raised => rfl
  | ok last => rfl

/-- A group of the directory adds its record, from the cache or not. -/
theorem resolveGroup_spec {tree : DirectoryTree fold} {entry : SearchItem}
    (listed : entry ∈ tree.groups) (collected : List ADGroupRecord) {groupCache : GroupCache}
    (coherent : CacheCoherent tree groupCache) :
    ∃ next, resolveGroup (collected, groupCache) entry =
        (collected ++ (groupRecord entry).toList, next) ∧ CacheCoherent tree next := by
  unfold resolveGroup
  cases cached : groupCache.get? entry.dn with
  | some record =>
    obtain ⟨other, there, sameDn, recorded⟩ := coherent entry.dn record cached
    have same : other = entry := List.inj_on_of_nodup_map tree.groupDns there listed sameDn
    rw [same] at recorded
    rw [recorded]
    exact ⟨groupCache, rfl, coherent⟩
  | none =>
    cases sid : formatSid (entryRaw entry "objectSid") with
    | none =>
      have unrecorded : groupRecord entry = none := by rw [groupRecord, sid, Option.map_none]
      rw [unrecorded, Option.toList_none, List.append_nil]
      exact ⟨groupCache, rfl, coherent⟩
    | some sid' =>
      have recorded : groupRecord entry = some ⟨sid', entry.dn, entryText entry "name"⟩ := by
        rw [groupRecord, sid, Option.map_some]
      rw [recorded]
      refine ⟨_, rfl, ?_⟩
      intro dn record found
      rw [Dict.get?_set] at found
      split at found
      · rename_i same
        cases found
        exact ⟨entry, listed, same.symm, recorded⟩
      · exact coherent dn record found

/-- The groups of an account are those under the base DN. -/
theorem resolveGroupsForUser_spec {tree : DirectoryTree fold} {client : LdapClient}
    {userFilter : String} (answers : AnswersCompletely tree client userFilter)
    (baseDn : PyString) {user : SearchItem} (listed : user ∈ tree.users) {groupCache : GroupCache}
    (coherent : CacheCoherent tree groupCache) :
    ∃ next, resolveGroupsForUser client baseDn user.dn groupCache 500 =
        .ok (groupsUnder client baseDn user.dn, next) ∧ CacheCoherent tree next := by
  have reply := answers.groups baseDn user listed
  let pass (state : List ADGroupRecord × GroupCache) (entry : SearchItem) :
      Except LdapRaised (List ADGroupRecord × GroupCache) := .ok (resolveGroup state entry)
  have each : ∀ entry ∈ entriesOf (client.search baseDn (memberFilter user.dn) groupAttrs 500),
      ∀ collected groupCache, CacheCoherent tree groupCache →
        ∃ next, pass (collected, groupCache) entry =
          .ok (collected ++ (groupRecord entry).toList, next) ∧ CacheCoherent tree next := by
    intro entry found collected groupCache coherent
    obtain ⟨next, resolved, after⟩ :=
      resolveGroup_spec ((reply.entry entry).mp found).1 collected coherent
    exact ⟨next, congrArg Except.ok resolved, after⟩
  obtain ⟨last, looped, after⟩ :=
    foldlM_collects pass (fun entry => (groupRecord entry).toList) each [] coherent
  refine ⟨last, ?_, after⟩
  unfold resolveGroupsForUser
  rw [groupsUnder, List.filterMap_eq_flatMap_toList]
  exact (forEntries_eq reply.raised _ _).trans looped

/-- An account adds its record under the base DN. -/
theorem fetchUser_spec {tree : DirectoryTree fold} {client : LdapClient} {userFilter : String}
    (answers : AnswersCompletely tree client userFilter) (baseDn : PyString) {user : SearchItem}
    (listed : user ∈ tree.users) (collected : List ADUserRecord) {groupCache : GroupCache}
    (coherent : CacheCoherent tree groupCache) :
    ∃ next, fetchUser client baseDn 500 (collected, groupCache) user =
        .ok (collected ++ (recordUnder client baseDn user).toList, next) ∧
      CacheCoherent tree next := by
  unfold fetchUser recordUnder accountRecord
  cases named : entryText user "sAMAccountName" with
  | none =>
    rw [Option.map_none, Option.toList_none, List.append_nil]
    exact ⟨groupCache, rfl, coherent⟩
  | some sam =>
    obtain ⟨next, resolved, after⟩ := resolveGroupsForUser_spec answers baseDn listed coherent
    refine ⟨next, ?_, after⟩
    simp only [resolved]
    rfl

/-- From a server that answers completely a fetch returns, base DN by base DN, the records of the
accounts under it, each with the groups under the same base DN. -/
theorem fetchUsers_eq {tree : DirectoryTree fold} {client : LdapClient} {userFilter : String}
    (answers : AnswersCompletely tree client userFilter) (baseDns : List PyString) :
    fetchUsers client baseDns userFilter =
      .ok (baseDns.flatMap (recordsUnder client userFilter)) := by
  have under : ∀ baseDn ∈ baseDns, ∀ collected groupCache, CacheCoherent tree groupCache →
      ∃ next, forEntries (client.search baseDn userFilter userAttrs 500)
          (fetchUser client baseDn 500) (collected, groupCache) =
        .ok (collected ++ recordsUnder client userFilter baseDn, next) ∧
          CacheCoherent tree next := by
    intro baseDn _ collected groupCache coherent
    have reply := answers.users baseDn
    have each : ∀ entry ∈ entriesOf (client.search baseDn userFilter userAttrs 500),
        ∀ collected groupCache, CacheCoherent tree groupCache →
          ∃ next, fetchUser client baseDn 500 (collected, groupCache) entry =
              .ok (collected ++ (recordUnder client baseDn entry).toList, next) ∧
            CacheCoherent tree next :=
      fun entry found collected groupCache coherent =>
        fetchUser_spec answers baseDn ((reply.entry entry).mp found).1 collected coherent
    obtain ⟨last, looped, after⟩ := foldlM_collects (fetchUser client baseDn 500)
      (fun entry => (recordUnder client baseDn entry).toList) each collected coherent
    refine ⟨last, ?_, after⟩
    rw [forEntries_eq reply.raised, looped, recordsUnder, List.filterMap_eq_flatMap_toList]
  have empty : CacheCoherent tree ∅ := by
    intro dn record found
    cases found
  obtain ⟨last, looped, -⟩ := foldlM_collects (fun state baseDn =>
    forEntries (client.search baseDn userFilter userAttrs 500) (fetchUser client baseDn 500) state)
    (recordsUnder client userFilter) under [] empty
  unfold fetchUsers
  rw [looped]
  rfl

end TacacsWeb.Verif
