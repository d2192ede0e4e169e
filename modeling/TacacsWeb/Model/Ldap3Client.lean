import TacacsWeb.Library.Dict
import TacacsWeb.Library.Result
import TacacsWeb.Library.Text
import TacacsWeb.Model.Json
import TacacsWeb.Model.LdapSync
import TacacsWeb.Model.MavisAuthn

/-!
# Fetching the accounts of the directory

`app/ldap_sync/ldap3_client.py`. The client library is a parameter: a search yields the items of
its pages one by one and may raise when it asks for a further page, so a search is the items
before that and what it raised. Whatever is raised ends the fetch at that point.
-/

namespace TacacsWeb.Model

open TacacsWeb.Library TacacsWeb.Library.Text

/-! ## The client library -/

/-- An exception of the client library, with the text that `str` gives of it. -/
structure LdapRaised where
  /-- Whether it is an `LDAPException`. -/
  fault : LdapFault
  /-- Its text. -/
  text : String
deriving DecidableEq

/-- A value of `attributes`. -/
inductive AttributeValue where
  /-- One `str`. -/
  | text (value : String)
  /-- A `list`. -/
  | list (values : List String)
  /-- Anything else. -/
  | other
deriving DecidableEq

/-- A value of `raw_attributes`. -/
inductive RawValue where
  /-- One `bytes`. -/
  | bytes (value : List UInt8)
  /-- A `list`. -/
  | list (values : List (List UInt8))
  /-- Anything else. -/
  | other
deriving DecidableEq

/-- An item that a paged search yields, less the keys that nothing reads. -/
structure SearchItem where
  /-- `searchResEntry`, or `searchResRef` for a referral. -/
  type : String
  /-- The DN of the entry. -/
  dn : String
  /-- The decoded attributes. -/
  attributes : Dict String AttributeValue
  /-- The attributes as they came. -/
  rawAttributes : Dict String RawValue

/-- A paged search: what it yields, and what it raises then, if it does. -/
structure SearchReply where
  /-- The items of the pages. -/
  items : List SearchItem
  /-- The exception of the page after them. -/
  raised : Option LdapRaised

/-- The directory server and the client library in front of it, during one run. -/
structure LdapClient where
  /-- `Server(...)` may raise. -/
  construct : LdapEndpoint → Option LdapRaised
  /-- Connecting and binding with a DN and a password may raise. -/
  connect : LdapEndpoint → String → String → Option LdapRaised
  /-- A paged subtree search, by base DN, filter, attributes and page size. -/
  search : PyString → String → List String → Nat → SearchReply
  /-- `unbind` may raise. -/
  unbind : Option LdapRaised

/-! ## Reading an entry -/

/-- `USER_ATTRS`. -/
def userAttrs : List String :=
  ["sAMAccountName", "objectGUID", "userPrincipalName", "distinguishedName", "displayName"]

/-- `GROUP_ATTRS`. -/
def groupAttrs : List String := ["objectSid", "distinguishedName", "name"]

/-- `DEFAULT_USER_FILTER`. -/
def defaultUserFilter : String :=
  "(&(objectCategory=person)(objectClass=user)(!(userAccountControl:1.2.840.113556.1.4.803:=2)))"

/-- `TRANSITIVE_MEMBER_RULE`. -/
def transitiveMemberRule : String := "1.2.840.113556.1.4.1941"

/-- `_str`. -/
def entryText (entry : SearchItem) (name : String) : Option String :=
  match entry.attributes.get? name with
  | some (.list values) => values.head?
  | some (.text value) => some value
  | _ => none

/-- `_raw`. -/
def entryRaw (entry : SearchItem) (name : String) : Option (List UInt8) :=
  match entry.rawAttributes.get? name with
  | some (.list values) => values.head?
  | some (.bytes value) => some value
  | _ => none

/-- The hexadecimal digits of some bytes. -/
def hexOfBytes (bytes : List UInt8) : List Char := bytes.flatMap fun byte => hexDigits 2 byte.toNat

/-- `_format_guid`: the first three fields of the layout are little-endian. -/
def formatGuid : Option (List UInt8) → Option String
  | some [a, b, c, d, e, f, g, h, i, j, k, l, m, n, o, p] =>
    some (String.ofList (hexOfBytes [d, c, b, a] ++ '-' :: hexOfBytes [f, e] ++
      '-' :: hexOfBytes [h, g] ++ '-' :: hexOfBytes [i, j] ++
      '-' :: hexOfBytes [k, l, m, n, o, p]))
  | _ => none

/-- The loop of `_format_sid` over the sub-authorities, which are little-endian. -/
def subAuthorities : Nat → List UInt8 → Option (List Nat)
  | 0, _ => some []
  | count + 1, a :: b :: c :: d :: rest =>
    (subAuthorities count rest).map fun others =>
      (a.toNat + 256 * (b.toNat + 256 * (c.toNat + 256 * d.toNat))) :: others
  | _ + 1, _ => none

/-- `_format_sid`. -/
def formatSid : Option (List UInt8) → Option String
  | some (revision :: count :: a :: b :: c :: d :: e :: f :: rest) =>
    let authority := [a, b, c, d, e, f].foldl (fun value byte => value * 256 + byte.toNat) 0
    (subAuthorities count.toNat rest).map fun parts =>
      "-".intercalate (s!"S-{revision.toNat}-{authority}" :: parts.map toString)
  | _ => none

/-- `_escape_filter_value`. -/
def escapeFilterValue (value : String) : String :=
  replaceChar '*' "\\2a" (replaceChar '\x00' "\\00" (replaceChar ')' "\\29"
    (replaceChar '(' "\\28" (replaceChar '\\' "\\5c" value))))

/-! ## The fetch -/

/-- A loop over `_paged_search`: referrals are skipped, and what the search raises comes after the
entries before it. -/
def forEntries {State : Type} (reply : SearchReply)
    (pass : State → SearchItem → Except LdapRaised State) (state : State) :
    Except LdapRaised State :=
  ((reply.items.filter fun item => item.type = "searchResEntry").foldlM pass state).bind fun last =>
    match reply.raised with
    | none => .ok last
    | some raised => .error raised

/-- `group_cache`. -/
abbrev GroupCache := Dict String ADGroupRecord

/-- One group of `_resolve_groups_for_user`. -/
def resolveGroup (state : List ADGroupRecord × GroupCache) (entry : SearchItem) :
    List ADGroupRecord × GroupCache :=
  match state.2.get? entry.dn with
  | some cached => (state.1 ++ [cached], state.2)
  | none =>
    match formatSid (entryRaw entry "objectSid") with
    | none => state
    | some sid =>
      let record : ADGroupRecord := ⟨sid, entry.dn, entryText entry "name"⟩
      (state.1 ++ [record], state.2.set entry.dn record)

/-- `_resolve_groups_for_user`: the groups, and the cache after them. -/
def resolveGroupsForUser (client : LdapClient) (baseDn : PyString) (userDn : String)
    (groupCache : GroupCache) (pageSize : Nat) :
    Except LdapRaised (List ADGroupRecord × GroupCache) :=
  let filter := "(member:" ++ transitiveMemberRule ++ ":=" ++ escapeFilterValue userDn ++ ")"
  forEntries (client.search baseDn filter groupAttrs pageSize)
    (fun state entry => .ok (resolveGroup state entry)) ([], groupCache)

/-- One account of `fetch_users`: an entry without a name is skipped. -/
def fetchUser (client : LdapClient) (baseDn : PyString) (pageSize : Nat)
    (state : List ADUserRecord × GroupCache) (entry : SearchItem) :
    Except LdapRaised (List ADUserRecord × GroupCache) :=
  match entryText entry "sAMAccountName" with
  | none => .ok state
  | some sam =>
    (resolveGroupsForUser client baseDn entry.dn state.2 pageSize).map fun (groups, groupCache) =>
      (state.1 ++ [{
        samAccountName := sam
        distinguishedName := entry.dn
        adObjectGuid := formatGuid (entryRaw entry "objectGUID")
        upn := entryText entry "userPrincipalName"
        displayName := entryText entry "displayName"
        groups := groups }], groupCache)

/-- `fetch_users` with its default page size. -/
def fetchUsers (client : LdapClient) (baseDns : List PyString) (userFilter : String) :
    Except LdapRaised (List ADUserRecord) :=
  (baseDns.foldlM (fun state baseDn =>
    forEntries (client.search baseDn userFilter userAttrs 500) (fetchUser client baseDn 500) state)
    (([], ∅) : List ADUserRecord × GroupCache)).map Prod.fst

end TacacsWeb.Model
