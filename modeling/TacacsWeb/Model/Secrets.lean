import Mathlib.Logic.Function.Basic
import TacacsWeb.Library.Base64
import TacacsWeb.Library.Result
import TacacsWeb.Library.Text
import TacacsWeb.Library.Utf8

/-!
# The secrets at rest

`app.core.crypto`, `Settings.master_key` and the column type `EncryptedStr`: a secret is stored as
the base64 of a nonce and what AES-GCM makes of it under the master key, which is read from a file
or from the environment each time a column is bound or loaded. The cipher is a parameter.
-/

namespace TacacsWeb.Model

open TacacsWeb.Library TacacsWeb.Library.Text

/-! ## Bytes and texts -/

/-- `text.encode("ascii")`, none where it raises. -/
def asciiBytes (text : String) : Option (List UInt8) :=
  if text.toList.all fun char => decide (char.toNat < 128) then
    some (text.toList.map fun char => UInt8.ofNat char.toNat)
  else none

/-- `bytes.decode("ascii")` of bytes that are ASCII. -/
def asciiText (bytes : List UInt8) : String :=
  String.ofList (bytes.map fun byte => Char.ofNat byte.toNat)

/-- `bytes.decode("utf-8")`, none where it raises: the bytes are the encoding of no text. -/
def strictText (bytes : List UInt8) : Option String :=
  if Utf8.encode (Utf8.decode bytes) = bytes then some (String.ofList (Utf8.decode bytes)) else none

/-- The bytes that `bytes.strip()` removes. -/
def isByteSpace (byte : UInt8) : Bool := decide (9 ≤ byte ∧ byte ≤ 13) || decide (byte = 32)

/-- `bytes.strip()`. -/
def stripBytes (bytes : List UInt8) : List UInt8 :=
  ((bytes.dropWhile isByteSpace).reverse.dropWhile isByteSpace).reverse

/-! ## The master key -/

/-- What `Settings` says of the master key. -/
structure KeySettings where
  /-- The content of `master_key_file`, when one is set; none inside where it cannot be read. -/
  masterKeyFile : Option (Option (List UInt8))
  /-- `master_key_b64`. -/
  masterKeyB64 : Option String
deriving DecidableEq

/-- What `master_key` raises. -/
inductive KeyFault where
  /-- The file cannot be read. -/
  | unreadable
  /-- The text is no base64. -/
  | notBase64
  /-- The key has another length. -/
  | wrongLength
  /-- No key is configured. -/
  | notConfigured
deriving DecidableEq

/-- `KEY_LEN`. -/
def keyLen : Nat := 32

/-- A decoded key, whose length is checked. -/
def sizedKey (decoded : Option (List UInt8)) : Except KeyFault (List UInt8) :=
  match decoded with
  | none => .error .notBase64
  | some key => if key.length = keyLen then .ok key else .error .wrongLength

/-- `Settings.master_key`. -/
def KeySettings.masterKey (settings : KeySettings) : Except KeyFault (List UInt8) :=
  match settings.masterKeyFile with
  | some none => .error .unreadable
  | some (some raw) =>
    if raw.length = keyLen then .ok raw else sizedKey (Base64.decode (stripBytes raw))
  | none =>
    match settings.masterKeyB64 with
    | some text => sizedKey ((asciiBytes (strip text)).bind Base64.decode)
    | none => .error .notConfigured

/-! ## The cipher -/

/-- `AESGCM(key).encrypt` and `AESGCM(key).decrypt` without associated data, none where the second
one raises. -/
structure Aead where
  /-- The key, the nonce and the plain text give the cipher text with its tag. -/
  encrypt : List UInt8 → List UInt8 → List UInt8 → List UInt8
  /-- The key, the nonce and the cipher text give the plain text. -/
  decrypt : List UInt8 → List UInt8 → List UInt8 → Option (List UInt8)

/-- `NONCE_LEN`. -/
def nonceLen : Nat := 12

/-- The length of a tag. -/
def tagLen : Nat := 16

/-- `secrets.token_bytes(NONCE_LEN)`. -/
structure Nonce where
  /-- The bytes. -/
  bytes : List UInt8
  /-- How many there are. -/
  sized : bytes.length = nonceLen

/-- What the functions of the columns raise. -/
inductive CryptoFault where
  /-- The key cannot be had. -/
  | key (fault : KeyFault)
  /-- The key has another length. -/
  | keyLength
  /-- The token is no base64. -/
  | encoding
  /-- The token has no room for a nonce and a tag. -/
  | tooShort
  /-- The cipher text is not authentic. -/
  | invalidTag
  /-- The plain text is no text. -/
  | notText
deriving DecidableEq

section Columns

variable (aead : Aead)

/-- `encrypt`. -/
def encryptText (plaintext : String) (key : List UInt8) (nonce : Nonce) :
    Except CryptoFault String :=
  if key.length ≠ keyLen then .error .keyLength
  else
    let ct := aead.encrypt key nonce.bytes (Utf8.encode plaintext.toList)
    .ok (asciiText (Base64.encode (nonce.bytes ++ ct)))

/-- `decrypt`. -/
def decryptText (token : String) (key : List UInt8) : Except CryptoFault String :=
  if key.length ≠ keyLen then .error .keyLength
  else
    match (asciiBytes token).bind Base64.decode with
    | none => .error .encoding
    | some raw =>
      if raw.length < nonceLen + tagLen then .error .tooShort
      else
        match aead.decrypt key (raw.take nonceLen) (raw.drop nonceLen) with
        | none => .error .invalidTag
        | some pt =>
          match strictText pt with
          | none => .error .notText
          | some plaintext => .ok plaintext

/-- `EncryptedStr.process_bind_param`. -/
def processBindParam (settings : KeySettings) (nonce : Nonce) (value : Option String) :
    Except CryptoFault (Option String) :=
  match value with
  | none => .ok none
  | some plaintext =>
    match settings.masterKey with
    | .error fault => .error (.key fault)
    | .ok key => (encryptText aead plaintext key nonce).map some

/-- `EncryptedStr.process_result_value`. -/
def processResultValue (settings : KeySettings) (value : Option String) :
    Except CryptoFault (Option String) :=
  match value with
  | none => .ok none
  | some token =>
    match settings.masterKey with
    | .error fault => .error (.key fault)
    | .ok key => (decryptText aead token key).map some

/-! ## The columns in use -/

/-- The columns of this type in all rows, and the settings that the processes run under. -/
structure SecretColumns (Place : Type) where
  /-- The settings. -/
  settings : KeySettings
  /-- What is stored, none where there is nothing: no row, or NULL. -/
  stored : Place → Option String

/-- What happens to them. -/
inductive SecretEvent (Place : Type) where
  /-- The processes are started again under other settings. -/
  | restart (settings : KeySettings)
  /-- A column is loaded with its row and given another value, or none. -/
  | write (place : Place) (value : Option String) (nonce : Nonce)
  /-- `rotate_secret`: the current secret becomes the previous one, and a new one the current. -/
  | rotate (current previous : Place) (newSecret : String) (nonce nonceToo : Nonce)

variable {Place : Type} [DecidableEq Place]

/-- The value of a column, as the application loads it. -/
def SecretColumns.load (columns : SecretColumns Place) (place : Place) :
    Except CryptoFault (Option String) :=
  processResultValue aead columns.settings (columns.stored place)

/-- What an assignment leaves at the flush: nothing is written where the value is the one that was
loaded. -/
def assigned (settings : KeySettings) (stored : Place → Option String) (place : Place)
    (loaded value : Option String) (nonce : Nonce) :
    Except CryptoFault (Place → Option String) :=
  if value = loaded then .ok stored
  else (processBindParam aead settings nonce value).map fun token =>
    Function.update stored place token

/-- What is stored after an event, if nothing raises. -/
def SecretColumns.attempt (columns : SecretColumns Place) :
    SecretEvent Place → Except CryptoFault (SecretColumns Place)
  | .restart settings => .ok { columns with settings := settings }
  | .write place value nonce => do
    let loaded ← columns.load aead place
    let stored ← assigned aead columns.settings columns.stored place loaded value nonce
    return { columns with stored := stored }
  | .rotate current previous newSecret nonce nonceToo => do
    let old ← columns.load aead current
    let older ← columns.load aead previous
    let stored ← assigned aead columns.settings columns.stored previous older old nonce
    let storedToo ← assigned aead columns.settings stored current old (some newSecret) nonceToo
    return { columns with stored := storedToo }

/-- An event: a transaction in which something raises is rolled back. -/
def SecretColumns.step (columns : SecretColumns Place) (event : SecretEvent Place) :
    SecretColumns Place :=
  match columns.attempt aead event with
  | .ok after => after
  | .error _ => columns

/-- A series of events. -/
def SecretColumns.run (columns : SecretColumns Place) (events : List (SecretEvent Place)) :
    SecretColumns Place := events.foldl (SecretColumns.step aead) columns

end Columns

end TacacsWeb.Model
