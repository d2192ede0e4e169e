import TacacsWeb.Library.Run
import TacacsWeb.Library.Utf8
import TacacsWeb.Model.Devices

/-!
# The certificate and the key on disk

`app.tls.certs` and the three requests of `app.api.v1.settings_tls` that replace the pair, up to the
status row and the audit row that follow a write. The two files are removed, opened and written one
after the other; a plan says how each filesystem operation ends. The `cryptography` package is a
parameter.
-/

namespace TacacsWeb.Model

open TacacsWeb.Library

/-! ## The directory -/

/-- The two files. -/
inductive TlsFile where
  /-- `server.crt`. -/
  | cert
  /-- `server.key`. -/
  | key
deriving DecidableEq

/-- What is in the files, none for one that is missing. -/
structure TlsVolume where
  /-- `server.crt`. -/
  cert : Option (List UInt8)
  /-- `server.key`. -/
  key : Option (List UInt8)
deriving DecidableEq

/-- The content of a file. -/
def TlsVolume.get (volume : TlsVolume) : TlsFile → Option (List UInt8)
  | .cert => volume.cert
  | .key => volume.key

/-- The volume with another content of a file. -/
def TlsVolume.set (volume : TlsVolume) (file : TlsFile) (content : Option (List UInt8)) :
    TlsVolume :=
  match file with
  | .cert => { volume with cert := content }
  | .key => { volume with key := content }

/-- The filesystem operations of `write_cert_and_key`. -/
inductive FsOp where
  /-- `TLS_DIR.mkdir(parents=True, exist_ok=True)`. -/
  | mkdir
  /-- `path.exists()`. -/
  | stat (file : TlsFile)
  /-- `path.unlink()`, when it exists. -/
  | unlink (file : TlsFile)
  /-- The `open` of `write_bytes`, which truncates. -/
  | openFile (file : TlsFile)
  /-- The `write` of `write_bytes`. -/
  | write (file : TlsFile)
  /-- `path.chmod(mode)`. -/
  | chmod (file : TlsFile) (mode : Nat)
deriving DecidableEq

/-- How a filesystem operation ends. -/
inductive FsOutcome where
  /-- It is carried out. -/
  | succeeds
  /-- It raises a `PermissionError`. -/
  | denied (text : String)
  /-- It raises another `OSError`; a write may have written some bytes. -/
  | fails (text : String) (written : Nat)
  /-- The process stops at it; a write may have written some bytes. -/
  | stops (written : Nat)
deriving DecidableEq

/-- How a sequence of operations ends. -/
inductive FsEnding where
  /-- It returns. -/
  | returned
  /-- An `OSError` comes out of it. -/
  | raised (text : String)
  /-- The process stops in it. -/
  | stopped
deriving DecidableEq

namespace FsOp

/-- The operation is left out: there is nothing to unlink. -/
def skipped (volume : TlsVolume) : FsOp → Bool
  | .unlink file => (volume.get file).isNone
  | _ => false

/-- A `PermissionError` of the operation is suppressed. -/
def suppressed : FsOp → Bool
  | .unlink _ => true
  | _ => false

/-- What the operation does. -/
def effect (contents : TlsFile → List UInt8) (volume : TlsVolume) : FsOp → TlsVolume
  | .unlink file => volume.set file none
  | .openFile file => volume.set file (some [])
  | .write file => volume.set file (some (contents file))
  | _ => volume

/-- What it has done when it is cut short. -/
def partly (contents : TlsFile → List UInt8) (written : Nat) (volume : TlsVolume) :
    FsOp → TlsVolume
  | .write file => volume.set file (some ((contents file).take written))
  | _ => volume

end FsOp

/-- Operations one after the other, up to the first that does not end well. -/
def runOps (contents : TlsFile → List UInt8) (plan : FsOp → FsOutcome) :
    List FsOp → TlsVolume → TlsVolume × FsEnding
  | [], volume => (volume, .returned)
  | op :: ops, volume =>
    if op.skipped volume then runOps contents plan ops volume
    else match plan op with
      | .succeeds => runOps contents plan ops (op.effect contents volume)
      | .denied text =>
        if op.suppressed then runOps contents plan ops volume else (volume, .raised text)
      | .fails text written => (op.partly contents written volume, .raised text)
      | .stops written => (op.partly contents written volume, .stopped)

/-- The operations up to the first opening of a file. -/
def removeOps : List FsOp := [.mkdir, .stat .cert, .unlink .cert, .stat .key, .unlink .key]

/-- The operations that write the pair. -/
def fillOps : List FsOp := [.openFile .cert, .write .cert, .openFile .key, .write .key]

/-- The operations after the pair is written. -/
def modeOps : List FsOp := [.chmod .cert 0o664, .chmod .key 0o660]

/-- What is written to each file. -/
def pairContents (certPem keyPem : List UInt8) : TlsFile → List UInt8
  | .cert => certPem
  | .key => keyPem

/-- `write_cert_and_key`. -/
def writeCertAndKey (plan : FsOp → FsOutcome) (certPem keyPem : List UInt8) (volume : TlsVolume) :
    TlsVolume × FsEnding :=
  runOps (pairContents certPem keyPem) plan (removeOps ++ (fillOps ++ modeOps)) volume

/-! ## Certificates and keys -/

/-- What a call of the library raises. -/
inductive LibraryFault where
  /-- An exception that its caller handles, with its text. -/
  | handled (text : String)
  /-- Any other one. -/
  | other
deriving DecidableEq

/-- What `pkcs12.load_pkcs12` returns. -/
structure Pkcs12Bundle (Certificate PrivateKey : Type) where
  /-- The key. -/
  key : Option PrivateKey
  /-- The end-entity certificate. -/
  cert : Option Certificate
  /-- The other certificates. -/
  additionalCerts : List Certificate

/-- The functions of `cryptography` that the requests use. -/
structure Cryptography (Certificate PrivateKey PublicKey : Type) where
  /-- `x509.load_pem_x509_certificate`, with the text of its `ValueError`. -/
  loadPemX509Certificate : List UInt8 → Except String Certificate
  /-- `serialization.load_pem_private_key` without a password. -/
  loadPemPrivateKey : List UInt8 → Except LibraryFault PrivateKey
  /-- `pkcs12.load_pkcs12`. -/
  loadPkcs12 : List UInt8 → Option (List UInt8) →
    Except LibraryFault (Pkcs12Bundle Certificate PrivateKey)
  /-- The public key of a certificate, none where the library does not know its kind. -/
  certificateKey : Certificate → Option PublicKey
  /-- The public key of a private key. -/
  privateKeyKey : PrivateKey → PublicKey
  /-- `public_bytes(Encoding.PEM)`. -/
  certificatePem : Certificate → List UInt8
  /-- `private_bytes`, as unencrypted PKCS#8 PEM. -/
  privateKeyPem : PrivateKey → List UInt8
  /-- A certificate for a name and a number of days, signed with its own key, none where the builder
  raises. -/
  signSelfSigned : PrivateKey → String → Nat → Option Certificate
  /-- What the audit row says of a certificate, none where reading it raises. -/
  describe : Certificate → Option String

/-- What a handler sees of a certificate or key that it cannot use. -/
inductive TlsFault where
  /-- `CertError`, with its text. -/
  | certError (text : String)
  /-- Any other exception. -/
  | other
deriving DecidableEq

variable {Certificate PrivateKey PublicKey : Type} [DecidableEq PublicKey]
  (crypto : Cryptography Certificate PrivateKey PublicKey)

/-- `parse_cert`, as what the audit row says. -/
def parseCert (pem : List UInt8) : Except TlsFault String :=
  match crypto.loadPemX509Certificate pem with
  | .error text => .error (.certError ("could not parse cert: " ++ text))
  | .ok cert =>
    match crypto.describe cert with
    | none => .error .other
    | some summary => .ok summary

/-- `validate_cert_key_pair`. -/
def validateCertKeyPair (certPem keyPem : List UInt8) : Except TlsFault Unit :=
  match crypto.loadPemX509Certificate certPem with
  | .error text => .error (.certError ("could not parse cert: " ++ text))
  | .ok cert =>
    match crypto.loadPemPrivateKey keyPem with
    | .error (.handled text) => .error (.certError ("could not parse private key: " ++ text))
    | .error .other => .error .other
    | .ok privateKey =>
      match crypto.certificateKey cert with
      | none => .error .other
      | some certPub =>
        if certPub ≠ crypto.privateKeyKey privateKey then
          .error (.certError "private key does not match certificate")
        else .ok ()

/-- The password of a container as bytes, none when it is absent or empty. -/
def pkcs12Password (password : Option String) : Option (List UInt8) :=
  (password.filter fun text => text ≠ "").map fun text => Utf8.encode text.toList

/-- `parse_pkcs12`: the chain, leaf first, and the key. -/
def parsePkcs12 (data : List UInt8) (password : Option String) :
    Except TlsFault (List UInt8 × List UInt8) :=
  match crypto.loadPkcs12 data (pkcs12Password password) with
  | .error (.handled text) =>
    .error (.certError ("could not parse PFX (wrong password?): " ++ text))
  | .error .other => .error .other
  | .ok bundle =>
    match bundle.cert with
    | none => .error (.certError "PFX did not contain an end-entity certificate")
    | some cert =>
      match bundle.key with
      | none => .error (.certError "PFX did not contain a private key")
      | some privateKey =>
        .ok (crypto.certificatePem cert ++ bundle.additionalCerts.flatMap crypto.certificatePem,
          crypto.privateKeyPem privateKey)

/-- `generate_self_signed`, with the key that is drawn. -/
def generateSelfSigned (privateKey : PrivateKey) (commonName : String) (days : Nat) :
    Option (List UInt8 × List UInt8) :=
  (crypto.signSelfSigned privateKey commonName days).map fun cert =>
    (crypto.certificatePem cert, crypto.privateKeyPem privateKey)

/-- The value of a character of base64. -/
def base64Value (char : Char) : Option Nat :=
  let code := char.toNat
  if 65 ≤ code ∧ code ≤ 90 then some (code - 65)
  else if 97 ≤ code ∧ code ≤ 122 then some (code - 71)
  else if 48 ≤ code ∧ code ≤ 57 then some (code + 4)
  else if char = '+' then some 62
  else if char = '/' then some 63
  else none

/-- `base64.b64decode(text, validate=True)`, none where it raises. -/
def decodeBase64 : List Char → Option (List UInt8)
  | [] => some []
  | [first, second, '=', '='] => do
    let a ← base64Value first
    let b ← base64Value second
    return [UInt8.ofNat (a * 4 + b / 16)]
  | [first, second, third, '='] => do
    let a ← base64Value first
    let b ← base64Value second
    let c ← base64Value third
    return [UInt8.ofNat (a * 4 + b / 16), UInt8.ofNat (b % 16 * 16 + c / 4)]
  | first :: second :: third :: fourth :: rest => do
    let a ← base64Value first
    let b ← base64Value second
    let c ← base64Value third
    let d ← base64Value fourth
    let bytes ← decodeBase64 rest
    return UInt8.ofNat (a * 4 + b / 16) :: UInt8.ofNat (b % 16 * 16 + c / 4) ::
      UInt8.ofNat (c % 4 * 64 + d) :: bytes
  | _ => none

/-! ## The requests -/

/-- `CertUploadBody`. -/
structure CertUploadBody where
  /-- The certificate. -/
  certPem : String
  /-- The key. -/
  keyPem : String
  /-- `min_length=1, max_length=64_000`. -/
  certPemLength : 1 ≤ certPem.length ∧ certPem.length ≤ 64000
  /-- `min_length=1, max_length=64_000`. -/
  keyPemLength : 1 ≤ keyPem.length ∧ keyPem.length ≤ 64000

/-- `PfxUploadBody`. -/
structure PfxUploadBody where
  /-- The container, in base64. -/
  pfxBase64 : String
  /-- Its password. -/
  password : Option String
  /-- `min_length=1, max_length=400_000`. -/
  pfxBase64Length : 1 ≤ pfxBase64.length ∧ pfxBase64.length ≤ 400000
  /-- `max_length=512`. -/
  passwordLength : ∀ value ∈ password, value.length ≤ 512

/-- `RegenerateBody`. -/
structure RegenerateBody where
  /-- The name in the certificate. -/
  commonName : String
  /-- How long it is valid. -/
  days : Nat
  /-- `min_length=1, max_length=253`. -/
  commonNameLength : 1 ≤ commonName.length ∧ commonName.length ≤ 253
  /-- `ge=1, le=3650`. -/
  daysRange : 1 ≤ days ∧ days ≤ 3650

/-- The requests that replace the pair. -/
inductive TlsRequest (PrivateKey : Type) where
  /-- `POST /settings/tls/upload`. -/
  | upload (payload : CertUploadBody)
  /-- `POST /settings/tls/upload-pfx`. -/
  | uploadPfx (payload : PfxUploadBody)
  /-- `POST /settings/tls/regenerate-self-signed`, with the key that is drawn. -/
  | regenerateSelfSigned (payload : RegenerateBody) (drawn : PrivateKey)

/-- How a request ends. -/
inductive TlsEnding where
  /-- With an error response. -/
  | refused (error : HttpError)
  /-- With an exception that nothing handles. -/
  | raised
  /-- Not at all. -/
  | stopped
  /-- The pair is written, and the status row and the audit row follow. -/
  | written (source summary : String)
deriving DecidableEq

/-- A handler that has worked out the pair to write. -/
structure SuppliedPair where
  /-- The certificates. -/
  certPem : List UInt8
  /-- The key. -/
  keyPem : List UInt8
  /-- How the request ends once they are written. -/
  ending : TlsEnding

/-- The response to a fault of a certificate or key. -/
def TlsFault.ending : TlsFault → TlsEnding
  | .certError text => .refused ⟨400, some text⟩
  | .other => .raised

/-- `upload_tls` up to its write. -/
def uploadTls (payload : CertUploadBody) : Except TlsEnding SuppliedPair :=
  let certPem := Utf8.encode payload.certPem.toList
  let keyPem := Utf8.encode payload.keyPem.toList
  match validateCertKeyPair crypto certPem keyPem with
  | .error fault => .error fault.ending
  | .ok () =>
    match parseCert crypto certPem with
    | .error fault => .error fault.ending
    | .ok summary => .ok ⟨certPem, keyPem, .written "uploaded" summary⟩

/-- `upload_tls_pfx` up to its write. -/
def uploadTlsPfx (payload : PfxUploadBody) : Except TlsEnding SuppliedPair :=
  match decodeBase64 payload.pfxBase64.toList with
  | none => .error (.refused ⟨400, some "invalid_base64"⟩)
  | some pfxBytes =>
    match parsePkcs12 crypto pfxBytes payload.password with
    | .error fault => .error fault.ending
    | .ok (certPem, keyPem) =>
      match parseCert crypto certPem with
      | .error fault => .error fault.ending
      | .ok summary => .ok ⟨certPem, keyPem, .written "uploaded" ("PFX: " ++ summary)⟩

/-- `regenerate_self_signed` up to its write. The certificate is parsed after it. -/
def regenerateSelfSigned (payload : RegenerateBody) (drawn : PrivateKey) :
    Except TlsEnding SuppliedPair :=
  match generateSelfSigned crypto drawn payload.commonName payload.days with
  | none => .error .raised
  | some (certPem, keyPem) =>
    match parseCert crypto certPem with
    | .error _ => .ok ⟨certPem, keyPem, .raised⟩
    | .ok _ => .ok ⟨certPem, keyPem, .written "self_signed_via_ui"
        ("CN=" ++ payload.commonName ++ ", " ++ toString payload.days ++ "d")⟩

/-- A request up to its write. -/
def TlsRequest.prepare (ctx : SessionContext) (request : TlsRequest PrivateKey) :
    Except TlsEnding SuppliedPair :=
  if ctx.role ≠ "admin" then .error (.refused ⟨403, some "admin_required"⟩)
  else match request with
    | .upload payload => uploadTls crypto payload
    | .uploadPfx payload => uploadTlsPfx crypto payload
    | .regenerateSelfSigned payload drawn => Model.regenerateSelfSigned crypto payload drawn

/-- A request of a run: by whom, and how the filesystem operations end. -/
structure TlsCall (PrivateKey : Type) where
  /-- The caller. -/
  ctx : SessionContext
  /-- The request. -/
  request : TlsRequest PrivateKey
  /-- How each filesystem operation ends. -/
  plan : FsOp → FsOutcome

/-- A request: the volume after it, and how it ends. -/
def TlsCall.run (call : TlsCall PrivateKey) (volume : TlsVolume) : TlsVolume × TlsEnding :=
  match call.request.prepare crypto call.ctx with
  | .error ending => (volume, ending)
  | .ok pair =>
    match writeCertAndKey call.plan pair.certPem pair.keyPem volume with
    | (after, .returned) => (after, pair.ending)
    | (after, .raised text) =>
      (after, .refused ⟨500, some ("could not write to tls-state volume: " ++ text)⟩)
    | (after, .stopped) => (after, .stopped)

/-- What the requests make of the volume. -/
def tlsStep : Step TlsVolume (TlsCall PrivateKey) := fun volume call =>
  some (call.run crypto volume).1

end TacacsWeb.Model
