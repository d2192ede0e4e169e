import TacacsWeb.Library.Dict
import TacacsWeb.Library.Text
import TacacsWeb.Model.Json
import TacacsWeb.Model.MavisAuthn
import Mathlib.Data.List.Sort

/-!
# The MAVIS child

`docker/tac_plus-ng/mavis_child.py`: a loop that reads request packets from stdin, asks the
backend over HTTP and writes one response packet for each. The backend is a parameter that
may reply differently to every call, and a reply is either what `urlopen`, `read`, `decode`
and `json.loads` end in together: a JSON value, or the exception one of them raises. An
exception that the child does not catch ends its loop.

The container sets no locale, so Python reads stdin and writes stdout with `surrogateescape`: a
byte that is not UTF-8 comes in as one of the surrogates U+DC80 to U+DCFF and goes out again as
that byte. The other surrogates cannot be written.
-/

namespace TacacsWeb.Model

open TacacsWeb.Library TacacsWeb.Library.Text

/-- An exception, by the classes that the `except` clauses of the child tell apart. -/
inductive PyException where
  /-- `urllib.error.HTTPError`: a reply with an error status. -/
  | httpError (code : Nat)
  /-- `urllib.error.URLError` and its other subclasses, by class name. -/
  | urlError (className : String)
  /-- `OSError` and its other subclasses, by class name. -/
  | osError (className : String)
  /-- `ValueError` and its subclasses, by class name. -/
  | valueError (className : String)
  /-- `http.client.HTTPException` and its subclasses that are none of the above. -/
  | httpException (className : String)
  /-- Any other exception, by class name. -/
  | other (className : String)
deriving DecidableEq

/-- What a call to the backend comes back with. -/
abbrev HttpReply := Except PyException Json

/-- A POST request with its JSON payload. -/
structure HttpRequest where
  /-- The path after `BACKEND_URL`. -/
  path : String
  /-- The payload. -/
  payload : Dict String PyString
deriving DecidableEq

/-- The backend as the child sees it: the reply to the call of a number. -/
abbrev Backend := Nat → HttpRequest → HttpReply

/-- Attribute-value pairs of one MAVIS packet. -/
abbrev Packet := Dict Int PyString

/-- `AV_USER`. -/
def avUser : Int := 4

/-- `AV_RESULT`. -/
def avResult : Int := 6

/-- `AV_PASSWORD`. -/
def avPassword : Int := 8

/-- `AV_SERVERIP`. -/
def avServerip : Int := 25

/-- `AV_TACPROFILE`. -/
def avTacprofile : Int := 48

/-- `AV_TACTYPE`. -/
def avTactype : Int := 49

/-- `MAVIS_FINAL`. -/
def mavisFinal : Nat := 0

/-! ## Strings -/

/-- `surrogateescape` writes the string: it has no surrogate but U+DC80 to U+DCFF. -/
def PyString.encodable : PyString → Bool
  | .text _ => true
  | .surrogates codePoints => codePoints.all fun codePoint =>
    !(0xD800 ≤ codePoint && codePoint ≤ 0xDFFF) || (0xDC80 ≤ codePoint && codePoint ≤ 0xDCFF)

/-- A line that `sys.stdin.readline()` returns, without its line end. -/
structure StdinLine where
  /-- The line. -/
  value : PyString
  /-- Decoding makes no other surrogates. -/
  decoded : value.encodable = true

/-- A line that is a text. -/
def StdinLine.ofText (line : String) : StdinLine := ⟨.text line, rfl⟩

/-- `line.partition(" ")` without the separator, of a text. -/
def partitionSpace (line : String) : String × String :=
  (String.ofList (line.toList.takeWhile (· ≠ ' ')),
    String.ofList ((line.toList.dropWhile (· ≠ ' ')).drop 1))

/-- `line.partition(" ")` without the separator. -/
def PyString.partitionSpace : PyString → PyString × PyString
  | .text line => (.text (Model.partitionSpace line).1, .text (Model.partitionSpace line).2)
  | .surrogates codePoints =>
    (.ofCodePoints (codePoints.takeWhile (· ≠ 32)),
      .ofCodePoints ((codePoints.dropWhile (· ≠ 32)).drop 1))

/-- `int(value)`, none where it raises. -/
def PyString.parseInt : PyString → Option Int
  | .text value => parseInt311 value
  | .surrogates _ => none

/-- `value.replace("\n", "\r")`. -/
def PyString.newlinesReplaced : PyString → PyString
  | .text value => .text (replaceChar '\n' "\r" value)
  | .surrogates codePoints =>
    .surrogates (codePoints.map fun codePoint => if codePoint = 10 then 13 else codePoint)

/-- The string after a text. -/
def PyString.after (front : String) : PyString → PyString
  | .text value => .text (front ++ value)
  | .surrogates codePoints => .surrogates (front.toList.map Char.toNat ++ codePoints)

/-! ## Packets -/

/-- One pair of a request; a line without an integer index is skipped. -/
def readLine (req : Packet) (line : PyString) : Packet :=
  match line.partitionSpace.1.parseInt with
  | none => req
  | some idx => req.set idx line.partitionSpace.2

/-- `read_request`, on the lines of stdin: the packet and the lines after it, none when stdin ends
first. -/
def readRequest (req : Packet) : List StdinLine → Option (Packet × List StdinLine)
  | [] => none
  | line :: lines =>
    if line.value = .text "=" then some (req, lines)
    else readRequest (readLine req line.value) lines

/-- One line of `write_response`. -/
def responseLine (entry : Int × PyString) : Except PyException PyString :=
  match formatInt entry.1 with
  | none => .error (.valueError "ValueError")
  | some idx =>
    if entry.2.encodable then .ok (entry.2.newlinesReplaced.after (idx ++ " "))
    else .error (.valueError "UnicodeEncodeError")

/-- `write_response`: the lines of a complete response. -/
def writeResponse (av : Packet) : Except PyException (List PyString) :=
  ((av.items.insertionSort fun a b => a.1 ≤ b.1).mapM responseLine).map fun lines =>
    lines ++ [.text ("=" ++ toString mavisFinal)]

/-! ## Calls to the backend -/

/-- The verdict that a `result` member names. -/
def resultOf : Json → Option AuthResult
  | .string value =>
    [AuthResult.ack, .nak, .nfd, .err].find? fun result => value = .text result.code
  | _ => none

/-- The part of `_post_json` after the reply has been decoded. -/
def readReply : Json → Except PyException (AuthResult × Option PyString × Option PyString)
  | .object members =>
    let result := Json.member "result" members
    -- Membership in a set literal hashes the value first.
    if !result.hashable then .error (.other "TypeError")
    else match resultOf result with
      | none => .ok (.err, some (.text "backend_bad_response"), none)
      | some result =>
        .ok (result, (Json.member "reason" members).asString,
          (Json.member "profile" members).asString)
  | _ => .error (.other "AttributeError")

/-- `_post_json`: the verdict, the reason and the profile. -/
def postJson (backend : Backend) (call : Nat) (request : HttpRequest) :
    Except PyException (AuthResult × Option PyString × Option PyString) :=
  match backend call request with
  | .error (.httpError code) => .ok (.err, some (.text ("backend_http_" ++ toString code)), none)
  | .error (.urlError name) => .ok (.err, some (.text ("backend_unreachable: " ++ name)), none)
  | .error (.osError name) => .ok (.err, some (.text ("backend_unreachable: " ++ name)), none)
  | .error (.valueError name) => .ok (.err, some (.text ("backend_unreachable: " ++ name)), none)
  | .error (.httpException name) => .error (.httpException name)
  | .error (.other name) => .error (.other name)
  | .ok response => readReply response

/-- The request that `call_backend_auth` posts. -/
def authRequest (username password nasIp : PyString) : HttpRequest where
  path := "/internal/mavis/auth"
  payload :=
    let payload := (Dict.empty.set "username" username).set "password" password
    if nasIp = .text "" then payload else payload.set "nas_ip" nasIp

/-- The request that `call_backend_info` posts. -/
def infoRequest (username nasIp : PyString) : HttpRequest where
  path := "/internal/mavis/info"
  payload := (Dict.empty.set "username" username).set "nas_ip" nasIp

/-- `call_backend_auth`. -/
def callBackendAuth (backend : Backend) (call : Nat) (username password nasIp : PyString) :
    Except PyException (AuthResult × Option PyString) :=
  (postJson backend call (authRequest username password nasIp)).map fun answer =>
    (answer.1, answer.2.1)

/-- `call_backend_info`. -/
def callBackendInfo (backend : Backend) (call : Nat) (username nasIp : PyString) :
    Except PyException (AuthResult × Option PyString × Option PyString) :=
  postJson backend call (infoRequest username nasIp)

/-! ## The loop -/

/-- A result with the requests sent on the way to it. -/
abbrev WithCalls (Value : Type) := Value × List HttpRequest

/-- Attach the profile of an acceptance. -/
def attachProfile (req : Packet) (result : AuthResult) (profile : Option PyString) : Packet :=
  match profile with
  | none => req
  | some profile => if result = .ack then req.set avTacprofile profile else req

/-- The AUTH branch of `handle`. -/
def handleAuth (backend : Backend) (call : Nat) (req : Packet) :
    WithCalls (Except PyException Packet) :=
  let username := req.getD avUser (.text "")
  let password := req.getD avPassword (.text "")
  let nasIp := req.getD avServerip (.text "")
  let verify := authRequest username password nasIp
  match callBackendAuth backend call username password nasIp with
  | .error exception => (.error exception, [verify])
  | .ok (result, _) =>
    let answered := req.set avResult (.text result.code)
    if result = .ack ∧ nasIp ≠ .text "" then
      let lookup := infoRequest username nasIp
      match callBackendInfo backend (call + 1) username nasIp with
      | .error exception => (.error exception, [verify, lookup])
      | .ok (infoResult, _, profile) =>
        (.ok (attachProfile answered infoResult profile), [verify, lookup])
    else (.ok answered, [verify])

/-- The INFO branch of `handle`. -/
def handleInfo (backend : Backend) (call : Nat) (req : Packet) :
    WithCalls (Except PyException Packet) :=
  let username := req.getD avUser (.text "")
  let nasIp := req.getD avServerip (.text "")
  let lookup := infoRequest username nasIp
  match callBackendInfo backend call username nasIp with
  | .error exception => (.error exception, [lookup])
  | .ok (result, _, profile) =>
    (.ok (attachProfile (req.set avResult (.text result.code)) result profile), [lookup])

/-- `handle` up to `write_response`: the packet it is about to write. -/
def answer (backend : Backend) (call : Nat) (req : Packet) :
    WithCalls (Except PyException Packet) :=
  let tactype := req.getD avTactype (.text "")
  if tactype = .text "AUTH" then handleAuth backend call req
  else if tactype = .text "INFO" then handleInfo backend call req
  else if tactype = .text "CHPW" then (.ok (req.set avResult (.text AuthResult.nak.code)), [])
  else if tactype = .text "HOST" then (.ok (req.set avResult (.text AuthResult.ack.code)), [])
  else (.ok (req.set avResult (.text AuthResult.nak.code)), [])

/-- `handle`: the lines it writes. -/
def handle (backend : Backend) (call : Nat) (req : Packet) :
    WithCalls (Except PyException (List PyString)) :=
  let answered := answer backend call req
  (answered.1.bind writeResponse, answered.2)

/-- What a run of the child leaves behind. -/
structure ChildRun where
  /-- The lines of the responses completed on stdout. -/
  written : List PyString
  /-- The exit code, or the exception that ended the loop. -/
  ending : Except PyException Int
deriving DecidableEq

/-- Reading a packet consumes at least one line. -/
theorem readRequest_shorter {req found : Packet} {lines rest : List StdinLine}
    (read : readRequest req lines = some (found, rest)) : rest.length < lines.length := by
  induction lines generalizing req with
  | nil => cases read
  | cons line lines ih =>
    unfold readRequest at read
    split at read
    · simp only [Option.some.injEq, Prod.mk.injEq] at read
      obtain ⟨-, rfl⟩ := read
      exact Nat.lt_succ_self _
    · exact Nat.lt_succ_of_lt (ih read)

/-- `main`, from the call of a number on: the lines run out where stdin is closed. -/
def main (backend : Backend) (call : Nat) (lines : List StdinLine) : ChildRun :=
  match _read : readRequest ∅ lines with
  | none => ⟨[], .ok 0⟩
  | some (req, rest) =>
    match handle backend call req with
    | (.error exception, _) => ⟨[], .error exception⟩
    | (.ok written, calls) =>
      let later := main backend (call + calls.length) rest
      ⟨written ++ later.written, later.ending⟩
termination_by lines.length
decreasing_by exact readRequest_shorter _read

/-! ## What a reply amounts to -/

/-- The verdict of a reply: every failure and every reply that is not a JSON object with a
valid `result` is an error. -/
def replyVerdict : HttpReply → AuthResult
  | .ok (.object members) => (resultOf (Json.member "result" members)).getD .err
  | _ => .err

/-- The reply is a JSON object with a valid `result`. -/
def hasVerdict : HttpReply → Bool
  | .ok (.object members) => (resultOf (Json.member "result" members)).isSome
  | _ => false

/-- The profile of a reply with a valid result. -/
def replyProfile : HttpReply → Option PyString
  | .ok (.object members) =>
    if (resultOf (Json.member "result" members)).isSome then
      (Json.member "profile" members).asString
    else none
  | _ => none

/-- The child gets from the reply to a verdict: what was raised is caught, and what was
returned is a JSON object whose `result` can be hashed. -/
def Answerable : HttpReply → Prop
  | .error (.httpException _) => False
  | .error (.other _) => False
  | .error _ => True
  | .ok (.object members) => (Json.member "result" members).hashable = true
  | .ok _ => False

/-- The child gets to a verdict from a reply that has one. -/
theorem answerable_of_hasVerdict {reply : HttpReply} (judged : hasVerdict reply = true) :
    Answerable reply := by
  cases reply with
  | error exception => cases judged
  | ok response =>
    cases response with
    | object members =>
      have valid : (resultOf (Json.member "result" members)).isSome = true := judged
      change (Json.member "result" members).hashable = true
      cases result : Json.member "result" members with
      | string value => rfl
      | _ => simp [result, resultOf] at valid
    | _ => cases judged

/-- `_post_json` returns the verdict and the profile of an answerable reply. -/
theorem postJson_answerable {backend : Backend} {call : Nat} {request : HttpRequest}
    (answerable : Answerable (backend call request)) :
    ∃ reason, postJson backend call request = .ok (replyVerdict (backend call request), reason,
      replyProfile (backend call request)) := by
  unfold postJson
  generalize backend call request = reply at answerable ⊢
  cases reply with
  | error exception => cases exception <;> first | exact ⟨_, rfl⟩ | exact answerable.elim
  | ok response =>
    cases response with
    | object members =>
      have hashed : (Json.member "result" members).hashable = true := answerable
      simp only [readReply, hashed, Bool.not_true, Bool.false_eq_true, ↓reduceIte, replyVerdict,
        replyProfile]
      cases resultOf (Json.member "result" members) with
      | none => exact ⟨_, rfl⟩
      | some result => exact ⟨_, rfl⟩
    | _ => exact answerable.elim

/-- `_post_json` raises on a reply that is not answerable. -/
theorem postJson_not_answerable {backend : Backend} {call : Nat} {request : HttpRequest}
    (unanswerable : ¬ Answerable (backend call request)) :
    ∃ exception, postJson backend call request = .error exception := by
  unfold postJson
  generalize backend call request = reply at unanswerable ⊢
  cases reply with
  | error exception =>
    cases exception <;> first | exact ⟨_, rfl⟩ | exact absurd trivial unanswerable
  | ok response =>
    cases response with
    | object members =>
      have unhashed : (Json.member "result" members).hashable = false := by
        simpa [Answerable] using unanswerable
      exact ⟨.other "TypeError", by simp [readReply, unhashed]⟩
    | _ => exact ⟨_, rfl⟩

/-! ## What the branches of `handle` come to -/

/-- The reply to the first call for a packet, and to the lookup that follows an acceptance. -/
def authReply (backend : Backend) (call : Nat) (req : Packet) : HttpReply :=
  backend call (authRequest (req.getD avUser (.text "")) (req.getD avPassword (.text ""))
    (req.getD avServerip (.text "")))

/-- The reply to the lookup of a packet. -/
def infoReply (backend : Backend) (call : Nat) (req : Packet) : HttpReply :=
  backend call (infoRequest (req.getD avUser (.text "")) (req.getD avServerip (.text "")))

/-- An accepted AUTH packet with a NAS address is followed by a lookup. -/
def LooksUp (backend : Backend) (call : Nat) (req : Packet) : Prop :=
  replyVerdict (authReply backend call req) = .ack ∧ req.getD avServerip (.text "") ≠ .text ""

instance (backend : Backend) (call : Nat) (req : Packet) : Decidable (LooksUp backend call req) :=
  inferInstanceAs (Decidable (_ ∧ _))

variable {backend : Backend} {call : Nat} {req : Packet}

/-- Attaching a profile leaves the verdict as it is. -/
theorem attachProfile_result {result : AuthResult} {profile : Option PyString} :
    (attachProfile req result profile).get? avResult = req.get? avResult := by
  unfold attachProfile
  cases profile with
  | none => rfl
  | some value =>
    simp only
    split
    · exact Dict.get?_set_of_ne _ _ (by decide)
    · rfl

/-- The INFO branch on an answerable reply. -/
theorem handleInfo_verdict (answerable : Answerable (infoReply backend call req)) :
    handleInfo backend call req =
      (.ok (attachProfile
        (req.set avResult (.text (replyVerdict (infoReply backend call req)).code))
        (replyVerdict (infoReply backend call req)) (replyProfile (infoReply backend call req))),
        [infoRequest (req.getD avUser (.text "")) (req.getD avServerip (.text ""))]) := by
  obtain ⟨reason, posted⟩ := postJson_answerable answerable
  simp only [handleInfo, callBackendInfo, posted]
  rfl

/-- A packet from the INFO branch comes from an answerable reply. -/
theorem handleInfo_ok {packet : Packet} (answered : (handleInfo backend call req).1 = .ok packet) :
    Answerable (infoReply backend call req) := by
  by_contra unanswerable
  obtain ⟨exception, posted⟩ := postJson_not_answerable unanswerable
  simp [handleInfo, callBackendInfo, posted] at answered

/-- The AUTH branch without a lookup. -/
theorem handleAuth_verdict (answerable : Answerable (authReply backend call req))
    (final : ¬ LooksUp backend call req) :
    handleAuth backend call req =
      (.ok (req.set avResult (.text (replyVerdict (authReply backend call req)).code)),
        [authRequest (req.getD avUser (.text "")) (req.getD avPassword (.text ""))
          (req.getD avServerip (.text ""))]) := by
  obtain ⟨reason, posted⟩ := postJson_answerable answerable
  simp only [handleAuth, callBackendAuth, posted, Except.map]
  exact if_neg final

/-- The AUTH branch with an answerable lookup. -/
theorem handleAuth_lookup (answerable : Answerable (authReply backend call req))
    (lookup : LooksUp backend call req)
    (found : Answerable (infoReply backend (call + 1) req)) :
    handleAuth backend call req =
      (.ok (attachProfile
        (req.set avResult (.text (replyVerdict (authReply backend call req)).code))
        (replyVerdict (infoReply backend (call + 1) req))
        (replyProfile (infoReply backend (call + 1) req))),
        [authRequest (req.getD avUser (.text "")) (req.getD avPassword (.text ""))
          (req.getD avServerip (.text "")),
        infoRequest (req.getD avUser (.text "")) (req.getD avServerip (.text ""))]) := by
  obtain ⟨reason, posted⟩ := postJson_answerable answerable
  obtain ⟨why, looked⟩ := postJson_answerable found
  simp only [handleAuth, callBackendAuth, callBackendInfo, posted, looked, Except.map]
  exact if_pos lookup

/-- A packet from the AUTH branch comes from an answerable reply. -/
theorem handleAuth_ok {packet : Packet} (answered : (handleAuth backend call req).1 = .ok packet) :
    Answerable (authReply backend call req) := by
  by_contra unanswerable
  obtain ⟨exception, posted⟩ := postJson_not_answerable unanswerable
  simp [handleAuth, callBackendAuth, posted, Except.map] at answered

/-- A packet from the AUTH branch with a lookup comes from an answerable lookup. -/
theorem handleAuth_lookup_ok {packet : Packet} (lookup : LooksUp backend call req)
    (answered : (handleAuth backend call req).1 = .ok packet) :
    Answerable (infoReply backend (call + 1) req) := by
  obtain ⟨reason, posted⟩ := postJson_answerable (handleAuth_ok answered)
  by_contra unanswerable
  obtain ⟨exception, looked⟩ := postJson_not_answerable unanswerable
  simp only [handleAuth, callBackendAuth, callBackendInfo, posted, looked, Except.map] at answered
  unfold LooksUp authReply at lookup
  rw [if_pos lookup] at answered
  cases answered

end TacacsWeb.Model
