import TacacsWeb.Library.IntText
import TacacsWeb.Model.MavisChild

/-!
# The MAVIS child answers its requests

A run of the child answers every request packet as it should exactly when every reply it gets is
usable: what the transport raises is one of the exceptions that `_post_json` catches, a decoded
body is an object with a hashable `result`, an attached profile can be written, and the lookup
after an accepted AUTH has a verdict. A lookup without one leaves the acceptance as it is; any
other reply outside the condition ends the loop with the request unanswered.
-/

namespace TacacsWeb.Verif

open TacacsWeb.Library TacacsWeb.Library.Text TacacsWeb.Model

/-! ## The property -/

/-- The request packets in the lines of stdin, starting with the pairs read so far. -/
def requestsFrom (req : Packet) : List StdinLine → List Packet
  | [] => []
  | line :: lines =>
    if line.value = .text "=" then req :: requestsFrom ∅ lines
    else requestsFrom (readLine req line.value) lines

/-- The TACACS+ type of a packet. -/
def tactypeOf (req : Packet) : PyString := req.getD avTactype (.text "")

/-- The lookup after an accepted AUTH packet fails, or its reply has no valid verdict. -/
def LookupFails (backend : Backend) (call : Nat) (req : Packet) : Prop :=
  LooksUp backend call req ∧ hasVerdict (infoReply backend (call + 1) req) = false

instance (backend : Backend) (call : Nat) (req : Packet) :
    Decidable (LookupFails backend call req) :=
  inferInstanceAs (Decidable (_ ∧ _))

/-- The verdict that a packet is due: an error, if any call for it fails. -/
def dueVerdict (backend : Backend) (call : Nat) (req : Packet) : AuthResult :=
  if tactypeOf req = .text "AUTH" then
    if LookupFails backend call req then .err else replyVerdict (authReply backend call req)
  else if tactypeOf req = .text "INFO" then replyVerdict (infoReply backend call req)
  else if tactypeOf req = .text "HOST" then .ack
  else .nak

/-- The number of calls that a packet takes. -/
def callCount (backend : Backend) (call : Nat) (req : Packet) : Nat :=
  if tactypeOf req = .text "AUTH" then if LooksUp backend call req then 2 else 1
  else if tactypeOf req = .text "INFO" then 1
  else 0

/-- The lines end with the terminator, which occurs nowhere before. -/
def Terminated (block : List PyString) : Prop :=
  ∃ body, block = body ++ [.text "=0"] ∧ PyString.text "=0" ∉ body

/-- The lines are one response packet with the verdict. -/
def IsResponse (verdict : AuthResult) (block : List PyString) : Prop :=
  Terminated block ∧ ∃ packet : Packet, packet.get? avResult = some (.text verdict.code) ∧
    writeResponse packet = .ok block

/-- One response packet for each request packet, in order, each with the verdict it is due. -/
def Answered (backend : Backend) : Nat → List Packet → List (List PyString) → Prop
  | _, [], [] => True
  | call, req :: reqs, block :: blocks =>
    IsResponse (dueVerdict backend call req) block ∧
      Answered backend (call + callCount backend call req) reqs blocks
  | _, _, _ => False

/-- The child writes one response for each request on stdin and stops only where stdin ends. -/
def AnswersEvery (backend : Backend) (call : Nat) (lines : List StdinLine) : Prop :=
  ∃ blocks, Answered backend call (requestsFrom ∅ lines) blocks ∧
    main backend call lines = ⟨blocks.flatten, .ok 0⟩

/-! ## The condition -/

/-- The profile of an acceptance can be written. -/
def Writable (reply : HttpReply) : Prop :=
  replyVerdict reply = .ack → ∀ profile, replyProfile reply = some profile →
    profile.encodable = true

/-- The replies to the calls for one packet can be answered, and the lookup after an accepted AUTH
has a verdict. -/
def UsableReplies (backend : Backend) (call : Nat) (req : Packet) : Prop :=
  if tactypeOf req = .text "AUTH" then
    Answerable (authReply backend call req) ∧ (LooksUp backend call req →
      hasVerdict (infoReply backend (call + 1) req) = true ∧
        Writable (infoReply backend (call + 1) req))
  else if tactypeOf req = .text "INFO" then
    Answerable (infoReply backend call req) ∧ Writable (infoReply backend call req)
  else True

/-- The replies to the calls for every packet are usable. -/
def AllUsable (backend : Backend) : Nat → List Packet → Prop
  | _, [] => True
  | call, req :: reqs =>
    UsableReplies backend call req ∧ AllUsable backend (call + callCount backend call req) reqs

/-! ## Strings -/

/-- A string of encodable code points is encodable. -/
theorem encodable_ofCodePoints {codePoints : List Nat}
    (encodable : (PyString.surrogates codePoints).encodable = true) :
    (PyString.ofCodePoints codePoints).encodable = true := by
  unfold PyString.ofCodePoints
  split
  · rfl
  · exact encodable

/-- The parts of an encodable line are encodable. -/
theorem encodable_partitionSpace {line : PyString} (encodable : line.encodable = true) :
    line.partitionSpace.2.encodable = true := by
  cases line with
  | text line => rfl
  | surrogates codePoints =>
    apply encodable_ofCodePoints
    have every := List.all_eq_true.mp encodable
    apply List.all_eq_true.mpr
    intro codePoint listed
    exact every codePoint ((List.dropWhile_sublist _).subset (List.mem_of_mem_drop listed))

/-- The first blank separates the two parts of a line. -/
theorem partitionSpace_append {head : String} (unspaced : ' ' ∉ head.toList) (tail : String) :
    partitionSpace (head ++ " " ++ tail) = (head, tail) := by
  have blank : " ".toList = [' '] := rfl
  obtain ⟨taken, dropped⟩ := ends_before_separator unspaced tail.toList
  simp only [partitionSpace, String.toList_append, blank, List.append_assoc, List.singleton_append,
    taken, dropped, List.drop_succ_cons, List.drop_zero, String.ofList_toList]

/-- A decimal text holds no blank and no line end. -/
theorem notMem_index (idx : Int) : ' ' ∉ (toString idx).toList ∧ '\n' ∉ (toString idx).toList := by
  constructor <;> intro listed <;>
    exact absurd (mem_toString_int listed) (by decide)

/-- A short index is read back. -/
theorem parseInt_index {idx : Int} (short : idx.natAbs.repr.length ≤ 4300) :
    parseInt311 (toString idx) = some idx := by
  rw [parseInt311, parseIntIn_toString, if_pos short]

/-! ## Writing a packet -/

/-- Every value of the packet can be written. -/
def Encodable (av : Packet) : Prop :=
  ∀ key value, av.get? key = some value → value.encodable = true

/-- Assigning a value keeps a packet writable exactly when the value is. -/
theorem encodable_set {av : Packet} (clean : Encodable av) {key : Int} {value : PyString} :
    Encodable (av.set key value) ↔ value.encodable = true := by
  constructor
  · intro kept
    exact kept key value (Dict.get?_set_self _ _ _)
  · intro written other found present
    rw [Dict.get?_set] at present
    split at present
    · exact Option.some.inj present ▸ written
    · exact clean other found present

/-- Adding a text keeps a packet writable. -/
theorem encodable_set_text {av : Packet} (clean : Encodable av) (key : Int) (value : String) :
    Encodable (av.set key (.text value)) :=
  (encodable_set clean).mpr rfl

/-- What is read from stdin can be written to stdout. -/
theorem readRequest_encodable {req found : Packet} {lines rest : List StdinLine}
    (clean : Encodable req) (read : readRequest req lines = some (found, rest)) :
    Encodable found := by
  induction lines generalizing req with
  | nil => cases read
  | cons line lines ih =>
    unfold readRequest at read
    split at read
    · simp only [Option.some.injEq, Prod.mk.injEq] at read
      obtain ⟨rfl, -⟩ := read
      exact clean
    · refine ih ?_ read
      unfold readLine
      cases line.value.partitionSpace.1.parseInt with
      | none => exact clean
      | some idx => exact (encodable_set clean).mpr (encodable_partitionSpace line.decoded)

/-- Every index of the packet has a decimal text. -/
def ShortIndexes (av : Packet) : Prop :=
  ∀ key value, av.get? key = some value → key.natAbs.repr.length ≤ 4300

/-- Assigning at an index with a decimal text keeps the indexes short. -/
theorem shortIndexes_set {av : Packet} (short : ShortIndexes av) {key : Int} (value : PyString)
    (formattable : key.natAbs.repr.length ≤ 4300) : ShortIndexes (av.set key value) := by
  intro other found present
  rw [Dict.get?_set] at present
  split at present
  · rename_i same
    exact same ▸ formattable
  · exact short other found present

/-- An index that is read has a decimal text. -/
theorem parseInt_short {value : PyString} {idx : Int} (read : value.parseInt = some idx) :
    idx.natAbs.repr.length ≤ 4300 := by
  cases value with
  | text value => exact parseIntIn_short read
  | surrogates codePoints => cases read

/-- Packets read from stdin have short indexes. -/
theorem readRequest_shortIndexes {req found : Packet} {lines rest : List StdinLine}
    (short : ShortIndexes req) (read : readRequest req lines = some (found, rest)) :
    ShortIndexes found := by
  induction lines generalizing req with
  | nil => cases read
  | cons line lines ih =>
    unfold readRequest at read
    split at read
    · simp only [Option.some.injEq, Prod.mk.injEq] at read
      obtain ⟨rfl, -⟩ := read
      exact short
    · refine ih ?_ read
      unfold readLine
      cases index : line.value.partitionSpace.1.parseInt with
      | none => exact short
      | some idx => exact shortIndexes_set short _ (parseInt_short index)

/-- The line that a pair is written as. -/
def pairWritten (key : Int) (value : PyString) : PyString :=
  value.newlinesReplaced.after (toString key ++ " ")

/-- A pair is written when its index is short and its value can be encoded. -/
theorem responseLine_eq_ok {entry : Int × PyString} {line : PyString} :
    responseLine entry = .ok line ↔
      entry.1.natAbs.repr.length ≤ 4300 ∧ entry.2.encodable = true ∧
        pairWritten entry.1 entry.2 = line := by
  unfold responseLine formatInt
  by_cases short : entry.1.natAbs.repr.length ≤ 4300
  · rw [if_pos short]
    by_cases encodable : entry.2.encodable = true
    · simp [short, encodable, pairWritten]
    · simp [encodable]
  · rw [if_neg short]
    simp [short]

/-- The line of a pair with a text. -/
theorem pairWritten_text (key : Int) (value : String) :
    pairWritten key (.text value) =
      .text (toString key ++ " " ++ replaceChar '\n' "\r" value) :=
  rfl

/-- A line of a response has a blank, so it is not the terminator. -/
theorem pairWritten_ne (key : Int) (value : PyString) : pairWritten key value ≠ .text "=0" := by
  cases value with
  | surrogates codePoints => exact fun same => nomatch same
  | text value =>
    intro terminator
    have same := PyString.text.inj terminator
    have blank : ' ' ∈ "=0".toList := by
      rw [← same]
      simp
    exact absurd blank (by decide)

/-- The lines of the pairs, when every index is short and every value can be encoded. -/
theorem mapM_responseLine {entries : List (Int × PyString)}
    (fitting : ∀ entry ∈ entries,
      entry.1.natAbs.repr.length ≤ 4300 ∧ entry.2.encodable = true) :
    entries.mapM responseLine = .ok (entries.map fun entry => pairWritten entry.1 entry.2) := by
  induction entries with
  | nil => rfl
  | cons entry entries ih =>
    have mapped := ih fun other listed => fitting other (.tail _ listed)
    obtain ⟨short, encodable⟩ := fitting entry List.mem_cons_self
    have written := responseLine_eq_ok.mpr ⟨short, encodable, rfl⟩
    rw [List.mapM_cons, written, mapped]
    rfl

/-- Every pair of a written list is written. -/
theorem responseLine_of_mapM {entries : List (Int × PyString)} {lines : List PyString}
    (written : entries.mapM responseLine = .ok lines) :
    ∀ entry ∈ entries, entry.1.natAbs.repr.length ≤ 4300 ∧ entry.2.encodable = true := by
  induction entries generalizing lines with
  | nil => exact fun _ listed => absurd listed List.not_mem_nil
  | cons first entries ih =>
    rw [List.mapM_cons] at written
    cases head : responseLine first with
    | error exception => simp [head, bind, Except.bind] at written
    | ok line =>
      cases tail : entries.mapM responseLine with
      | error exception => simp [head, tail, bind, Except.bind] at written
      | ok later =>
        intro entry listed
        rcases List.mem_cons.mp listed with rfl | inEntries
        · obtain ⟨short, encodable, -⟩ := responseLine_eq_ok.mp head
          exact ⟨short, encodable⟩
        · exact ih tail entry inEntries

/-- The pairs of a packet in the order in which they are written. -/
def sortedItems (av : Packet) : List (Int × PyString) :=
  av.items.insertionSort fun a b => a.1 ≤ b.1

/-- The sorted pairs are those of the packet. -/
theorem mem_sortedItems {av : Packet} {entry : Int × PyString} :
    entry ∈ sortedItems av ↔ av.get? entry.1 = some entry.2 := by
  rw [sortedItems, List.mem_insertionSort]
  exact Dict.get?_eq_some_iff.symm

/-- A packet is written as its pairs and the terminator, when all of them can be written. -/
theorem writeResponse_eq_ok {av : Packet} {block : List PyString} :
    writeResponse av = .ok block ↔ ShortIndexes av ∧ Encodable av ∧
      block = (sortedItems av).map (fun entry => pairWritten entry.1 entry.2) ++ [.text "=0"] := by
  constructor
  · intro written
    rw [writeResponse] at written
    cases mapped : (av.items.insertionSort fun a b => a.1 ≤ b.1).mapM responseLine with
    | error exception => simp [mapped, Except.map] at written
    | ok lines =>
      have every := responseLine_of_mapM mapped
      have fitting : ∀ key value, av.get? key = some value →
          key.natAbs.repr.length ≤ 4300 ∧ value.encodable = true :=
        fun key value found => every (key, value) (mem_sortedItems.mpr found)
      refine ⟨fun key value found => (fitting key value found).1,
        fun key value found => (fitting key value found).2, ?_⟩
      have same := mapM_responseLine every
      rw [mapped] at same
      rw [mapped, Except.ok.inj same] at written
      exact (Except.ok.inj written).symm
  · rintro ⟨short, clean, rfl⟩
    have fitting : ∀ entry ∈ sortedItems av,
        entry.1.natAbs.repr.length ≤ 4300 ∧ entry.2.encodable = true := by
      intro entry listed
      have found := mem_sortedItems.mp listed
      exact ⟨short _ _ found, clean _ _ found⟩
    have mapped := mapM_responseLine fitting
    rw [writeResponse, show (av.items.insertionSort fun a b => a.1 ≤ b.1).mapM responseLine = _
      from mapped]
    rfl

/-- What is written is one terminated block. -/
theorem writeResponse_terminated {av : Packet} {block : List PyString}
    (written : writeResponse av = .ok block) : Terminated block := by
  obtain ⟨-, -, rfl⟩ := writeResponse_eq_ok.mp written
  refine ⟨_, rfl, fun listed => ?_⟩
  obtain ⟨entry, -, same⟩ := List.mem_map.mp listed
  exact pairWritten_ne entry.1 entry.2 same

/-- The first of two terminated blocks in a row ends where its terminator stands. -/
theorem Terminated.append_inj {first second front back : List PyString}
    (firstEnds : Terminated first) (secondEnds : Terminated second)
    (same : first ++ front = second ++ back) : first = second ∧ front = back := by
  obtain ⟨body, rfl, absent⟩ := firstEnds
  obtain ⟨other, rfl, otherAbsent⟩ := secondEnds
  induction body generalizing other with
  | nil =>
    cases other with
    | nil => exact ⟨rfl, List.append_cancel_left same⟩
    | cons line other =>
      have head : PyString.text "=0" = line := (List.cons.inj same).1
      exact absurd (head ▸ List.mem_cons_self) otherAbsent
  | cons line body ih =>
    cases other with
    | nil =>
      have head : line = PyString.text "=0" := (List.cons.inj same).1
      exact absurd (head ▸ List.mem_cons_self) absent
    | cons otherLine other =>
      obtain ⟨head, tail⟩ := List.cons.inj same
      obtain ⟨blocks, rest⟩ := ih (fun listed => absent (List.mem_cons_of_mem _ listed)) other
        (fun listed => otherAbsent (List.mem_cons_of_mem _ listed)) tail
      exact ⟨by rw [head, List.cons_append, List.cons_append, blocks], rest⟩

/-- The line of a pair tells its index. -/
theorem pairWritten_text_inj {key : Int} {idx : Int} {value : PyString} {text : String}
    (short : key.natAbs.repr.length ≤ 4300) (shortIdx : idx.natAbs.repr.length ≤ 4300)
    (same : pairWritten key value = pairWritten idx (.text text)) :
    key = idx ∧ value.newlinesReplaced = .text (replaceChar '\n' "\r" text) := by
  cases value with
  | surrogates codePoints => cases same
  | text value =>
    rw [pairWritten_text, pairWritten_text] at same
    have parts := congrArg partitionSpace (PyString.text.inj same)
    rw [partitionSpace_append (notMem_index key).1, partitionSpace_append (notMem_index idx).1]
      at parts
    obtain ⟨index, rest⟩ := Prod.mk.inj parts
    have read := congrArg parseInt311 index
    rw [parseInt_index short, parseInt_index shortIdx] at read
    exact ⟨Option.some.inj read, congrArg PyString.text rest⟩

/-- A block tells the verdict of the packet that is written as it. -/
theorem writeResponse_verdict {first second : Packet} {block : List PyString}
    {verdict other : AuthResult} (wrote : writeResponse first = .ok block)
    (alsoWrote : writeResponse second = .ok block)
    (carries : first.get? avResult = some (.text verdict.code))
    (alsoCarries : second.get? avResult = some (.text other.code)) : verdict = other := by
  obtain ⟨-, -, shape⟩ := writeResponse_eq_ok.mp wrote
  obtain ⟨short, -, otherShape⟩ := writeResponse_eq_ok.mp alsoWrote
  have listed : pairWritten avResult (.text verdict.code) ∈ block := by
    rw [shape]
    apply List.mem_append_left
    exact List.mem_map.mpr ⟨(avResult, .text verdict.code), mem_sortedItems.mpr carries, rfl⟩
  rw [otherShape] at listed
  rcases List.mem_append.mp listed with pair | terminator
  · obtain ⟨entry, inSecond, same⟩ := List.mem_map.mp pair
    have found := mem_sortedItems.mp inSecond
    obtain ⟨index, value⟩ := pairWritten_text_inj (short _ _ found) (by decide) same
    rw [index, alsoCarries] at found
    rw [← Option.some.inj found] at value
    cases verdict <;> cases other <;> first | rfl | exact absurd value (by decide)
  · exact absurd (List.mem_singleton.mp terminator) (pairWritten_ne _ _)

/-! ## Answering a packet -/

/-- An attached profile keeps the packet writable exactly when it is writable itself. -/
theorem encodable_attachProfile {base : Packet} (clean : Encodable base)
    {result : AuthResult} {profile : Option PyString} :
    Encodable (attachProfile base result profile) ↔
      (result = .ack → ∀ value, profile = some value → value.encodable = true) := by
  unfold attachProfile
  cases profile with
  | none => simp [clean]
  | some value =>
    by_cases accepted : result = .ack
    · simp [accepted, encodable_set clean]
    · simp [accepted, clean]

/-- An attached profile keeps the indexes short. -/
theorem shortIndexes_attachProfile {base : Packet} (short : ShortIndexes base)
    (result : AuthResult) (profile : Option PyString) :
    ShortIndexes (attachProfile base result profile) := by
  unfold attachProfile
  cases profile with
  | none => exact short
  | some value =>
    simp only
    split
    · exact shortIndexes_set short value (by decide)
    · exact short

/-- The answer adds the result and the profile, which have short indexes. -/
theorem answer_shortIndexes {backend : Backend} {call : Nat} {req packet : Packet}
    (short : ShortIndexes req) (answered : (answer backend call req).1 = .ok packet) :
    ShortIndexes packet := by
  have base : ∀ value, ShortIndexes (req.set avResult value) :=
    fun value => shortIndexes_set short value (by decide)
  simp only [answer] at answered
  split at answered
  · have first := handleAuth_ok answered
    by_cases lookup : LooksUp backend call req
    · rw [handleAuth_lookup first lookup (handleAuth_lookup_ok lookup answered)] at answered
      obtain rfl := Except.ok.inj answered
      exact shortIndexes_attachProfile (base _) _ _
    · rw [handleAuth_verdict first lookup] at answered
      obtain rfl := Except.ok.inj answered
      exact base _
  split at answered
  · rw [handleInfo_verdict (handleInfo_ok answered)] at answered
    obtain rfl := Except.ok.inj answered
    exact shortIndexes_attachProfile (base _) _ _
  -- The other types only add the result.
  · split at answered
    · obtain rfl := Except.ok.inj answered
      exact base _
    · split at answered <;> (obtain rfl := Except.ok.inj answered; exact base _)

/-- The verdict that `handle` gives a packet: that of the first call. -/
def givenVerdict (backend : Backend) (call : Nat) (req : Packet) : AuthResult :=
  if tactypeOf req = .text "AUTH" then replyVerdict (authReply backend call req)
  else dueVerdict backend call req

/-- The replies to the calls for one packet can be answered. -/
def AnswerableReplies (backend : Backend) (call : Nat) (req : Packet) : Prop :=
  if tactypeOf req = .text "AUTH" then
    Answerable (authReply backend call req) ∧
      (LooksUp backend call req → Answerable (infoReply backend (call + 1) req))
  else if tactypeOf req = .text "INFO" then Answerable (infoReply backend call req)
  else True

/-- The profile that is attached to the answer of a packet can be written. -/
def WritableReplies (backend : Backend) (call : Nat) (req : Packet) : Prop :=
  if tactypeOf req = .text "AUTH" then
    LooksUp backend call req → Writable (infoReply backend (call + 1) req)
  else if tactypeOf req = .text "INFO" then Writable (infoReply backend call req)
  else True

section Packets

variable {backend : Backend} {call : Nat} {req packet : Packet}

/-- Replies are usable when they can be answered, the profile can be written, and no lookup after
an accepted AUTH fails. -/
theorem usableReplies_iff : UsableReplies backend call req ↔
    AnswerableReplies backend call req ∧ WritableReplies backend call req ∧
      (tactypeOf req = .text "AUTH" → ¬LookupFails backend call req) := by
  unfold UsableReplies AnswerableReplies WritableReplies LookupFails
  by_cases auth : tactypeOf req = .text "AUTH"
  · simp only [auth, if_true, true_implies, not_and, Bool.not_eq_false]
    constructor
    · rintro ⟨first, lookup⟩
      exact ⟨⟨first, fun looks => answerable_of_hasVerdict (lookup looks).1⟩,
        fun looks => (lookup looks).2, fun looks => (lookup looks).1⟩
    · rintro ⟨⟨first, -⟩, writable, judged⟩
      exact ⟨first, fun looks => ⟨judged looks, writable looks⟩⟩
  · by_cases info : tactypeOf req = .text "INFO"
    · simp [info]
    · simp [auth, info]

/-- A packet with usable replies is given the verdict it is due. -/
theorem givenVerdict_of_usable (usable : UsableReplies backend call req) :
    givenVerdict backend call req = dueVerdict backend call req := by
  by_cases auth : tactypeOf req = .text "AUTH"
  · have found := (usableReplies_iff.mp usable).2.2 auth
    rw [givenVerdict, dueVerdict, if_pos auth, if_pos auth, if_neg found]
  · rw [givenVerdict, if_neg auth]

/-- After a failed lookup the acceptance is not the verdict that is due. -/
theorem givenVerdict_of_lookupFails (auth : tactypeOf req = .text "AUTH")
    (fails : LookupFails backend call req) :
    givenVerdict backend call req ≠ dueVerdict backend call req := by
  rw [givenVerdict, dueVerdict, if_pos auth, if_pos auth, if_pos fails, fails.1.1]
  decide

/-- Replies that can be answered give a packet with a verdict, which can be written when the
profile can. -/
theorem answer_answerable (clean : Encodable req)
    (answerable : AnswerableReplies backend call req) :
    ∃ packet calls, answer backend call req = (.ok packet, calls) ∧
      calls.length = callCount backend call req ∧
      (Encodable packet ↔ WritableReplies backend call req) ∧
      packet.get? avResult = some (.text (givenVerdict backend call req).code) := by
  have base : ∀ verdict : AuthResult, Encodable (req.set avResult (.text verdict.code)) :=
    fun verdict => encodable_set_text clean avResult _
  have verdict : ∀ verdict : AuthResult,
      (req.set avResult (.text verdict.code)).get? avResult = some (.text verdict.code) :=
    fun verdict => Dict.get?_set_self _ _ _
  by_cases auth : tactypeOf req = .text "AUTH"
  · simp only [AnswerableReplies, WritableReplies, callCount, givenVerdict, auth, ↓reduceIte]
      at answerable ⊢
    have branch : answer backend call req = handleAuth backend call req := if_pos auth
    rw [branch]
    by_cases lookup : LooksUp backend call req
    · refine ⟨_, _, handleAuth_lookup answerable.1 lookup (answerable.2 lookup), by simp [lookup],
        ?_, ?_⟩
      · rw [encodable_attachProfile (base _)]
        exact ⟨fun written _ => written, fun written => written lookup⟩
      · rw [attachProfile_result, verdict]
    · exact ⟨_, _, handleAuth_verdict answerable.1 lookup, by simp [lookup],
        iff_of_true (base _) fun looks => absurd looks lookup, verdict _⟩
  by_cases info : tactypeOf req = .text "INFO"
  · simp only [AnswerableReplies, WritableReplies, callCount, givenVerdict, dueVerdict, info,
      PyString.text.injEq, String.reduceEq, ↓reduceIte] at answerable ⊢
    have branch : answer backend call req = handleInfo backend call req :=
      (if_neg auth).trans (if_pos info)
    rw [branch]
    refine ⟨_, _, handleInfo_verdict answerable, rfl, encodable_attachProfile (base _), ?_⟩
    rw [attachProfile_result, verdict]
  -- The other types are answered without a call.
  simp only [WritableReplies, callCount, givenVerdict, dueVerdict, auth, info, ↓reduceIte,
    iff_true]
  simp only [tactypeOf] at auth info ⊢
  simp only [answer, auth, info, ↓reduceIte]
  by_cases chpw : req.getD avTactype (.text "") = .text "CHPW"
  · simp only [chpw, PyString.text.injEq, String.reduceEq, ↓reduceIte]
    exact ⟨_, _, rfl, rfl, base .nak, verdict .nak⟩
  · by_cases host : req.getD avTactype (.text "") = .text "HOST"
    · simp only [host, PyString.text.injEq, String.reduceEq, ↓reduceIte]
      exact ⟨_, _, rfl, rfl, base .ack, verdict .ack⟩
    · simp only [chpw, host, ↓reduceIte]
      exact ⟨_, _, rfl, rfl, base .nak, verdict .nak⟩

/-- A packet is made from replies that can be answered. -/
theorem answerableReplies_of_ok (answered : (answer backend call req).1 = .ok packet) :
    AnswerableReplies backend call req := by
  simp only [answer] at answered
  simp only [AnswerableReplies, tactypeOf]
  split at answered
  · rename_i auth
    simp only [auth, ↓reduceIte]
    exact ⟨handleAuth_ok answered, fun lookup => handleAuth_lookup_ok lookup answered⟩
  · rename_i other
    simp only [other, ↓reduceIte]
    split at answered
    · rename_i info
      simp only [info, ↓reduceIte]
      exact handleInfo_ok answered
    · rename_i other
      simp only [other, ↓reduceIte]

end Packets

/-! ## The loop -/

/-- Without a complete packet there is no request. -/
theorem requestsFrom_none {req : Packet} {lines : List StdinLine}
    (read : readRequest req lines = none) : requestsFrom req lines = [] := by
  induction lines generalizing req with
  | nil => rfl
  | cons line lines ih =>
    rw [readRequest] at read
    rw [requestsFrom]
    split at read
    · cases read
    · rename_i pair
      rw [if_neg pair]
      exact ih read

/-- The packet read is the first request. -/
theorem requestsFrom_some {req found : Packet} {lines rest : List StdinLine}
    (read : readRequest req lines = some (found, rest)) :
    requestsFrom req lines = found :: requestsFrom ∅ rest := by
  induction lines generalizing req with
  | nil => cases read
  | cons line lines ih =>
    rw [readRequest] at read
    rw [requestsFrom]
    split at read
    · rename_i final
      simp only [Option.some.injEq, Prod.mk.injEq] at read
      obtain ⟨rfl, rfl⟩ := read
      exact if_pos final
    · rename_i pair
      rw [if_neg pair]
      exact ih read

/-- Replies that can be answered with a profile that can be written let one packet be answered. -/
theorem handle_answerable {backend : Backend} {call : Nat} {req : Packet}
    (short : ShortIndexes req) (clean : Encodable req)
    (answerable : AnswerableReplies backend call req)
    (writable : WritableReplies backend call req) :
    ∃ block calls, handle backend call req = (.ok block, calls) := by
  obtain ⟨packet, calls, answered, -, written, -⟩ := answer_answerable clean answerable
  have shortPacket := answer_shortIndexes short (by rw [answered])
  have wrote := writeResponse_eq_ok.mpr ⟨shortPacket, written.mpr writable, rfl⟩
  refine ⟨(sortedItems packet).map (fun entry => pairWritten entry.1 entry.2) ++ [.text "=0"], calls,
    ?_⟩
  simp only [handle, answered, Except.bind]
  rw [wrote]

/-- What is written for a packet is a response with the given verdict, made from replies that can
be answered with a profile that can be written. -/
theorem handle_ok {backend : Backend} {call : Nat} {req : Packet} {block : List PyString}
    {calls : List HttpRequest} (clean : Encodable req)
    (handled : handle backend call req = (.ok block, calls)) :
    AnswerableReplies backend call req ∧ WritableReplies backend call req ∧
      calls.length = callCount backend call req ∧
        IsResponse (givenVerdict backend call req) block := by
  obtain ⟨bound, sent⟩ := Prod.mk.inj handled
  cases made : (answer backend call req).1 with
  | error exception =>
    rw [made] at bound
    cases bound
  | ok packet =>
    rw [made] at bound
    have wrote : writeResponse packet = .ok block := bound
    have answerable := answerableReplies_of_ok made
    obtain ⟨same, asked, answered, counted, written, verdict⟩ :=
      answer_answerable clean answerable
    rw [answered] at made sent
    obtain rfl := Except.ok.inj made
    have encodable := (writeResponse_eq_ok.mp wrote).2.1
    exact ⟨answerable, written.mp encodable, sent ▸ counted, writeResponse_terminated wrote, same,
      verdict, wrote⟩

/-- The packet without pairs can be written. -/
theorem encodable_empty : Encodable ∅ := fun _ _ found => nomatch found

/-- The packet without pairs has short indexes. -/
theorem shortIndexes_empty : ShortIndexes ∅ := fun _ _ found => nomatch found

/-- A run that answers every packet as it should has had usable replies to every call. -/
theorem allUsable_of_answersEvery {backend : Backend} {call : Nat} {lines : List StdinLine}
    (answers : AnswersEvery backend call lines) :
    AllUsable backend call (requestsFrom ∅ lines) := by
  unfold AnswersEvery at answers
  fun_induction main backend call lines with
  | case1 call lines read =>
    rw [requestsFrom_none read]
    trivial
  | case2 =>
    obtain ⟨blocks, -, ended⟩ := answers
    cases congrArg ChildRun.ending ended
  | case3 call lines req rest read written calls handled later ih =>
    have clean := readRequest_encodable encodable_empty read
    obtain ⟨answerable, writable, counted, response⟩ := handle_ok clean handled
    rw [requestsFrom_some read] at answers ⊢
    obtain ⟨blocks, answered, ended⟩ := answers
    cases blocks with
    | nil => exact answered.elim
    | cons block blocks =>
      obtain ⟨due, others⟩ := answered
      have lines := congrArg ChildRun.written ended
      have ending : later.ending = .ok 0 := congrArg ChildRun.ending ended
      obtain ⟨same, laterLines⟩ := response.1.append_inj due.1 lines
      rw [counted] at ih
      have usable : UsableReplies backend call req := by
        refine usableReplies_iff.mpr ⟨answerable, writable, fun auth fails => ?_⟩
        obtain ⟨-, first, carries, wrote⟩ := response
        obtain ⟨-, second, alsoCarries, alsoWrote⟩ := due
        rw [← same] at alsoWrote
        exact givenVerdict_of_lookupFails auth fails
          (writeResponse_verdict wrote alsoWrote carries alsoCarries)
      have run : later = ⟨blocks.flatten, .ok 0⟩ := by
        show ChildRun.mk later.written later.ending = _
        rw [laterLines, ending]
      refine ⟨usable, ih ⟨blocks, others, ?_⟩⟩
      rw [← counted]
      exact run

/-- Usable replies let every packet be answered. -/
theorem answersEvery_of_allUsable {backend : Backend} {call : Nat} {lines : List StdinLine}
    (usable : AllUsable backend call (requestsFrom ∅ lines)) :
    AnswersEvery backend call lines := by
  unfold AnswersEvery
  fun_induction main backend call lines with
  | case1 call lines read =>
    rw [requestsFrom_none read]
    exact ⟨[], trivial, rfl⟩
  | case2 call lines req rest read exception calls failed =>
    rw [requestsFrom_some read] at usable
    obtain ⟨answerable, writable, -⟩ := usableReplies_iff.mp usable.1
    obtain ⟨block, made, answered⟩ := handle_answerable
      (readRequest_shortIndexes shortIndexes_empty read)
      (readRequest_encodable encodable_empty read) answerable writable
    rw [answered] at failed
    cases failed
  | case3 call lines req rest read written calls handled later ih =>
    rw [requestsFrom_some read] at usable ⊢
    obtain ⟨-, -, counted, response⟩ :=
      handle_ok (readRequest_encodable encodable_empty read) handled
    rw [givenVerdict_of_usable usable.1] at response
    rw [counted] at ih
    obtain ⟨blocks, more, run⟩ := ih usable.2
    exact ⟨written :: blocks, ⟨response, more⟩, by simp [later, counted, run]⟩

/-- The child answers every request on stdin as it should exactly when every reply it gets is
usable. -/
theorem main_answers_iff (backend : Backend) (call : Nat) (lines : List StdinLine) :
    AnswersEvery backend call lines ↔ AllUsable backend call (requestsFrom ∅ lines) :=
  ⟨allUsable_of_answersEvery, answersEvery_of_allUsable⟩

/-- A status line that is no status line ends the child with the request unanswered. -/
theorem main_bad_status_line :
    ¬ AnswersEvery (fun _ _ => .error (.httpException "BadStatusLine")) 0
      (["4 jan", "25 10.0.0.1", "49 INFO", "="].map .ofText) := by
  intro answers
  have usable := allUsable_of_answersEvery answers
  exact usable.1.1

end TacacsWeb.Verif
