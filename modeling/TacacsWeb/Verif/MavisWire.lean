import TacacsWeb.Verif.MavisAnswers
import Mathlib.Data.List.Forall2

/-!
# The MAVIS wire format

Requests written to the child's stdin are the packets it reads, and the responses it prints
are read back as the packets it wrote. Both directions go through decimal indexes, so they
are limited to the indexes that `int()` and `str()` convert.
-/

namespace TacacsWeb.Verif

open TacacsWeb.Library TacacsWeb.Library.Text TacacsWeb.Model

/-! ## The property -/

/-- Successive calls of `read_request` return the packets and then None. -/
def SuccessiveReads : List Packet → List StdinLine → Prop
  | [], lines => readRequest ∅ lines = none
  | packet :: packets, lines =>
    ∃ rest, readRequest ∅ lines = some (packet, rest) ∧ SuccessiveReads packets rest

/-- The line of one pair. -/
def pairLine (entry : Nat × String) : String := toString entry.1 ++ " " ++ entry.2

/-- The lines of one request. -/
def requestLines (entries : List (Nat × String)) : List String := entries.map pairLine ++ ["="]

/-- The text on stdin for requests with their pairs in the given orders. -/
def stdinText (orders : List (List (Nat × String))) : String :=
  joinLines (orders.flatMap requestLines)

/-- The packet holds the pairs of the map and no others. -/
def HoldsPairs (map : Dict Nat String) (packet : Packet) : Prop :=
  ∀ key value, packet.get? key = some value ↔
    ∃ idx text, map.get? idx = some text ∧ key = (idx : Int) ∧ value = .text text

/-- The pairs of the map fit on lines of their own. -/
def OnLines (map : Dict Nat String) : Prop :=
  ∀ idx text, map.get? idx = some text → idx.repr.length ≤ 4300 ∧ '\n' ∉ text.toList

/-- Lines with their line ends. -/
def joined (lines : List PyString) : PyString :=
  .ofCodePoints (lines.flatMap fun line => line.codePoints ++ [10])

/-- What `write_response` prints. -/
def printed (av : Packet) : Except PyException PyString := (writeResponse av).map joined

/-- A response read up to its terminator, with CR decoded as LF. -/
def parseResponse (out : Packet) : List String → Option Packet
  | [] => none
  | line :: lines =>
    if line = "=0" then some out
    else match parseInt311 (partitionSpace line).1 with
      | none => none
      | some idx =>
        parseResponse (out.set idx (.text (replaceChar '\r' "\n" (partitionSpace line).2))) lines

/-- No value of the packet holds a CR. -/
def NoCarriageReturns (av : Packet) : Prop :=
  ∀ key text, av.get? key = some (.text text) → '\r' ∉ text.toList

/-! ## Lines -/

/-- A line with an index is no terminator of a request. -/
theorem indexLine_ne (idx : Int) (value : String) : toString idx ++ " " ++ value ≠ "=" := by
  intro same
  have blank : ' ' ∈ "=".toList := by
    rw [← same]
    simp
  exact absurd blank (by decide)

/-! ## Requests -/

/-- A request line assigns its pair. -/
theorem readLine_pairLine {entry : Nat × String} (short : entry.1.repr.length ≤ 4300)
    (req : Packet) :
    readLine req (.text (pairLine entry)) = req.set (entry.1 : Int) (.text entry.2) := by
  have index := @parseInt_index (entry.1 : Int) short
  have value := partitionSpace_append (notMem_index (entry.1 : Int)).1 entry.2
  have text : pairLine entry = toString (entry.1 : Int) ++ " " ++ entry.2 := rfl
  rw [readLine, text]
  simp only [PyString.partitionSpace, PyString.parseInt, value, index]

/-- The lines of a request are read as its pairs, assigned in order. -/
theorem readRequest_requestLines {entries : List (Nat × String)}
    (short : ∀ entry ∈ entries, entry.1.repr.length ≤ 4300) (req : Packet)
    (rest : List StdinLine) :
    readRequest req ((requestLines entries).map .ofText ++ rest) =
      some ((entries.map fun entry => ((entry.1 : Int), PyString.text entry.2)).foldl
        (fun req entry => req.set entry.1 entry.2) req, rest) := by
  induction entries generalizing req with
  | nil => rfl
  | cons entry entries ih =>
    have later := ih fun other listed => short other (List.mem_cons_of_mem _ listed)
    have shape : (requestLines (entry :: entries)).map .ofText ++ rest =
        .ofText (pairLine entry) :: ((requestLines entries).map .ofText ++ rest) := rfl
    have other : (StdinLine.ofText (pairLine entry)).value ≠ .text "=" := fun same =>
      indexLine_ne (entry.1 : Int) entry.2 (PyString.text.inj same)
    have assigned := readLine_pairLine (short entry List.mem_cons_self) req
    have value : (StdinLine.ofText (pairLine entry)).value = .text (pairLine entry) := rfl
    rw [shape, readRequest, if_neg other, value, assigned, later]
    rfl

/-- The pairs of a map, assigned in any order, carry the map. -/
theorem holdsPairs_of_perm {map : Dict Nat String} {order : List (Nat × String)}
    (ordered : order.Perm map.items) :
    HoldsPairs map ((order.map fun entry => ((entry.1 : Int), PyString.text entry.2)).foldl
      (fun req entry => req.set entry.1 entry.2) ∅) := by
  have distinct : ((order.map fun entry => ((entry.1 : Int), PyString.text entry.2)).map
      Prod.fst).Nodup := by
    have keys : ((order.map Prod.fst).map fun idx : Nat => (idx : Int)).Nodup :=
      List.Nodup.map (fun _ _ same => Int.ofNat.inj same)
        ((ordered.map Prod.fst).nodup_iff.mpr map.nodup)
    rw [List.map_map] at keys ⊢
    exact keys
  intro key value
  rw [Dict.get?_foldl_set distinct]
  constructor
  · rintro (listed | ⟨-, found⟩)
    · obtain ⟨entry, inOrder, same⟩ := List.mem_map.mp listed
      refine ⟨entry.1, entry.2, Dict.get?_eq_some_iff.mpr (ordered.mem_iff.mp inOrder), ?_, ?_⟩
      · exact (congrArg Prod.fst same).symm
      · exact (congrArg Prod.snd same).symm
    · cases found
  · rintro ⟨idx, text, found, rfl, rfl⟩
    exact .inl (List.mem_map.mpr
      ⟨(idx, text), ordered.mem_iff.mpr (Dict.get?_eq_some_iff.mp found), rfl⟩)

/-- The lines of requests hold no line ends. -/
theorem notMem_requestLines {entries : List (Nat × String)}
    (whole : ∀ entry ∈ entries, '\n' ∉ entry.2.toList) :
    ∀ line ∈ requestLines entries, '\n' ∉ line.toList := by
  intro line listed
  rcases List.mem_append.mp listed with pair | terminator
  · obtain ⟨entry, inEntries, rfl⟩ := List.mem_map.mp pair
    have index := (notMem_index (entry.1 : Int)).2
    have value := whole entry inEntries
    have text : pairLine entry = toString (entry.1 : Int) ++ " " ++ entry.2 := rfl
    simp only [text, String.toList_append, List.mem_append, not_or]
    exact ⟨⟨index, by decide⟩, value⟩
  · rw [List.mem_singleton.mp terminator]
    decide

/-- Requests in sequence are read in sequence, each as its own packet. -/
theorem successiveReads_requests {maps : List (Dict Nat String)}
    {orders : List (List (Nat × String))}
    (ordered : List.Forall₂ (fun map order => order.Perm map.items) maps orders)
    (fitting : ∀ map ∈ maps, OnLines map) :
    ∃ packets, SuccessiveReads packets ((orders.flatMap requestLines).map .ofText) ∧
      List.Forall₂ HoldsPairs maps packets := by
  induction ordered with
  | nil => exact ⟨[], rfl, .nil⟩
  | @cons map order maps orders first _ ih =>
    obtain ⟨packets, reads, carried⟩ := ih fun other listed =>
      fitting other (List.mem_cons_of_mem _ listed)
    have short : ∀ entry ∈ order, entry.1.repr.length ≤ 4300 := fun entry listed =>
      (fitting map List.mem_cons_self entry.1 entry.2
        (Dict.get?_eq_some_iff.mpr (first.mem_iff.mp listed))).1
    refine ⟨_ :: packets, ⟨(orders.flatMap requestLines).map .ofText, ?_, reads⟩,
      .cons (holdsPairs_of_perm first) carried⟩
    rw [List.flatMap_cons, List.map_append]
    exact readRequest_requestLines short ∅ _

/-- The lines of requests are read back from stdin. -/
theorem readLines_stdinText {maps : List (Dict Nat String)}
    {orders : List (List (Nat × String))}
    (ordered : List.Forall₂ (fun map order => order.Perm map.items) maps orders)
    (fitting : ∀ map ∈ maps, OnLines map) :
    readLines (stdinText orders) = orders.flatMap requestLines := by
  refine readLines_joinLines fun line listed => ?_
  obtain ⟨order, inOrders, inOrder⟩ := List.mem_flatMap.mp listed
  induction ordered with
  | nil => cases inOrders
  | @cons map first maps orders perm _ ih =>
    rcases List.mem_cons.mp inOrders with rfl | later
    · refine notMem_requestLines (fun entry inEntries => ?_) line inOrder
      exact (fitting map List.mem_cons_self entry.1 entry.2
        (Dict.get?_eq_some_iff.mpr (perm.mem_iff.mp inEntries))).2
    · exact ih (fun other listed => fitting other (List.mem_cons_of_mem _ listed))
        (List.mem_flatMap.mpr ⟨order, later, inOrder⟩) later

/-! ## Responses -/

/-- The line that a pair with a text is written as. -/
def writtenLine (entry : Int × String) : String :=
  toString entry.1 ++ " " ++ replaceChar '\n' "\r" entry.2

/-- The pairs of a response are read back in the order of its lines. -/
theorem parseResponse_writtenLines {entries : List (Int × String)}
    (short : ∀ entry ∈ entries, entry.1.natAbs.repr.length ≤ 4300)
    (plain : ∀ entry ∈ entries, '\r' ∉ entry.2.toList) (out : Packet) :
    parseResponse out (entries.map writtenLine ++ ["=0"]) =
      some ((entries.map fun entry => (entry.1, PyString.text entry.2)).foldl
        (fun out entry => out.set entry.1 entry.2) out) := by
  induction entries generalizing out with
  | nil => rfl
  | cons entry entries ih =>
    have later := ih (fun other listed => short other (List.mem_cons_of_mem _ listed))
      fun other listed => plain other (List.mem_cons_of_mem _ listed)
    have fitting := short entry List.mem_cons_self
    have index := parseInt_index fitting
    have value := partitionSpace_append (notMem_index entry.1).1 (replaceChar '\n' "\r" entry.2)
    have decoded : replaceChar '\r' "\n" (replaceChar '\n' "\r" entry.2) = entry.2 :=
      @replaceChar_replaceChar '\n' '\r' entry.2 (plain entry List.mem_cons_self)
    have terminator : writtenLine entry ≠ "=0" := fun same =>
      pairWritten_ne entry.1 (.text entry.2) (congrArg PyString.text same)
    rw [List.map_cons, List.cons_append, parseResponse, if_neg terminator]
    simp only [writtenLine, value, index, decoded]
    exact later _

/-- No value of the packet holds a lone surrogate. -/
def NoSurrogates (av : Packet) : Prop :=
  ∀ key codePoints, av.get? key ≠ some (.surrogates codePoints)

/-- A packet without lone surrogates can be written. -/
theorem encodable_of_noSurrogates {av : Packet} (clean : NoSurrogates av) : Encodable av := by
  intro key value found
  cases value with
  | text value => rfl
  | surrogates codePoints => exact absurd found (clean key codePoints)

/-- Pairs without lone surrogates are pairs with texts. -/
theorem entries_of_noSurrogates {av : Packet} (clean : NoSurrogates av)
    (pairs : List (Int × PyString)) (present : ∀ pair ∈ pairs, av.get? pair.1 = some pair.2) :
    ∃ entries : List (Int × String),
      (entries.map fun entry => (entry.1, PyString.text entry.2)) = pairs := by
  induction pairs with
  | nil => exact ⟨[], rfl⟩
  | cons pair pairs ih =>
    obtain ⟨entries, same⟩ := ih fun other listed => present other (List.mem_cons_of_mem _ listed)
    have found := present pair List.mem_cons_self
    obtain ⟨key, value⟩ := pair
    cases value with
    | text value => exact ⟨(key, value) :: entries, congrArg _ same⟩
    | surrogates codePoints => exact absurd found (clean key codePoints)

/-- The lines of a response in the words of its entries. -/
theorem writeResponse_lines {av : Packet} (short : ShortIndexes av) (clean : NoSurrogates av) :
    ∃ entries : List (Int × String),
      (entries.map fun entry => (entry.1, PyString.text entry.2)).Perm av.items ∧
      writeResponse av = .ok ((entries.map writtenLine ++ ["=0"]).map .text) := by
  obtain ⟨entries, same⟩ := entries_of_noSurrogates clean (sortedItems av)
    fun pair listed => mem_sortedItems.mp listed
  have lines : (sortedItems av).map (fun entry => pairWritten entry.1 entry.2) ++ [.text "=0"] =
      (entries.map writtenLine ++ ["=0"]).map .text := by
    rw [← same, List.map_map, List.map_append, List.map_map]
    rfl
  refine ⟨entries, same ▸ List.perm_insertionSort _ _, ?_⟩
  rw [← lines]
  exact writeResponse_eq_ok.mpr ⟨short, encodable_of_noSurrogates clean, rfl⟩

/-- Lines of texts are printed as their text. -/
theorem joined_text (lines : List String) : joined (lines.map .text) = .text (joinLines lines) := by
  have codes : ((lines.map PyString.text).flatMap fun line => line.codePoints ++ [10]) =
      (PyString.text (joinLines lines)).codePoints := by
    show _ = (joinLines lines).toList.map Char.toNat
    rw [joinLines, String.toList_ofList, List.flatMap_map, List.map_flatMap]
    exact List.flatMap_congr fun line _ => by
      rw [List.map_append]
      rfl
  rw [joined, codes]
  exact PyString.ofCodePoints_text _

/-- A printed response is one terminated block, which is read back as the packet. -/
theorem printed_reads_back {av : Packet} (short : ShortIndexes av) (clean : NoSurrogates av)
    (plain : NoCarriageReturns av) :
    ∃ text, printed av = .ok (.text text) ∧ Terminated ((readLines text).map .text) ∧
      ∃ found, parseResponse ∅ (readLines text) = some found ∧
        ∀ key, found.get? key = av.get? key := by
  obtain ⟨entries, ordered, wrote⟩ := writeResponse_lines short clean
  have terminated := writeResponse_terminated wrote
  have listed : ∀ entry ∈ entries, av.get? entry.1 = some (.text entry.2) := fun entry inEntries =>
    Dict.get?_eq_some_iff.mpr (ordered.mem_iff.mp (List.mem_map_of_mem inEntries))
  have whole : ∀ line ∈ entries.map writtenLine ++ ["=0"], '\n' ∉ line.toList := by
    intro line inLines
    rcases List.mem_append.mp inLines with pair | final
    · obtain ⟨entry, -, rfl⟩ := List.mem_map.mp pair
      have index := (notMem_index entry.1).2
      have value : '\n' ∉ (replaceChar '\n' "\r" entry.2).toList :=
        @notMem_replaceChar '\n' '\r' (by decide) entry.2
      simp only [writtenLine, String.toList_append, List.mem_append, not_or]
      exact ⟨⟨index, by decide⟩, value⟩
    · rw [List.mem_singleton.mp final]
      decide
  refine ⟨joinLines (entries.map writtenLine ++ ["=0"]), ?_, ?_⟩
  · rw [printed, wrote]
    exact congrArg Except.ok (joined_text _)
  rw [readLines_joinLines whole]
  refine ⟨terminated, _, parseResponse_writtenLines
    (fun entry inEntries => short _ _ (listed entry inEntries))
    (fun entry inEntries => plain _ _ (listed entry inEntries)) ∅, fun key => ?_⟩
  have distinct : ((entries.map fun entry => (entry.1, PyString.text entry.2)).map
      Prod.fst).Nodup := (ordered.map Prod.fst).nodup_iff.mpr av.nodup
  refine Option.ext fun value => ?_
  rw [Dict.get?_foldl_set distinct, ordered.mem_iff, ← Dict.get?_eq_some_iff,
    Dict.get?_emptyCollection]
  simp

/-! ## The result -/

/-- Requests with indexes of at most 4300 digits are read as the maps they encode, and
responses of texts with such indexes are read back as the packets they were written from. -/
theorem wire_round_trip :
    (∀ (maps : List (Dict Nat String)) (orders : List (List (Nat × String))),
      List.Forall₂ (fun map order => order.Perm map.items) maps orders →
      (∀ map ∈ maps, OnLines map) →
      ∃ packets, SuccessiveReads packets ((readLines (stdinText orders)).map .ofText) ∧
        List.Forall₂ HoldsPairs maps packets) ∧
    (∀ av : Packet, ShortIndexes av → NoSurrogates av → NoCarriageReturns av →
      ∃ text, printed av = .ok (.text text) ∧ Terminated ((readLines text).map .text) ∧
        ∃ found, parseResponse ∅ (readLines text) = some found ∧
          ∀ key, found.get? key = av.get? key) := by
  constructor
  · intro maps orders ordered fitting
    rw [readLines_stdinText ordered fitting]
    exact successiveReads_requests ordered fitting
  · exact fun av => printed_reads_back

/-- A request whose password looks like a terminator. -/
def wireRequest : Dict Nat String :=
  Dict.ofList [(4, "jan"), (8, "=0 8 x"), (25, ""), (49, "AUTH")]

/-- A response with a profile of several lines. -/
def wireResponse : Packet :=
  Dict.ofList [(49, .text "INFO"), (4, .text "=0"), (48, .text "profile a \x7b\n  enable\n\x7d\n")]

/-- Two requests are read one after the other, and a response is read back. -/
theorem wire_round_trip_sample :
    (∃ packets,
      SuccessiveReads packets
        ((readLines (stdinText [wireRequest.items.reverse, []])).map .ofText) ∧
      List.Forall₂ HoldsPairs [wireRequest, ∅] packets) ∧
    ∃ text, printed wireResponse = .ok (.text text) ∧ Terminated ((readLines text).map .text) ∧
      ∃ found, parseResponse ∅ (readLines text) = some found ∧
        ∀ key, found.get? key = wireResponse.get? key := by
  have requestPairs : ∀ entry ∈ wireRequest.items,
      entry.1.repr.length ≤ 4300 ∧ '\n' ∉ entry.2.toList := by decide +kernel
  have responsePairs : ∀ entry ∈ wireResponse.items, entry.1.natAbs.repr.length ≤ 4300 ∧
      ∃ text ∈ ["INFO", "=0", "profile a \x7b\n  enable\n\x7d\n"],
        entry.2 = .text text ∧ '\r' ∉ text.toList := by decide +kernel
  constructor
  · refine wire_round_trip.1 [wireRequest, ∅] _
      (.cons (List.reverse_perm _) (.cons (List.Perm.refl []) .nil)) ?_
    intro map listed idx text found
    rw [Dict.get?_eq_some_iff] at found
    rcases List.mem_cons.mp listed with rfl | last
    · exact requestPairs (idx, text) found
    · rw [List.mem_singleton.mp last] at found
      cases found
  · refine wire_round_trip.2 wireResponse ?_ ?_ ?_
    · intro key value found
      exact (responsePairs (key, value) (Dict.get?_eq_some_iff.mp found)).1
    · intro key codePoints found
      obtain ⟨-, text, -, same, -⟩ := responsePairs _ (Dict.get?_eq_some_iff.mp found)
      cases same
    · intro key value found
      obtain ⟨-, text, -, same, plain⟩ := responsePairs _ (Dict.get?_eq_some_iff.mp found)
      exact PyString.text.inj same ▸ plain

/-- A pair with a long index is skipped. -/
theorem readLine_longIndex {idx : Nat} (long : ¬ idx.repr.length ≤ 4300) (value : String)
    (req : Packet) : readLine req (.text (pairLine (idx, value))) = req := by
  have parts := partitionSpace_append (notMem_index (idx : Int)).1 value
  have text : pairLine (idx, value) = toString (idx : Int) ++ " " ++ value := rfl
  have index : parseInt311 (toString (idx : Int)) = none := by
    rw [parseInt311, parseIntIn_toString, Int.natAbs_natCast, if_neg long]
  rw [readLine, text]
  simp only [PyString.partitionSpace, PyString.parseInt, parts, index]

/-- A request of one pair with a long index is not read as its map. -/
theorem longIndex_not_read {idx : Nat} (long : ¬ idx.repr.length ≤ 4300) :
    ¬ ∃ packets, SuccessiveReads packets ((readLines (stdinText [[(idx, "x")]])).map .ofText) ∧
      List.Forall₂ HoldsPairs [(∅ : Dict Nat String).set idx "x"] packets := by
  have whole := @notMem_requestLines [(idx, "x")] (by simp)
  have lines : readLines (stdinText [[(idx, "x")]]) = [pairLine (idx, "x"), "="] := by
    rw [stdinText, List.flatMap_singleton, readLines_joinLines whole]
    rfl
  have other : (StdinLine.ofText (pairLine (idx, "x"))).value ≠ .text "=" := fun same =>
    indexLine_ne (idx : Int) "x" (PyString.text.inj same)
  have value : (StdinLine.ofText (pairLine (idx, "x"))).value = .text (pairLine (idx, "x")) := rfl
  rintro ⟨packets, reads, carried⟩
  cases carried with
  | @cons _ packet _ rest first last =>
    obtain ⟨after, read, -⟩ := reads
    rw [lines, List.map_cons, readRequest, if_neg other, value, readLine_longIndex long] at read
    obtain rfl : ∅ = packet := congrArg Prod.fst (Option.some.inj read)
    have present := (first (idx : Int) (.text "x")).mpr
      ⟨idx, "x", Dict.get?_set_self _ _ _, rfl, rfl⟩
    cases present

/-- A packet with a long index or a value that cannot be encoded is not printed. -/
theorem not_printed {av : Packet} (unwritable : ¬ (ShortIndexes av ∧ Encodable av))
    (text : PyString) : printed av ≠ .ok text := by
  intro wrote
  cases written : writeResponse av with
  | error exception => simp [printed, written, Except.map] at wrote
  | ok block =>
    obtain ⟨short, clean, -⟩ := writeResponse_eq_ok.mp written
    exact unwritable ⟨short, clean⟩

/-- A packet with a long index has no short indexes. -/
theorem not_shortIndexes_set {idx : Nat} (long : ¬ idx.repr.length ≤ 4300) (value : PyString) :
    ¬ ShortIndexes ((∅ : Packet).set (idx : Int) value) := by
  intro short
  have index := short _ _ (Dict.get?_set_self _ _ _)
  rw [Int.natAbs_natCast] at index
  exact long index

/-- A power of ten has more digits than its exponent. -/
theorem pow_long {exponent : Nat} (positive : 0 < exponent) :
    ¬ (Nat.pow 10 exponent).repr.length ≤ exponent := by
  rw [Nat.length_repr_le_iff positive]
  exact Nat.lt_irrefl _

/-- An index of 4301 digits. -/
def giantIndex : Nat := Nat.pow 10 4300

/-- The giant index is longer than what `int()` reads. -/
theorem giantIndex_long : ¬ giantIndex.repr.length ≤ 4300 := pow_long (by decide)

/-- A giant index is skipped in a request and stops a response, and so does a lone surrogate. -/
theorem giant_index_lost :
    ¬ (∃ packets,
      SuccessiveReads packets ((readLines (stdinText [[(giantIndex, "x")]])).map .ofText) ∧
      List.Forall₂ HoldsPairs [(∅ : Dict Nat String).set giantIndex "x"] packets) ∧
    (∀ text, printed ((∅ : Packet).set (giantIndex : Int) (.text "x")) ≠ .ok text) ∧
    ∀ text, printed ((∅ : Packet).set avTacprofile (.surrogates [0xD800])) ≠ .ok text := by
  refine ⟨longIndex_not_read giantIndex_long, not_printed fun writable => ?_,
    not_printed fun writable => ?_⟩
  · exact not_shortIndexes_set giantIndex_long _ writable.1
  · have encoded := writable.2 _ _ (Dict.get?_set_self _ _ _)
    exact absurd encoded (by decide)

end TacacsWeb.Verif
