import TacacsWeb.Model.SyslogLines

/-!
# What the receiver gets

Over TCP and TLS a receiver that counts octets gets the lines that were handed over, each whole and
in order, and no other lines make the same stream.
-/

namespace TacacsWeb.Verif

open TacacsWeb.Library TacacsWeb.Library.OctetCounting TacacsWeb.Model

/-- A line is told by its bytes. -/
theorem encodeLine_injective {line other : String} (same : encodeLine line = encodeLine other) :
    line = other := by
  have decoded := congrArg Utf8.decode same
  rw [encodeLine, encodeLine, Utf8.decode_encode, Utf8.decode_encode] at decoded
  exact String.toList_inj.mp decoded

/-- Lines are told by their bytes. -/
theorem encodeLines_injective {lines others : List String}
    (same : lines.map encodeLine = others.map encodeLine) : lines = others := by
  induction lines generalizing others with
  | nil => exact (List.map_eq_nil_iff.mp same.symm).symm
  | cons line lines ih =>
    cases others with
    | nil => cases same
    | cons other others =>
      rw [List.map_cons, List.map_cons, List.cons.injEq] at same
      rw [encodeLine_injective same.1, ih same.2]

/-- What goes out on a stream are the frames of the lines. -/
theorem sendLines_stream {cfg : SyslogConfig} {lines : List String} {tls : Bool}
    {frames : List (List UInt8)} (sent : sendLines cfg lines = .ok (.stream tls frames)) :
    frames.flatten = (lines.map encodeLine).flatMap frame := by
  unfold sendLines at sent
  split at sent
  · cases sent
  · split at sent
    · cases sent
    · cases sent
      rw [List.flatMap_def, List.map_map]
      rfl

/-- With a host and over TCP or TLS, a receiver gets the bytes of the lines, in order and with
nothing left over, and who sends the same stream sends the same lines. -/
theorem sendLines_received {cfg : SyslogConfig} (hosted : cfg.host ≠ "")
    (streamed : cfg.protocol ≠ "udp") (lines : List String) :
    ∃ frames, sendLines cfg lines = .ok (.stream (cfg.protocol = "tls") frames) ∧
      receive frames.flatten = some (lines.map encodeLine) ∧
      ∀ (other : SyslogConfig) (otherLines : List String) (otherTls : Bool)
        (otherFrames : List (List UInt8)),
        sendLines other otherLines = .ok (.stream otherTls otherFrames) →
        otherFrames.flatten = frames.flatten → otherLines = lines := by
  have sent : sendLines cfg lines = .ok (.stream (cfg.protocol = "tls")
      (lines.map fun line => frame (encodeLine line))) := by
    rw [sendLines, if_neg hosted, if_neg streamed]
  refine ⟨_, sent, ?_, ?_⟩
  · rw [sendLines_stream sent]
    exact receive_frames (lines.map encodeLine)
  · intro other otherLines otherTls otherFrames otherSent same
    rw [sendLines_stream sent, sendLines_stream otherSent] at same
    exact encodeLines_injective (frames_injective same)

/-- A configuration for a receiver over TCP. -/
def overTcp : SyslogConfig :=
  ⟨true, "siem", 6514, "tcp", 16, "tacacs-web", "tacacs-web", true, none, none, none, none⟩

/-- Lines that look like frames, with an empty one and one of several bytes a character. -/
theorem sendLines_received_tricky :
    ∃ frames, sendLines overTcp ["3 abc\n4", "", "ü"] = .ok (.stream false frames) ∧
      receive frames.flatten = some (["3 abc\n4", "", "ü"].map encodeLine) := by
  obtain ⟨frames, sent, received, _⟩ :=
    @sendLines_received overTcp (by decide) (by decide) ["3 abc\n4", "", "ü"]
  exact ⟨frames, sent, received⟩

end TacacsWeb.Verif
