import TurboLaser.Proto.Checksums
import TurboLaser.Proto.Mutators.Dnp3
import TurboLaser.Proto.Mutators.Enip
import TurboLaser.Proto.Mutators.Modbus
import TurboLaser.Proto.Mutators.S7
import TurboLaser.Scenario.FrameSizes

/-!
# The reload forge (reload/pipeline.rs)

`forgeRound` clones a capture, hands each frame to the first mutator that matches it and recomputes
the checksums of the frames that a mutator reports about. One mapper goes through the whole capture,
so what is one device in one frame is one device in all of them.

A frame that does not parse, or that no mutator matches, is passed on as it is. The mutators are
tried in a fixed order, and a protocol can be selected, in which case only its mutator is tried.
Where the remap is asked for it comes first, under the same seed, and the mutators see its frames;
frames that are over the size of the link are dropped in the end.

A mutator edits the payload of a frame, so what it does to the frame is a write over the payload;
`parseLayout_payload` says that the layout stays, whatever is written: the payload begins behind
everything that the parser looks at. So the checksums may be recomputed with the layout of the frame
that came in, as the source does.
-/

namespace TurboLaser

open Lib

/-! ## Dispatch -/

/-- `matches`, of the mutator of a protocol. -/
def Protocol.«matches» : Protocol → ParsedFrame → Bool
  | .modbus => Modbus.matches
  | .enip => Enip.matches
  | .s7 => S7.matches
  | .dnp3 => Dnp3.matches

/-- `mutate`, of the mutator of a protocol; `ids` is the table of the ENIP mutator, and `crc` the
checksum that the DNP3 mutator takes from a crate. -/
def Protocol.mutate (crc : List UInt8 → UInt16) (ids : List EnipId) :
    Protocol → List UInt8 → SeededMapper → Mutation
  | .modbus => Modbus.mutate
  | .enip => Enip.mutate ids
  | .s7 => S7.mutate
  | .dnp3 => Dnp3.mutate crc

/-- Every mutator, in dispatch order. -/
def allMutators : List Protocol := [.modbus, .enip, .s7, .dnp3]

/-- A frame behind its mutator, with its checksums as they were. -/
def ParsedFrame.mutate (crc : List UInt8 → UInt16) (ids : List EnipId) (f : ParsedFrame)
    (m : Protocol) (mapper : SeededMapper) : List UInt8 × Mutation :=
  let s := m.mutate crc ids f.payload mapper
  (write f.buf f.layout.payload s.payload, s)

/-- The turn of the forge for one frame. -/
def forgeFrame (crc : List UInt8 → UInt16) (ids : List EnipId) (mutators : List Protocol)
    (mapper : SeededMapper) (data : List UInt8) : List UInt8 × SeededMapper × List MutationReport :=
  match parseLayout data with
  | none => (data, mapper, [])
  | some l =>
    match mutators.find? fun m => m.matches ⟨data, l⟩ with
    | none => (data, mapper, [])
    | some m =>
      let (data, s) := ParsedFrame.mutate crc ids ⟨data, l⟩ m mapper
      if s.reports = [] then (data, s.mapper, [])
      else (recomputeChecksums data l, s.mapper, s.reports)

/-- The loop over the packets. -/
def forgePackets (crc : List UInt8 → UInt16) (ids : List EnipId) (mutators : List Protocol) :
    SeededMapper → List OwnedPacket → List OwnedPacket × List MutationReport
  | _, [] => ([], [])
  | mapper, p :: packets =>
    let (data, mapper, rs) := forgeFrame crc ids mutators mapper p.data
    let (packets, reports) := forgePackets crc ids mutators mapper packets
    ({ p with data } :: packets, rs ++ reports)

/-- `ReloadOptions`. -/
structure ReloadOptions where
  remapL3 : Bool
  hints : List Ipv4Net
  mutators : List Protocol

/-- `RoundResult`. -/
structure RoundResult where
  mutations : List MutationReport
  l3 : Option RemapSummary
  frames : Nat

/-- `forge_round`; `seedFrom` is the generator's seeding function. -/
def forgeRound (seedFrom : UInt64 → Rng) (crc : List UInt8 → UInt16) (ids : List EnipId)
    (src : Capture) (seed : UInt64) (opts : ReloadOptions) : Capture × RoundResult :=
  let (cap, l3) := if opts.remapL3 then
      let (cap, summary) := remapCapture seedFrom src opts.hints seed true
      (cap, some summary)
    else (src, none)
  let (packets, mutations) :=
    forgePackets crc ids opts.mutators (.fromSeed (seedFrom seed)) cap.packets
  let cap := dropOversizeFrames ⟨packets⟩ Scenario.standardFrameBytes
  (cap, ⟨mutations, l3, cap.packets.length⟩)

/-! ## Frames behind a mutator -/

/-- A mutator matches frames with a transport header only. -/
theorem l4Kind_of_matches {f : ParsedFrame} {m : Protocol} (h : m.matches f = true) :
    f.layout.l4Kind ≠ .other := by
  intro hother
  cases m with
  | modbus => simp [Protocol.matches, Modbus.matches, hother] at h
  | enip => simp [Protocol.matches, Enip.matches, hother] at h
  | s7 => simp [Protocol.matches, S7.matches, hother] at h
  | dnp3 => simp [Protocol.matches, Dnp3.matches, hother] at h

/-- So it matches IPv4 frames. -/
theorem packet_of_matches {data : List UInt8} {l : FrameLayout} {m : Protocol}
    (h : parseLayout data = some l) (hm : m.matches ⟨data, l⟩ = true) :
    l.l3Kind = .ipv4 ∧ Ipv4Packet data l := by
  have hk := ipv4_of_l4Kind h (l4Kind_of_matches hm)
  exact ⟨hk, parseLayout_packet h hk⟩

theorem payload_le_stop {data : List UInt8} {l : FrameLayout} (hl : Ipv4Packet data l) :
    l.payload ≤ l.stop := by
  rw [hl.payload]
  exact Nat.min_le_right _ _

/-- What a payload is replaced by changes bytes of the payload only. -/
theorem write_payload_agree {data new : List UInt8} {l : FrameLayout} (hl : Ipv4Packet data l)
    (hnew : new.length = l.stop - l.payload) :
    AgreeOn (fun i => i < l.payload ∨ l.stop ≤ i) (write data l.payload new) data := by
  have hle := payload_le_stop hl
  refine (agreeOn_write data l.payload new).mono fun i hi => ?_
  omega

/-- **Whatever is written over the payload, the layout stays**, and so does the transport header. -/
theorem parseLayout_payload {data new : List UInt8} {l : FrameLayout}
    (h : parseLayout data = some l) (hk : l.l3Kind = .ipv4)
    (hnew : new.length = l.stop - l.payload) :
    parseLayout (write data l.payload new) = some l ∧
      l4HeaderLen (write data l.payload new) l = l4HeaderLen data l := by
  have hl := parseLayout_packet h hk
  have hihl := hl.ihl
  have hl4 := hl.l4
  have hle := hl.l4_le_stop
  have hpayload := hl.payload
  have hagree := write_payload_agree hl hnew
  -- the data offset of TCP is the one byte behind the fixed fields that the parser reads
  have hheader : l.l4Kind = .tcp → l.l4 + 12 < l.payload ∨ l.stop ≤ l.l4 + 12 := by
    intro htcp
    have := hl.tcpHeader htcp
    omega
  constructor
  · refine parseLayout_congr h (hagree.symm.mono ?_)
    rintro i (hi | ⟨-, hi | hi | hi | hi | ⟨htcp, hi⟩⟩)
    · omega
    · omega
    · omega
    · omega
    · omega
    · rw [hi]
      exact hheader htcp
  · unfold l4HeaderLen
    cases hkind : l.l4Kind with
    | tcp => rw [hagree.2 _ (hheader hkind)]
    | udp => rfl
    | other => rfl

/-- The payload that was written. -/
theorem slice_write_payload {data new : List UInt8} {a z : Nat} (hz : z ≤ data.length)
    (hnew : new.length = z - a) : slice (write data a new) a z = new := by
  have hlen : z ≤ (write data a new).length := by rwa [length_write]
  refine ext_byte (by rw [length_slice hlen, hnew]) fun i hi => ?_
  rw [length_slice hlen] at hi
  rw [byte_slice (by omega), byte_write, if_pos (by omega), Nat.add_sub_cancel_left]
  rfl

/-- A frame stays as it is exactly when its payload does. -/
theorem write_payload_eq_self_iff {data new : List UInt8} {a z : Nat} (hz : z ≤ data.length)
    (hnew : new.length = z - a) : write data a new = data ↔ new = slice data a z := by
  constructor
  · intro hsame
    rw [← slice_write_payload hz hnew, hsame]
  · rintro rfl
    unfold slice
    rw [List.drop_take]
    exact write_self data a (z - a)

end TurboLaser
