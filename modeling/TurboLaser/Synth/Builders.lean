import TurboLaser.Checked.Frame
import TurboLaser.Synth.Eth

/-!
# The builders invert the parser (synth/eth.rs, proto/frame.rs)

The builders and the parser fix offsets and lengths on their own. `ReadsBack` is what an observer
finds in a frame through the accessors of `ParsedFrame`: the layout, the addresses, the ports, the
length fields and the checksums.

The builder lays out a buffer with zeros in its checksum fields and calls `finish`, which parses the
buffer and fills them in. So the parser is used twice, on the buffer and on the frame, and the first
question is whether it finds the same layout; the second, whether what is filled in is what
`checksumsValid` wants. Both are answered for any buffer that is laid out as the builders do it
(`Laid`), once for TCP and UDP:

- `readsBack_finish`: filling in the checksums of a buffer that parses makes its checksums valid and
  leaves every field behind;
- `frames_readBack`: **a frame of at most 1514 bytes is read back as it was built**, for every
  payload, the empty one and those of odd length included. The bound is that of the link; up to
  65535 bytes of packet nothing would change, and beyond it the length fields wrap.
-/

namespace TurboLaser.Synth

open Lib

/-- **What an observer reads back**: everything the builder was given, and length fields that are
the real lengths. None of the accessors panics. -/
structure ReadsBack (f : Frame) (kind : L4Kind) (srcMac dstMac : Mac) (src dst : Ipv4Addr)
    (sport dport : UInt16) (payload : List UInt8) (l : FrameLayout) : Prop where
  layout : Checked.parseLayout f = .ok (some l)
  l3Kind : l.l3Kind = .ipv4
  l4Kind : l.l4Kind = kind
  payload_eq : Checked.payload ⟨f, l⟩ = .ok payload
  payload_len : l.payload + payload.length = l.stop
  stop_eq : l.stop = f.length
  dstMac_eq : Checked.dstMac ⟨f, l⟩ = .ok dstMac.bytes
  srcMac_eq : Checked.srcMac ⟨f, l⟩ = .ok srcMac.bytes
  src_eq : Checked.ipv4Src ⟨f, l⟩ = .ok (some src)
  dst_eq : Checked.ipv4Dst ⟨f, l⟩ = .ok (some dst)
  sport_eq : Checked.srcPort ⟨f, l⟩ = .ok (some sport)
  dport_eq : Checked.dstPort ⟨f, l⟩ = .ok (some dport)
  ipTotal : be16 f (l.l3 + 2) = f.length - l.l3
  udpLen : kind = .udp → be16 f (l.l4 + 4) = f.length - l.l4
  valid : Checked.checksumsValid f l = .ok true

/-- What an observer finds in a frame behind its headers. -/
def framePayload (f : Frame) : Option (List UInt8) :=
  (Checked.parseLayout f).toOption.join.bind fun l => (Checked.payload ⟨f, l⟩).toOption

theorem ReadsBack.framePayload_eq {f : Frame} {kind : L4Kind} {srcMac dstMac : Mac}
    {src dst : Ipv4Addr} {sport dport : UInt16} {payload : List UInt8} {l : FrameLayout}
    (h : ReadsBack f kind srcMac dstMac src dst sport dport payload l) :
    framePayload f = some payload := by
  rw [framePayload, h.layout]
  show (Checked.payload ⟨f, l⟩).toOption = some payload
  rw [h.payload_eq]
  rfl

/-- A buffer with headers of the usual sizes, before its checksums are filled in: an Ethernet
header, an IPv4 header without options, and a transport header of `hdr` bytes. -/
structure Laid (b : List UInt8) (kind : L4Kind) (hdr : Nat) (srcMac dstMac : Mac)
    (src dst : Ipv4Addr) (sport dport : UInt16) (payload : List UInt8) : Prop where
  transport : (kind = .tcp ∧ hdr = 20 ∧ byte b 46 = 0x50) ∨ (kind = .udp ∧ hdr = 8)
  layout : parseLayout b =
    some { l3 := 14, l3Kind := .ipv4, ihl := 20, l4 := 34, l4Kind := kind, payload := 34 + hdr,
           stop := b.length }
  length_eq : b.length = 34 + hdr + payload.length
  dstMac_eq : b.take 6 = dstMac.bytes
  srcMac_eq : (b.take 12).drop 6 = srcMac.bytes
  total : be16 b 16 = b.length - 14
  udpLen : kind = .udp → be16 b 38 = b.length - 34
  src_eq : be32 b 26 = src
  dst_eq : be32 b 30 = dst
  sport_eq : be16 b 34 = sport.toNat
  dport_eq : be16 b 36 = dport.toNat
  rest : b.drop (34 + hdr) = payload

section

variable {b : List UInt8} {kind : L4Kind} {hdr : Nat} {srcMac dstMac : Mac} {src dst : Ipv4Addr}
  {sport dport : UInt16} {payload : List UInt8}

/-- The layout of a buffer that was laid out. -/
def laidLayout (kind : L4Kind) (hdr stop : Nat) : FrameLayout :=
  { l3 := 14, l3Kind := .ipv4, ihl := 20, l4 := 34, l4Kind := kind, payload := 34 + hdr, stop }

variable (h : Laid b kind hdr srcMac dstMac src dst sport dport payload)

include h

/-- The transport header is whole. -/
theorem Laid.headerInside : HeaderInside b (laidLayout kind hdr b.length) := by
  have hlen := h.length_eq
  unfold HeaderInside l4HeaderLen laidLayout
  rcases h.transport with ⟨rfl, rfl, hoff⟩ | ⟨rfl, rfl⟩
  · dsimp only
    rw [hoff, show (0x50 : UInt8).toNat / 16 * 4 = 20 from rfl]
    omega
  · dsimp only
    omega

/-- Filling in the checksums leaves the rest of the buffer alone. -/
theorem Laid.agree :
    AgreeOn (fun i => (i < 24 ∨ 26 ≤ i) ∧ (i < 40 ∨ 34 + hdr ≤ i)) (finish b) b := by
  refine (finish_agree h.layout).mono fun i hi => ?_
  rcases h.transport with ⟨rfl, rfl, -⟩ | ⟨rfl, rfl⟩
  · rintro (hc | ⟨-, hc⟩ | ⟨hc, -⟩)
    · dsimp only at hc
      omega
    · dsimp only at hc
      omega
    · cases hc
  · rintro (hc | ⟨hc, -⟩ | ⟨-, hc⟩)
    · dsimp only at hc
      omega
    · cases hc
    · dsimp only at hc
      omega

/-- The layout stays. -/
theorem Laid.parse : parseLayout (finish b) = some (laidLayout kind hdr b.length) :=
  (parseLayout_finish b).trans h.layout

/-- The checksums are valid. -/
theorem Laid.valid : checksumsValid (finish b) (laidLayout kind hdr b.length) = true := by
  have hfinish : finish b = recomputeChecksums b (laidLayout kind hdr b.length) := by
    unfold finish
    rw [h.layout]
    rfl
  rw [hfinish]
  exact checksumsValid_recompute h.layout rfl h.headerInside

/-- **A buffer that is laid out is read back** once its checksums are filled in. -/
theorem readsBack_finish :
    ReadsBack (finish b) kind srcMac dstMac src dst sport dport payload
      (laidLayout kind hdr b.length) := by
  have hagree := h.agree
  have hlen := h.length_eq
  have hlenf := length_finish b
  have hparse := h.parse
  have hin := parseLayout_inFrame hparse
  have hword : ∀ off, off + 2 ≤ 24 ∨ (26 ≤ off ∧ off + 2 ≤ 40) →
      be16 (finish b) off = be16 b off := fun off hoff =>
    be16_congr fun k hk hk' => hagree.2 k (by omega)
  have haddr : ∀ off, 26 ≤ off ∧ off + 4 ≤ 40 → be32 (finish b) off = be32 b off :=
    fun off hoff => be32_congr fun k hk hk' => hagree.2 k (by omega)
  -- filling in the checksums touches no port and no address
  have hport : ∀ off (p : UInt16), off ≤ 2 → be16 b (34 + off) = p.toNat →
      Checked.port off ⟨finish b, laidLayout kind hdr b.length⟩ = .ok (some p) := by
    intro off p hoff hp
    have hread : be16Field.read (finish b) (34 + off) = p := by
      rw [read_be16Field, hword _ (by omega), hp, UInt16.ofNat_toNat]
    rw [Checked.port_ok hin hoff, ← hread]
    rcases h.transport with ⟨rfl, -⟩ | ⟨rfl, -⟩
    · rfl
    · rfl
  have hmac : ∀ lo hi, hi ≤ 12 → slice (finish b) lo hi = (b.take hi).drop lo := fun lo hi hhi =>
    slice_congr hlenf fun i _ hi' _ => hagree.2 i (by omega)
  refine ⟨?_, rfl, rfl, ?_, ?_, hlenf.symm, ?_, ?_, ?_, ?_, ?_, ?_, ?_, ?_, ?_⟩
  · rw [Checked.parseLayout_ok, hparse]
  · rw [Checked.payload_ok hin]
    refine congrArg Except.ok ?_
    show ((finish b).take b.length).drop (34 + hdr) = payload
    rw [← hlenf, List.take_length, hagree.drop_eq fun i hi => by omega, h.rest]
  · show 34 + hdr + payload.length = b.length
    exact hlen.symm
  · rw [Checked.dstMac_ok hin, ← h.dstMac_eq]
    exact congrArg Except.ok (hmac 0 6 (by decide))
  · rw [Checked.srcMac_ok hin, ← h.srcMac_eq]
    exact congrArg Except.ok (hmac 6 12 (by decide))
  · rw [Checked.ipv4Src, Checked.ipv4Addr_ok hin (by decide)]
    show Except.ok (some (be32 (finish b) 26)) = _
    exact congrArg (fun a => Except.ok (some a)) ((haddr 26 (by decide)).trans h.src_eq)
  · rw [Checked.ipv4Dst, Checked.ipv4Addr_ok hin (by decide)]
    show Except.ok (some (be32 (finish b) 30)) = _
    exact congrArg (fun a => Except.ok (some a)) ((haddr 30 (by decide)).trans h.dst_eq)
  · exact hport 0 sport (by decide) h.sport_eq
  · exact hport 2 dport (by decide) h.dport_eq
  · rw [hlenf]
    exact (hword 16 (by decide)).trans h.total
  · intro hudp
    rw [hlenf]
    exact (hword 38 (by decide)).trans (h.udpLen hudp)
  · rw [Checked.checksumsValid_ok hin]
    exact congrArg Except.ok h.valid

end

/-! ## Both builders -/

section

variable (srcMac dstMac : Mac) (src dst : Ipv4Addr) (sport dport : UInt16) (payload : List UInt8)

/-- A segment is laid out, as far as its IP length fits 16 bits. -/
theorem laid_tcpBuffer (seq ack : UInt32) (flags : UInt8) (hfit : payload.length + 40 < 65536) :
    Laid (tcpBuffer srcMac dstMac src dst sport dport seq ack flags payload) .tcp 20 srcMac dstMac
      src dst sport dport payload := by
  obtain ⟨-, -, htotal, -, hsrc, hdst, hsport, hdport, hoff, -, hrest⟩ :=
    bytes_tcpBuffer srcMac dstMac src dst sport dport seq ack flags payload
  have hlen := length_tcpBuffer srcMac dstMac src dst sport dport seq ack flags payload
  refine ⟨.inl ⟨rfl, rfl, hoff⟩, ?_, by omega, rfl, rfl, ?_, nofun, hsrc, hdst, hsport, hdport, hrest⟩
  · rw [parseLayout_tcpBuffer, if_neg (by omega), hlen]
    have hstop : min (14 + (40 + payload.length) % 65536) (54 + payload.length) =
        54 + payload.length := by omega
    rw [hstop, tcpLayout, Nat.min_eq_left (by omega)]
  · rw [htotal, hlen]
    omega

/-- The bytes of a datagram at the offsets the parser and an observer look at. -/
theorem bytes_udpBuffer :
    let b := udpBuffer srcMac dstMac src dst sport dport payload
    be16 b 12 = 0x0800 ∧ byte b 14 = 0x45 ∧ be16 b 16 = (28 + payload.length) % 65536 ∧
      byte b 23 = 17 ∧ be32 b 26 = src ∧ be32 b 30 = dst ∧ be16 b 34 = sport.toNat ∧
      be16 b 36 = dport.toNat ∧ be16 b 38 = (8 + payload.length) % 65536 ∧
      b.drop 42 = payload := by
  intro b
  have hb : b = udpBuffer srcMac dstMac src dst sport dport payload := rfl
  simp only [udpBuffer, ethernetHeader, ipv4Header, Mac.bytes, toBeBytes16, toBeBytes,
    List.cons_append, List.nil_append] at hb
  have htotal : (UInt16.ofNat (20 + (8 + payload.length))).toNat =
      (28 + payload.length) % 65536 := by
    rw [UInt16.toNat_ofNat']
    omega
  have hudp : (UInt16.ofNat (8 + payload.length)).toNat = (8 + payload.length) % 65536 :=
    UInt16.toNat_ofNat'
  refine ⟨be16_of_bytes (x := ethertypeIpv4) ?_ ?_, ?_, ?_, ?_, be32_of_bytes ?_ ?_ ?_ ?_,
    be32_of_bytes ?_ ?_ ?_ ?_, be16_of_bytes ?_ ?_, be16_of_bytes ?_ ?_, ?_, ?_⟩
  case refine_4 => exact (be16_of_bytes (by simp only [hb, byte_cons_succ, byte_cons_zero])
    (by simp only [hb, byte_cons_succ, byte_cons_zero])).trans htotal
  case refine_18 => exact (be16_of_bytes (by simp only [hb, byte_cons_succ, byte_cons_zero])
    (by simp only [hb, byte_cons_succ, byte_cons_zero])).trans hudp
  all_goals simp only [hb, byte_cons_succ, byte_cons_zero, List.drop_succ_cons, List.drop_zero]

/-- So is a datagram. -/
theorem laid_udpBuffer (hfit : payload.length + 28 < 65536) :
    Laid (udpBuffer srcMac dstMac src dst sport dport payload) .udp 8 srcMac dstMac
      src dst sport dport payload := by
  obtain ⟨hether, hvihl, htotal, hproto, hsrc, hdst, hsport, hdport, hudp, hrest⟩ :=
    bytes_udpBuffer srcMac dstMac src dst sport dport payload
  have hlen := length_udpBuffer srcMac dstMac src dst sport dport payload
  refine ⟨.inr ⟨rfl, rfl⟩, ?_, by omega, rfl, rfl, ?_, ?_, hsrc, hdst, hsport, hdport, hrest⟩
  · generalize udpBuffer srcMac dstMac src dst sport dport payload = b at *
    have hl4 : parseL4 b 17 34 = some (.udp, 8) := by
      simp [parseL4, hlen]
    rw [parseLayout_untagged (by omega) hether]
    simp [parseIpv4, hlen, hvihl, htotal, hproto, hl4]
    omega
  · rw [htotal, hlen]
    omega
  · intro _
    rw [hudp, hlen]
    omega

/-- A datagram whose lengths fit their fields is read back as it was built. -/
theorem udpFrame_readsBack (hfit : payload.length + 28 < 65536) :
    ReadsBack (udpFrame srcMac dstMac src dst sport dport payload) .udp srcMac dstMac src dst
      sport dport payload (laidLayout .udp 8 (42 + payload.length)) := by
  have hback := readsBack_finish (laid_udpBuffer srcMac dstMac src dst sport dport payload hfit)
  rw [length_udpBuffer] at hback
  unfold udpFrame
  exact hback

/-- **A frame of at most 1514 bytes is read back as it was built**: every header field, both
checksums and the payload, whatever the flags and sequence numbers are. -/
theorem frames_readBack (seq ack : UInt32) (flags : UInt8) :
    ((udpFrame srcMac dstMac src dst sport dport payload).length ≤ 1514 →
      ReadsBack (udpFrame srcMac dstMac src dst sport dport payload) .udp srcMac dstMac src dst
        sport dport payload (laidLayout .udp 8 (42 + payload.length))) ∧
    ((tcpSegment srcMac dstMac src dst sport dport seq ack flags payload).length ≤ 1514 →
      ReadsBack (tcpSegment srcMac dstMac src dst sport dport seq ack flags payload) .tcp srcMac
        dstMac src dst sport dport payload (laidLayout .tcp 20 (54 + payload.length))) := by
  constructor
  · intro hlen
    rw [length_udpFrame] at hlen
    exact udpFrame_readsBack srcMac dstMac src dst sport dport payload (by omega)
  · intro hlen
    rw [length_tcpSegment] at hlen
    have hback := readsBack_finish
      (laid_tcpBuffer srcMac dstMac src dst sport dport payload seq ack flags (by omega))
    rw [length_tcpBuffer] at hback
    unfold tcpSegment
    exact hback

end

/-- A datagram with an odd payload, and a segment with none. -/
theorem frames_readBack_pair :
    ReadsBack (udpFrame ⟨0, 0x90, 0xE8, 1, 2, 3⟩ ⟨0, 0x90, 0xE8, 4, 5, 6⟩ 0x0A000001 0x0A000002
        50000 161 [1, 2, 3]) .udp ⟨0, 0x90, 0xE8, 1, 2, 3⟩ ⟨0, 0x90, 0xE8, 4, 5, 6⟩ 0x0A000001
        0x0A000002 50000 161 [1, 2, 3] (laidLayout .udp 8 45) ∧
      ReadsBack (tcpSegment ⟨0, 0x90, 0xE8, 1, 2, 3⟩ ⟨0, 0x90, 0xE8, 4, 5, 6⟩ 0x0A000001
        0x0A000002 50000 502 7 0 tcpSyn []) .tcp ⟨0, 0x90, 0xE8, 1, 2, 3⟩
        ⟨0, 0x90, 0xE8, 4, 5, 6⟩ 0x0A000001 0x0A000002 50000 502 [] (laidLayout .tcp 20 54) :=
  ⟨(frames_readBack ⟨0, 0x90, 0xE8, 1, 2, 3⟩ ⟨0, 0x90, 0xE8, 4, 5, 6⟩ 0x0A000001 0x0A000002
      50000 161 [1, 2, 3] 0 0 0).1 (by rw [length_udpFrame]; decide),
    (frames_readBack ⟨0, 0x90, 0xE8, 1, 2, 3⟩ ⟨0, 0x90, 0xE8, 4, 5, 6⟩ 0x0A000001 0x0A000002
      50000 502 [] 7 0 tcpSyn).2 (by rw [length_tcpSegment]; decide)⟩

end TurboLaser.Synth
