import TurboLaser.Proto.Frame
import TurboLaser.Proto.Mac

/-!
# Whole-frame synthesis (synth/eth.rs)

Each builder lays an Ethernet, an IPv4 and a transport header in front of a payload and lets
`finish` fill the checksums in through the frame parser. Length fields are 16 bits wide and wrap, as
the casts of the source do.

`tcpView` is the other end: what a passive observer reads off a frame, by the parser and the
accessors of the source. A frame that is built is long and mostly known, and its payload is
not; so the facts are about single bytes of the front (`bytes_tcpBuffer`) and about what is left
when the front is dropped, and nothing is ever evaluated. The facts that carry every argument about
a synthesized frame:

- `parseLayout_finish`: filling in the checksums does not move anything, since the parser does not
  look at them;
- `tcpView_tcpSegment`: **a segment that fits an IP packet is read back as it was built**;
- `tcpView_some`: one that does not is read with its addresses, ports and flags, or not at all. Its
  payload is cut where the wrapped length says, and that is why results about commands on the wire
  ask for frames that fit.
-/

namespace TurboLaser.Synth

open Lib

/-- A frame on the wire. -/
abbrev Frame := List UInt8

/-- `ipv4_header`. -/
def ipv4Header (totalLen : Nat) (proto : UInt8) (src dst : Ipv4Addr) : List UInt8 :=
  [0x45, 0x00] ++ toBeBytes16 (UInt16.ofNat totalLen) ++ [0x00, 0x00, 0x40, 0x00] ++
    [0x40, proto] ++ [0x00, 0x00] ++ toBeBytes src ++ toBeBytes dst

/-- `ethernet_header`. -/
def ethernetHeader (srcMac dstMac : Mac) (ethertype : UInt16) : List UInt8 :=
  dstMac.bytes ++ srcMac.bytes ++ toBeBytes16 ethertype

/-- `finish`: fill in the checksums of a frame the parser understands. -/
def finish (buf : List UInt8) : Frame :=
  match parseLayout buf with
  | some l => recomputeChecksums buf l
  | none => buf

/-- `ETHERTYPE_IPV4`. -/
def ethertypeIpv4 : UInt16 := 0x0800

/-- The buffer of `udp_frame`, before its checksums are filled in. -/
def udpBuffer (srcMac dstMac : Mac) (src dst : Ipv4Addr) (sport dport : UInt16)
    (payload : List UInt8) : List UInt8 :=
  let udpLen := 8 + payload.length
  ethernetHeader srcMac dstMac ethertypeIpv4 ++ ipv4Header (20 + udpLen) 17 src dst ++
    toBeBytes16 sport ++ toBeBytes16 dport ++ toBeBytes16 (UInt16.ofNat udpLen) ++
    [0x00, 0x00] ++ payload

/-- `udp_frame`. -/
def udpFrame (srcMac dstMac : Mac) (src dst : Ipv4Addr) (sport dport : UInt16)
    (payload : List UInt8) : Frame :=
  finish (udpBuffer srcMac dstMac src dst sport dport payload)

/-- `TCP_FIN`. -/
def tcpFin : UInt8 := 0x01

/-- `TCP_SYN`. -/
def tcpSyn : UInt8 := 0x02

/-- `TCP_PSH`. -/
def tcpPsh : UInt8 := 0x08

/-- `TCP_ACK`. -/
def tcpAck : UInt8 := 0x10

/-- The buffer of `tcp_segment`, before its checksums are filled in. -/
def tcpBuffer (srcMac dstMac : Mac) (src dst : Ipv4Addr) (sport dport : UInt16)
    (seq ack : UInt32) (flags : UInt8) (payload : List UInt8) : List UInt8 :=
  let tcpLen := 20 + payload.length
  ethernetHeader srcMac dstMac ethertypeIpv4 ++ ipv4Header (20 + tcpLen) 6 src dst ++
    toBeBytes16 sport ++ toBeBytes16 dport ++ toBeBytes seq ++ toBeBytes ack ++
    [0x50, flags] ++ [0x20, 0x00] ++ [0x00, 0x00] ++ [0x00, 0x00] ++ payload

/-- `tcp_segment`. -/
def tcpSegment (srcMac dstMac : Mac) (src dst : Ipv4Addr) (sport dport : UInt16)
    (seq ack : UInt32) (flags : UInt8) (payload : List UInt8) : Frame :=
  finish (tcpBuffer srcMac dstMac src dst sport dport seq ack flags payload)

/-- `l2_frame`. -/
def l2Frame (srcMac dstMac : Mac) (ethertype : UInt16) (payload : List UInt8) : Frame :=
  ethernetHeader srcMac dstMac ethertype ++ payload

/-! ## What an observer reads -/

/-- The transport fields of a frame. -/
structure TcpView where
  src : Ipv4Addr
  dst : Ipv4Addr
  sport : Nat
  dport : Nat
  flags : UInt8
  payload : List UInt8
deriving DecidableEq

/-- A TCP segment as the frame parser lays it out; `none` for any other frame. -/
def tcpView (f : Frame) : Option TcpView :=
  match parseLayout f with
  | some l =>
    if l.l4Kind = .tcp then
      some
        { src := be32 f (l.l3 + 12)
          dst := be32 f (l.l3 + 16)
          sport := be16 f l.l4
          dport := be16 f (l.l4 + 2)
          flags := byte f (l.l4 + 13)
          payload := slice f l.payload l.stop }
    else none
  | none => none

theorem tcpView_eq {f : Frame} {l : FrameLayout} (h : parseLayout f = some l)
    (hk : l.l4Kind = .tcp) :
    tcpView f = some
      { src := be32 f (l.l3 + 12)
        dst := be32 f (l.l3 + 16)
        sport := be16 f l.l4
        dport := be16 f (l.l4 + 2)
        flags := byte f (l.l4 + 13)
        payload := slice f l.payload l.stop } := by
  unfold tcpView
  rw [h]
  exact if_pos hk

/-! ## Checksums move nothing -/

@[simp] theorem length_finish (buf : List UInt8) : (finish buf).length = buf.length := by
  unfold finish
  split
  · exact (recomputeChecksums_agree _ _).1
  · rfl

/-- The checksum bytes are not among those the layout depends on. -/
theorem not_checksumBytes_of_layoutBytes {buf : List UInt8} {l : FrameLayout}
    (h : parseLayout buf = some l) {i : Nat} (hi : LayoutBytes l i) (hk : l.l3Kind = .ipv4) :
    ¬ ChecksumBytes l i := by
  have hspec := parseLayout_ipv4 h hk
  have hl4 := hspec.l4
  have hihl := hspec.ihl
  unfold ChecksumBytes
  rcases hi with hi | ⟨-, hi⟩
  · omega
  · unfold HeaderBytes at hi
    rcases hi with rfl | rfl | rfl | rfl | ⟨hk4, rfl⟩
    · omega
    · omega
    · omega
    · omega
    · rw [hk4]
      rintro (hc | ⟨-, hc⟩ | ⟨hc, -⟩)
      · omega
      · omega
      · cases hc

/-- **Filling in the checksums keeps the layout.** -/
@[simp] theorem parseLayout_finish (buf : List UInt8) :
    parseLayout (finish buf) = parseLayout buf := by
  unfold finish
  split
  · next l h =>
    rw [h]
    by_cases hk : l.l3Kind = .ipv4
    · exact parseLayout_congr h ((recomputeChecksums_agree buf l).symm.mono fun i hi =>
        not_checksumBytes_of_layoutBytes h hi hk)
    · rw [recomputeChecksums, if_pos hk]
      exact h
  · rfl

/-- Outside the checksum fields the bytes are those of the buffer. -/
theorem finish_agree {buf : List UInt8} {l : FrameLayout} (h : parseLayout buf = some l) :
    AgreeOn (fun i => ¬ ChecksumBytes l i) (finish buf) buf := by
  unfold finish
  rw [h]
  exact recomputeChecksums_agree buf l

/-! ## Synthesized TCP segments

A segment is built as bytes and read back by the parser of the repository. The lemmas give the bytes
at the offsets the parser looks at, then the layout. The total length is written in sixteen bits, so
a segment that is too long is parsed as a shorter one; the observer refuses it or sees less.
-/

section Tcp

variable (srcMac dstMac : Mac) (src dst : Ipv4Addr) (sport dport : UInt16) (seq ack : UInt32)
  (flags : UInt8) (payload : List UInt8)

theorem length_tcpBuffer :
    (tcpBuffer srcMac dstMac src dst sport dport seq ack flags payload).length =
      54 + payload.length := by
  simp [tcpBuffer, ethernetHeader, ipv4Header, toBeBytes16, toBeBytes, Mac.bytes]
  omega

@[simp] theorem length_tcpSegment :
    (tcpSegment srcMac dstMac src dst sport dport seq ack flags payload).length =
      54 + payload.length := by
  rw [tcpSegment, length_finish, length_tcpBuffer]

/-- The layout of a segment: everything where the builder put it. -/
def tcpLayout (stop : Nat) : FrameLayout :=
  { l3 := 14, l3Kind := .ipv4, ihl := 20, l4 := 34, l4Kind := .tcp, payload := min 54 stop, stop }

/-- The bytes of a segment at the offsets the parser and an observer look at. -/
theorem bytes_tcpBuffer :
    let b := tcpBuffer srcMac dstMac src dst sport dport seq ack flags payload
    be16 b 12 = 0x0800 ∧ byte b 14 = 0x45 ∧ be16 b 16 = (40 + payload.length) % 65536 ∧
      byte b 23 = 6 ∧ be32 b 26 = src ∧ be32 b 30 = dst ∧ be16 b 34 = sport.toNat ∧
      be16 b 36 = dport.toNat ∧ byte b 46 = 0x50 ∧ byte b 47 = flags ∧ b.drop 54 = payload := by
  intro b
  have hb : b = tcpBuffer srcMac dstMac src dst sport dport seq ack flags payload := rfl
  simp only [tcpBuffer, ethernetHeader, ipv4Header, Mac.bytes, toBeBytes16, toBeBytes,
    List.cons_append, List.nil_append] at hb
  have htotal : (UInt16.ofNat (20 + (20 + payload.length))).toNat =
      (40 + payload.length) % 65536 := by
    rw [UInt16.toNat_ofNat']
    omega
  refine ⟨be16_of_bytes (x := ethertypeIpv4) ?_ ?_, ?_, ?_, ?_, be32_of_bytes ?_ ?_ ?_ ?_,
    be32_of_bytes ?_ ?_ ?_ ?_, be16_of_bytes ?_ ?_, be16_of_bytes ?_ ?_, ?_, ?_, ?_⟩
  case refine_4 => exact (be16_of_bytes (by simp only [hb, byte_cons_succ, byte_cons_zero])
    (by simp only [hb, byte_cons_succ, byte_cons_zero])).trans htotal
  all_goals simp only [hb, byte_cons_succ, byte_cons_zero, List.drop_succ_cons, List.drop_zero]

/-- The parser finds the headers of a segment, if its total length survived the cast. -/
theorem parseLayout_tcpBuffer :
    parseLayout (tcpBuffer srcMac dstMac src dst sport dport seq ack flags payload) =
      if (40 + payload.length) % 65536 < 20 then none
      else some (tcpLayout (min (14 + (40 + payload.length) % 65536) (54 + payload.length))) := by
  have hlen := length_tcpBuffer srcMac dstMac src dst sport dport seq ack flags payload
  obtain ⟨hether, hvihl, htotal, hproto, -, -, -, -, hoff, -, -⟩ :=
    bytes_tcpBuffer srcMac dstMac src dst sport dport seq ack flags payload
  generalize tcpBuffer srcMac dstMac src dst sport dport seq ack flags payload = b at *
  have hl4 : parseL4 b 6 34 = some (.tcp, 20) := by
    simp [parseL4, hlen, hoff]
  have hip : parseIpv4 b 14 = if (40 + payload.length) % 65536 < 20 then none
      else some (tcpLayout (min (14 + (40 + payload.length) % 65536) (54 + payload.length))) := by
    simp [parseIpv4, hlen, hvihl, htotal, hproto, hl4, tcpLayout,
      show ¬ 54 + payload.length < 34 by omega]
  rw [parseLayout_untagged (by omega) hether, hip]

/-- Off the checksum fields, a segment has the bytes it was built with. -/
theorem byte_tcpSegment {i : Nat} (hi : (i < 24 ∨ 26 ≤ i) ∧ (i < 50 ∨ 52 ≤ i)) :
    byte (tcpSegment srcMac dstMac src dst sport dport seq ack flags payload) i =
      byte (tcpBuffer srcMac dstMac src dst sport dport seq ack flags payload) i := by
  have hlayout := parseLayout_tcpBuffer srcMac dstMac src dst sport dport seq ack flags payload
  unfold tcpSegment
  split at hlayout
  · unfold finish
    rw [hlayout]
  · refine (finish_agree hlayout).2 i ?_
    rintro (h | ⟨-, h⟩ | ⟨h, -⟩)
    · simp only [tcpLayout] at h
      omega
    · simp only [tcpLayout] at h
      omega
    · cases h

/-- The payload of a segment ends its frame, whatever its length field says. -/
theorem drop_tcpSegment :
    (tcpSegment srcMac dstMac src dst sport dport seq ack flags payload).drop 54 = payload := by
  obtain ⟨-, -, -, -, -, -, -, -, -, -, hdrop⟩ :=
    bytes_tcpBuffer srcMac dstMac src dst sport dport seq ack flags payload
  have hagree : AgreeOn (fun i => 54 ≤ i)
      (tcpSegment srcMac dstMac src dst sport dport seq ack flags payload)
      (tcpBuffer srcMac dstMac src dst sport dport seq ack flags payload) :=
    ⟨by rw [length_tcpSegment, length_tcpBuffer], fun i hi => byte_tcpSegment _ _ _ _ _ _ _ _ _ _
      ⟨.inr (by omega), .inr (by omega)⟩⟩
  rw [hagree.drop_eq fun i hi => hi, hdrop]

/-- **What an observer reads off a segment**: its addresses, ports and flags, or nothing. -/
theorem tcpView_some {v : TcpView}
    (h : tcpView (tcpSegment srcMac dstMac src dst sport dport seq ack flags payload) = some v) :
    v.src = src ∧ v.dst = dst ∧ v.sport = sport.toNat ∧ v.dport = dport.toNat ∧
      v.flags = flags := by
  obtain ⟨-, -, -, -, hsrc, hdst, hsport, hdport, -, hflags, -⟩ :=
    bytes_tcpBuffer srcMac dstMac src dst sport dport seq ack flags payload
  have hbyte := fun i => byte_tcpSegment srcMac dstMac src dst sport dport seq ack flags payload
    (i := i)
  have hlayout := parseLayout_tcpBuffer srcMac dstMac src dst sport dport seq ack flags payload
  rw [← parseLayout_finish] at hlayout
  change parseLayout (tcpSegment srcMac dstMac src dst sport dport seq ack flags payload) = _
    at hlayout
  generalize tcpSegment srcMac dstMac src dst sport dport seq ack flags payload = f at *
  generalize tcpBuffer srcMac dstMac src dst sport dport seq ack flags payload = b at *
  split at hlayout
  · rw [tcpView, hlayout] at h
    cases h
  · cases (tcpView_eq hlayout rfl).symm.trans h
    simp only [tcpLayout]
    refine ⟨?_, ?_, ?_, ?_, ?_⟩
    · exact (be32_congr fun k hk hk' => hbyte k (by omega)).trans hsrc
    · exact (be32_congr fun k hk hk' => hbyte k (by omega)).trans hdst
    · exact (be16_congr fun k hk hk' => hbyte k (by omega)).trans hsport
    · exact (be16_congr fun k hk hk' => hbyte k (by omega)).trans hdport
    · exact (hbyte 47 (by omega)).trans hflags

/-- **A segment that fits an IP packet is read back whole.** -/
theorem tcpView_tcpSegment (hfit : payload.length + 40 < 65536) :
    tcpView (tcpSegment srcMac dstMac src dst sport dport seq ack flags payload) =
      some ⟨src, dst, sport.toNat, dport.toNat, flags, payload⟩ := by
  obtain ⟨-, -, -, -, -, -, -, -, -, -, hpayload⟩ :=
    bytes_tcpBuffer srcMac dstMac src dst sport dport seq ack flags payload
  have hbyte := fun i => byte_tcpSegment srcMac dstMac src dst sport dport seq ack flags payload
    (i := i)
  have hlen := length_tcpSegment srcMac dstMac src dst sport dport seq ack flags payload
  have hlenb := length_tcpBuffer srcMac dstMac src dst sport dport seq ack flags payload
  have hlayout : parseLayout (tcpSegment srcMac dstMac src dst sport dport seq ack flags payload) =
      some (tcpLayout (54 + payload.length)) := by
    -- the length field has not wrapped, so the packet ends with the frame
    have hstop : min (14 + (40 + payload.length) % 65536) (54 + payload.length) =
        54 + payload.length := by omega
    rw [tcpSegment, parseLayout_finish, parseLayout_tcpBuffer, if_neg (by omega), hstop]
  have hagree : AgreeOn (fun i => 54 ≤ i)
      (tcpSegment srcMac dstMac src dst sport dport seq ack flags payload)
      (tcpBuffer srcMac dstMac src dst sport dport seq ack flags payload) :=
    ⟨hlen.trans hlenb.symm, fun i hi => hbyte i (by omega)⟩
  have hrest := (hagree.drop_eq fun i hi => hi).trans hpayload
  have hview := tcpView_eq hlayout rfl
  obtain ⟨h1, h2, h3, h4, h5⟩ := tcpView_some _ _ _ _ _ _ _ _ _ _ hview
  generalize tcpSegment srcMac dstMac src dst sport dport seq ack flags payload = f at *
  have h6 : slice f
      (tcpLayout (54 + payload.length)).payload (tcpLayout (54 + payload.length)).stop =
        payload := by
    simp only [tcpLayout, Nat.min_eq_left (Nat.le_add_right 54 _), slice]
    rw [List.take_of_length_le (by omega), hrest]
  rw [hview]
  simp only at h1 h2 h3 h4 h5
  rw [h1, h2, h3, h4, h5, h6]

end Tcp

/-! ## Synthesized UDP datagrams -/

section Udp

variable (srcMac dstMac : Mac) (src dst : Ipv4Addr) (sport dport : UInt16) (payload : List UInt8)

theorem length_udpBuffer :
    (udpBuffer srcMac dstMac src dst sport dport payload).length = 42 + payload.length := by
  simp [udpBuffer, ethernetHeader, ipv4Header, toBeBytes16, toBeBytes, Mac.bytes]
  omega

@[simp] theorem length_udpFrame :
    (udpFrame srcMac dstMac src dst sport dport payload).length = 42 + payload.length := by
  rw [udpFrame, length_finish, length_udpBuffer]

/-- A datagram is no segment. -/
theorem tcpView_udpFrame : tcpView (udpFrame srcMac dstMac src dst sport dport payload) = none := by
  have hlen := length_udpBuffer srcMac dstMac src dst sport dport payload
  have hproto : byte (udpBuffer srcMac dstMac src dst sport dport payload) 23 = 17 := by
    simp only [udpBuffer, ethernetHeader, ipv4Header, Mac.bytes, toBeBytes16, toBeBytes,
      List.cons_append, List.nil_append, byte_cons_succ, byte_cons_zero]
  have hether : be16 (udpBuffer srcMac dstMac src dst sport dport payload) 12 = 0x0800 := by
    refine be16_of_bytes (x := ethertypeIpv4) ?_ ?_
    all_goals simp only [udpBuffer, ethernetHeader, ipv4Header, Mac.bytes, toBeBytes16, toBeBytes,
      List.cons_append, List.nil_append, byte_cons_succ, byte_cons_zero]
  unfold tcpView
  rw [udpFrame, parseLayout_finish]
  split
  · next l hl =>
    refine if_neg fun htcp => ?_
    rw [parseLayout_untagged (by rw [hlen]; omega) hether] at hl
    have hsix := parseIpv4_tcp hl htcp
    rw [hproto] at hsix
    cases hsix
  · rfl

end Udp

-- from here on a frame is known by the facts above, not by its bytes
attribute [irreducible] tcpSegment udpFrame

end TurboLaser.Synth
