import TurboLaser.Lib.Panics
import TurboLaser.Proto.Checksums
import TurboLaser.Proto.Mutation

/-!
# The frame parser, with its panics (proto/frame.rs)

The functions of `frame.rs` once more, each index, range and subtraction where the source has it.
The total functions of `Proto.Frame` read zero outside a buffer, and a mistake in a bound would show
in them as a wrong value at most; here it is a panic, and its absence is a theorem.

The parser tests the length before it reads, and the tests are scattered: in front of the loop over
the tags, in the loop, in front of the network header, and against the header length that the packet
itself gives. The proof follows them in order. Everything behind the parser relies on what it has
tested, and does not test again:

- `InFrame`: what a layout promises about a buffer of a given length. Edits keep the length, so
  every function that is given a layout later on can rely on it;
- `parseLayout_ok`: **the parser panics on no bytes at all**, and its layouts are `InFrame`;
- the accessors, `recomputeChecksums_ok` and `checksumsValid_ok`: neither does anything that reads
  or writes at the offsets of a layout. A checksum is summed up to the end that the packet declares,
  which the parser has cut to the end of the buffer.
-/

namespace TurboLaser

open Lib

/-- **What a layout promises** about a buffer of `n` bytes. -/
structure InFrame (n : Nat) (l : FrameLayout) : Prop where
  ethernet : 14 ≤ l.l3
  l3_le : l.l3 ≤ l.l4
  l4_le : l.l4 ≤ l.payload
  payload_le : l.payload ≤ l.stop
  stop_le : l.stop ≤ n
  header : l.l3Kind = .ipv4 → 20 ≤ l.ihl ∧ l.l4 = l.l3 + l.ihl
  tcp : l.l4Kind = .tcp → l.l4 + 20 ≤ n
  udp : l.l4Kind = .udp → l.l4 + 8 ≤ n
  transport : l.l4Kind ≠ .other → l.l3Kind = .ipv4

theorem parseLayout_inFrame {buf : List UInt8} {l : FrameLayout} (h : parseLayout buf = some l) :
    InFrame buf.length l := by
  have hl3 := parseLayout_l3 h
  cases hk : l.l3Kind with
  | ipv4 =>
    have hl := parseLayout_packet h hk
    have hl4 := hl.l4
    have hle := hl.l4_le_stop
    have hpayload := hl.payload
    exact
      { ethernet := hl3.1
        l3_le := by omega
        l4_le := by omega
        payload_le := by omega
        stop_le := hl.stop_le
        header := fun _ => ⟨hl.ihl, hl4⟩
        tcp := hl.tcp
        udp := hl.udp
        transport := fun _ => hk }
  | other =>
    -- without IPv4 the three ends coincide, and nothing is claimed of a header
    have hne : l.l3Kind ≠ .ipv4 := by
      rw [hk]
      decide
    obtain ⟨hkind, hpayload, hstop, hl4⟩ := parseLayout_other h hne
    exact
      { ethernet := hl3.1
        l3_le := by omega
        l4_le := by omega
        payload_le := by omega
        stop_le := by omega
        header := fun hipv4 => absurd hipv4 hne
        tcp := fun htcp => by
          rw [hkind] at htcp
          cases htcp
        udp := fun hudp => by
          rw [hkind] at hudp
          cases hudp
        transport := fun hother => absurd hkind hother }

namespace Checked

variable {buf : List UInt8} {l : FrameLayout}

/-! ## The parser -/

/-- The VLAN loop of `parse_layout`. -/
def skipVlan (buf : List UInt8) : Nat → Nat → Nat → Run (Option (Nat × Nat))
  | 0, off, ethertype => return some (off, ethertype)
  | guard + 1, off, ethertype =>
    if ethertype = 0x8100 ∨ ethertype = 0x88a8 then
      if buf.length < off + 4 then return none
      else do
        let ethertype ← be16At buf (off + 2)
        skipVlan buf guard (off + 4) ethertype
    else return some (off, ethertype)

/-- The transport header of `parse_ipv4`. -/
def parseL4 (buf : List UInt8) (proto l4 : Nat) : Run (Option (L4Kind × Nat)) :=
  if proto = 6 then
    if buf.length < l4 + 20 then return none
    else do
      let dataOff ← byteAt buf (l4 + 12)
      let dataOff := dataOff.toNat / 16 * 4
      if dataOff < 20 ∨ buf.length < l4 + dataOff then return none
      else return some (.tcp, dataOff)
  else if proto = 17 then
    if buf.length < l4 + 8 then return none else return some (.udp, 8)
  else return some (.other, 0)

/-- `parse_ipv4`. -/
def parseIpv4 (buf : List UInt8) (l3 : Nat) : Run (Option FrameLayout) :=
  if buf.length < l3 + 20 then return none
  else do
    let vihl ← byteAt buf l3
    if vihl.toNat / 16 ≠ 4 then return none
    else
      let ihl := vihl.toNat % 16 * 4
      if ihl < 20 ∨ buf.length < l3 + ihl then return none
      else do
        let ipTotal ← be16At buf (l3 + 2)
        if ipTotal < ihl then return none
        else do
          let stop := min (l3 + ipTotal) buf.length
          let proto ← byteAt buf (l3 + 9)
          let l4 := l3 + ihl
          let header ← parseL4 buf proto.toNat l4
          return header.map fun (l4Kind, l4Hdr) =>
            { l3, l3Kind := .ipv4, ihl, l4, l4Kind, payload := min (l4 + l4Hdr) stop, stop }

/-- `parse_layout`. -/
def parseLayout (buf : List UInt8) : Run (Option FrameLayout) :=
  if buf.length < 14 then return none
  else do
    let ethertype ← be16At buf 12
    match ← skipVlan buf 4 14 ethertype with
    | none => return none
    | some (l3, ethertype) =>
      if ethertype = 0x0800 then parseIpv4 buf l3
      else
        return some
          { l3, l3Kind := .other, ihl := 0, l4 := l3, l4Kind := .other, payload := l3,
            stop := buf.length }

theorem skipVlan_ok (buf : List UInt8) (guard off ethertype : Nat) :
    skipVlan buf guard off ethertype = .ok (TurboLaser.skipVlan buf guard off ethertype) := by
  induction guard generalizing off ethertype with
  | zero => rfl
  | succ guard ih =>
    refine ite_ok (fun _ => ite_ok (fun _ => rfl) fun hlen => ?_) fun _ => rfl
    exact bind_ok (be16At_ok (by omega)) (ih _ _)

theorem parseL4_ok (buf : List UInt8) (proto l4 : Nat) :
    parseL4 buf proto l4 = .ok (TurboLaser.parseL4 buf proto l4) := by
  refine ite_ok (fun _ => ite_ok (fun _ => rfl) fun hlen => ?_) fun _ => ?_
  · exact bind_ok (byteAt_ok (by omega)) (ite_ok (fun _ => rfl) fun _ => rfl)
  · exact ite_ok (fun _ => ite_ok (fun _ => rfl) fun _ => rfl) fun _ => rfl

theorem parseIpv4_ok (buf : List UInt8) (l3 : Nat) :
    parseIpv4 buf l3 = .ok (TurboLaser.parseIpv4 buf l3) := by
  refine ite_ok (fun _ => rfl) fun hlen => bind_ok (byteAt_ok (by omega)) ?_
  refine ite_ok (fun _ => rfl) fun _ => ite_ok (fun _ => rfl) fun _ => ?_
  refine bind_ok (be16At_ok (by omega)) (ite_ok (fun _ => rfl) fun _ => ?_)
  refine bind_ok (byteAt_ok (by omega)) (bind_ok (parseL4_ok ..) ?_)
  dsimp only
  cases TurboLaser.parseL4 buf (byte buf (l3 + 9)).toNat
    (l3 + (byte buf l3).toNat % 16 * 4) with
  | none => rfl
  | some header => rfl

/-- **The parser does not panic**, whatever the bytes. -/
theorem parseLayout_ok (buf : List UInt8) :
    parseLayout buf = .ok (TurboLaser.parseLayout buf) := by
  refine ite_ok (fun _ => rfl) fun hlen => bind_ok (be16At_ok (by omega)) ?_
  refine bind_ok (skipVlan_ok ..) ?_
  cases TurboLaser.skipVlan buf 4 14 (be16 buf 12) with
  | none => rfl
  | some behind => exact ite_ok (fun _ => parseIpv4_ok ..) fun _ => rfl

/-! ## Accessors -/

section Accessors

variable {f : ParsedFrame}

/-- `payload` and `payload_mut`. -/
def payload (f : ParsedFrame) : Run (List UInt8) := sliceAt f.buf f.layout.payload f.layout.stop

/-- An address of the IPv4 header. -/
def ipv4Addr (off : Nat) (f : ParsedFrame) : Run (Option Ipv4Addr) :=
  if f.layout.l3Kind = .ipv4 then do
    let a ← be32At f.buf (f.layout.l3 + off)
    return some a
  else return none

/-- `ipv4_src`. -/
def ipv4Src : ParsedFrame → Run (Option Ipv4Addr) := ipv4Addr 12

/-- `ipv4_dst`. -/
def ipv4Dst : ParsedFrame → Run (Option Ipv4Addr) := ipv4Addr 16

/-- Replace an address of the IPv4 header. -/
def setIpv4Addr (off : Nat) (f : ParsedFrame) (a : Ipv4Addr) : Run ParsedFrame :=
  if f.layout.l3Kind = .ipv4 then do
    let buf ← copyAt f.buf (f.layout.l3 + off) (f.layout.l3 + off + 4) (toBeBytes a)
    return { f with buf }
  else return f

/-- `set_ipv4_src`. -/
def setIpv4Src : ParsedFrame → Ipv4Addr → Run ParsedFrame := setIpv4Addr 12

/-- `set_ipv4_dst`. -/
def setIpv4Dst : ParsedFrame → Ipv4Addr → Run ParsedFrame := setIpv4Addr 16

/-- `dst_mac`. -/
def dstMac (f : ParsedFrame) : Run (List UInt8) := sliceAt f.buf 0 6

/-- `src_mac`. -/
def srcMac (f : ParsedFrame) : Run (List UInt8) := sliceAt f.buf 6 12

/-- `set_dst_mac`. -/
def setDstMac (f : ParsedFrame) (m : Mac) : Run ParsedFrame := do
  let buf ← copyAt f.buf 0 6 m.bytes
  return { f with buf }

/-- `set_src_mac`. -/
def setSrcMac (f : ParsedFrame) (m : Mac) : Run ParsedFrame := do
  let buf ← copyAt f.buf 6 12 m.bytes
  return { f with buf }

/-- A port of the transport header. -/
def port (off : Nat) (f : ParsedFrame) : Run (Option UInt16) :=
  match f.layout.l4Kind with
  | .tcp | .udp => do
    let p ← fieldAt be16Field f.buf (f.layout.l4 + off)
    return some p
  | .other => return none

/-- `src_port`. -/
def srcPort : ParsedFrame → Run (Option UInt16) := port 0

/-- `dst_port`. -/
def dstPort : ParsedFrame → Run (Option UInt16) := port 2

theorem payload_ok (hl : InFrame f.buf.length f.layout) : payload f = .ok f.payload :=
  sliceAt_ok hl.payload_le hl.stop_le

theorem ipv4Addr_ok (hl : InFrame f.buf.length f.layout) {off : Nat} (hoff : off ≤ 16) :
    ipv4Addr off f =
      .ok (if f.layout.l3Kind = .ipv4 then some (be32 f.buf (f.layout.l3 + off)) else none) := by
  refine ite_ok (fun hk => bind_ok (be32At_ok ?_) rfl) fun _ => rfl
  have hheader := hl.header hk
  have hfits := (hl.l4_le.trans hl.payload_le).trans hl.stop_le
  omega

theorem setIpv4Addr_ok (hl : InFrame f.buf.length f.layout) {off : Nat} (hoff : off ≤ 16)
    (a : Ipv4Addr) :
    setIpv4Addr off f a =
      .ok (if f.layout.l3Kind = .ipv4
        then { f with buf := write f.buf (f.layout.l3 + off) (toBeBytes a) } else f) := by
  refine ite_ok (fun hk => bind_ok (copyAt_ok ?_ rfl) rfl) fun _ => rfl
  have hheader := hl.header hk
  have hfits := (hl.l4_le.trans hl.payload_le).trans hl.stop_le
  omega

theorem InFrame.fourteen {n : Nat} (hl : InFrame n l) : 14 ≤ n :=
  hl.ethernet.trans (hl.l3_le.trans ((hl.l4_le.trans hl.payload_le).trans hl.stop_le))

theorem dstMac_ok (hl : InFrame f.buf.length f.layout) : dstMac f = .ok (slice f.buf 0 6) :=
  sliceAt_ok (by decide) (Nat.le_trans (by decide) (InFrame.fourteen hl))

theorem srcMac_ok (hl : InFrame f.buf.length f.layout) : srcMac f = .ok (slice f.buf 6 12) :=
  sliceAt_ok (by decide) (Nat.le_trans (by decide) (InFrame.fourteen hl))

theorem setDstMac_ok (hl : InFrame f.buf.length f.layout) (m : Mac) :
    setDstMac f m = .ok { f with buf := write f.buf 0 m.bytes } :=
  bind_ok (copyAt_ok (Nat.le_trans (by decide) (InFrame.fourteen hl)) rfl) rfl

theorem setSrcMac_ok (hl : InFrame f.buf.length f.layout) (m : Mac) :
    setSrcMac f m = .ok { f with buf := write f.buf 6 m.bytes } :=
  bind_ok (copyAt_ok (Nat.le_trans (by decide) (InFrame.fourteen hl)) rfl) rfl

theorem port_ok (hl : InFrame f.buf.length f.layout) {off : Nat} (hoff : off ≤ 2) :
    port off f = .ok (f.port off) := by
  have hread : f.layout.l4 + 4 ≤ f.buf.length →
      fieldAt be16Field f.buf (f.layout.l4 + off) =
        .ok (be16Field.read f.buf (f.layout.l4 + off)) := by
    intro hfits
    refine fieldAt_ok ?_
    show f.layout.l4 + off + 2 ≤ _
    omega
  unfold port ParsedFrame.port
  cases hkind : f.layout.l4Kind with
  | tcp => exact bind_ok (hread ((Nat.add_le_add_left (by decide) _).trans (hl.tcp hkind))) rfl
  | udp => exact bind_ok (hread ((Nat.add_le_add_left (by decide) _).trans (hl.udp hkind))) rfl
  | other => rfl

end Accessors

/-! ## Checksums

The sums run over slices whose ends come from the frame itself, so the checked model tests each of
them against the buffer. The test that the code makes in front of the transport sum is the one that
keeps the slice inside the frame. The loop over the words has fuel here, and ends before it runs
out.
-/

/-- The loop of `sum_words`, for at most `fuel` turns. -/
def sumWordsLoop (data : List UInt8) : Nat → Nat → Nat → Run Nat
  | 0, _, _ => .error .endless
  | fuel + 1, i, acc =>
    if i + 1 < data.length then do
      let hi ← byteAt data i
      let lo ← byteAt data (i + 1)
      sumWordsLoop data fuel (i + 2) (acc + (hi.toNat * 256 + lo.toNat))
    else if i < data.length then do
      let hi ← byteAt data i
      return acc + hi.toNat * 256
    else return acc

/-- `sum_words`. -/
def sumWords (acc : Nat) (data : List UInt8) : Run Nat := sumWordsLoop data (data.length + 1) 0 acc

/-- The pseudo header: both addresses, the protocol and the length. -/
def pseudoHeader (src dst : List UInt8) (proto : UInt8) (l4Len : Nat) : List UInt8 :=
  src ++ dst ++ [0, proto, UInt8.ofNat (l4Len / 256), UInt8.ofNat (l4Len % 256)]

/-- `l4_checksum`. -/
def l4Checksum (buf : List UInt8) (l : FrameLayout) (csumOff : Nat) : Run (List UInt8) :=
  if l.stop ≤ l.l4 ∨ buf.length ≤ l.l4 + csumOff + 1 then return buf
  else do
    let src ← bytesAt buf (l.l3 + 12) 4
    let dst ← bytesAt buf (l.l3 + 16) 4
    let proto ← byteAt buf (l.l3 + 9)
    let l4Len ← minus l.stop l.l4
    let buf ← setAt buf (l.l4 + csumOff) 0
    let buf ← setAt buf (l.l4 + csumOff + 1) 0
    let s ← sumWords 0 (pseudoHeader src dst proto l4Len)
    let body ← sliceAt buf l.l4 l.stop
    let s ← sumWords s body
    let csum := 0xffff - fold s
    let csum := if l.l4Kind = .udp ∧ csum = 0 then 0xffff else csum
    let buf ← setAt buf (l.l4 + csumOff) (UInt8.ofNat (csum / 256))
    setAt buf (l.l4 + csumOff + 1) (UInt8.ofNat (csum % 256))

/-- `recompute_checksums`. -/
def recomputeChecksums (buf : List UInt8) (l : FrameLayout) : Run (List UInt8) :=
  if l.l3Kind ≠ .ipv4 then return buf
  else do
    let buf ← setAt buf (l.l3 + 10) 0
    let buf ← setAt buf (l.l3 + 11) 0
    let header ← sliceAt buf l.l3 (l.l3 + l.ihl)
    let s ← sumWords 0 header
    let ipck := 0xffff - fold s
    let buf ← setAt buf (l.l3 + 10) (UInt8.ofNat (ipck / 256))
    let buf ← setAt buf (l.l3 + 11) (UInt8.ofNat (ipck % 256))
    match l.l4Kind with
    | .tcp => l4Checksum buf l 16
    | .udp => l4Checksum buf l 6
    | .other => return buf

/-- `checksums_valid`. -/
def checksumsValid (buf : List UInt8) (l : FrameLayout) : Run Bool :=
  if l.l3Kind ≠ .ipv4 then return true
  else do
    let header ← sliceAt buf l.l3 (l.l3 + l.ihl)
    let s ← sumWords 0 header
    if fold s ≠ 0xffff then return false
    else
      match l.l4Kind with
      | .tcp | .udp => do
        let src ← sliceAt buf (l.l3 + 12) (l.l3 + 16)
        let dst ← sliceAt buf (l.l3 + 16) (l.l3 + 20)
        let proto ← byteAt buf (l.l3 + 9)
        let l4Len ← minus l.stop l.l4
        let s ← sumWords 0 (pseudoHeader src dst proto l4Len)
        let body ← sliceAt buf l.l4 l.stop
        let s ← sumWords s body
        return decide (fold s = 0xffff)
      | .other => return true

/-- The loop ends: it takes a turn for two bytes at least, or for the last one. -/
theorem sumWordsLoop_ok {data : List UInt8} {fuel i acc : Nat} (hfuel : data.length ≤ i + fuel) :
    sumWordsLoop data (fuel + 1) i acc = .ok (TurboLaser.sumWords acc (data.drop i)) := by
  induction fuel generalizing i acc with
  | zero =>
    rw [sumWordsLoop, if_neg (by omega), if_neg (by omega), List.drop_of_length_le (by omega)]
    rfl
  | succ fuel ih =>
    rw [sumWordsLoop]
    by_cases htwo : i + 1 < data.length
    · rw [if_pos htwo, byteAt_ok (by omega), ok_bind, byteAt_ok htwo, ok_bind, ih (by omega),
        List.drop_eq_getElem_cons (by omega : i < data.length), List.drop_eq_getElem_cons htwo,
        TurboLaser.sumWords, byte, byte, List.getD_eq_getElem _ _ (by omega : i < data.length),
        List.getD_eq_getElem _ _ htwo]
    · rw [if_neg htwo]
      by_cases hone : i < data.length
      · rw [if_pos hone, byteAt_ok hone, ok_bind, List.drop_eq_getElem_cons hone,
          List.drop_of_length_le (by omega : data.length ≤ i + 1), byte,
          List.getD_eq_getElem _ _ hone]
        rfl
      · rw [if_neg hone, List.drop_of_length_le (by omega)]
        rfl

theorem sumWords_ok (acc : Nat) (data : List UInt8) :
    sumWords acc data = .ok (TurboLaser.sumWords acc data) :=
  sumWordsLoop_ok (Nat.le_add_left _ _)

theorem slice_append_slice (buf : List UInt8) (a m n : Nat) :
    slice buf a (a + m) ++ slice buf (a + m) (a + m + n) = slice buf a (a + (m + n)) := by
  rw [slice, slice, slice, ← List.take_drop, ← List.take_drop, ← List.take_drop, List.take_add,
    List.drop_drop]

/-- The pseudo header of the source is the one that is summed. -/
theorem pseudoHeader_eq (buf : List UInt8) (l : FrameLayout) :
    pseudoHeader (slice buf (l.l3 + 12) (l.l3 + 16)) (slice buf (l.l3 + 16) (l.l3 + 20))
        (byte buf (l.l3 + 9)) (l.stop - l.l4) = TurboLaser.pseudoHeader buf l := by
  unfold pseudoHeader TurboLaser.pseudoHeader
  rw [show slice buf (l.l3 + 12) (l.l3 + 16) ++ slice buf (l.l3 + 16) (l.l3 + 20) =
    slice buf (l.l3 + 12) (l.l3 + 20) from slice_append_slice buf (l.l3 + 12) 4 4]

/-- Behind its test, `l4_checksum` stays inside the frame. -/
theorem l4Checksum_ok {csumOff : Nat} (hl : InFrame buf.length l) (hk : l.l3Kind = .ipv4) :
    l4Checksum buf l csumOff = .ok (TurboLaser.l4Checksum buf l csumOff) := by
  have hheader := hl.header hk
  have hfits := (hl.l4_le.trans hl.payload_le).trans hl.stop_le
  have hstop := hl.stop_le
  refine ite_ok (fun _ => rfl) fun hroom => ?_
  refine bind_ok (bytesAt_ok (by omega)) (bind_ok (bytesAt_ok (by omega)) ?_)
  refine bind_ok (byteAt_ok (by omega)) (bind_ok (minus_ok (by omega)) ?_)
  refine bind_ok (setAt_ok _ (by omega)) (bind_ok (setAt_ok _ ?_) ?_)
  · rw [List.length_set]
    omega
  refine bind_ok (sumWords_ok ..) (bind_ok (sliceAt_ok (by omega) ?_) ?_)
  · rw [List.length_set, List.length_set]
    exact hstop
  refine bind_ok (sumWords_ok ..) (bind_ok (setAt_ok _ ?_) ((setAt_ok _ ?_).trans ?_))
  · rw [List.length_set, List.length_set]
    omega
  · rw [List.length_set, List.length_set, List.length_set]
    omega
  · rw [← pseudoHeader_eq buf l]
    rfl

/-- **Recomputing the checksums does not panic.** -/
theorem recomputeChecksums_ok (hl : InFrame buf.length l) :
    recomputeChecksums buf l = .ok (TurboLaser.recomputeChecksums buf l) := by
  refine ite_ok (fun _ => rfl) fun hne => ?_
  have hk := not_not.mp hne
  have hheader := hl.header hk
  have hfits := (hl.l4_le.trans hl.payload_le).trans hl.stop_le
  -- no write changes the length, so every bound is one about the buffer as it came
  refine bind_ok (setAt_ok _ (by omega)) (bind_ok (setAt_ok _ ?_) ?_)
  · rw [List.length_set]
    omega
  refine bind_ok (sliceAt_ok (by omega) ?_) (bind_ok (sumWords_ok ..) ?_)
  · rw [List.length_set, List.length_set]
    omega
  refine bind_ok (setAt_ok _ ?_) (bind_ok (setAt_ok _ ?_) ?_)
  · rw [List.length_set, List.length_set]
    omega
  · rw [List.length_set, List.length_set, List.length_set]
    omega
  cases hkind : l.l4Kind with
  | tcp =>
    dsimp only
    refine l4Checksum_ok ?_ hk
    rwa [List.length_set, List.length_set, List.length_set, List.length_set]
  | udp =>
    dsimp only
    refine l4Checksum_ok ?_ hk
    rwa [List.length_set, List.length_set, List.length_set, List.length_set]
  | other => rfl

/-- **Judging the checksums does not panic.** -/
theorem checksumsValid_ok (hl : InFrame buf.length l) :
    checksumsValid buf l = .ok (TurboLaser.checksumsValid buf l) := by
  refine ite_ok (fun _ => rfl) fun hne => ?_
  have hk := not_not.mp hne
  have hheader := hl.header hk
  have hle := hl.l4_le.trans hl.payload_le
  have hstop := hl.stop_le
  refine bind_ok (sliceAt_ok (by omega) (by omega)) (bind_ok (sumWords_ok ..) ?_)
  refine ite_ok (fun _ => rfl) fun _ => ?_
  -- TCP and UDP are judged by the same steps
  have htransport : (do
      let src ← sliceAt buf (l.l3 + 12) (l.l3 + 16)
      let dst ← sliceAt buf (l.l3 + 16) (l.l3 + 20)
      let proto ← byteAt buf (l.l3 + 9)
      let l4Len ← minus l.stop l.l4
      let s ← sumWords 0 (pseudoHeader src dst proto l4Len)
      let body ← sliceAt buf l.l4 l.stop
      let s ← sumWords s body
      return decide (fold s = 0xffff)) =
      .ok (decide (fold (TurboLaser.sumWords (TurboLaser.sumWords 0
        (TurboLaser.pseudoHeader buf l)) (slice buf l.l4 l.stop)) = 0xffff)) := by
    refine bind_ok (sliceAt_ok (by omega) (by omega)) ?_
    refine bind_ok (sliceAt_ok (by omega) (by omega)) ?_
    refine bind_ok (byteAt_ok (by omega)) (bind_ok (minus_ok (by omega)) ?_)
    refine bind_ok (sumWords_ok ..) (bind_ok (sliceAt_ok hle hstop) ?_)
    refine bind_ok (sumWords_ok ..) ?_
    rw [← pseudoHeader_eq buf l]
    rfl
  cases hkind : l.l4Kind with
  | tcp => exact htransport
  | udp => exact htransport
  | other => rfl

end Checked

end TurboLaser
