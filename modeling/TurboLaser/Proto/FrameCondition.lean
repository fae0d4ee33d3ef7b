import TurboLaser.Proto.Checksums
import TurboLaser.Proto.RewriteFacts

/-!
# What rewriting leaves alone

`applyHostMapFrame` has business with the hardware addresses, the network addresses and the
checksums of a frame. `TouchesOnlyAddresses` says that it keeps to them: every other byte is as it
was captured, under every map and every seed.

It does, where the checksum that is written belongs to a header that is there. The source decides by
the protocol number alone that an IPv4 packet begins with a TCP or UDP header; a later fragment has
the number and no header, and a packet that declares less than its header has it partly. There the
two checksum bytes fall into the payload, or behind the packet. That is the exact condition, and its
necessity needs a frame and two maps under which the bytes come out differently: changing a source
address changes the sum (`l4Word_readdressed_ne`), so at most one of two maps can leave the bytes as
they were.

- `rewriteIpv4_agree`: an IPv4 rewrite writes the addresses and leaves the rest to
  `recomputeChecksums`;
- `l4Sum_addresses`: the transport sum, with the addresses in it set apart, so that two different
  source addresses give two different checksums;
- `touches_only_iff`: **a frame keeps to them under every map exactly when it really carries the
  transport header whose checksum is written.**
-/

namespace TurboLaser

open Lib

/-! ## The frame condition -/

/-- The fragment offset of an IPv4 packet. -/
def fragmentOffset (buf : List UInt8) (l : FrameLayout) : Nat := be16 buf (l.l3 + 6) % 8192

/-- The packet is a first fragment, or none, and has all of the transport header. -/
def CarriesTransport (buf : List UInt8) (l : FrameLayout) : Prop :=
  fragmentOffset buf l = 0 ∧ HeaderInside buf l

/-- The two bytes of the transport checksum. -/
def L4ChecksumBytes (l : FrameLayout) (i : Nat) : Prop :=
  ∃ off, csumOff l.l4Kind = some off ∧ l.l4 + off ≤ i ∧ i < l.l4 + off + 2

/-- The fields that rewriting has business with: the Ethernet addresses, the IPv4 header checksum
and addresses, the four addresses of ARP, and the checksum of a transport header that is there. -/
def AddressBytes (buf : List UInt8) (l : FrameLayout) (i : Nat) : Prop :=
  i < 12 ∨ (l.l3Kind = .ipv4 ∧ l.l3 + 10 ≤ i ∧ i < l.l3 + 20) ∨
    (l.l3Kind = .other ∧ isArpIpv4 buf l.l3 = true ∧ l.l3 + 8 ≤ i ∧ i < l.l3 + 28) ∨
    (CarriesTransport buf l ∧ L4ChecksumBytes l i)

/-- Rewriting keeps to these fields, to the frame without its padding, and to the headers of a
fragment that is not the first. -/
def TouchesOnlyAddresses (buf : List UInt8) (l : FrameLayout) : Prop :=
  ∀ (map : HostMap) (macMap : MacMap) (seed : UInt64) (remapMac : Bool),
    let out := applyHostMapFrame map macMap seed remapMac buf
    AgreeOn (fun i => ¬ AddressBytes buf l i) out buf ∧
      (∀ i, l.stop ≤ i → byte out i = byte buf i) ∧
      (l.l3Kind = .ipv4 → fragmentOffset buf l ≠ 0 → ∀ i, l.l4 ≤ i → byte out i = byte buf i)

/-- The transport header whose checksum is written is there. -/
def ChecksumsOwnHeader (buf : List UInt8) (l : FrameLayout) : Prop :=
  l.l4Kind ≠ .other → l.l4 < l.stop → CarriesTransport buf l

/-! ## The bytes of a rewrite

An IPv4 rewrite is two steps, addresses and checksums, and the MACs on top; an ARP rewrite is one.
For each the bytes that may change are named, and all others agree with the captured frame. The
fields lie inside the declared packet, except for one: the transport checksum, for which the
caller's condition is needed.
-/

/-- The frame with its two network addresses mapped. -/
def readdressed (map : HostMap) (l : FrameLayout) (buf : List UInt8) : List UInt8 :=
  setAddr (setAddr buf (l.l3 + 12) (map.lookup (be32 buf (l.l3 + 12)))) (l.l3 + 16)
    (map.lookup (be32 buf (l.l3 + 16)))

/-- A network address of the frame is mapped. -/
def isMapped (map : HostMap) (l : FrameLayout) (buf : List UInt8) : Bool :=
  (map.lookup (be32 buf (l.l3 + 12))).isSome || (map.lookup (be32 buf (l.l3 + 16))).isSome

theorem readdressed_agree (map : HostMap) (l : FrameLayout) (buf : List UInt8) :
    AgreeOn (fun i => i < l.l3 + 12 ∨ l.l3 + 20 ≤ i) (readdressed map l buf) buf := by
  refine ((agreeOn_setAddr _ _ _).mono ?_).trans ((agreeOn_setAddr _ _ _).mono ?_)
  · intro i hi
    omega
  · intro i hi
    omega

theorem parseLayout_readdressed (map : HostMap) {buf : List UInt8} {l : FrameLayout}
    (h : parseLayout buf = some l) (hk : l.l3Kind = .ipv4) :
    parseLayout (readdressed map l buf) = some l := by
  have hl := parseLayout_packet h hk
  have hihl := hl.ihl
  have hl4 := hl.l4
  refine parseLayout_congr h ((readdressed_agree map l buf).symm.mono ?_)
  rintro i (hi | ⟨-, hi⟩)
  · exact .inl (by omega)
  · unfold HeaderBytes at hi
    omega

/-- **An IPv4 rewrite maps the addresses and recomputes**; the hardware addresses come on top. -/
theorem rewriteIpv4_agree (map : HostMap) (macMap : MacMap) (seed : UInt64) (remapMac : Bool)
    (l : FrameLayout) (buf : List UInt8) :
    AgreeOn (fun i => 12 ≤ i ∨ remapMac = false) (rewriteIpv4 map macMap seed remapMac l buf)
      (if isMapped map l buf then recomputeChecksums (readdressed map l buf) l
        else readdressed map l buf) := by
  have hdst : be32 (setAddr buf (l.l3 + 12) (map.lookup (be32 buf (l.l3 + 12)))) (l.l3 + 16) =
      be32 buf (l.l3 + 16) :=
    (agreeOn_setAddr _ _ _).be32_eq fun k hk _ => .inr (by omega)
  unfold rewriteIpv4 isMapped readdressed
  dsimp only
  rw [hdst]
  -- which addresses are mapped does not matter any more, only where the hardware addresses go
  generalize map.lookup (be32 buf (l.l3 + 12)) = newSrc
  generalize map.lookup (be32 buf (l.l3 + 16)) = newDst
  generalize (if (newSrc.isSome || newDst.isSome) = true then
    recomputeChecksums (setAddr (setAddr buf (l.l3 + 12) newSrc) (l.l3 + 16) newDst) l
    else setAddr (setAddr buf (l.l3 + 12) newSrc) (l.l3 + 16) newDst) = summed
  split
  · next hmac =>
    have hsrc := agreeOn_setMacFor macMap seed summed 6 newSrc
    generalize setMacFor macMap seed summed 6 newSrc = b at hsrc ⊢
    have hdst : AgreeOn (fun i => 6 ≤ i)
        (if byte b 0 &&& 0x01 = 0 then setMacFor macMap seed b 0 newDst else b) b := by
      split
      · exact (agreeOn_setMacFor macMap seed b 0 newDst).mono fun i hi => .inr hi
      · exact AgreeOn.refl _ _
    have hbehind : ∀ i, 12 ≤ i ∨ remapMac = false → 12 ≤ i := by
      rintro i (hi | hi)
      · exact hi
      · rw [hmac] at hi
        cases hi
    refine (hdst.mono fun i hi => ?_).trans (hsrc.mono fun i hi => .inr (hbehind i hi))
    have := hbehind i hi
    omega
  · exact AgreeOn.refl _ _

/-- A packet that declares nothing behind its IPv4 header gets no transport checksum. -/
theorem recompute_empty {buf : List UInt8} {l : FrameLayout} (hstop : l.stop ≤ l.l4) :
    AgreeOn (fun i => i < l.l3 + 10 ∨ l.l3 + 12 ≤ i) (recomputeChecksums buf l) buf := by
  have hnone : ∀ b off, l4Checksum b l off = b := fun b off => if_pos (.inl hstop)
  have hip : ∀ xs ys : List UInt8, xs.length = 2 → ys.length = 2 →
      AgreeOn (fun i => i < l.l3 + 10 ∨ l.l3 + 12 ≤ i)
        (write (write buf (l.l3 + 10) xs) (l.l3 + 10) ys) buf := by
    intro xs ys hxs hys
    refine ((agreeOn_write _ _ _).mono ?_).trans ((agreeOn_write _ _ _).mono ?_)
    · intro i hi
      omega
    · intro i hi
      omega
  unfold recomputeChecksums
  split
  · exact AgreeOn.refl _ _
  · dsimp only
    rw [hnone, hnone]
    cases l.l4Kind with
    | tcp => exact hip _ _ rfl rfl
    | udp => exact hip _ _ rfl rfl
    | other => exact hip _ _ rfl rfl

/-- **Where the checksum has a header of its own, a rewrite keeps to its fields.** -/
theorem rewriteIpv4_keeps (map : HostMap) (macMap : MacMap) (seed : UInt64) (remapMac : Bool)
    {l : FrameLayout} {buf : List UInt8} (hk : l.l3Kind = .ipv4)
    (hown : ChecksumsOwnHeader buf l) :
    AgreeOn (fun i => ¬ AddressBytes buf l i) (rewriteIpv4 map macMap seed remapMac l buf) buf := by
  have haddressed := readdressed_agree map l buf
  have houtside : ∀ i, ¬ AddressBytes buf l i →
      12 ≤ i ∧ (i < l.l3 + 10 ∨ l.l3 + 20 ≤ i) ∧
        ¬ (CarriesTransport buf l ∧ L4ChecksumBytes l i) := by
    intro i hi
    refine ⟨?_, ?_, fun hcarried => hi (.inr (.inr (.inr hcarried)))⟩
    · by_contra hlt
      exact hi (.inl (by omega))
    · by_contra hin
      exact hi (.inr (.inl ⟨hk, by omega⟩))
  refine ((rewriteIpv4_agree map macMap seed remapMac l buf).mono fun i hi =>
    .inl (houtside i hi).1).trans ?_
  refine AgreeOn.trans ?_ (haddressed.mono fun i hi => by have := houtside i hi; omega)
  split
  -- a packet without a transport has no transport checksum to write
  · by_cases hstop : l.stop ≤ l.l4
    · exact (recompute_empty hstop).mono fun i hi => by have := houtside i hi; omega
    · refine (recomputeChecksums_agree _ l).mono ?_
      intro i hi hcsum
      obtain ⟨-, hip, hcarried⟩ := houtside i hi
      rcases hcsum with hcsum | ⟨htcp, hcsum⟩ | ⟨hudp, hcsum⟩
      · omega
      · exact hcarried ⟨hown (by rw [htcp]; exact nofun) (by omega), 16, by rw [htcp]; rfl, hcsum⟩
      · exact hcarried ⟨hown (by rw [hudp]; exact nofun) (by omega), 6, by rw [hudp]; rfl, hcsum⟩
  · exact AgreeOn.refl _ _

/-- An ARP rewrite writes the Ethernet addresses and the four addresses of ARP. -/
theorem remapArpAddrs_agree (map : HostMap) (macMap : MacMap) (seed : UInt64) (remapMac : Bool)
    (l3 : Nat) (buf : List UInt8) :
    AgreeOn (fun i => 12 ≤ i ∧ (i < l3 + 8 ∨ l3 + 28 ≤ i))
      (remapArpAddrs map macMap seed remapMac l3 buf) buf := by
  -- an address and a pair of MACs, either at its place in the ARP body
  have haddr : ∀ b off ip, l3 + 8 ≤ off → off + 4 ≤ l3 + 28 →
      AgreeOn (fun i => 12 ≤ i ∧ (i < l3 + 8 ∨ l3 + 28 ≤ i)) (setAddr b off ip) b := by
    intro b off ip hlo hhi
    refine (agreeOn_setAddr b off ip).mono fun i hi => ?_
    omega
  have hmacs : ∀ (c : Bool) b off off' ip, l3 + 8 ≤ off → off + 6 ≤ l3 + 28 → off' + 6 ≤ 12 →
      AgreeOn (fun i => 12 ≤ i ∧ (i < l3 + 8 ∨ l3 + 28 ≤ i))
        (if c = true then setMacFor macMap seed (setMacFor macMap seed b off ip) off' ip else b)
        b := by
    intro c b off off' ip hlo hhi hoff'
    split
    · refine ((agreeOn_setMacFor macMap seed _ off' ip).mono fun i hi => ?_).trans
        ((agreeOn_setMacFor macMap seed b off ip).mono fun i hi => ?_)
      · omega
      · omega
    · exact AgreeOn.refl _ _
  unfold remapArpAddrs
  split
  · -- the target's half, on top of the sender's
    exact ((hmacs _ _ (l3 + 18) 0 _ (by omega) (by omega) (by omega)).trans
      (haddr _ (l3 + 24) _ (by omega) (by omega))).trans
      ((hmacs _ _ (l3 + 8) 6 _ (by omega) (by omega) (by omega)).trans
        (haddr buf (l3 + 14) _ (by omega) (by omega)))
  · exact AgreeOn.refl _ _

theorem remapArpAddrs_keeps (map : HostMap) (macMap : MacMap) (seed : UInt64) (remapMac : Bool)
    {l : FrameLayout} {buf : List UInt8} (hk : l.l3Kind = .other) :
    AgreeOn (fun i => ¬ AddressBytes buf l i) (remapArpAddrs map macMap seed remapMac l.l3 buf)
      buf := by
  by_cases harp : isArpIpv4 buf l.l3 = true
  · refine (remapArpAddrs_agree map macMap seed remapMac l.l3 buf).mono fun i hi => ⟨?_, ?_⟩
    · by_contra hlt
      exact hi (.inl (by omega))
    · by_contra hin
      exact hi (.inr (.inr (.inl ⟨hk, harp, by omega⟩)))
  · unfold remapArpAddrs
    rw [if_neg harp]
    exact AgreeOn.refl _ _

theorem applyHostMapFrame_keeps (map : HostMap) (macMap : MacMap) (seed : UInt64)
    (remapMac : Bool) {l : FrameLayout} {buf : List UInt8} (h : parseLayout buf = some l)
    (hown : ChecksumsOwnHeader buf l) :
    AgreeOn (fun i => ¬ AddressBytes buf l i)
      (applyHostMapFrame map macMap seed remapMac buf) buf := by
  unfold applyHostMapFrame
  rw [h]
  dsimp only
  cases hk : l.l3Kind with
  | ipv4 => exact rewriteIpv4_keeps map macMap seed remapMac hk hown
  | other => exact remapArpAddrs_keeps map macMap seed remapMac hk

theorem l4ChecksumBytes_bounds {l : FrameLayout} {buf : List UInt8} (hl : Ipv4Packet buf l)
    {i : Nat} (hi : L4ChecksumBytes l i) :
    l.l4 ≤ i ∧ i < l.l4 + l4HeaderLen buf l := by
  obtain ⟨off, hoff, hlo, hhi⟩ := hi
  obtain ⟨hfits, -⟩ := csumOff_fits hl hoff
  omega

theorem L4ChecksumBytes.l4Kind {l : FrameLayout} {i : Nat} (hi : L4ChecksumBytes l i) :
    l.l4Kind ≠ .other := by
  obtain ⟨off, hoff, -⟩ := hi
  intro hother
  rw [hother] at hoff
  cases hoff

/-- The fields lie inside the declared frame, and in front of the payload of a later fragment. -/
theorem addressBytes_bounds {l : FrameLayout} {buf : List UInt8} (h : parseLayout buf = some l)
    {i : Nat} (hi : AddressBytes buf l i) :
    i < l.stop ∧ (l.l3Kind = .ipv4 → fragmentOffset buf l ≠ 0 → i < l.l4) := by
  have hl3 := (parseLayout_l3 h).1
  -- the fixed part of an IPv4 header is in front of the transport, in every fragment
  have hfront : i < l.l3 + 20 → l.l3Kind = .ipv4 → i < l.stop ∧ i < l.l4 := by
    intro hlt hk
    have hl := parseLayout_packet h hk
    have hihl := hl.ihl
    have hl4 := hl.l4
    have hle := hl.l4_le_stop
    omega
  rcases hi with hi | ⟨hk, hlo, hhi⟩ | ⟨hk, harp, hlo, hhi⟩ | ⟨hcarried, hcsum⟩
  · by_cases hk : l.l3Kind = .ipv4
    · obtain ⟨hstop, hl4⟩ := hfront (by omega) hk
      exact ⟨hstop, fun _ _ => hl4⟩
    · have hlen := (parseLayout_l3 h).2
      rw [(parseLayout_other h hk).2.2.1]
      exact ⟨by omega, fun hk' => absurd hk' hk⟩
  · obtain ⟨hstop, hl4⟩ := hfront hhi hk
    exact ⟨hstop, fun _ _ => hl4⟩
  · have hlen := isArpIpv4_length harp
    have hnot : l.l3Kind ≠ .ipv4 := by
      rw [hk]
      exact nofun
    rw [(parseLayout_other h hnot).2.2.1]
    exact ⟨by omega, fun hk' => absurd hk' hnot⟩
  · have hl := parseLayout_packet h (ipv4_of_l4Kind h hcsum.l4Kind)
    obtain ⟨-, hbound⟩ := l4ChecksumBytes_bounds hl hcsum
    have hin := hcarried.2
    unfold HeaderInside at hin
    exact ⟨by omega, fun _ hlater => absurd hcarried.1 hlater⟩

/-- **Where the checksum has a header of its own, rewriting touches only the addresses.** -/
theorem touches_only_of_own {l : FrameLayout} {buf : List UInt8} (h : parseLayout buf = some l)
    (hown : ChecksumsOwnHeader buf l) : TouchesOnlyAddresses buf l := by
  intro map macMap seed remapMac
  have hkeeps := applyHostMapFrame_keeps map macMap seed remapMac h hown
  refine ⟨hkeeps, fun i hi => hkeeps.2 i fun hin => ?_, fun hk hlater i hi =>
    hkeeps.2 i fun hin => ?_⟩
  · have := (addressBytes_bounds h hin).1
    omega
  · have := (addressBytes_bounds h hin).2 hk hlater
    omega

/-! ## Checksums that have no header

Where the checksum is written behind the packet, or into a later fragment, some rewrite changes
bytes that are no address. To show it for every such frame a map is needed that changes the word
written there. The transport sum is split into the addresses and the rest; two maps of one host then
give two words, and one of them differs from what was there.
-/

theorem slice_toBeBytes {buf : List UInt8} {i : Nat} (h : i + 4 ≤ buf.length) :
    slice buf i (i + 4) = toBeBytes (be32 buf i) := by
  rw [toBeBytes_be32]
  refine ext_byte (by rw [length_slice h]; simp) fun k hk => ?_
  rw [length_slice h] at hk
  rw [byte_slice (by omega)]
  have hk' : k = 0 ∨ k = 1 ∨ k = 2 ∨ k = 3 := by omega
  rcases hk' with rfl | rfl | rfl | rfl
  · rfl
  · rfl
  · rfl
  · rfl

theorem slice_split {buf : List UInt8} {a m z : Nat} (ham : a ≤ m) (hmz : m ≤ z)
    (hz : z ≤ buf.length) : slice buf a z = slice buf a m ++ slice buf m z := by
  have hm : m ≤ buf.length := by omega
  refine ext_byte ?_ fun i hi => ?_
  · rw [List.length_append, length_slice hz, length_slice hm, length_slice hz]
    omega
  · rw [length_slice hz] at hi
    rw [byte_slice (by omega)]
    by_cases him : i < m - a
    · have hleft : byte (slice buf a m ++ slice buf m z) i = byte (slice buf a m) i := by
        unfold byte
        rw [List.getD_append _ _ _ _ (by rw [length_slice hm]; exact him)]
      rw [hleft, byte_slice (by omega)]
    · have hright := byte_append_right (slice buf a m) (slice buf m z) (i - (m - a))
      rw [length_slice hm, show m - a + (i - (m - a)) = i by omega] at hright
      rw [hright, byte_slice (by omega), show m + (i - (m - a)) = a + i by omega]

/-- What the transport sum consists of, besides the addresses. -/
def l4Rest (buf : List UInt8) (l : FrameLayout) (off : Nat) : Nat :=
  wordSum [0, byte buf (l.l3 + 9), UInt8.ofNat ((l.stop - l.l4) / 256),
      UInt8.ofNat ((l.stop - l.l4) % 256)] +
    wordSum (slice (be16Field.write buf (l.l4 + off) 0) l.l4 l.stop)

/-- **The transport sum, with the addresses in it set apart.** -/
theorem l4Sum_addresses {buf : List UInt8} {l : FrameLayout} (hl : Ipv4Packet buf l) (off : Nat) :
    l4Sum buf l off = wordSum (toBeBytes (be32 buf (l.l3 + 12))) +
      wordSum (toBeBytes (be32 buf (l.l3 + 16))) + l4Rest buf l off := by
  have hihl := hl.ihl
  have hl4 := hl.l4
  have hle := hl.l4_le
  have hsplit : slice buf (l.l3 + 12) (l.l3 + 20) =
      toBeBytes (be32 buf (l.l3 + 12)) ++ toBeBytes (be32 buf (l.l3 + 16)) := by
    rw [slice_split (show l.l3 + 12 ≤ l.l3 + 16 by omega) (by omega) (by omega)]
    exact congrArg₂ (· ++ ·) (slice_toBeBytes (by omega)) (slice_toBeBytes (by omega))
  unfold l4Sum pseudoHeader l4Rest
  dsimp only
  rw [hsplit, wordSum_append _ (by simp), wordSum_append _ (by simp)]
  omega

theorem l4Rest_readdressed (map map' : HostMap) {buf : List UInt8} {l : FrameLayout}
    (hl : Ipv4Packet buf l) (off : Nat) :
    l4Rest (readdressed map l buf) l off = l4Rest (readdressed map' l buf) l off := by
  have hihl := hl.ihl
  have hl4 := hl.l4
  have hagree : AgreeOn (fun i => i < l.l3 + 12 ∨ l.l3 + 20 ≤ i) (readdressed map l buf)
      (readdressed map' l buf) :=
    (readdressed_agree map l buf).trans (readdressed_agree map' l buf).symm
  have hlen : (be16Field.write (readdressed map l buf) (l.l4 + off) 0).length =
      (be16Field.write (readdressed map' l buf) (l.l4 + off) 0).length := by
    rw [be16Field.length_write, be16Field.length_write, hagree.1]
  unfold l4Rest
  rw [hagree.2 (l.l3 + 9) (.inl (by omega)), slice_congr hlen fun i hi _ _ => ?_]
  rw [be16Field.byte_write, be16Field.byte_write, ← hagree.1, hagree.2 i (.inr (by omega))]

/-- The words of two positive sums tell them apart. -/
theorem endAround_eq_of_l4Word_eq {b b' : List UInt8} {l : FrameLayout} {off : Nat}
    (hb : 0 < l4Sum b l off) (hb' : 0 < l4Sum b' l off) (h : l4Word b l off = l4Word b' l off) :
    endAround (l4Sum b l off) = endAround (l4Sum b' l off) := by
  have hpos := endAround_of_pos hb
  have hpos' := endAround_of_pos hb'
  have hle := endAround_le (l4Sum b l off)
  have hle' := endAround_le (l4Sum b' l off)
  have hword := toNat_complementWord (l4Sum b l off)
  have hword' := toNat_complementWord (l4Sum b' l off)
  -- a word of zero is sent as ones, and positive sums have no other way to give ones
  unfold l4Word at h
  dsimp only at h
  split at h
  · next hzero =>
    rw [hzero.2] at hword
    split at h
    · next hzero' =>
      rw [hzero'.2] at hword'
      have hboth := hword.symm.trans hword'
      omega
    · rw [← h] at hword'
      have hones : 0xffff = 0xffff - endAround (l4Sum b' l off) := hword'
      omega
  · split at h
    · rw [h] at hword
      have hones : 0xffff = 0xffff - endAround (l4Sum b l off) := hword
      omega
    · rw [h, hword'] at hword
      omega

/-- The map of one host. -/
def oneHost (host a : Ipv4Addr) : HostMap := AList.insert host a ∅

theorem lookup_oneHost (host a x : Ipv4Addr) :
    (oneHost host a).lookup x = if x = host then some a else none := by
  unfold oneHost
  split
  · next heq => rw [heq, AList.lookup_insert]
  · next hne => rw [AList.lookup_insert_ne hne, AList.lookup_empty]

/-- The addresses of a frame whose source is mapped to `a`. -/
theorem be32_readdressed_oneHost {buf : List UInt8} {l : FrameLayout} (hl : Ipv4Packet buf l)
    (a : Ipv4Addr) :
    be32 (readdressed (oneHost (be32 buf (l.l3 + 12)) a) l buf) (l.l3 + 12) = a ∧
      be32 (readdressed (oneHost (be32 buf (l.l3 + 12)) a) l buf) (l.l3 + 16) =
        if be32 buf (l.l3 + 16) = be32 buf (l.l3 + 12) then a else be32 buf (l.l3 + 16) := by
  have hihl := hl.ihl
  have hl4 := hl.l4
  have hle := hl.l4_le
  unfold readdressed
  rw [lookup_oneHost, lookup_oneHost, if_pos rfl]
  have hsrc := agreeOn_setAddr buf (l.l3 + 12) (some a)
  have hsrc' := be32_setAddr buf (l.l3 + 12) (some a) (by omega)
  generalize setAddr buf (l.l3 + 12) (some a) = b at hsrc hsrc' ⊢
  constructor
  · rw [(agreeOn_setAddr b (l.l3 + 16) _).be32_eq fun k hk hk' => .inl (by omega), hsrc']
    rfl
  · rw [be32_setAddr b (l.l3 + 16) _ (by rw [hsrc.1]; omega),
      hsrc.be32_eq fun k hk hk' => .inr (by omega)]
    split
    · rfl
    · rfl

/-- **Two maps give a frame two transport checksums.** -/
theorem l4Word_readdressed_ne {buf : List UInt8} {l : FrameLayout}
    (h : parseLayout buf = some l) (hk : l.l3Kind = .ipv4) {off : Nat}
    (hoff : csumOff l.l4Kind = some off) :
    l4Word (readdressed (oneHost (be32 buf (l.l3 + 12)) 0) l buf) l off ≠
      l4Word (readdressed (oneHost (be32 buf (l.l3 + 12)) 1) l buf) l off := by
  have hl := parseLayout_packet h hk
  -- the source enters the sum as a word of its own, and the destination too if it is the same host
  have hsum : ∀ a, 0 < l4Sum (readdressed (oneHost (be32 buf (l.l3 + 12)) a) l buf) l off ∧
      l4Sum (readdressed (oneHost (be32 buf (l.l3 + 12)) a) l buf) l off =
        wordSum (toBeBytes a) + wordSum (toBeBytes (if be32 buf (l.l3 + 16) = be32 buf (l.l3 + 12)
          then a else be32 buf (l.l3 + 16))) +
          l4Rest (readdressed (oneHost (be32 buf (l.l3 + 12)) 0) l buf) l off := by
    intro a
    have hl' := parseLayout_packet (parseLayout_readdressed (oneHost (be32 buf (l.l3 + 12)) a) h hk)
      hk
    obtain ⟨hsrc, hdst⟩ := be32_readdressed_oneHost hl a
    refine ⟨l4Sum_pos hl' hoff, ?_⟩
    rw [l4Sum_addresses hl', hsrc, hdst, l4Rest_readdressed _ (oneHost _ 0) hl]
  intro hsame
  obtain ⟨hpos, hzero⟩ := hsum 0
  obtain ⟨hpos', hone⟩ := hsum 1
  have hends := endAround_eq_of_l4Word_eq hpos hpos' hsame
  -- so the sums differ by one or by two, which no end-around carry can make up for
  have hdiffer : ∃ k, 0 < k ∧ k < 65535 ∧
      l4Sum (readdressed (oneHost (be32 buf (l.l3 + 12)) 1) l buf) l off =
        l4Sum (readdressed (oneHost (be32 buf (l.l3 + 12)) 0) l buf) l off + k := by
    have h0 : wordSum (toBeBytes 0) = 0 := rfl
    have h1 : wordSum (toBeBytes 1) = 1 := rfl
    rw [hzero, hone]
    split
    · exact ⟨2, by omega, by omega, by omega⟩
    · exact ⟨1, by omega, by omega, by omega⟩
  obtain ⟨k, hk0, hk', hsums⟩ := hdiffer
  rw [hsums] at hends
  exact endAround_ne_of_near hpos hk0 hk' hends.symm

/-- The transport checksum that a rewrite leaves in a frame that has one. -/
theorem read_rewritten {buf : List UInt8} {l : FrameLayout} (h : parseLayout buf = some l)
    (hk : l.l3Kind = .ipv4) (hstop : l.l4 < l.stop) {off : Nat}
    (hoff : csumOff l.l4Kind = some off) (a : Ipv4Addr) :
    be16Field.read (applyHostMapFrame (oneHost (be32 buf (l.l3 + 12)) a) ∅ 0 false buf)
        (l.l4 + off) =
      l4Word (readdressed (oneHost (be32 buf (l.l3 + 12)) a) l buf) l off := by
  have hl := parseLayout_packet (parseLayout_readdressed (oneHost (be32 buf (l.l3 + 12)) a) h hk) hk
  have hagree := rewriteIpv4_agree (oneHost (be32 buf (l.l3 + 12)) a) ∅ 0 false l buf
  have hmapped : isMapped (oneHost (be32 buf (l.l3 + 12)) a) l buf = true := by
    unfold isMapped
    rw [lookup_oneHost, if_pos rfl]
    rfl
  rw [if_pos hmapped, recomputeChecksums_eq hl fun _ => hstop] at hagree
  rw [applyHostMapFrame_ipv4 h hk, ext_byte hagree.1 fun i _ => hagree.2 i (.inr rfl)]
  exact (bothSummed_words hl).2 off hoff

/-- **Rewriting touches only the addresses exactly when the transport header is there whose checksum
is written.** In a later fragment, and in a packet that ends before its checksum, there is none, and
what stands in its place is payload or trailer. -/
theorem touches_only_iff {buf : List UInt8} {l : FrameLayout} (h : parseLayout buf = some l) :
    TouchesOnlyAddresses buf l ↔ ChecksumsOwnHeader buf l := by
  constructor
  · intro htouches hkind hstop
    by_contra hcarried
    have hk := ipv4_of_l4Kind h hkind
    have hl := parseLayout_packet h hk
    obtain ⟨off, hoff⟩ : ∃ off, csumOff l.l4Kind = some off := by
      cases hkind' : l.l4Kind with
      | tcp => exact ⟨16, rfl⟩
      | udp => exact ⟨6, rfl⟩
      | other => exact absurd hkind' hkind
    have hihl := hl.ihl
    have hl4 := hl.l4
    have hheader := hl.header_le
    obtain ⟨hfits, -⟩ := csumOff_fits hl hoff
    -- the field of the checksum is none of the addresses, so it is the same under every map
    have hkept : ∀ a, be16Field.read
        (applyHostMapFrame (oneHost (be32 buf (l.l3 + 12)) a) ∅ 0 false buf) (l.l4 + off) =
          be16Field.read buf (l.l4 + off) := by
      intro a
      obtain ⟨hagree, -⟩ := htouches (oneHost (be32 buf (l.l3 + 12)) a) ∅ 0 false
      have hwidth : l.l4 + off + be16Field.width ≤ buf.length := by
        show l.l4 + off + 2 ≤ _
        omega
      refine be16Field.read_congr (by rw [hagree.1]; exact hwidth) hwidth fun i hi _ =>
        hagree.2 i ?_
      rintro (hfront | ⟨-, -, hfront⟩ | ⟨harp, -⟩ | ⟨hin, -⟩)
      · omega
      · omega
      · rw [hk] at harp
        cases harp
      · exact hcarried hin
    refine l4Word_readdressed_ne h hk hoff ?_
    rw [← read_rewritten h hk hstop hoff, ← read_rewritten h hk hstop hoff, hkept, hkept]
  · exact touches_only_of_own h

theorem touches_only_onesFrame : TouchesOnlyAddresses onesFrame onesLayout :=
  (@touches_only_iff onesFrame onesLayout (by decide +kernel)).mpr
    fun _ _ => ⟨by decide +kernel, by decide +kernel⟩

/-- The datagram as a fragment from offset 185 on: its transport header is payload. -/
def laterFragment : List UInt8 := write onesFrame 20 [0x00, 0xb9]

/-- The datagram with a total length of 24: its last ten bytes are padding. -/
def paddedFrame : List UInt8 := write onesFrame 16 [0, 24]

/-- A new source address rewrites payload of the one, and padding of the other. -/
theorem payload_and_padding_rewritten :
    (parseLayout laterFragment = some onesLayout ∧
        ¬ TouchesOnlyAddresses laterFragment onesLayout) ∧
      parseLayout paddedFrame = some ⟨14, .ipv4, 20, 34, .udp, 38, 38⟩ ∧
        ¬ TouchesOnlyAddresses paddedFrame ⟨14, .ipv4, 20, 34, .udp, 38, 38⟩ := by
  refine ⟨⟨by decide +kernel, fun htouches => ?_⟩, by decide +kernel, fun htouches => ?_⟩
  · obtain ⟨-, -, hpayload⟩ := htouches (oneHost 0x0a140a05 0x0a630001) ∅ 0 false
    exact absurd (hpayload rfl (by decide +kernel) 40 (by decide)) (by decide +kernel)
  · obtain ⟨-, hpadding, -⟩ := htouches (oneHost 0x0a140a05 0x0a630001) ∅ 0 false
    exact absurd (hpadding 40 (by decide)) (by decide +kernel)

end TurboLaser
