import TurboLaser.Proto.Checksums
import TurboLaser.Proto.PublicGuard

/-!
# When the public address backstop fails closed (proto/l3.rs, proto/frame.rs)

`carries_public_address` is to answer yes to every frame it cannot prove safe. A reference reader
takes a frame apart as a list of bytes: it strips any number of VLAN tags, and lists the addresses
of the packet behind them. `parse_layout` strips four tags at most, and the backstop takes what it
finds behind the fourth for a frame without an IP packet; and it takes an ARP packet that is cut off
for one without addresses.

The reference reader is written from the formats, not from the parser, and it has no bound on the
tags and no opinion on what is short: where a packet is cut off it lists the addresses whose bytes
are there. To fail closed is then a statement about the two: if the backstop says no, the reader
finds nothing routable. That fails in the two cases above, and in no other, which is the theorem.
The frames with few tags are handled by one lemma, `skipVlan_of_few`, that the parser ends where the
reader does; from there on both look at the same bytes at the same offsets (`FoundAt`).

- `carried`: the addresses the reference reader finds, in whole packets or in packets cut off too;
- `carriesPublicAddress_closed_iff`: **the answer no is safe exactly if** a frame has at most four
  tags, and is no ARP packet cut off, or carries nothing routable at all.
-/

namespace TurboLaser

open Lib

/-! ## The reference reader -/

/-- A frame without its tags: how many there were, the ethertype behind them, and the packet. -/
structure Stripped where
  tags : Nat
  ethertype : Nat
  packet : List UInt8
deriving DecidableEq

/-- Strip any number of 802.1Q and 802.1ad tags, from the ethertype on. -/
def stripTags : List UInt8 → Option Stripped
  | hi :: lo :: rest =>
    if hi.toNat * 256 + lo.toNat = 0x8100 ∨ hi.toNat * 256 + lo.toNat = 0x88a8 then
      match rest with
      | _ :: _ :: inner => (stripTags inner).map fun s => { s with tags := s.tags + 1 }
      | _ => none
    else some ⟨0, hi.toNat * 256 + lo.toNat, rest⟩
  | _ => none

/-- The ethertype stands behind the two hardware addresses. -/
def stripped (buf : List UInt8) : Option Stripped := stripTags (buf.drop 12)

/-- The number of tags of a frame. -/
def tagCount (buf : List UInt8) : Nat := ((stripped buf).map Stripped.tags).getD 0

/-- An address that a packet carries. -/
inductive CarriedAddr where
  | v4 (a : Ipv4Addr)
  | v6 (octets : List UInt8)
deriving DecidableEq

/-- The networks without public unicast addresses: this network, the private ones, loopback, link
local; multicast and all behind it. -/
def specialNets : List Ipv4Net :=
  [⟨ipv4 0 0 0 0, 8, by decide⟩, ⟨ipv4 10 0 0 0, 8, by decide⟩, ⟨ipv4 127 0 0 0, 8, by decide⟩,
    ⟨ipv4 169 254 0 0, 16, by decide⟩, ⟨ipv4 172 16 0 0, 12, by decide⟩,
    ⟨ipv4 192 168 0 0, 16, by decide⟩, ⟨ipv4 224 0 0 0, 3, by decide⟩]

/-- An IPv4 address is routable if it is public unicast; an IPv6 address if it is neither in
fe80::/10 nor in ff00::/8, nor unspecified. -/
def CarriedAddr.routable : CarriedAddr → Bool
  | .v4 a => specialNets.all fun net => !net.contains a
  | .v6 octets =>
    !(decide (byte octets 0 = 0xfe) && decide (byte octets 1 &&& 0xc0 = 0x80)) &&
      !decide (byte octets 0 = 0xff) && !(octets.all fun x => decide (x = 0))

/-- An IPv4 address of a packet, as far as the packet goes. -/
def v4At (packet : List UInt8) (o : Nat) : List CarriedAddr :=
  if o + 4 ≤ packet.length then [.v4 (be32 packet o)] else []

/-- An IPv6 address. -/
def v6At (packet : List UInt8) (o : Nat) : List CarriedAddr :=
  if o + 16 ≤ packet.length then [.v6 (slice packet o (o + 16))] else []

/-- ARP for IPv4 over Ethernet, by its first eight bytes. -/
def speaksArpIpv4 (packet : List UInt8) : Bool :=
  decide (be16 packet 0 = 1) && decide (be16 packet 2 = 0x0800) && decide (byte packet 4 = 6) &&
    decide (byte packet 5 = 4)

/-- The addresses of a packet. A reader may insist on whole headers of the right version, or take
what there is of a packet that is cut off. -/
def carriedBy (cut : Bool) (s : Stripped) : List CarriedAddr :=
  if s.ethertype = 0x0800 then
    if cut || (decide (20 ≤ s.packet.length) && decide ((byte s.packet 0).toNat / 16 = 4)) then
      v4At s.packet 12 ++ v4At s.packet 16
    else []
  else if s.ethertype = 0x86dd then
    if cut || (decide (40 ≤ s.packet.length) && decide ((byte s.packet 0).toNat / 16 = 6)) then
      v6At s.packet 8 ++ v6At s.packet 24
    else []
  else if s.ethertype = 0x0806 then
    if speaksArpIpv4 s.packet && (cut || decide (28 ≤ s.packet.length)) then
      v4At s.packet 14 ++ v4At s.packet 24
    else []
  else []

/-- The addresses of a frame. -/
def carried (cut : Bool) (buf : List UInt8) : List CarriedAddr :=
  match stripped buf with
  | none => []
  | some s => carriedBy cut s

/-- **No routable address leaves with the frame.** -/
def NothingRoutable (cut : Bool) (buf : List UInt8) : Prop :=
  ∀ a ∈ carried cut buf, a.routable = false

instance (cut : Bool) (buf : List UInt8) : Decidable (NothingRoutable cut buf) :=
  inferInstanceAs (Decidable (∀ a ∈ carried cut buf, _))

/-- An ARP packet of less than its 28 bytes. -/
def CutArp (buf : List UInt8) : Prop :=
  ∃ s ∈ stripped buf, s.ethertype = 0x0806 ∧ s.packet.length < 28

/-! ## Public addresses -/

/-- A shift to the right, as numbers. -/
theorem shiftRight_eq_iff {a b c : UInt32} (hb : b.toNat < 32) :
    a >>> b = c ↔ a.toNat / 2 ^ b.toNat = c.toNat := by
  rw [← UInt32.toNat_inj, UInt32.toNat_shiftRight, Nat.mod_eq_of_lt hb, Nat.shiftRight_eq_div_pow]

/-- The addresses of a network, as numbers. -/
theorem contains_eq_false_iff {net : Ipv4Net} {a : Ipv4Addr} :
    (!net.contains a) = true ↔
      a.toNat < net.network.toNat ∨ net.network.toNat + net.size ≤ a.toNat := by
  rw [Bool.not_eq_true', ← Bool.not_eq_true, Ipv4Net.contains_iff]
  omega

/-- The predicate of the source is that of the reference. -/
theorem routable_v4 (a : Ipv4Addr) : (CarriedAddr.v4 a).routable = L3.isPublicUnicast a := by
  have hlt : a.toNat < 4294967296 := a.toNat_lt
  have hspecial : (CarriedAddr.v4 a).routable = true ↔
      16777216 ≤ a.toNat ∧ (a.toNat < 167772160 ∨ 184549376 ≤ a.toNat) ∧
      (a.toNat < 2130706432 ∨ 2147483648 ≤ a.toNat) ∧
      (a.toNat < 2851995648 ∨ 2852061184 ≤ a.toNat) ∧
      (a.toNat < 2886729728 ∨ 2887778304 ≤ a.toNat) ∧
      (a.toNat < 3232235520 ∨ 3232301056 ≤ a.toNat) ∧ a.toNat < 3758096384 := by
    -- the networks as intervals of numbers
    simp only [CarriedAddr.routable, specialNets, List.all_cons, List.all_nil, Bool.and_true,
      Bool.and_eq_true, contains_eq_false_iff]
    change (a.toNat < 0 ∨ 16777216 ≤ a.toNat) ∧ (a.toNat < 167772160 ∨ 184549376 ≤ a.toNat) ∧
      (a.toNat < 2130706432 ∨ 2147483648 ≤ a.toNat) ∧
      (a.toNat < 2851995648 ∨ 2852061184 ≤ a.toNat) ∧
      (a.toNat < 2886729728 ∨ 2887778304 ≤ a.toNat) ∧
      (a.toNat < 3232235520 ∨ 3232301056 ≤ a.toNat) ∧
      (a.toNat < 3758096384 ∨ 4294967296 ≤ a.toNat) ↔ _
    omega
  have hsource : L3.isPublicUnicast a = true ↔
      ((((¬ a.toNat / 16777216 = 0 ∧ ¬ a.toNat / 16777216 = 127) ∧ a.toNat / 16777216 < 224) ∧
        (¬ a.toNat / 16777216 = 10 ∧ ¬ a.toNat / 1048576 = 2753) ∧ ¬ a.toNat / 65536 = 49320) ∧
        ¬ a.toNat / 16777216 = 127) ∧ ¬ a.toNat / 65536 = 43518 := by
    -- the masks of the source as divisions; what is left is arithmetic
    have hunicast : a >>> 24 < 224 ↔ a.toNat / 16777216 < 224 := by
      rw [UInt32.lt_iff_toNat_lt, UInt32.toNat_shiftRight, Nat.shiftRight_eq_div_pow]
      rfl
    simp only [L3.isPublicUnicast, isUnicast, isPrivate, isLoopback, isLinkLocal,
      Bool.and_eq_true, Bool.not_eq_true', bne_iff_ne, ne_eq, decide_eq_true_iff,
      Bool.or_eq_false_iff, decide_eq_false_iff_not, hunicast]
    simp only [shiftRight_eq_iff (show (24 : UInt32).toNat < 32 by decide),
      shiftRight_eq_iff (show (20 : UInt32).toNat < 32 by decide),
      shiftRight_eq_iff (show (16 : UInt32).toNat < 32 by decide)]
    rfl
  rw [Bool.eq_iff_iff, hspecial, hsource]
  omega

/-! ## Tags

The reference reader strips any number of tags, and the parser at most four. Up to four they arrive
at the same place. With more, the parser stops in front of a tag and sees neither IPv4 nor ARP nor
IPv6.
-/

section Tags

variable {buf : List UInt8}

theorem drop_eq_bytes {i : Nat} (h : i + 2 ≤ buf.length) :
    buf.drop i = byte buf i :: byte buf (i + 1) :: buf.drop (i + 2) := by
  have hget : ∀ j, j < buf.length → byte buf j = buf.getD j 0 := fun _ _ => rfl
  rw [List.drop_eq_getElem_cons (by omega), List.drop_eq_getElem_cons (by omega), byte, byte,
    List.getD_eq_getElem _ _ (by omega), List.getD_eq_getElem _ _ (by omega)]

/-- One turn of the reference reader. -/
theorem stripTags_drop {i : Nat} (h : i + 2 ≤ buf.length) :
    stripTags (buf.drop i) =
      if be16 buf i = 0x8100 ∨ be16 buf i = 0x88a8 then
        (stripTags (buf.drop (i + 4))).map fun s => { s with tags := s.tags + 1 }
      else some ⟨0, be16 buf i, buf.drop (i + 2)⟩ := by
  rw [drop_eq_bytes h]
  by_cases hlen : i + 4 ≤ buf.length
  · rw [drop_eq_bytes (i := i + 2) hlen]
    rfl
  · -- a tag that is cut off has nothing behind it
    have hshort : (buf.drop (i + 2)).length < 2 := by
      rw [List.length_drop]
      omega
    rw [List.drop_eq_nil_of_le (i := i + 4) (by omega)]
    match buf.drop (i + 2), hshort with
    | [], _ => rfl
    | [_], _ => rfl

theorem length_of_stripTags {i : Nat} {s : Stripped} (h : stripTags (buf.drop i) = some s) :
    i + 2 ≤ buf.length := by
  by_contra hshort
  have hlen : (buf.drop i).length < 2 := by
    rw [List.length_drop]
    omega
  revert h
  match buf.drop i, hlen with
  | [], _ => nofun
  | [_], _ => nofun

/-- **With few tags the parser finds what the reference reader finds.** -/
theorem skipVlan_of_few {guard i : Nat} {s : Stripped} (h : stripTags (buf.drop i) = some s)
    (hfew : s.tags ≤ guard) :
    skipVlan buf guard (i + 2) (be16 buf i) = some (i + 2 + 4 * s.tags, s.ethertype) ∧
      be16 buf (i + 4 * s.tags) = s.ethertype ∧ i + 2 + 4 * s.tags ≤ buf.length ∧
      s.packet = buf.drop (i + 2 + 4 * s.tags) := by
  have hlen := length_of_stripTags h
  induction guard generalizing i s with
  | zero =>
    rw [stripTags_drop hlen] at h
    split at h
    · obtain ⟨s', -, rfl⟩ := Option.map_eq_some_iff.mp h
      exact absurd hfew (Nat.not_succ_le_zero _)
    · cases h
      exact ⟨rfl, rfl, hlen, rfl⟩
  | succ guard ih =>
    rw [stripTags_drop hlen] at h
    split at h
    · next htag =>
      -- both readers take the tag, and go on behind it
      obtain ⟨s', hs', rfl⟩ := Option.map_eq_some_iff.mp h
      have hlen' := length_of_stripTags hs'
      obtain ⟨hskip, hether, hle, hpacket⟩ := ih hs' (Nat.le_of_succ_le_succ hfew) hlen'
      have hnext : i + 2 + 4 * (s'.tags + 1) = i + 4 + 2 + 4 * s'.tags := by omega
      rw [skipVlan, if_pos htag, if_neg (by omega), hnext]
      refine ⟨hskip, ?_, hle, hpacket⟩
      rw [show i + 4 * (s'.tags + 1) = i + 4 + 4 * s'.tags by omega]
      exact hether
    · next htag =>
      cases h
      rw [skipVlan, if_neg htag]
      exact ⟨rfl, rfl, hlen, rfl⟩

/-- With more tags than it strips, it stops in front of one. -/
theorem skipVlan_of_many {guard i : Nat} {s : Stripped} (h : stripTags (buf.drop i) = some s)
    (hmany : guard < s.tags) :
    skipVlan buf guard (i + 2) (be16 buf i) = some (i + 2 + 4 * guard, be16 buf (i + 4 * guard)) ∧
      (be16 buf (i + 4 * guard) = 0x8100 ∨ be16 buf (i + 4 * guard) = 0x88a8) := by
  have hlen := length_of_stripTags h
  induction guard generalizing i s with
  | zero =>
    rw [stripTags_drop hlen] at h
    split at h
    -- the guard has run out in front of a tag
    · next htag => exact ⟨rfl, htag⟩
    · cases h
      exact absurd hmany (Nat.not_lt_zero _)
  | succ guard ih =>
    rw [stripTags_drop hlen] at h
    split at h
    · next htag =>
      obtain ⟨s', hs', rfl⟩ := Option.map_eq_some_iff.mp h
      have hlen' := length_of_stripTags hs'
      obtain ⟨hskip, htag'⟩ := ih hs' (Nat.lt_of_succ_lt_succ hmany) hlen'
      rw [skipVlan, if_pos htag, if_neg (by omega),
        show i + 2 + 4 * (guard + 1) = i + 4 + 2 + 4 * guard by omega,
        show i + 4 * (guard + 1) = i + 4 + 4 * guard by omega]
      exact ⟨hskip, htag'⟩
    · cases h
      exact absurd hmany (Nat.not_lt_zero _)

end Tags

/-! ## Frames with at most four tags

Behind at most four tags the parser finds the packet, and the answer is about its addresses. That
the answer no is safe is proved by what stands there: an IPv4 packet, an IPv6 packet, an ARP packet
that is whole, or something else. ARP that is cut off is the exception.
-/

/-- A packet behind at most four tags, where the parser finds it. -/
structure FoundAt (buf : List UInt8) (s : Stripped) (l3 : Nat) : Prop where
  two_le : 2 ≤ l3
  le_length : l3 ≤ buf.length
  ethertype : be16 buf (l3 - 2) = s.ethertype
  packet : s.packet = buf.drop l3
  layout : parseLayout buf =
    if s.ethertype = 0x0800 then parseIpv4 buf l3
    else some { l3, l3Kind := .other, ihl := 0, l4 := l3, l4Kind := .other, payload := l3,
                stop := buf.length }

theorem foundAt_of_few {buf : List UInt8} {s : Stripped} (h : stripped buf = some s)
    (hfew : s.tags ≤ 4) : FoundAt buf s (14 + 4 * s.tags) := by
  have hlen := length_of_stripTags h
  obtain ⟨hskip, hether, hle, hpacket⟩ := skipVlan_of_few h hfew
  refine ⟨by omega, by omega, ?_, hpacket, ?_⟩
  · rw [← hether]
    exact congrArg (be16 buf) (by omega)
  · unfold parseLayout
    rw [if_neg (by omega), hskip]

section Found

variable {buf : List UInt8} {s : Stripped} {l3 : Nat} (h : FoundAt buf s l3)

include h

theorem FoundAt.be32_packet (o : Nat) : be32 s.packet o = be32 buf (l3 + o) := by
  rw [h.packet]
  simp only [be32, byte_drop, Nat.add_assoc]

theorem FoundAt.be16_packet (o : Nat) : be16 s.packet o = be16 buf (l3 + o) := by
  rw [h.packet]
  simp only [be16, byte_drop, Nat.add_assoc]

theorem FoundAt.byte_packet (o : Nat) : byte s.packet o = byte buf (l3 + o) := by
  rw [h.packet, byte_drop]

theorem FoundAt.length_packet : s.packet.length = buf.length - l3 := by
  rw [h.packet, List.length_drop]

/-- An IPv4 address of the packet is one the source looks at. -/
theorem FoundAt.routable_v4At {o : Nat} {a : CarriedAddr} (ha : a ∈ v4At s.packet o) :
    a.routable = L3.isPublicUnicast (be32 buf (l3 + o)) := by
  unfold v4At at ha
  split at ha
  · rw [List.mem_singleton.mp ha, routable_v4, h.be32_packet]
  · cases ha

/-- So is an IPv6 address. -/
theorem FoundAt.routable_v6At {o : Nat} {a : CarriedAddr} (ha : a ∈ v6At s.packet o) :
    a.routable = routable buf (l3 + o) := by
  unfold v6At at ha
  split at ha
  · next hfits =>
    have hslice : slice s.packet o (o + 16) = slice buf (l3 + o) (l3 + o + 16) := by
      rw [slice, slice, h.packet, List.take_drop, List.drop_drop, Nat.add_assoc]
    have hzero : byte (slice buf (l3 + o) (l3 + o + 16)) 0 = byte buf (l3 + o) :=
      byte_slice (by omega)
    have hone : byte (slice buf (l3 + o) (l3 + o + 16)) 1 = byte buf (l3 + o + 1) :=
      byte_slice (by omega)
    rw [List.mem_singleton.mp ha, CarriedAddr.routable, hslice, hzero, hone]
    rfl
  · cases ha

/-- ARP for IPv4 over Ethernet is what the source takes for it, if the packet is whole. -/
theorem FoundAt.isArpIpv4_eq (harp : s.ethertype = 0x0806) :
    isArpIpv4 buf l3 = (speaksArpIpv4 s.packet && decide (28 ≤ s.packet.length)) := by
  have htwo := h.two_le
  have hwhole : decide (l3 + 28 ≤ buf.length) = decide (28 ≤ s.packet.length) := by
    rw [h.length_packet]
    exact decide_eq_decide.mpr (by omega)
  unfold isArpIpv4 speaksArpIpv4
  rw [h.ethertype, harp, hwhole, decide_eq_true htwo, decide_eq_true (rfl : (0x0806 : Nat) = 0x0806),
    h.be16_packet, h.be16_packet, h.byte_packet, h.byte_packet]
  simp only [Nat.add_zero, Bool.true_and, Bool.and_true]
  cases decide (28 ≤ s.packet.length) with
  | true => simp only [Bool.true_and, Bool.and_true, Bool.and_assoc]
  | false => simp only [Bool.false_and, Bool.and_false]

/-- The answer no about an IPv4 packet is safe. -/
theorem FoundAt.safe_ipv4 (hether : s.ethertype = 0x0800)
    (hno : carriesPublicAddress buf = false) (cut : Bool) :
    ∀ a ∈ carriedBy cut s, a.routable = false := by
  have hparse := h.layout
  rw [if_pos hether] at hparse
  unfold carriesPublicAddress at hno
  rw [hparse] at hno
  cases hlayout : parseIpv4 buf l3 with
  | none =>
    -- what the parser refuses gets the answer yes
    rw [hlayout] at hno
    cases hno
  | some l =>
    obtain ⟨hl3, hspec⟩ := parseIpv4_spec hlayout
    rw [hlayout] at hno
    dsimp only at hno
    rw [hspec.kind, hl3] at hno
    dsimp only at hno
    split at hno
    · cases hno
    · obtain ⟨hsrc, hdst⟩ := Bool.or_eq_false_iff.mp hno
      intro a ha
      unfold carriedBy at ha
      rw [if_pos hether] at ha
      split at ha
      · rcases List.mem_append.mp ha with ha | ha
        · rw [h.routable_v4At ha, hsrc]
        · rw [h.routable_v4At ha, hdst]
      · cases ha

/-- The answer about any other packet. -/
theorem FoundAt.carries_other (hether : s.ethertype ≠ 0x0800) :
    carriesPublicAddress buf =
      if s.ethertype = 0x86dd then ipv6CarriesRoutable buf l3
      else if s.ethertype = 0x0806 then
        if isArpIpv4 buf l3 = true then
          L3.isPublicUnicast (be32 buf (l3 + 14)) || L3.isPublicUnicast (be32 buf (l3 + 24))
        else false
      else false := by
  have htwo := h.two_le
  have hparse := h.layout
  rw [if_neg hether] at hparse
  unfold carriesPublicAddress
  rw [hparse]
  dsimp only
  rw [if_neg (by omega), h.ethertype]

/-- The answer no is safe, but for ARP packets that are cut off. -/
theorem FoundAt.safe (hno : carriesPublicAddress buf = false) {cut : Bool}
    (hcut : cut = true → ¬ (s.ethertype = 0x0806 ∧ s.packet.length < 28)) :
    ∀ a ∈ carriedBy cut s, a.routable = false := by
  by_cases hether : s.ethertype = 0x0800
  · exact h.safe_ipv4 hether hno cut
  · rw [h.carries_other hether] at hno
    intro a ha
    unfold carriedBy at ha
    rw [if_neg hether] at ha
    split at ha
    · next hsix =>
      rw [if_pos hsix, ipv6CarriesRoutable] at hno
      split at hno
      · cases hno
      · obtain ⟨hsrc, hdst⟩ := Bool.or_eq_false_iff.mp hno
        split at ha
        · rcases List.mem_append.mp ha with ha | ha
          · rw [h.routable_v6At ha, hsrc]
          · rw [h.routable_v6At ha, hdst]
        · cases ha
    · next hsix =>
      rw [if_neg hsix] at hno
      split at ha
      · next harp =>
        rw [if_pos harp, h.isArpIpv4_eq harp] at hno
        split at ha
        · next hreads =>
          obtain ⟨hspeaks, hwhole⟩ := Bool.and_eq_true_iff.mp hreads
          -- the source wants the whole packet, the reader only where it takes no cut ones
          have hlen : 28 ≤ s.packet.length := by
            rcases Bool.or_eq_true_iff.mp hwhole with hwhole | hwhole
            · by_contra hshort
              exact hcut hwhole ⟨harp, by omega⟩
            · exact of_decide_eq_true hwhole
          rw [if_pos (by rw [hspeaks, decide_eq_true hlen]; rfl)] at hno
          obtain ⟨hspa, htpa⟩ := Bool.or_eq_false_iff.mp hno
          rcases List.mem_append.mp ha with ha | ha
          · rw [h.routable_v4At ha, hspa]
          · rw [h.routable_v4At ha, htpa]
        · cases ha
      · cases ha

end Found

/-! ## The answer no -/

/-- With more than four tags the answer is no, whatever is behind them. -/
theorem carriesPublicAddress_of_many {buf : List UInt8} {s : Stripped}
    (h : stripped buf = some s) (hmany : 4 < s.tags) : carriesPublicAddress buf = false := by
  have hlen := length_of_stripTags h
  obtain ⟨hskip, htag⟩ := skipVlan_of_many h hmany
  unfold carriesPublicAddress parseLayout
  rw [if_neg (by omega), hskip]
  dsimp only
  rw [if_neg (by omega)]
  dsimp only
  rw [if_neg (by omega), show 12 + 2 + 4 * 4 - 2 = 12 + 4 * 4 by rfl, if_neg (by omega),
    if_neg (by omega)]

/-- **When the backstop fails closed**: its answer no is safe exactly if a frame has at most four
tags, and is no ARP packet cut off where a reader takes those too, or carries nothing routable. -/
theorem carriesPublicAddress_closed_iff (buf : List UInt8) (cut : Bool) :
    (carriesPublicAddress buf = false → NothingRoutable cut buf) ↔
      NothingRoutable cut buf ∨ (tagCount buf ≤ 4 ∧ (cut = true → ¬ CutArp buf)) := by
  unfold NothingRoutable carried tagCount CutArp
  cases hstripped : stripped buf with
  | none => exact iff_of_true (fun _ => nofun) (.inl nofun)
  | some s =>
    simp only [Option.map_some, Option.getD_some, Option.mem_some_iff, exists_eq_left']
    constructor
    · intro hsafe
      by_cases hno : carriesPublicAddress buf = false
      · exact .inl (hsafe hno)
      · refine .inr ⟨?_, fun hcut => ?_⟩
        -- the answer was yes, so there was no fifth tag and no ARP packet cut off
        · by_contra hmany
          exact hno (carriesPublicAddress_of_many hstripped (by omega))
        · rintro ⟨harp, hshort⟩
          by_cases hfew : s.tags ≤ 4
          · have hfound := foundAt_of_few hstripped hfew
            refine hno ?_
            rw [hfound.carries_other (by omega), if_neg (by omega), if_pos harp,
              hfound.isArpIpv4_eq harp, decide_eq_false (by omega), Bool.and_false]
            rfl
          · exact hno (carriesPublicAddress_of_many hstripped (by omega))
    · rintro (hnothing | ⟨hfew, hcut⟩) hno
      · exact hnothing
      · exact (foundAt_of_few hstripped hfew).safe hno hcut

/-- A frame with tags in front of an IPv4 packet from 8.8.8.8 to 10.0.0.5. -/
def taggedFrame (tags : Nat) : List UInt8 :=
  [0x52, 0x54, 0, 0, 0, 1, 0x52, 0x54, 0, 0, 0, 2] ++
    (List.replicate tags [0x81, 0x00, 0, 1]).flatten ++
    [0x08, 0x00, 0x45, 0, 0, 20, 0, 0, 0x40, 0, 0x40, 253, 0, 0, 8, 8, 8, 8, 10, 0, 0, 5]

/-- **Behind a fifth tag a public address passes.** -/
theorem carriesPublicAddress_tagged :
    carriesPublicAddress (taggedFrame 4) = true ∧ carriesPublicAddress (taggedFrame 5) = false ∧
      carried false (taggedFrame 5) =
        [.v4 (ipv4 8 8 8 8), .v4 (ipv4 10 0 0 5)] ∧
      ¬ ∀ buf, carriesPublicAddress buf = false → NothingRoutable false buf := by
  refine ⟨by decide, by decide, by decide, fun h => ?_⟩
  exact absurd (h (taggedFrame 5) (by decide)) (by decide)

end TurboLaser
