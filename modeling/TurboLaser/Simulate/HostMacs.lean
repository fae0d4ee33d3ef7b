import TurboLaser.Proto.LeakFilter
import TurboLaser.Proto.MacRange
import TurboLaser.Simulate.StableIdentity

/-!
# Hosts and their hardware addresses under the random remap

`remapCapture` gives every host the natural MAC of its new address: a vendor prefix that the address
picks, and three bytes of a hash. No loop looks for collisions, as the reconcile does.

The prefix is one of seven and is picked by the address modulo seven, so two hosts with one prefix
have one MAC as soon as 24 bits of two hashes agree. The seed enters the hash, and it enters the new
network too; which hosts collide is therefore an arithmetic question about the seed and the new
addresses.

- `hostMac_eq_iff`: two addresses have one natural MAC exactly when they pick one prefix and have
  the same 24 bits in the middle of their hashes;
- `sender_of_survivor`: a surviving frame is sent with the natural MAC of its new source;
- `hosts_distinct_iff`: **hosts, and the senders of surviving frames, have MACs of their own exactly
  when no two of the new addresses collide**;
- `hosts_share_mac`: two hosts of one capture that collide under a seed.
-/

namespace TurboLaser

open Lib

/-! ## Natural MACs -/

/-- The 24 bits of the hash of an address that go into its MAC. -/
def hashLow (seed : UInt64) (ip : Ipv4Addr) : Nat :=
  (splitmix64 (seed ^^^ (UInt64.ofNat ip.toNat * 0x9E3779B97F4A7C15))).toNat / 65536 % 16777216

/-- Two addresses pick one vendor prefix, and their hashes agree on the 24 bits. -/
def Collide (seed : UInt64) (x y : Ipv4Addr) : Prop :=
  x.toNat % 7 = y.toNat % 7 ∧ hashLow seed x = hashLow seed y

instance (seed : UInt64) (x y : Ipv4Addr) : Decidable (Collide seed x y) :=
  inferInstanceAs (Decidable (_ ∧ _))

theorem itPoolOui_eq_iff {m n : Nat} : itPoolOui m = itPoolOui n ↔ m % 7 = n % 7 := by
  have hpool : ∀ i < 7, ∀ j < 7, itPool.getD i ⟨0, 0, 0⟩ = itPool.getD j ⟨0, 0, 0⟩ → i = j := by
    decide
  constructor
  · exact hpool _ (Nat.mod_lt _ (by decide)) _ (Nat.mod_lt _ (by decide))
  · intro h
    exact congrArg (fun i => itPool.getD i ⟨0, 0, 0⟩) h

/-- **When two addresses have one natural MAC.** -/
theorem hostMac_eq_iff {seed : UInt64} {x y : Ipv4Addr} :
    hostMac seed x = hostMac seed y ↔ Collide seed x y := by
  have hbytes : ∀ h h' : UInt64,
      (beByte h 3 = beByte h' 3 ∧ beByte h 4 = beByte h' 4 ∧ beByte h 5 = beByte h' 5) ↔
        h.toNat / 65536 % 16777216 = h'.toNat / 65536 % 16777216 := by
    intro h h'
    simp only [beByte, ← UInt8.toNat_inj, UInt8.toNat_ofNat']
    omega
  unfold hostMac hostMacSalted Collide hashLow
  rw [← itPoolOui_eq_iff, ← hbytes, UInt64.add_zero]
  unfold withOui stableMac
  simp only [Mac.mk.injEq]
  generalize itPoolOui x.toNat = o
  generalize itPoolOui y.toNat = o'
  obtain ⟨o0, o1, o2⟩ := o
  obtain ⟨o0', o1', o2'⟩ := o'
  simp only [Oui.mk.injEq]
  constructor
  · rintro ⟨h0, h1, h2, h⟩
    exact ⟨⟨h0, h1, h2⟩, h⟩
  · rintro ⟨⟨h0, h1, h2⟩, h⟩
    exact ⟨h0, h1, h2, h⟩

/-! ## Hosts

A MAC is a prefix that the new address picks, and 24 bits of a hash of it. Two addresses collide
when both agree, and then the hosts share a MAC; the same goes for the senders of the frames that
leave, as each frame is sent with the MAC of its new source.
-/

/-- Two different hosts of the map get different MACs. -/
def MacsApart (map : HostMap) (seed : UInt64) : Prop :=
  ∀ a ∈ map, ∀ b ∈ map, a ≠ b →
    macFor ∅ seed (image map a) ≠ macFor ∅ seed (image map b)

/-- Frames from different addresses have different Ethernet sources. -/
def SendersApart (out : Capture) : Prop :=
  ∀ q ∈ out.packets, ∀ q' ∈ out.packets, ∀ x x', frameSender q.data = some x →
    frameSender q'.data = some x' → x ≠ x' → macAt q.data 6 ≠ macAt q'.data 6

/-- Hosts that are mapped to different addresses do not collide. -/
def NoCollision (map : HostMap) (seed : UInt64) : Prop :=
  ∀ a ∈ map, ∀ b ∈ map, image map a ≠ image map b → ¬ Collide seed (image map a) (image map b)

theorem macsApart_iff {map : HostMap} {seed : UInt64}
    (hinj : ∀ a ∈ map, ∀ b ∈ map, image map a = image map b → a = b) :
    MacsApart map seed ↔ NoCollision map seed := by
  constructor
  · intro hapart a ha b hb hne hcollide
    refine hapart a ha b hb (fun heq => hne (congrArg (image map) heq)) ?_
    exact hostMac_eq_iff.mpr hcollide
  · intro hnone a ha b hb hne hsame
    exact hnone a ha b hb (fun heq => hne (hinj a ha b hb heq)) (hostMac_eq_iff.mp hsame)

/-- **A surviving frame is sent with the natural MAC of its new source**, the image of a host. -/
theorem sender_of_survivor {cap : Capture} {hints : List Ipv4Net} {rng : Rng} {seed : UInt64}
    {q : OwnedPacket} {x : Ipv4Addr}
    (hq : q ∈ (rewriteAndFilter cap (remapMap cap hints rng) ∅ seed true).packets)
    (hx : frameSender q.data = some x) :
    ∃ a ∈ remapMap cap hints rng, x = image (remapMap cap hints rng) a ∧
      macAt q.data 6 = hostMac seed x := by
  rw [rewriteAndFilter_packets] at hq
  obtain ⟨p, hp, rfl⟩ := List.mem_map.mp hq
  obtain ⟨hp, hsurvives⟩ := List.mem_filter.mp hp
  unfold survives at hsurvives
  rw [Bool.and_eq_true] at hsurvives
  obtain ⟨srcOff, dstOff, hoffs, -⟩ := addrs_of_passesGuard hsurvives.1
  have hsender : frameSender p.data = some (be32 p.data srcOff) := by
    rw [frameSender, hoffs]
    rfl
  have hkeys := (covers_remapMap cap hints rng).remappable
  have ha : be32 p.data srcOff ∈ remapMap cap hints rng :=
    mem_remapMap.mpr (sender_mem_captureHosts hp hkeys hsurvives.1 hsender)
  obtain ⟨hsent, hmac, -⟩ :=
    @sentWith_of_mapped _ ∅ seed _ _ _ hsender (lookup_eq_image ha)
  obtain rfl : image (remapMap cap hints rng) (be32 p.data srcOff) = x :=
    Option.some.inj (hsent.symm.trans hx)
  exact ⟨_, ha, rfl, hmac⟩

theorem sendersApart_of_macs {cap : Capture} {hints : List Ipv4Net} {rng : Rng} {seed : UInt64}
    (h : NoCollision (remapMap cap hints rng) seed) :
    SendersApart (rewriteAndFilter cap (remapMap cap hints rng) ∅ seed true) := by
  intro q hq q' hq' x x' hx hx' hne hsame
  obtain ⟨a, ha, rfl, hmac⟩ := sender_of_survivor hq hx
  obtain ⟨b, hb, rfl, hmac'⟩ := sender_of_survivor hq' hx'
  rw [hmac, hmac'] at hsame
  exact h a ha b hb hne (hostMac_eq_iff.mp hsame)

/-- **Hosts and senders have MACs of their own exactly when no two new addresses collide.** The
remap is taken to be injective on the hosts, as it is wherever it keeps the topology; whether two
addresses collide is arithmetic on them and the seed. -/
theorem hosts_distinct_iff (seedFrom : UInt64 → Rng) (cap : Capture) (hints : List Ipv4Net)
    (seed : UInt64)
    (hinj : ∀ a ∈ remapMap cap hints (seedFrom seed), ∀ b ∈ remapMap cap hints (seedFrom seed),
      image (remapMap cap hints (seedFrom seed)) a =
        image (remapMap cap hints (seedFrom seed)) b → a = b) :
    (MacsApart (remapMap cap hints (seedFrom seed)) seed ∧
        SendersApart (remapCapture seedFrom cap hints seed true).1) ↔
      NoCollision (remapMap cap hints (seedFrom seed)) seed := by
  constructor
  · rintro ⟨hmacs, -⟩
    exact (macsApart_iff hinj).mp hmacs
  · intro hnone
    exact ⟨(macsApart_iff hinj).mpr hnone, sendersApart_of_macs hnone⟩

/-- Two hosts in 192.168.10.0/24 that write to each other. -/
def pairCapture : Capture :=
  ⟨[⟨0, 44, write onesFrame 26 [192, 168, 10, 107, 192, 168, 10, 219]⟩,
    ⟨1, 44, write onesFrame 26 [192, 168, 10, 219, 192, 168, 10, 107]⟩]⟩

/-- The generator of seed 1501, as far as one group asks it: its first draw below `2 ^ 16`
is 31644, the network 10.123.156.0/24. -/
def pairRng : Rng := ⟨fun _ => 31644, 0⟩

/-- The map it gives the pair. -/
def pairMap : HostMap := remapMap pairCapture [] pairRng

theorem pairMap_injective :
    ∀ a ∈ pairMap, ∀ b ∈ pairMap, image pairMap a = image pairMap b → a = b := by
  show ∀ a ∈ pairMap.keys, ∀ b ∈ pairMap.keys, image pairMap a = image pairMap b → a = b
  decide +kernel

theorem hosts_distinct_pair : MacsApart pairMap 0 :=
  ((hosts_distinct_iff (fun _ => pairRng) pairCapture [] 0 pairMap_injective).mpr (by
    show ∀ a ∈ pairMap.keys, ∀ b ∈ pairMap.keys, image pairMap a ≠ image pairMap b →
      ¬ Collide 0 (image pairMap a) (image pairMap b)
    decide +kernel)).1

/-- The frames of the pair behind the remap. -/
def pairSent : Capture := (remapCapture (fun _ => pairRng) pairCapture [] 1501 true).1

/-- Under seed 1501 both hosts get 00:14:22:7d:2a:ab, and both frames survive with it. -/
theorem hosts_share_mac :
    (∀ a ∈ pairMap, ∀ b ∈ pairMap, image pairMap a = image pairMap b → a = b) ∧
      ¬ MacsApart pairMap 1501 ∧ ¬ SendersApart pairSent := by
  refine ⟨pairMap_injective, fun hapart => ?_, fun hapart => ?_⟩
  · have hkey : ∀ a ∈ pairMap.keys, a ∈ pairMap := fun _ ha => ha
    have hfirst : (0xc0a80a6b : Ipv4Addr) ∈ pairMap.keys := by decide +kernel
    have hsecond : (0xc0a80adb : Ipv4Addr) ∈ pairMap.keys := by decide +kernel
    exact hapart _ (hkey _ hfirst) _ (hkey _ hsecond) (by decide) (by decide +kernel)
  · have hall : ∃ q ∈ pairSent.packets, ∃ q' ∈ pairSent.packets,
        frameSender q.data = some 0x0a7b9c6b ∧ frameSender q'.data = some 0x0a7b9cdb ∧
          macAt q.data 6 = ⟨0x00, 0x14, 0x22, 0x7d, 0x2a, 0xab⟩ ∧
          macAt q'.data 6 = ⟨0x00, 0x14, 0x22, 0x7d, 0x2a, 0xab⟩ := by
      decide +kernel
    obtain ⟨q, hq, q', hq', hx, hx', hmac, hmac'⟩ := hall
    exact hapart q hq q' hq' _ _ hx hx' (by decide) (hmac.trans hmac'.symm)

end TurboLaser
