import TurboLaser.Lib.LastResort
import TurboLaser.Proto.NetAllocation
import TurboLaser.Simulate.Identity

/-!
# Zones that share no address

`fabricate` and `create_l3_zones` take the network of a new zone from `fresh_subnet`: a free network
of the default prefix in 10/8, and 10.0.0.0 when none is free. `add_subnet` refuses a network that
is listed already, by its text.

So zones can come to overlap in one way only: nothing is free, 10.0.0.0 is handed out, and it is not
listed, because what covers it has another prefix. A ledger written under another default prefix, or
by hand, can be like that.

The networks of one prefix are a `SlotFamily`, so the question is which ledgers are `Safe`: an
allocator that picks a free slot, and a certain one when there is none, keeps the slots apart
exactly on these.

- `ZonesApart`: no address is in both networks;
- `freshSubnet_cases`: what `fresh_subnet` returns, for every draw;
- `PlantOp.allocates`: fabrication and operations zones allocate, and do nothing else to the zones;
- `RoomForZones`: 10.0.0.0 is free or listed, or the cap comes before the networks run out;
- `zones_apart_iff`: **the zones stay apart over every run exactly when there is room**;
- `old_zone_overlapped`: a ledger with the zone 10.0.0.0/8, and a default prefix of 24.
-/

namespace TurboLaser

open Lib Relation

/-- No address is in both networks. -/
def ZonesApart (n n' : Ipv4Net) : Prop := ∀ ip, n.contains ip = true → n'.contains ip = false

/-- The addresses of a network, as numbers. -/
def zoneRun (n : Ipv4Net) : Nat × Nat := (n.network.toNat, n.size)

theorem zonesApart_iff {n n' : Ipv4Net} : ZonesApart n n' ↔ Apart (zoneRun n) (zoneRun n') := by
  have hpos := n.size_pos
  have hpos' := n'.size_pos
  constructor
  · intro h
    by_contra hmeet
    unfold Apart zoneRun at hmeet
    dsimp only at hmeet
    -- the later of the two network addresses is in both
    have hboth : ∃ ip, n.contains ip = true ∧ n'.contains ip = true := by
      rcases Nat.le_total n.network.toNat n'.network.toNat with hle | hle
      · exact ⟨n'.network, by rw [Ipv4Net.contains_iff]; omega, by
          rw [Ipv4Net.contains_iff]; omega⟩
      · exact ⟨n.network, by rw [Ipv4Net.contains_iff]; omega, by
          rw [Ipv4Net.contains_iff]; omega⟩
    obtain ⟨ip, hip, hip'⟩ := hboth
    rw [h ip hip] at hip'
    cases hip'
  · intro h ip hip
    rw [← Bool.not_eq_true, Ipv4Net.contains_iff]
    rw [Ipv4Net.contains_iff] at hip
    unfold Apart zoneRun at h
    dsimp only at h
    omega

instance : DecidableRel ZonesApart := fun n n' =>
  haveI : Decidable (Apart (zoneRun n) (zoneRun n')) := inferInstanceAs (Decidable (_ ∨ _))
  decidable_of_iff _ zonesApart_iff.symm

theorem ZonesApart.symm {n n' : Ipv4Net} (h : ZonesApart n n') : ZonesApart n' n :=
  zonesApart_iff.mpr (zonesApart_iff.mp h).symm

/-! ## The networks of one prefix

The default prefix divides 10/8 into networks that are pairwise apart, numbered from 10.0.0.0 on.
The test of `fresh_subnet` compares a candidate with every zone, whatever the zone's own prefix is.
So a free candidate is apart from all zones, and the one exception is the candidate that is returned
when none is free.
-/

theorem clampPrefix_ge (prefixLen : Nat) : 8 ≤ clampPrefix prefixLen := by
  unfold clampPrefix
  omega

theorem clampPrefix_le_width (prefixLen : Nat) : clampPrefix prefixLen ≤ 32 := by
  unfold clampPrefix
  omega

theorem clampPrefix_clampPrefix (prefixLen : Nat) :
    clampPrefix (clampPrefix prefixLen) = clampPrefix prefixLen := by
  unfold clampPrefix
  omega

/-- How many networks of the default prefix 10/8 holds. -/
def candidateCount (prefixLen : Nat) : Nat := 2 ^ (clampPrefix prefixLen - 8)

/-- The network of the default prefix at an index. -/
def candidateZone (prefixLen idx : Nat) : Ipv4Net :=
  ⟨candidateNet (clampPrefix prefixLen) idx, clampPrefix prefixLen,
    clampPrefix_le_width prefixLen⟩

theorem toNat_candidateZone {prefixLen idx : Nat} (hidx : idx < candidateCount prefixLen) :
    (candidateZone prefixLen idx).addr.toNat =
      167772160 + idx * (candidateZone prefixLen idx).size :=
  toNat_candidateNet (clampPrefix_ge prefixLen) (clampPrefix_le prefixLen) hidx

/-- A candidate has no host bits. -/
theorem network_candidateZone {prefixLen idx : Nat} (hidx : idx < candidateCount prefixLen) :
    (candidateZone prefixLen idx).network = (candidateZone prefixLen idx).addr := by
  have hsplit : 167772160 = 10 * 2 ^ (clampPrefix prefixLen - 8) *
      (candidateZone prefixLen idx).size := by
    have hlo := clampPrefix_ge prefixLen
    have hhi := clampPrefix_le prefixLen
    show 167772160 = 10 * 2 ^ (clampPrefix prefixLen - 8) * 2 ^ (32 - clampPrefix prefixLen)
    rw [Nat.mul_assoc, ← Nat.pow_add,
      show clampPrefix prefixLen - 8 + (32 - clampPrefix prefixLen) = 24 by omega]
  apply UInt32.toNat_inj.mp
  rw [Ipv4Net.network, toNat_and_maskFor _ (candidateZone prefixLen idx).prefixLen_le,
    toNat_candidateZone hidx]
  show (167772160 + idx * (candidateZone prefixLen idx).size) /
    (candidateZone prefixLen idx).size * (candidateZone prefixLen idx).size = _
  have hdvd : (candidateZone prefixLen idx).size ∣
      167772160 + idx * (candidateZone prefixLen idx).size := by
    refine Nat.dvd_add ?_ (Nat.dvd_mul_left _ _)
    rw [hsplit]
    exact Nat.dvd_mul_left _ _
  exact Nat.div_mul_cancel hdvd

theorem zoneRun_candidateZone {prefixLen idx : Nat} (hidx : idx < candidateCount prefixLen) :
    zoneRun (candidateZone prefixLen idx) =
      ((candidateNet (clampPrefix prefixLen) idx).toNat, 2 ^ (32 - clampPrefix prefixLen)) := by
  unfold zoneRun
  rw [network_candidateZone hidx]
  rfl

/-- Two candidates are apart, unless they are one. -/
theorem zonesApart_candidates {prefixLen i j : Nat} (hi : i < candidateCount prefixLen)
    (hj : j < candidateCount prefixLen) :
    ZonesApart (candidateZone prefixLen i) (candidateZone prefixLen j) ↔ i ≠ j := by
  have hpos : 0 < 2 ^ (32 - clampPrefix prefixLen) := Nat.pow_pos (by decide)
  rw [zonesApart_iff, zoneRun_candidateZone hi, zoneRun_candidateZone hj,
    toNat_candidateNet (clampPrefix_ge _) (clampPrefix_le _) hi,
    toNat_candidateNet (clampPrefix_ge _) (clampPrefix_le _) hj]
  unfold Apart
  dsimp only
  generalize 2 ^ (32 - clampPrefix prefixLen) = size at *
  constructor
  · rintro h rfl
    omega
  · intro hne
    rcases Nat.lt_or_gt_of_ne hne with hlt | hgt
    · left
      have := Nat.mul_le_mul_right size (Nat.succ_le_of_lt hlt)
      rw [Nat.succ_mul] at this
      omega
    · right
      have := Nat.mul_le_mul_right size (Nat.succ_le_of_lt hgt)
      rw [Nat.succ_mul] at this
      omega

/-- The networks of the default prefix. -/
def candidates (prefixLen : Nat) : SlotFamily Ipv4Net where
  Apart := ZonesApart
  symm := ZonesApart.symm
  count := candidateCount prefixLen
  slot := candidateZone prefixLen
  count_pos := Nat.pow_pos (by decide)
  apart_iff := zonesApart_candidates

/-- The test of `fresh_subnet`: a candidate overlaps a zone. -/
def isTaken (prefixLen : Nat) (nets : List Ipv4Net) (idx : Nat) : Bool :=
  overlaps (candidateNet (clampPrefix prefixLen) idx) (clampPrefix prefixLen)
    (nets.map fun n => { n with addr := n.network })

/-- The test is exact. -/
theorem free_iff {prefixLen idx : Nat} {nets : List Ipv4Net}
    (hidx : idx < candidateCount prefixLen) :
    (candidates prefixLen).Free nets idx ↔ isTaken prefixLen nets idx = false := by
  have hone : ∀ n : Ipv4Net, ZonesApart (candidateZone prefixLen idx) n ↔
      ¬ ((candidateNet (clampPrefix prefixLen) idx).toNat < n.network.toNat + n.size ∧
        n.network.toNat < (candidateNet (clampPrefix prefixLen) idx).toNat +
          2 ^ (32 - clampPrefix prefixLen)) := by
    intro n
    rw [zonesApart_iff, zoneRun_candidateZone hidx]
    unfold Apart zoneRun
    dsimp only
    omega
  unfold isTaken overlaps
  rw [List.any_map, List.any_eq_false]
  refine forall₂_congr fun n hn => ?_
  rw [Function.comp_apply, Bool.and_eq_true, decide_eq_true_iff, decide_eq_true_iff]
  exact hone n

/-- **What `fresh_subnet` returns**: a free candidate, or the first one when none is free. -/
theorem freshSubnet_cases (prefixLen : Nat) (nets : List Ipv4Net) (rng : Rng) :
    (∃ idx < candidateCount prefixLen, (candidates prefixLen).Free nets idx ∧
        (freshSubnet prefixLen nets rng).1 = candidateZone prefixLen idx) ∨
      (∀ idx < candidateCount prefixLen, ¬ (candidates prefixLen).Free nets idx) ∧
        (freshSubnet prefixLen nets rng).1 = candidateZone prefixLen 0 := by
  have hzone : ∀ idx, (pickNewNet (clampPrefix prefixLen) rng
      (nets.map fun n => { n with addr := n.network })).1 =
        candidateNet (clampPrefix prefixLen) idx →
      (freshSubnet prefixLen nets rng).1 = candidateZone prefixLen idx := by
    intro idx hpick
    unfold freshSubnet candidateZone
    dsimp only
    congr 1
  obtain ⟨⟨idx, hidx, hnet⟩, hcase⟩ := pickNewNet_spec (clampPrefix prefixLen) rng
    (nets.map fun n => { n with addr := n.network })
  rw [clampPrefix_clampPrefix] at hidx hnet hcase
  rcases hcase with hfree | ⟨hbase, hfull⟩
  · rw [hnet] at hfree
    exact .inl ⟨idx, hidx, (free_iff hidx).mpr hfree, hzone idx hnet⟩
  · refine .inr ⟨fun j hj hfree => ?_, hzone 0 ?_⟩
    · have htaken := hfull j hj
      rw [show overlaps _ _ _ = false from (free_iff hj).mp hfree] at htaken
      cases htaken
    · rw [hbase, candidateNet_zero]

/-! ## What the operations do to the zones

Fabrication and the operations zones add zones by one function, and only below their cap. So each
operation is, for the networks, a run of allocations, and the general facts about allocating slots
apply. What else an operation does, to devices and hostnames, does not matter here.
-/

/-- The parameters allocate at a default prefix, below a cap. -/
structure AllocParams.Within (params : AllocParams) (prefixLen cap : Nat) : Prop where
  prefix_eq : params.defaultPrefix = prefixLen
  cap_le : params.maxSubnets ≤ cap

/-- A run of allocations below a subnet cap and the hard cap. -/
abbrev Allocates (prefixLen cap : Nat) : List Ipv4Net → List Ipv4Net → Prop :=
  ReflTransGen ((candidates prefixLen).Hands (min cap maxSubnets))

section Operations

variable {prefixLen cap : Nat} {params : AllocParams} (hp : params.Within prefixLen cap)
include hp

/-- Adding a fresh subnet is an allocation. -/
theorem hands_of_addSubnet {s s' : Session} {rec : SubnetRecord} {rng : Rng}
    (hroom : s.subnets.length < params.maxSubnets)
    (hrec : rec.cidr = (freshSubnet params.defaultPrefix s.cidrs rng).1)
    (h : s.addSubnet rec = some s') :
    (candidates prefixLen).Hands (min cap maxSubnets) s.cidrs s'.cidrs := by
  obtain ⟨hhard, hnew, rfl⟩ := addSubnet_eq_some.mp h
  have hlen : s.cidrs.length < min cap maxSubnets := by
    have := hp.cap_le
    rw [Session.cidrs, List.length_map]
    omega
  rw [hp.prefix_eq] at hrec
  rw [Session.cidrs_pushSubnet]
  rcases freshSubnet_cases prefixLen s.cidrs rng with ⟨idx, hidx, hfree, heq⟩ | ⟨hnone, heq⟩
  · rw [hrec, heq]
    exact .free hlen hidx hfree
  · rw [hrec, heq] at hnew ⊢
    exact .lastResort hlen hnone hnew

omit hp in
/-- A zone is only wanted below the subnet cap. -/
theorem length_lt_of_wantsZone {s : Session} {vuln : VulnDb} {withRoom : List Ipv4Net}
    {rng rng' : Rng} (h : wantsZone s vuln params withRoom rng = (true, rng')) :
    s.subnets.length < params.maxSubnets := by
  unfold wantsZone at h
  split at h
  · cases h
  · next hroom => exact Nat.not_le.mp hroom

theorem createZone_allocates {s s' : Session} {vuln : VulnDb} {rng rng' : Rng}
    {net : Option Ipv4Net} (hroom : s.subnets.length < params.maxSubnets)
    (h : createZone s vuln params rng = some (net, s', rng')) :
    Allocates prefixLen cap s.cidrs s'.cidrs := by
  unfold createZone at h
  dsimp only at h
  split at h
  · cases h
    exact .refl
  · split at h
    · cases h
      exact .refl
    · split at h
      · cases h
      · split at h
        · cases h
          exact .refl
        · next hadd =>
          cases h
          exact .single (hands_of_addSubnet hp hroom rfl hadd)

omit hp in
theorem pickZone_session {withRoom : List Ipv4Net} {s s' : Session} {rng rng' : Rng}
    {net : Option Ipv4Net} (h : pickZone withRoom s rng = some (net, s', rng')) : s' = s := by
  unfold pickZone at h
  split at h
  · cases h
    rfl
  · obtain ⟨picked, -, heq⟩ := Option.map_eq_some_iff.mp h
    cases heq
    rfl

theorem chooseOrCreateSubnet_allocates {s s' : Session} {vuln : VulnDb}
    {used : Finset Ipv4Addr} {rng rng' : Rng} {net : Option Ipv4Net}
    (h : chooseOrCreateSubnet s vuln params used rng = some (net, s', rng')) :
    Allocates prefixLen cap s.cidrs s'.cidrs := by
  unfold chooseOrCreateSubnet at h
  dsimp only at h
  split at h
  · next hwants =>
    have hroom := length_lt_of_wantsZone (Prod.ext hwants rfl)
    split at h
    · cases h
    · next hcreate =>
      cases h
      exact createZone_allocates hp hroom hcreate
    · next hcreate =>
      rw [pickZone_session h]
      exact createZone_allocates hp hroom hcreate
  · rw [pickZone_session h]

/-- The state a turn leads to. -/
def FabTurn.state : FabTurn → FabState
  | .next st => st
  | .stop st => st

/-- A turn of `fabricate` does to the zones what its choice of one does. -/
theorem fabricateTurn_allocates {vuln : VulnDb} {st : FabState} {t : FabTurn}
    (h : fabricateTurn vuln params st = some t) :
    Allocates prefixLen cap st.session.cidrs t.state.session.cidrs := by
  unfold fabricateTurn at h
  split at h
  · cases h
  · next hchoose =>
    cases h
    exact chooseOrCreateSubnet_allocates hp hchoose
  · next hchoose =>
    -- whatever becomes of the device, the zones are those of the choice
    have hzones := chooseOrCreateSubnet_allocates hp hchoose
    split at h
    · cases h
      exact hzones
    · dsimp only at h
      split at h
      · cases h
      · split at h
        · cases h
        · split at h
          · cases h
            exact hzones
          · next hadd =>
            cases h
            obtain ⟨-, rfl⟩ := addDevice_eq_some.mp hadd
            exact hzones

theorem fabricateLoop_allocates {vuln : VulnDb} {target fuel : Nat} {st st' : FabState}
    (h : fabricateLoop vuln params target fuel st = some st') :
    Allocates prefixLen cap st.session.cidrs st'.session.cidrs := by
  induction fuel generalizing st with
  | zero => cases h
  | succ fuel ih =>
    rw [fabricateLoop] at h
    split at h
    · cases h
      exact .refl
    · split at h
      · cases h
      · next hturn =>
        cases h
        exact fabricateTurn_allocates hp hturn
      · next hturn => exact (fabricateTurn_allocates hp hturn).trans (ih h)

theorem createL3Zone_allocates {s : Session} (hroom : s.subnets.length < params.maxSubnets)
    (rng : Rng) : Allocates prefixLen cap s.cidrs (createL3Zone s params rng).1.cidrs := by
  unfold createL3Zone
  dsimp only
  cases hadd : s.addSubnet
      { cidr := (freshSubnet params.defaultPrefix s.cidrs rng).1
        zoneName := nameZone (some (l3Vendors.getD (s.subnets.length % l3Vendors.length) ""))
          none 3 s.subnets.length
        purdueLevel := 3
        vendor := some (l3Vendors.getD (s.subnets.length % l3Vendors.length) "")
        domain := none } with
  | none => exact .refl
  | some s' => exact .single (hands_of_addSubnet hp hroom rfl hadd)

theorem createL3Zones_allocates (count : Nat) (s : Session) (rng : Rng) :
    Allocates prefixLen cap s.cidrs (createL3Zones s params rng count).1.cidrs := by
  induction count generalizing s rng with
  | zero => exact .refl
  | succ count ih =>
    rw [createL3Zones]
    split
    · exact .refl
    · next hroom => exact (createL3Zone_allocates hp (Nat.not_le.mp hroom) rng).trans (ih _ _)

end Operations

/-- Fabrication and operations zones, at one default prefix and below one subnet cap. -/
def PlantOp.Zoning (prefixLen cap : Nat) : PlantOp → Prop
  | .fabricate _ params _ _ => params.Within prefixLen cap
  | .createL3Zones params _ _ => params.Within prefixLen cap
  | _ => False

/-- **Such an operation allocates.** -/
theorem PlantOp.allocates {prefixLen cap : Nat} {op : PlantOp} (hop : op.Zoning prefixLen cap)
    {s s' : Session} (h : op.apply s = some s') :
    Allocates prefixLen cap s.cidrs s'.cidrs := by
  cases op with
  | fabricate vuln params target rng =>
    obtain ⟨⟨s₁, added, rng₁⟩, hfab, rfl⟩ := Option.map_eq_some_iff.mp h
    unfold TurboLaser.fabricate at hfab
    split at hfab
    · cases hfab
      exact .refl
    · obtain ⟨st, hloop, heq⟩ := Option.map_eq_some_iff.mp hfab
      cases heq
      exact fabricateLoop_allocates hop hloop
  | createL3Zones params count rng =>
    cases h
    exact createL3Zones_allocates hop count s rng
  | enrichPlant vuln oui seed => exact hop.elim
  | reconcile cap hints oui order affinity remapMac maxAssets => exact hop.elim

theorem runPlant_allocates {prefixLen cap : Nat} {ops : List PlantOp}
    (hops : ∀ op ∈ ops, op.Zoning prefixLen cap) {s s' : Session} (h : runPlant s ops = some s') :
    Allocates prefixLen cap s.cidrs s'.cidrs := by
  induction ops generalizing s with
  | nil =>
    cases h
    exact .refl
  | cons op ops ih =>
    cases hop : op.apply s with
    | none =>
      rw [runPlant, runAll, hop] at h
      cases h
    | some s₁ =>
      rw [runPlant, runAll_cons ops hop] at h
      exact (PlantOp.allocates (hops op List.mem_cons_self) hop).trans
        (ih (fun o ho => hops o (List.mem_cons_of_mem _ ho)) h)

/-! ## Running into the last resort -/

/-- A zone that is refused below the cap leaves nothing to allocate. -/
theorem stuck_of_refused {s : Session} {params : AllocParams} {rec : SubnetRecord} {rng : Rng}
    (hrec : rec.cidr = (freshSubnet params.defaultPrefix s.cidrs rng).1)
    (h : s.addSubnet rec = none) :
    (candidates params.defaultPrefix).Stuck (min params.maxSubnets maxSubnets) s.cidrs := by
  unfold Session.addSubnet at h
  split at h
  · next hrefused =>
    rcases hrefused with hhard | hlisted
    · left
      rw [Session.cidrs, List.length_map]
      omega
    · rw [hrec] at hlisted
      rcases freshSubnet_cases params.defaultPrefix s.cidrs rng with
        ⟨idx, hidx, hfree, heq⟩ | ⟨hnone, heq⟩
      · rw [heq] at hlisted
        exact absurd hfree (SlotFamily.not_free_of_mem hidx hlisted)
      · rw [heq] at hlisted
        exact .inr ⟨hnone, hlisted⟩
  · cases h

/-- The operations zones come to the cap, or to a ledger that is stuck. -/
theorem createL3Zones_stuck (params : AllocParams) (count : Nat) (s : Session) (rng : Rng) :
    (candidates params.defaultPrefix).Stuck (min params.maxSubnets maxSubnets)
        (createL3Zones s params rng count).1.cidrs ∨
      s.cidrs.length + count ≤ (createL3Zones s params rng count).1.cidrs.length := by
  induction count generalizing s rng with
  | zero => exact .inr (Nat.le_refl _)
  | succ count ih =>
    rw [createL3Zones]
    split
    · next hcap =>
      refine .inl (.inl ?_)
      show min params.maxSubnets maxSubnets ≤ s.cidrs.length
      rw [Session.cidrs, List.length_map]
      omega
    · unfold createL3Zone
      dsimp only
      cases hadd : s.addSubnet
          { cidr := (freshSubnet params.defaultPrefix s.cidrs rng).1
            zoneName := nameZone (some (l3Vendors.getD (s.subnets.length % l3Vendors.length) ""))
              none 3 s.subnets.length
            purdueLevel := 3
            vendor := some (l3Vendors.getD (s.subnets.length % l3Vendors.length) "")
            domain := none } with
      | none =>
        left
        -- a network that is refused was the last resort, and is handed out again every time
        have hstuck := stuck_of_refused rfl hadd
        rw [Option.getD_none,
          hstuck.eq_of_run (createL3Zones_allocates ⟨rfl, Nat.le_refl _⟩ count s _)]
        exact hstuck
      | some s' =>
        obtain ⟨-, -, rfl⟩ := addSubnet_eq_some.mp hadd
        rw [Option.getD_some]
        refine (ih _ _).imp_right fun hlen => ?_
        rw [Session.cidrs_pushSubnet, List.length_append, List.length_singleton] at hlen
        omega

/-! ## Exactly when zones stay apart -/

/-- How many networks of the default prefix are free. -/
def freeCandidates (prefixLen : Nat) (nets : List Ipv4Net) : Nat :=
  ((Finset.range (candidateCount prefixLen)).filter fun idx =>
    isTaken prefixLen nets idx = false).card

/-- 10.0.0.0 is free, or listed as a network of the default prefix, or the caps come before the
free networks run out. -/
def RoomForZones (params : AllocParams) (nets : List Ipv4Net) : Prop :=
  isTaken params.defaultPrefix nets 0 = false ∨ candidateZone params.defaultPrefix 0 ∈ nets ∨
    min params.maxSubnets maxSubnets ≤ nets.length + freeCandidates params.defaultPrefix nets

theorem safe_iff (params : AllocParams) (nets : List Ipv4Net) :
    (candidates params.defaultPrefix).Safe (min params.maxSubnets maxSubnets) nets ↔
      RoomForZones params nets := by
  have hslots : (candidates params.defaultPrefix).freeSlots nets =
      (Finset.range (candidateCount params.defaultPrefix)).filter fun idx =>
        isTaken params.defaultPrefix nets idx = false := by
    ext idx
    rw [SlotFamily.mem_freeSlots, Finset.mem_filter, Finset.mem_range]
    exact and_congr_right fun hidx => free_iff hidx
  unfold SlotFamily.Safe RoomForZones freeCandidates
  rw [hslots, free_iff (candidates params.defaultPrefix).count_pos]
  rfl

/-- **Exactly when zones stay apart**: over every run of fabrication and operations zones, from a
ledger whose zones are apart. The condition counts how many networks of the default prefix are free;
where 10.0.0.0 is free as well, or a zone already, running out of them does no harm. -/
theorem zones_apart_iff (s : Session) (params : AllocParams)
    (hs : s.cidrs.Pairwise ZonesApart) :
    (∀ ops s', (∀ op ∈ ops, op.Zoning params.defaultPrefix params.maxSubnets) →
        runPlant s ops = some s' → s'.cidrs.Pairwise ZonesApart) ↔
      RoomForZones params s.cidrs := by
  rw [← safe_iff]
  constructor
  · intro hruns
    by_contra hunsafe
    -- so many operations zones that nothing is left to allocate
    have hwithin : params.Within params.defaultPrefix params.maxSubnets := ⟨rfl, Nat.le_refl _⟩
    let rng : Rng := ⟨fun _ => 0, 0⟩
    have hapart := hruns [.createL3Zones params maxSubnets rng] _
      (fun op hop => List.mem_singleton.mp hop ▸ hwithin) rfl
    have hstuck : (candidates params.defaultPrefix).Stuck (min params.maxSubnets maxSubnets)
        (createL3Zones s params rng maxSubnets).1.cidrs := by
      rcases createL3Zones_stuck params maxSubnets s rng with hstuck | hlen
      · exact hstuck
      · exact .inl (by omega)
    exact SlotFamily.not_apart_of_stuck (createL3Zones_allocates hwithin maxSubnets s rng) hstuck
      hunsafe hapart
  · intro hsafe ops s' hops hrun
    exact SlotFamily.apart_of_safe (runPlant_allocates hops hrun) hsafe hs

/-- A ledger with one zone. -/
def oneZone (net : Ipv4Net) : Session :=
  { Session.new 7 with subnets := [⟨net, "Zone A", 2, none, none⟩] }

/-- Sixteen zones at most, of prefix 24. -/
def slash24Params : AllocParams := ⟨16, 64, 24⟩

/-- Beside a zone outside 10/8 there is room. -/
theorem zones_apart_iff_outside :
    (oneZone (.slash24 0xC0A80100)).cidrs.Pairwise ZonesApart ∧
      ∀ ops s', (∀ op ∈ ops, op.Zoning 24 16) →
        runPlant (oneZone (.slash24 0xC0A80100)) ops = some s' →
          s'.cidrs.Pairwise ZonesApart :=
  ⟨List.pairwise_singleton _ _,
    (zones_apart_iff (oneZone (.slash24 0xC0A80100)) slash24Params
      (List.pairwise_singleton _ _)).mpr (.inl (by decide))⟩

/-- Every candidate lies inside 10/8. -/
theorem not_zonesApart_ten {prefixLen idx : Nat} (hidx : idx < candidateCount prefixLen) :
    ¬ ZonesApart (candidateZone prefixLen idx) ⟨0x0A000000, 8, by decide⟩ := by
  have hten : zoneRun ⟨0x0A000000, 8, by decide⟩ = (167772160, 16777216) := by decide
  have hend : (idx + 1) * 2 ^ (32 - clampPrefix prefixLen) ≤ 16777216 := by
    have hlo := clampPrefix_ge prefixLen
    have hhi := clampPrefix_le prefixLen
    refine (Nat.mul_le_mul_right _ (Nat.succ_le_of_lt hidx)).trans (Nat.le_of_eq ?_)
    rw [candidateCount, ← Nat.pow_add,
      show clampPrefix prefixLen - 8 + (32 - clampPrefix prefixLen) = 24 by omega]
  have hpos : 0 < 2 ^ (32 - clampPrefix prefixLen) := Nat.pow_pos (by decide)
  rw [zonesApart_iff, zoneRun_candidateZone hidx, hten,
    toNat_candidateNet (clampPrefix_ge _) (clampPrefix_le _) hidx]
  unfold Apart
  dsimp only
  rw [Nat.add_mul, Nat.one_mul] at hend
  omega

/-- **A zone that covers 10/8 is overlapped**: the one operations zone below is 10.0.0.0/24. -/
theorem old_zone_overlapped :
    (oneZone ⟨0x0A000000, 8, by decide⟩).cidrs.Pairwise ZonesApart ∧
      ∃ s', runPlant (oneZone ⟨0x0A000000, 8, by decide⟩)
          [.createL3Zones slash24Params 1 ⟨fun _ => 0, 0⟩] = some s' ∧
        s'.cidrs = [⟨0x0A000000, 8, by decide⟩, .slash24 0x0A000000] ∧
        ¬ s'.cidrs.Pairwise ZonesApart := by
  have hfresh : (freshSubnet 24 (oneZone ⟨0x0A000000, 8, by decide⟩).cidrs ⟨fun _ => 0, 0⟩).1 =
      .slash24 0x0A000000 := by
    rcases freshSubnet_cases 24 (oneZone ⟨0x0A000000, 8, by decide⟩).cidrs ⟨fun _ => 0, 0⟩ with
      ⟨idx, hidx, hfree, -⟩ | ⟨-, heq⟩
    · exact absurd (hfree _ (List.mem_singleton_self _)) (not_zonesApart_ten hidx)
    · rw [heq]
      decide
  have hcidrs : (createL3Zones (oneZone ⟨0x0A000000, 8, by decide⟩) slash24Params
      ⟨fun _ => 0, 0⟩ 1).1.cidrs = [⟨0x0A000000, 8, by decide⟩, .slash24 0x0A000000] := by
    rw [createL3Zones, if_neg (by decide), createL3Zone,
      show slash24Params.defaultPrefix = 24 from rfl]
    generalize freshSubnet 24 _ _ = fresh at hfresh ⊢
    obtain ⟨net, rng⟩ := fresh
    obtain rfl : net = .slash24 0x0A000000 := hfresh
    rfl
  refine ⟨List.pairwise_singleton _ _, _, rfl, hcidrs, ?_⟩
  rw [hcidrs]
  decide

end TurboLaser
