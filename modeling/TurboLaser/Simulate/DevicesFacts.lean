import Mathlib.Tactic.Common
import TurboLaser.Simulate.Devices

/-!
# What the allocators do

Each loop of simulate/devices.rs is read once, as the cases of one turn:

- `ZoneChoice`: a zone is created, or one with room is chosen, or there is none;
- `Turned`: one turn of `fabricate`;
- `fabricateLoop_induct`: the loop rule: what every turn preserves, and what the last one leaves;
- `fabricateLoop_fuel`: the turns `fabricate` is given are enough.

The cases say all that a turn does, the guards included, so that what follows about fabrication is a
case analysis over `Turned` and never unfolds the loop again. That enough turns are given is by a
measure: a turn that is followed by another has added a device or a zone, and the target bounds the
one and a hard cap the other.
-/

namespace TurboLaser

open Lib

/-! ## Addresses and zones

`next_free_in` gives the lowest host that is free and no slot. Choosing a zone either picks one with
room, or adds one, or finds none; the cases say what becomes of the ledger in each. Adding fails at
a cap or for what is there already, and then the ledger is unchanged.
-/

/-- What `next_free_in` returns is free, a host of the zone and no reserved slot. -/
theorem nextFreeIn_spec {net : Ipv4Net} {used : Finset Ipv4Addr} {ip : Ipv4Addr}
    (h : nextFreeIn net used = some ip) :
    ip ∉ used ∧ net.contains ip = true ∧ ¬ IsReservedSlot net ip := by
  have hfree := List.find?_some h
  rw [Bool.and_eq_true, Bool.and_eq_true, decide_eq_true_iff, decide_eq_true_iff,
    decide_eq_true_iff] at hfree
  exact ⟨hfree.2, Ipv4Net.contains_of_mem_hosts (List.mem_of_find?_eq_some h),
    fun hslot => hslot.elim hfree.1.1 hfree.1.2⟩

theorem prefixLen_freshSubnet (prefixLen : Nat) (existing : List Ipv4Net) (rng : Rng) :
    (freshSubnet prefixLen existing rng).1.prefixLen = clampPrefix prefixLen := rfl

theorem clampPrefix_le (prefixLen : Nat) : clampPrefix prefixLen ≤ 30 := by
  unfold clampPrefix
  omega

theorem addSubnet_eq_some {s s' : Session} {rec : SubnetRecord} :
    s.addSubnet rec = some s' ↔
      s.subnets.length < maxSubnets ∧ rec.cidr ∉ s.cidrs ∧ s' = s.pushSubnet rec := by
  rw [Session.addSubnet, Option.ite_none_left_eq_some, not_or, Nat.not_le, Option.some_inj,
    and_assoc, eq_comm]

theorem addDevice_eq_some {s s' : Session} {rec : DeviceRecord} :
    s.addDevice rec = some s' ↔ s.devices.length < maxDevices ∧ s' = s.pushDevice rec := by
  rw [Session.addDevice, Option.ite_none_left_eq_some, Nat.not_le, Option.some_inj, eq_comm]

theorem addDevice_eq_none {s : Session} {rec : DeviceRecord} :
    s.addDevice rec = none ↔ maxDevices ≤ s.devices.length := by
  rw [Session.addDevice]
  split
  · next hcap => exact iff_of_true rfl hcap
  · next hcap => exact iff_of_false (Option.some_ne_none _) hcap

/-- The ledger after `choose_or_create_subnet`, and the network it returns. -/
inductive ZoneChoice (s : Session) (used : Finset Ipv4Addr) : Option Ipv4Net → Session → Prop
  | created {rec : SubnetRecord} (hroom : s.subnets.length < maxSubnets)
      (hnew : rec.cidr ∉ s.cidrs) (hbits : rec.cidr.prefixLen ≤ 30) :
      ZoneChoice s used (some rec.cidr) (s.pushSubnet rec)
  | existing {net : Ipv4Net} (hnet : net ∈ s.cidrs) (hroom : (nextFreeIn net used).isSome) :
      ZoneChoice s used (some net) s
  | exhausted (hroom : zonesWithRoom s used = []) : ZoneChoice s used none s

theorem createZone_cases {s s' : Session} {vuln : VulnDb} {params : AllocParams} {rng rng' : Rng}
    {net : Option Ipv4Net} (h : createZone s vuln params rng = some (net, s', rng')) :
    (net = none ∧ s' = s) ∨ ∃ rec : SubnetRecord, net = some rec.cidr ∧
      s.subnets.length < maxSubnets ∧ rec.cidr ∉ s.cidrs ∧
      rec.cidr.prefixLen = clampPrefix params.defaultPrefix ∧ s' = s.pushSubnet rec := by
  unfold createZone at h
  dsimp only at h
  split at h
  · cases h
    exact Or.inl ⟨rfl, rfl⟩
  · split at h
    · cases h
      exact Or.inl ⟨rfl, rfl⟩
    · split at h
      · cases h
      · split at h
        · cases h
          exact Or.inl ⟨rfl, rfl⟩
        · next hadd =>
          cases h
          obtain ⟨hroom, hnew, rfl⟩ := addSubnet_eq_some.mp hadd
          exact Or.inr ⟨_, rfl, hroom, hnew, prefixLen_freshSubnet _ _ _, rfl⟩

theorem pickZone_cases {s s' : Session} {used : Finset Ipv4Addr} {rng rng' : Rng}
    {net : Option Ipv4Net} (h : pickZone (zonesWithRoom s used) s rng = some (net, s', rng')) :
    ZoneChoice s used net s' := by
  unfold pickZone at h
  split at h
  · next hempty =>
    cases h
    exact .exhausted hempty
  · obtain ⟨⟨picked, rng₁⟩, hpick, heq⟩ := Option.map_eq_some_iff.mp h
    cases heq
    obtain ⟨hnet, hroom⟩ := List.mem_filter.mp (Rng.mem_of_pick hpick)
    exact .existing hnet hroom

/-- **What `choose_or_create_subnet` can do.** -/
theorem chooseOrCreateSubnet_cases {s s' : Session} {vuln : VulnDb} {params : AllocParams}
    {used : Finset Ipv4Addr} {rng rng' : Rng} {net : Option Ipv4Net}
    (h : chooseOrCreateSubnet s vuln params used rng = some (net, s', rng')) :
    ZoneChoice s used net s' := by
  unfold chooseOrCreateSubnet at h
  dsimp only at h
  split at h
  · split at h
    · cases h
    · next hcreate =>
      cases h
      obtain ⟨hnone, -⟩ | ⟨rec, hrec, hroom, hnew, hbits, rfl⟩ := createZone_cases hcreate
      · cases hnone
      · cases hrec
        exact .created hroom hnew (hbits.trans_le (clampPrefix_le _))
    · next hcreate =>
      obtain ⟨-, rfl⟩ | ⟨rec, hrec, -⟩ := createZone_cases hcreate
      · exact pickZone_cases h
      · cases hrec
  · exact pickZone_cases h

/-- The network chosen is one of the ledger's. -/
theorem ZoneChoice.mem_cidrs {s s' : Session} {used : Finset Ipv4Addr} {net : Ipv4Net}
    (h : ZoneChoice s used (some net) s') : net ∈ s'.cidrs := by
  cases h with
  | created hroom hnew hbits =>
    rw [Session.cidrs_pushSubnet]
    exact List.mem_append_right _ (List.mem_singleton_self _)
  | existing hnet hroom => exact hnet

theorem ZoneChoice.devices_eq {s s' : Session} {used : Finset Ipv4Addr} {net : Option Ipv4Net}
    (h : ZoneChoice s used net s') : s'.devices = s.devices ∧ s'.assets = s.assets := by
  cases h <;> exact ⟨rfl, rfl⟩

/-! ## One turn of `fabricate` -/

/-- **One turn of the fabrication loop.** -/
inductive Turned (st : FabState) : FabTurn → Prop
  | exhausted {s rng} (hchoice : ZoneChoice st.session st.used none s) :
      Turned st (.stop { st with session := s, rng })
  | fullZone {net s rng} (hchoice : ZoneChoice st.session st.used (some net) s)
      (hfull : nextFreeIn net st.used = none) : Turned st (.next { st with session := s, rng })
  | atCap {net s rng mac} (hchoice : ZoneChoice st.session st.used (some net) s)
      (hcap : maxDevices ≤ s.devices.length) :
      Turned st (.stop { st with session := s, usedMacs := insert mac st.usedMacs, rng })
  | placed {net s ip rng mac salt} {profile : DeviceProfile}
      (hchoice : ZoneChoice st.session st.used (some net) s)
      (hip : nextFreeIn net st.used = some ip)
      (hmac : freshMac (makeMac profile s.seed ip) st.usedMacs = some (mac, salt))
      (hroom : s.devices.length < maxDevices) :
      Turned st (.next
        { session := s.pushDevice (profile.record ip mac net)
          used := insert ip st.used
          usedMacs := insert mac st.usedMacs
          rng
          added := st.added + 1 })

theorem fabricateTurn_cases {vuln : VulnDb} {params : AllocParams} {st : FabState} {t : FabTurn}
    (h : fabricateTurn vuln params st = some t) : Turned st t := by
  unfold fabricateTurn at h
  split at h
  · cases h
  · next hchoice =>
    cases h
    exact .exhausted (chooseOrCreateSubnet_cases hchoice)
  · next net s rng hchoose =>
    have hchoice := chooseOrCreateSubnet_cases hchoose
    split at h
    · next hfull =>
      cases h
      exact .fullZone hchoice hfull
    · next ip hip =>
      dsimp only at h
      split at h
      · cases h
      · split at h
        · cases h
        · next hmac =>
          split at h
          -- the device is turned away by the hard cap of the ledger; its MAC counts as used
          -- nevertheless
          · next hcap =>
            cases h
            exact .atCap hchoice (addDevice_eq_none.mp hcap)
          · next hadd =>
            cases h
            obtain ⟨hroom, rfl⟩ := addDevice_eq_some.mp hadd
            exact .placed hchoice hip hmac hroom

/-! ## The loop -/

/-- **The loop rule of `fabricate`**: what every turn preserves, and what the last turn
leads to, holds at the end. -/
theorem fabricateLoop_induct {vuln : VulnDb} {params : AllocParams} {target : Nat}
    {P : FabState → Prop} {Q : FabState → Prop}
    (hnext : ∀ st st', P st → st.session.devices.length < target → Turned st (.next st') → P st')
    (hstop : ∀ st st', P st → st.session.devices.length < target → Turned st (.stop st') → Q st')
    (hdone : ∀ st, P st → target ≤ st.session.devices.length → Q st)
    {fuel : Nat} {st st' : FabState} (hinit : P st)
    (h : fabricateLoop vuln params target fuel st = some st') : Q st' := by
  induction fuel generalizing st with
  | zero => cases h
  | succ fuel ih =>
    rw [fabricateLoop] at h
    split at h
    · next hreached =>
      cases h
      exact hdone _ hinit hreached
    · next hshort =>
      split at h
      · cases h
      · next hturn =>
        cases h
        exact hstop st _ hinit (Nat.not_le.mp hshort) (fabricateTurn_cases hturn)
      · next hturn =>
        exact ih (hnext st _ hinit (Nat.not_le.mp hshort) (fabricateTurn_cases hturn)) h

/-- The turns left are never more than the fuel given. -/
theorem fabricateFuel_next {target : Nat} {st st' : FabState}
    (hshort : st.session.devices.length < target) (h : Turned st (.next st')) :
    fabricateFuel target st'.session < fabricateFuel target st.session := by
  have hpush : ∀ s rec, (Session.pushDevice s rec).devices.length = s.devices.length + 1 :=
    fun s rec => List.length_append
  cases h with
  | fullZone hchoice hfull =>
    cases hchoice with
    | @created rec hroom hnew hbits =>
      have hlen : (st.session.pushSubnet rec).subnets.length = st.session.subnets.length + 1 :=
        List.length_append
      show target - st.session.devices.length +
        (maxSubnets - (st.session.pushSubnet rec).subnets.length) + 1 < _
      unfold fabricateFuel
      omega
    | existing hnet hroom =>
      -- a zone that was listed is only chosen when it has room
      rw [hfull] at hroom
      cases hroom
  | @placed net s ip rng mac salt profile hchoice hip hmac hroom =>
    have hlen := hpush s (profile.record ip mac net)
    have hdev : s.devices.length = st.session.devices.length := by rw [hchoice.devices_eq.1]
    have hsub : st.session.subnets.length ≤ s.subnets.length := by
      cases hchoice with
      | created => exact (List.length_append).symm ▸ Nat.le_add_right _ _
      | existing => exact Nat.le_refl _
    show target - (s.pushDevice (profile.record ip mac net)).devices.length +
      (maxSubnets - s.subnets.length) + 1 < _
    unfold fabricateFuel
    omega

/-- **More turns than `fabricate` is given change nothing**: when the loop does not come
to an end it is for a panic or an endless salt loop, not for want of fuel. -/
theorem fabricateLoop_fuel {vuln : VulnDb} {params : AllocParams} {target : Nat} (st : FabState)
    {fuel fuel' : Nat} (hfuel : fabricateFuel target st.session ≤ fuel)
    (hfuel' : fabricateFuel target st.session ≤ fuel') :
    fabricateLoop vuln params target fuel st = fabricateLoop vuln params target fuel' st := by
  induction fuel generalizing st fuel' with
  | zero => exact absurd hfuel (Nat.not_succ_le_zero _)
  | succ fuel ih =>
    cases fuel' with
    | zero => exact absurd hfuel' (Nat.not_succ_le_zero _)
    | succ fuel' =>
      rw [fabricateLoop, fabricateLoop]
      split
      · rfl
      · next hshort =>
        split
        · rfl
        · rfl
        · next st' hturn =>
          have hless := fabricateFuel_next (Nat.not_le.mp hshort) (fabricateTurn_cases hturn)
          exact ih st' (by omega) (by omega)

end TurboLaser
