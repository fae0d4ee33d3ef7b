import TurboLaser.Simulate.FabricateRuns

/-!
# Fabricating under a smaller zone cap (simulate/mod.rs)

A plan is fabricated with ten zones at most; the daemon goes up to the configured cap. As long as
there are fewer than ten zones, a turn under either cap is the same turn.

So the two runs part only at a turn that begins with ten zones. Whether there is one depends on the
coin that decides for another zone, and how many zones a run can have made before that is bounded
only because a zone is given a device in the turn it is made, provided that it has room for one. A
zone of prefix 30 has not: both of its hosts are reserved slots.

- `FromNew`: what every turn from a new session keeps; its zones are apart, and each has the default
  prefix;
- `FromNew.chosen_room`: **up to prefix 29 the zone of a turn has room**, so no zone stays empty;
- `FromNew.zones_le`: hence there are no more zones than devices;
- `FabRun.capped`: **the two runs end alike, or some turn of theirs began with ten zones**.
-/

namespace TurboLaser

open Lib Relation

variable {vuln : VulnDb} {params : AllocParams} {seed : UInt64}

/-! ## Room in a zone -/

/-- An untouched zone of prefix 29 or shorter has a host to give. -/
theorem nextFreeIn_isSome {net : Ipv4Net} {used : Finset Ipv4Addr} (hlo : 1 ≤ net.prefixLen)
    (hhi : net.prefixLen ≤ 29) (hfree : ∀ ip ∈ used, net.contains ip = false) :
    (nextFreeIn net used).isSome := by
  have htop := net.network_add_size_le
  have hsize : 8 ≤ net.size := by
    unfold Ipv4Net.size
    calc 8 = 2 ^ 3 := rfl
      _ ≤ 2 ^ (32 - net.prefixLen) := Nat.pow_le_pow_right (by decide) (by omega)
  have hgateway := @toNat_firewallAddr net (by omega)
  have hstation := toNat_stationAddrNet hlo (hhi.trans (by decide))
  -- the second host is neither of the two reserved slots
  have hsecond : (UInt32.ofNat (net.network.toNat + 2)).toNat = net.network.toNat + 2 := by
    rw [UInt32.toNat_ofNat', Nat.mod_eq_of_lt (by omega)]
  have hhost : UInt32.ofNat (net.network.toNat + 2) ∈ net.hosts := by
    rw [Ipv4Net.mem_hosts (by omega), hsecond]
    omega
  unfold nextFreeIn
  rw [List.find?_isSome]
  refine ⟨_, hhost, ?_⟩
  rw [Bool.and_eq_true, Bool.and_eq_true, decide_eq_true_iff, decide_eq_true_iff,
    decide_eq_true_iff]
  refine ⟨⟨fun h => ?_, fun h => ?_⟩, fun hused => ?_⟩
  · rw [h, hgateway] at hsecond
    omega
  · rw [h, hstation] at hsecond
    omega
  · have hout := hfree _ hused
    rw [Ipv4Net.contains_of_mem_hosts hhost] at hout
    cases hout

/-- A zone of prefix 30 has two hosts, and both are reserved. -/
theorem nextFreeIn_slash30 {net : Ipv4Net} (hp : net.prefixLen = 30) (used : Finset Ipv4Addr) :
    nextFreeIn net used = none := by
  have hsize : net.size = 4 := by
    rw [Ipv4Net.size, hp]
    rfl
  have hgateway := @toNat_firewallAddr net (by omega)
  have hstation := @toNat_stationAddrNet net (by omega) (by omega)
  unfold nextFreeIn
  rw [List.find?_eq_none]
  intro ip hip hfree
  rw [Ipv4Net.mem_hosts (by omega), hsize] at hip
  rw [Bool.and_eq_true, Bool.and_eq_true, decide_eq_true_iff, decide_eq_true_iff] at hfree
  obtain ⟨⟨hne, hne'⟩, -⟩ := hfree
  rw [ne_eq, ← UInt32.toNat_inj, hgateway] at hne
  rw [ne_eq, ← UInt32.toNat_inj, hstation, hsize] at hne'
  omega

/-! ## The two caps

Both runs go through the same turns as long as neither has ten zones, since a cap is only asked
whether it is reached. From then on the capped run adds no zone, and the other may. So they end
alike, or some turn began with ten zones; that turn is given, with what every turn keeps.
-/

/-- `fab_params`: a plan fabricates ten zones at most. -/
def AllocParams.fabParams (params : AllocParams) : AllocParams :=
  { params with maxSubnets := min params.maxSubnets 10 }

theorem fabParams_of_le (hcap : params.maxSubnets ≤ 10) : params.fabParams = params := by
  unfold AllocParams.fabParams
  rw [Nat.min_eq_left hcap]

/-- Below ten zones both caps let the loop choose alike. -/
theorem wantsZone_fabParams (hcap : 10 ≤ params.maxSubnets) {s : Session}
    (hzones : s.subnets.length < 10) (withRoom : List Ipv4Net) (rng : Rng) :
    wantsZone s vuln params.fabParams withRoom rng = wantsZone s vuln params withRoom rng := by
  have hprotos : (protocolsPresent vuln).length ≤ 4 := List.length_filter_le _ _
  have hten : params.fabParams.maxSubnets = 10 := Nat.min_eq_right hcap
  unfold wantsZone
  rw [hten, if_neg (Nat.not_le.mpr hzones), if_neg (Nat.not_le.mpr (hzones.trans_le hcap)),
    Nat.min_eq_left (hprotos.trans (by decide : 4 ≤ 10)),
    Nat.min_eq_left (hprotos.trans ((by decide : 4 ≤ 10).trans hcap))]

theorem chooseOrCreateSubnet_fabParams (hcap : 10 ≤ params.maxSubnets) {s : Session}
    (hzones : s.subnets.length < 10) (used : Finset Ipv4Addr) (rng : Rng) :
    chooseOrCreateSubnet s vuln params.fabParams used rng =
      chooseOrCreateSubnet s vuln params used rng := by
  unfold chooseOrCreateSubnet
  dsimp only
  rw [wantsZone_fabParams hcap hzones]
  rfl

theorem fabricateTurn_fabParams (hcap : 10 ≤ params.maxSubnets) {st : FabState}
    (hzones : st.session.subnets.length < 10) :
    fabricateTurn vuln params.fabParams st = fabricateTurn vuln params st := by
  unfold fabricateTurn
  rw [chooseOrCreateSubnet_fabParams hcap hzones]

theorem FabRun.allocates {prefixLen cap target : Nat} {st st' : FabState}
    (hp : params.Within prefixLen cap) (h : FabRun vuln params target st st') :
    Allocates prefixLen cap st.session.cidrs st'.session.cidrs := by
  induction h with
  | reached => exact .refl
  | stopped _ hturn => exact fabricateTurn_allocates hp hturn
  | next _ hturn _ ih => exact (fabricateTurn_allocates hp hturn).trans ih

/-- At its cap a run adds no zone. -/
theorem FabRun.subnets_of_full {target : Nat} {st st' : FabState}
    (hfull : params.maxSubnets ≤ st.session.subnets.length)
    (h : FabRun vuln params target st st') : st'.session.subnets = st.session.subnets := by
  have hlen : st.session.cidrs.length = st.session.subnets.length := List.length_map _
  have hstuck : (candidates params.defaultPrefix).Stuck
      (min st.session.subnets.length maxSubnets) st.session.cidrs := .inl (by omega)
  have hcidrs := hstuck.eq_of_run (h.allocates ⟨rfl, hfull⟩)
  have hlen' : st'.session.cidrs.length = st'.session.subnets.length := List.length_map _
  rw [hcidrs, hlen] at hlen'
  exact (h.begins.subnets.eq_of_length hlen').symm

/-- **The two runs end alike, or some turn of theirs began with ten zones**: from then on the
capped one adds no zone. What every turn keeps holds where that turn began. -/
theorem FabRun.capped {P : FabState → Prop} (hcap : 10 ≤ params.maxSubnets) {target : Nat}
    (hkeep : ∀ {st st'}, P st → fabricateTurn vuln params st = some (.next st') → P st')
    {st st₁ st₂ : FabState} (hinit : P st) (h : FabRun vuln params.fabParams target st st₁)
    (h' : FabRun vuln params target st st₂) :
    st₁ = st₂ ∨ st₁.session.subnets <+: st₂.session.subnets ∧
      ∃ m, P m ∧ m.session.devices.length < target ∧ 10 ≤ m.session.subnets.length := by
  -- from ten zones on the run under the small cap adds none, and the other one only appends
  have hfull : ∀ {st : FabState}, P st → st.session.devices.length < target →
      ¬ st.session.subnets.length < 10 → FabRun vuln params.fabParams target st st₁ →
      FabRun vuln params target st st₂ → st₁.session.subnets <+: st₂.session.subnets ∧
        ∃ m, P m ∧ m.session.devices.length < target ∧ 10 ≤ m.session.subnets.length := by
    intro st hst hshort hten hrun hrun'
    refine ⟨?_, st, hst, hshort, Nat.not_lt.mp hten⟩
    rw [hrun.subnets_of_full ((Nat.min_le_right _ _).trans (Nat.not_lt.mp hten))]
    exact hrun'.begins.subnets
  induction h with
  | reached hdone =>
    cases h' with
    | reached => exact .inl rfl
    | stopped hshort => omega
    | next hshort => omega
  | @stopped st st₁ hshort hturn =>
    by_cases hten : st.session.subnets.length < 10
    · rw [fabricateTurn_fabParams hcap hten] at hturn
      cases h' with
      | reached hdone => omega
      | stopped _ hturn' =>
        rw [hturn] at hturn'
        cases hturn'
        exact .inl rfl
      | next _ hturn' =>
        rw [hturn] at hturn'
        cases hturn'
    · exact .inr (hfull hinit hshort hten (.stopped hshort hturn) h')
  | @next st st' st₁ hshort hturn hrest ih =>
    by_cases hten : st.session.subnets.length < 10
    · have hturn' := hturn
      rw [fabricateTurn_fabParams hcap hten] at hturn'
      cases h' with
      | reached hdone => omega
      | stopped _ hturn'' =>
        rw [hturn'] at hturn''
        cases hturn''
      | next _ hturn'' hrest' =>
        rw [hturn'] at hturn''
        cases hturn''
        exact ih (hkeep hinit hturn') hrest' hfull
    · exact .inr (hfull hinit hshort hten (.next hshort hturn hrest) h')

/-! ## From a new session

A run from a new session has made all of its zones itself, of one size and apart. Up to prefix 29 a
zone that is made gets a device in the same turn, so no zone stays empty, and with more than 29 none
ever has room. What a run comes to is decided by these two cases and the caps.
-/

/-- What every turn from a new session keeps. -/
structure FromNew (params : AllocParams) (seed : UInt64) (st : FabState) : Prop where
  fabricating : Fabricating (Session.new seed) st
  allocates : Allocates params.defaultPrefix params.maxSubnets [] st.session.cidrs

theorem fromNew_init (params : AllocParams) (seed : UInt64) (rng : Rng) :
    FromNew params seed (fabricateInit (Session.new seed) rng) :=
  ⟨fabricating_init _ _, .refl⟩

namespace FromNew

variable {st st' : FabState} (h : FromNew params seed st)
include h

theorem next (hturn : fabricateTurn vuln params st = some (.next st')) :
    FromNew params seed st' :=
  ⟨h.fabricating.next (fabricateTurn_cases hturn),
    h.allocates.trans (fabricateTurn_allocates ⟨rfl, Nat.le_refl _⟩ hturn)⟩

theorem identities : Identities st.session := h.fabricating.grows.identities (identities_new seed)

/-- There are no more zones than networks of the default prefix. -/
theorem length_le : st.session.subnets.length ≤ candidateCount params.defaultPrefix := by
  have hcount := SlotFamily.length_add_card_freeSlots h.allocates
  rw [Session.cidrs, List.length_map] at hcount
  exact Nat.le.intro hcount

/-- Every zone is a network of the default prefix. -/
theorem prefixLen_eq {net : Ipv4Net} (hnet : net ∈ st.session.cidrs) :
    net.prefixLen = clampPrefix params.defaultPrefix := by
  rcases SlotFamily.slot_of_run h.allocates hnet with hnone | ⟨idx, -, rfl⟩
  · exact absurd hnone List.not_mem_nil
  · rfl

/-- The zones stay apart through the choice of one. -/
theorem choice_apart {net : Option Ipv4Net} {s : Session} {rng : Rng}
    (hchoose : chooseOrCreateSubnet st.session vuln params st.used st.rng = some (net, s, rng)) :
    s.cidrs.Pairwise ZonesApart :=
  SlotFamily.apart_from_nil
    (h.allocates.trans (chooseOrCreateSubnet_allocates ⟨rfl, Nat.le_refl _⟩ hchoose))

/-- **Up to prefix 29 the zone of a turn has room.** -/
theorem chosen_room (hp : params.defaultPrefix ≤ 29) {net : Ipv4Net} {s : Session} {rng : Rng}
    (hchoose : chooseOrCreateSubnet st.session vuln params st.used st.rng =
      some (some net, s, rng)) : (nextFreeIn net st.used).isSome := by
  have hapart := h.choice_apart hchoose
  have hallocates := h.allocates.trans
    (chooseOrCreateSubnet_allocates ⟨rfl, Nat.le_refl _⟩ hchoose)
  cases chooseOrCreateSubnet_cases hchoose with
  | existing hnet hroom => exact hroom
  | @created rec hroom hnew hbits =>
    rw [Session.cidrs_pushSubnet] at hapart hallocates
    have hslash : rec.cidr.prefixLen = clampPrefix params.defaultPrefix := by
      rcases SlotFamily.slot_of_run hallocates
          (List.mem_append_right _ (List.mem_singleton_self _)) with hnone | ⟨idx, -, heq⟩
      · exact absurd hnone List.not_mem_nil
      · rw [heq]
        rfl
    have hclamp : clampPrefix params.defaultPrefix ≤ 29 := by
      unfold clampPrefix
      omega
    refine nextFreeIn_isSome (by have := clampPrefix_ge params.defaultPrefix; omega)
      (by omega) fun ip hip => ?_
    -- a used address is in a zone that is listed, and the new zone is apart from it
    rw [h.fabricating.used, Session.mem_usedIps] at hip
    obtain ⟨a, ha, rfl⟩ := hip
    obtain ⟨hzone, hin⟩ := h.identities.inZone a ha
    exact (List.pairwise_append.mp hapart).2.2 _ hzone _ (List.mem_singleton_self _) _ hin

end FromNew

/-- **A turn that leads to another** has chosen a zone, and put a device in it if it has room. -/
theorem fabricateTurn_next {st st' : FabState}
    (h : fabricateTurn vuln params st = some (.next st')) :
    ∃ net s rng, chooseOrCreateSubnet st.session vuln params st.used st.rng =
        some (some net, s, rng) ∧
      (nextFreeIn net st.used = none ∧ st'.session = s ∨ ∃ ip mac profile,
        nextFreeIn net st.used = some ip ∧
          st'.session = s.pushDevice (DeviceProfile.record profile ip mac net)) := by
  unfold fabricateTurn at h
  split at h
  · cases h
  · cases h
  · next net s rng hchoose =>
    refine ⟨net, s, rng, hchoose, ?_⟩
    split at h
    -- a zone that has just been made may have no room: the next turn asks for a zone again
    · next hfull =>
      cases h
      exact .inl ⟨hfull, rfl⟩
    · next ip hip =>
      dsimp only at h
      split at h
      · cases h
      · next profile _ _ =>
        split at h
        · cases h
        · next mac _ _ =>
          split at h
          · cases h
          · next hadd =>
            cases h
            exact .inr ⟨ip, mac, profile, hip, (addDevice_eq_some.mp hadd).2⟩

/-- Up to prefix 29 no zone stays without a device. -/
theorem FromNew.zones_le {st st' : FabState} (h : FromNew params seed st)
    (hp : params.defaultPrefix ≤ 29)
    (hle : st.session.subnets.length ≤ st.session.devices.length)
    (hturn : fabricateTurn vuln params st = some (.next st')) :
    st'.session.subnets.length ≤ st'.session.devices.length := by
  obtain ⟨net, s, rng, hchoose, hplace⟩ := fabricateTurn_next hturn
  rcases hplace with ⟨hfull, -⟩ | ⟨ip, mac, profile, -, hsession⟩
  · have hroom := h.chosen_room hp hchoose
    rw [hfull] at hroom
    cases hroom
  · have hzones : s.subnets.length ≤ st.session.subnets.length + 1 := by
      cases chooseOrCreateSubnet_cases hchoose with
      | created => exact Nat.le_of_eq List.length_append
      | existing => exact Nat.le_succ _
    have hdevices := (chooseOrCreateSubnet_cases hchoose).devices_eq.1
    rw [hsession]
    show s.subnets.length ≤ (s.devices ++ [_]).length
    rw [List.length_append, List.length_singleton, hdevices]
    omega

/-- In zones of prefix 30 no device is placed. -/
theorem FromNew.no_devices {st st' : FabState} (h : FromNew params seed st)
    (hp : 30 ≤ params.defaultPrefix) {target : Nat} (hrun : FabRun vuln params target st st') :
    st'.session.devices = st.session.devices := by
  induction hrun with
  | reached => rfl
  | stopped _ hturn => exact (fabricateTurn_cases hturn).devices_stop
  | next _ hturn _ ih =>
    rw [ih (h.next hturn)]
    obtain ⟨net, s, rng, hchoose, hplace⟩ := fabricateTurn_next hturn
    rcases hplace with ⟨-, hsession⟩ | ⟨ip, mac, profile, hip, hsession⟩
    · rw [hsession, (chooseOrCreateSubnet_cases hchoose).devices_eq.1]
    · have hnet : net ∈ (s.pushDevice (profile.record ip mac net)).cidrs :=
        (chooseOrCreateSubnet_cases hchoose).mem_cidrs
      rw [← hsession] at hnet
      have hslash := (h.next hturn).prefixLen_eq hnet
      have hclamp : clampPrefix params.defaultPrefix = 30 := by
        unfold clampPrefix
        omega
      rw [nextFreeIn_slash30 (hslash.trans hclamp)] at hip
      cases hip

end TurboLaser
