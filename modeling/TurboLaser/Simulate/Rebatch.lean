import TurboLaser.Simulate.ArpGraph
import TurboLaser.Simulate.FabricateReturns

/-!
# Fabricating in two calls (simulate/devices.rs)

`fabricate` builds its sets of addresses and MACs in use once, from the texts of the ledger, and
lets them grow with the devices it adds. Another call builds them anew. Two calls, towards a target
and then towards a later one, are to leave the ledger one call towards the later target leaves.

They do so as long as the first call reaches its target or stops for a reason that still holds when
the second one starts. One reason does not: the ledger has a hard cap on devices, and it is met only
when a device is handed in, after a zone may have been opened for it. So a call at the cap can leave
a new zone without a device, and so can the next one.

- `readIps` and `readMacs`: what a call reads from the texts; `fabricateFromTexts_eq`: **they are
  the addresses and MACs of the ledger**, since what was written is read back;
- `TurnedAway`: the first call stopped since the ledger refused a device at its hard cap. By then it
  may have created a zone, and the second call may create another;
- `FabRun.rebatch`: **otherwise the two calls are one**;
- `fabricate_twice`: the same of the calls, and that the devices agree in any case.
-/

namespace TurboLaser

open Lib Relation

variable {vuln : VulnDb} {params : AllocParams}

/-! ## What a call reads from the texts -/

/-- The set `used` of `fabricate`, before its loop: `used_ips` on the texts. -/
def Session.readIps (s : Session) : Finset Ipv4Addr :=
  ((assetTexts s).filterMap fun a => parseIpv4Addr a.ip).toFinset

/-- The set `used_macs` of `fabricate`, before its loop. -/
def Session.readMacs (s : Session) : Finset Mac :=
  ((assetTexts s).map fun a => parseMac a.mac).toFinset

/-- `fabricate`, with the sets it builds from the texts of the ledger. -/
def fabricateFromTexts (s : Session) (vuln : VulnDb) (params : AllocParams) (target : Nat)
    (rng : Rng) : Option (Session × Nat × Rng) :=
  if vuln = [] then some (s, 0, rng)
  else
    let target := min target params.maxDevices
    (fabricateLoop vuln params target (fabricateFuel target s)
      { session := s, used := s.readIps, usedMacs := s.readMacs, rng, added := 0 }).map
      fun st => (st.session, st.added, st.rng)

theorem Session.readIps_eq (s : Session) : s.readIps = s.usedIps := by
  rw [readIps, usedIps, assetTexts, List.filterMap_map, ← List.filterMap_eq_map]
  refine congrArg List.toFinset (List.filterMap_congr ?_)
  rintro a -
  exact parseIpv4Addr_showIpv4Addr a.ip

theorem Session.readMacs_eq (s : Session) : s.readMacs = s.usedMacs := by
  rw [readMacs, usedMacs, assetTexts, List.map_map]
  refine congrArg List.toFinset (List.map_congr_left ?_)
  rintro a -
  exact parseMac_fmtMac a.mac

/-- **The texts give back the addresses and MACs of the ledger.** -/
theorem fabricateFromTexts_eq (s : Session) (vuln : VulnDb) (params : AllocParams) (target : Nat)
    (rng : Rng) :
    fabricateFromTexts s vuln params target rng = fabricate s vuln params target rng := by
  rw [fabricateFromTexts, fabricate, s.readIps_eq, s.readMacs_eq]
  rfl

/-! ## Runs that stop short of their target -/

/-- A ledger at its hard cap gets no device. -/
theorem FabRun.devices_of_full {target : Nat} {st st' : FabState}
    (h : FabRun vuln params target st st') (hfull : maxDevices ≤ st.session.devices.length) :
    st'.session.devices = st.session.devices := by
  induction h with
  | reached => rfl
  | stopped _ hturn => exact (fabricateTurn_cases hturn).devices_stop
  | @next st st₁ st' _ hturn _ ih =>
    have hsame : st₁.session.devices = st.session.devices := by
      cases fabricateTurn_cases hturn with
      | fullZone hchoice => exact hchoice.devices_eq.1
      | placed hchoice _ _ hroom =>
        rw [hchoice.devices_eq.1] at hroom
        exact absurd hfull (Nat.not_le.mpr hroom)
    rw [ih (hsame ▸ hfull), hsame]

/-- Without a core profile a run that is short of its target found no zone: it changes nothing,
and no run after it does. -/
theorem FabRun.infra (hprotos : protocolsPresent vuln = []) {target : Nat} {s : Session}
    {rng : Rng} {st : FabState} (h : FabRun vuln params target (fabricateInit s rng) st)
    (hmissed : st.session.devices.length < target) :
    st.session = s ∧ zonesWithRoom s s.usedIps = [] := by
  have hshort : s.devices.length < target :=
    Nat.lt_of_le_of_lt h.begins.devices.length_le hmissed
  have hroom : zonesWithRoom s s.usedIps = [] := by
    -- a zone with room makes the draw from an empty slice
    by_contra hroom
    have hpanic := @fabricateTurn_infra vuln hprotos params (fabricateInit s rng) hroom
    cases h with
    | reached hdone => exact absurd hshort (Nat.not_lt.mpr hdone)
    | stopped _ hturn =>
      rw [hpanic] at hturn
      cases hturn
    | next _ hturn _ =>
      rw [hpanic] at hturn
      cases hturn
  obtain ⟨rng', hend⟩ := @fabRun_infra vuln params hprotos target s hroom hshort rng
  exact ⟨by rw [h.deterministic hend]; rfl, hroom⟩

/-- **Where a call stopped short of its target below the hard cap, the next call stops at once.** -/
theorem FabRun.settled {a b : Nat} (hle : a ≤ b) {s : Session} {rng : Rng} {st₁ st₂ : FabState}
    (h₁ : FabRun vuln params a (fabricateInit s rng) st₁)
    (hmissed : st₁.session.devices.length < a) (hcap : st₁.session.devices.length < maxDevices)
    (h₂ : FabRun vuln params b (fabricateInit st₁.session st₁.rng) st₂) :
    st₂.session = st₁.session := by
  by_cases hprotos : protocolsPresent vuln = []
  · obtain ⟨hsame, hroom⟩ := h₁.infra hprotos hmissed
    rw [← hsame] at hroom
    obtain ⟨rng', hend⟩ := @fabRun_infra vuln params hprotos b _ hroom (by omega) st₁.rng
    rw [h₂.deterministic hend]
    rfl
  · have hended : Ended vuln params st₁.session :=
      .exhausted hprotos (h₁.exhausted hprotos (fabricating_init s rng) hcap hmissed)
    obtain ⟨rng', hend⟩ := hended.run b st₁.rng
    rw [h₂.deterministic hend]
    rfl

/-! ## Two calls and one -/

/-- The ledger a call left is at the hard cap, and the call was to fabricate more. -/
def TurnedAway (params : AllocParams) (target : Nat) (s : Session) : Prop :=
  maxDevices ≤ s.devices.length ∧ s.devices.length < min target params.maxDevices

/-- Within the hard cap no call is turned away. -/
theorem not_turnedAway (hcap : params.maxDevices ≤ maxDevices) (target : Nat) (s : Session) :
    ¬ TurnedAway params target s := by
  rintro ⟨hfull, hshort⟩
  omega

/-- **Two runs are one**, or the first one was turned away: then the one run is the first of the
two, and the second one adds no device. -/
theorem FabRun.rebatch {a b : Nat} (hle : a ≤ b) {s : Session} {rng : Rng} {st₁ st₂ st' : FabState}
    (h₁ : FabRun vuln params a (fabricateInit s rng) st₁)
    (h₂ : FabRun vuln params b (fabricateInit st₁.session st₁.rng) st₂)
    (h' : FabRun vuln params b (fabricateInit s rng) st') :
    st₂.session = st'.session ∨
      (maxDevices ≤ st₁.session.devices.length ∧ st₁.session.devices.length < a ∧
        st'.session = st₁.session ∧ st₂.session.devices = st₁.session.devices) := by
  rcases FabRun.merge hle h₁ h' with ⟨hdone, hrest⟩ | ⟨hmissed, rfl⟩
  · -- the rest of the one run is what the second one does from the ledger
    left
    obtain ⟨st₃, hsecond, rfl⟩ := hrest.restart (h₁.fabricating (fabricating_init s rng) hdone)
    rw [h₂.deterministic hsecond]
  · by_cases hcap : st'.session.devices.length < maxDevices
    · exact .inl (h₁.settled hle hmissed hcap h₂)
    · have hfull := Nat.not_lt.mp hcap
      exact .inr ⟨hfull, hmissed, rfl, h₂.devices_of_full hfull⟩

/-- The same of the calls. -/
theorem fabricate_rebatch {s : Session} {rng : Rng} {a b : Nat} (hle : a ≤ b)
    {s₁ s₂ s' : Session} {n₁ n₂ n : Nat} {rng₁ rng₂ rng' : Rng}
    (hfirst : fabricate s vuln params a rng = some (s₁, n₁, rng₁))
    (hsecond : fabricate s₁ vuln params b rng₁ = some (s₂, n₂, rng₂))
    (honce : fabricate s vuln params b rng = some (s', n, rng')) :
    s₂ = s' ∨ (TurnedAway params a s₁ ∧ s' = s₁ ∧ s₂.devices = s₁.devices ∧ s₁.Begins s₂) := by
  by_cases hvuln : vuln = []
  · -- nothing is fabricated from an empty database
    left
    rw [fabricate, if_pos hvuln] at hfirst hsecond honce
    cases hfirst
    cases hsecond
    cases honce
    rfl
  · rw [fabricate_iff hvuln] at hfirst hsecond honce
    obtain ⟨st₁, hrun₁, hfirst⟩ := hfirst
    cases hfirst
    obtain ⟨st₂, hrun₂, hsecond⟩ := hsecond
    cases hsecond
    obtain ⟨st', hrun, honce⟩ := honce
    cases honce
    rcases hrun₁.rebatch (by omega) hrun₂ hrun with hsame | ⟨hfull, hmissed, honce, hdevices⟩
    · exact .inl hsame
    · exact .inr ⟨⟨hfull, hmissed⟩, honce, hdevices, hrun₂.begins⟩

/-- **Fabricating in two calls leaves the devices one call leaves**, and the zones too unless the
first call is turned away at the hard cap, as none is within it. Even then the zones of the one
call are there. -/
theorem fabricate_twice (vuln : VulnDb) (params : AllocParams) (s : Session) (rng : Rng) {a b : Nat}
    (hle : a ≤ b) {s₁ s₂ s' : Session} {n₁ n₂ n : Nat} {rng₁ rng₂ rng' : Rng}
    (hfirst : fabricateFromTexts s vuln params a rng = some (s₁, n₁, rng₁))
    (hsecond : fabricateFromTexts s₁ vuln params b rng₁ = some (s₂, n₂, rng₂))
    (honce : fabricateFromTexts s vuln params b rng = some (s', n, rng')) :
    s₂.devices = s'.devices ∧ s'.subnets <+: s₂.subnets ∧
      (¬ TurnedAway params a s₁ → s₂.subnets = s'.subnets) ∧
      (params.maxDevices ≤ maxDevices → ¬ TurnedAway params a s₁) := by
  rw [fabricateFromTexts_eq] at hfirst hsecond honce
  rcases fabricate_rebatch hle hfirst hsecond honce with rfl | ⟨haway, rfl, hdevices, hbegins⟩
  · exact ⟨rfl, List.prefix_rfl, fun _ => rfl, fun hcap => not_turnedAway hcap a s₁⟩
  · refine ⟨hdevices, hbegins.subnets, fun h => absurd haway h, fun hcap => ?_⟩
    exact not_turnedAway hcap a s'

/-- Three devices and then three more, in the zone of a new ledger. -/
theorem fabricate_twice_settled : ∃ s₁ n₁ rng₁ s₂ n₂ rng₂ s' n rng',
    fabricateFromTexts settledZone controllerDb ⟨16, 2000, 24⟩ 3 ⟨id, 0⟩ = some (s₁, n₁, rng₁) ∧
      fabricateFromTexts s₁ controllerDb ⟨16, 2000, 24⟩ 6 rng₁ = some (s₂, n₂, rng₂) ∧
      fabricateFromTexts settledZone controllerDb ⟨16, 2000, 24⟩ 6 ⟨id, 0⟩ =
        some (s', n, rng') ∧
      s₂.devices = s'.devices ∧ s₂.subnets = s'.subnets := by
  have honce : (fabricateFromTexts settledZone controllerDb ⟨16, 2000, 24⟩ 6 ⟨id, 0⟩).isSome := by
    decide +kernel
  have hboth : ((fabricateFromTexts settledZone controllerDb ⟨16, 2000, 24⟩ 3 ⟨id, 0⟩).bind
      fun r => fabricateFromTexts r.1 controllerDb ⟨16, 2000, 24⟩ 6 r.2.2).isSome := by
    decide +kernel
  obtain ⟨⟨s', n, rng'⟩, honce⟩ := Option.isSome_iff_exists.mp honce
  obtain ⟨⟨s₂, n₂, rng₂⟩, hboth⟩ := Option.isSome_iff_exists.mp hboth
  obtain ⟨⟨s₁, n₁, rng₁⟩, hfirst, hsecond⟩ := Option.bind_eq_some_iff.mp hboth
  obtain ⟨hdevices, -, hzones, hwithin⟩ := fabricate_twice controllerDb ⟨16, 2000, 24⟩ settledZone
    ⟨id, 0⟩ (show 3 ≤ 6 by decide) hfirst hsecond honce
  exact ⟨s₁, n₁, rng₁, s₂, n₂, rng₂, s', n, rng', hfirst, hsecond, honce, hdevices,
    hzones (hwithin (by decide))⟩

/-! ## A ledger at its hard cap -/

/-- A database with controllers of two protocols. -/
def twoProtocolDb : VulnDb :=
  controllerDb ++
    [{ vendor := "Schneider", model := "M340", firmware := "3.2", protocol := .modbus,
       purdueLevel := 1, oui := some "00:80:F4", cves := [], assetClass := none }]

/-- A zone for each of its protocols. -/
def modbusZone : SubnetRecord :=
  ⟨Ipv4Net.slash24 (ipv4 10 0 0 0), "Schneider M340 Basic Control Area 1", 1, some "Schneider",
    none⟩

def s7Zone : SubnetRecord :=
  ⟨Ipv4Net.slash24 (ipv4 10 0 3 0), "Siemens S7-1200 Basic Control Area 2", 1, some "Siemens", none⟩

/-- A controller, listed two thousand times. -/
def cabinetPlc : DeviceRecord :=
  { ip := ipv4 10 1 2 5, mac := ⟨0, 0x1B, 0x1B, 0, 0, 1⟩, vendor := "Siemens", model := "S7-1200",
    firmware := "4.2", protocol := "s7", cves := [],
    subnetCidr := Ipv4Net.slash24 (ipv4 10 1 2 0), hostname := none, assetType := none }

def fullPlant (zones : List SubnetRecord) : Session :=
  { Session.new 41 with subnets := zones, devices := List.replicate maxDevices cabinetPlc }

theorem usedIps_fullPlant (zones : List SubnetRecord) :
    (fullPlant zones).usedIps = {cabinetPlc.ip} := by
  show (((List.replicate maxDevices cabinetPlc).map DeviceRecord.asset ++ []).map
    Asset.ip).toFinset = _
  rw [List.append_nil, List.map_replicate, List.map_replicate,
    List.toFinset_replicate_of_ne_zero (by decide)]
  rfl

theorem usedMacs_fullPlant (zones : List SubnetRecord) :
    (fullPlant zones).usedMacs = {cabinetPlc.mac} := by
  show (((List.replicate maxDevices cabinetPlc).map DeviceRecord.asset ++ []).map
    Asset.mac).toFinset = _
  rw [List.append_nil, List.map_replicate, List.map_replicate,
    List.toFinset_replicate_of_ne_zero (by decide)]
  rfl

/-- A turn the ledger refuses the device of: the zone is there all the same. -/
theorem fabricateTurn_refused {st : FabState} {net : Ipv4Net} {s : Session} {rng rng' : Rng}
    {ip : Ipv4Addr} {profile : DeviceProfile}
    (hchoose : chooseOrCreateSubnet st.session vuln params st.used st.rng = some (some net, s, rng))
    (hip : nextFreeIn net st.used = some ip)
    (hprofile : pickProfile vuln ((s.subnets.find? fun z => decide (z.cidr = net)).bind
      SubnetRecord.vendor) rng = some (profile, rng'))
    (hmac : MacLeft s.seed profile ip st.usedMacs) (hfull : maxDevices ≤ s.devices.length) :
    ∃ mac, fabricateTurn vuln params st =
      some (.stop { st with session := s, usedMacs := insert mac st.usedMacs, rng := rng' }) := by
  obtain ⟨⟨mac, salt⟩, hmac⟩ := freshMac_isSome_of_salt hmac
  refine ⟨mac, ?_⟩
  unfold fabricateTurn
  rw [hchoose]
  dsimp only
  rw [hip]
  dsimp only
  rw [hprofile]
  dsimp only
  rw [hmac]
  dsimp only
  rw [addDevice_eq_none.mpr hfull]

/-- A call for one device more, turned away with the zones its only turn leaves. -/
theorem fabricate_fullPlant {zones zones' : List SubnetRecord} {rng rng' rng'' : Rng}
    {net : Ipv4Net} {ip : Ipv4Addr} {profile : DeviceProfile}
    (hchoose : chooseOrCreateSubnet (fullPlant zones) twoProtocolDb ⟨16, 3000, 24⟩
      {cabinetPlc.ip} rng = some (some net, fullPlant zones', rng'))
    (hip : nextFreeIn net {cabinetPlc.ip} = some ip)
    (hprofile : pickProfile twoProtocolDb ((zones'.find? fun z => decide (z.cidr = net)).bind
      SubnetRecord.vendor) rng' = some (profile, rng''))
    (hmac : MacLeft 41 profile ip {cabinetPlc.mac}) :
    fabricateFromTexts (fullPlant zones) twoProtocolDb ⟨16, 3000, 24⟩ 2001 rng =
      some (fullPlant zones', 0, rng'') := by
  have hinit : fabricateInit (fullPlant zones) rng =
      ⟨fullPlant zones, {cabinetPlc.ip}, {cabinetPlc.mac}, rng, 0⟩ := by
    rw [fabricateInit, usedIps_fullPlant, usedMacs_fullPlant]
  have hlength (zones : List SubnetRecord) : (fullPlant zones).devices.length = maxDevices :=
    List.length_replicate
  have hshort : (fullPlant zones).devices.length < min 2001 3000 := by
    rw [hlength]
    decide
  obtain ⟨mac, hturn⟩ := @fabricateTurn_refused twoProtocolDb ⟨16, 3000, 24⟩
    ⟨fullPlant zones, {cabinetPlc.ip}, {cabinetPlc.mac}, rng, 0⟩ net (fullPlant zones') rng' rng''
    ip profile hchoose hip hprofile hmac (Nat.le_of_eq (hlength zones').symm)
  rw [← hinit] at hturn
  have hdb : twoProtocolDb ≠ [] := by decide
  rw [fabricateFromTexts_eq]
  exact (fabricate_iff hdb).mpr ⟨_, .stopped hshort hturn, rfl⟩

/-- **At the hard cap each call creates a zone before it is turned away**, so that two calls
create two where one creates one. -/
theorem fabricate_twice_full :
    ¬ ∀ (vuln : VulnDb) (params : AllocParams) (s : Session) (rng : Rng) (a b : Nat), a ≤ b →
      ∀ (s₁ s₂ s' : Session) (n₁ n₂ n : Nat) (rng₁ rng₂ rng' : Rng),
        fabricateFromTexts s vuln params a rng = some (s₁, n₁, rng₁) →
        fabricateFromTexts s₁ vuln params b rng₁ = some (s₂, n₂, rng₂) →
        fabricateFromTexts s vuln params b rng = some (s', n, rng') →
          s₂.subnets = s'.subnets ∧ s₂.devices = s'.devices := by
  intro h
  have hfirst : fabricateFromTexts (fullPlant []) twoProtocolDb ⟨16, 3000, 24⟩ 2001 ⟨id, 0⟩ =
      some (fullPlant [modbusZone], 0, ⟨id, 3⟩) :=
    @fabricate_fullPlant [] [modbusZone] _ ⟨id, 2⟩ _ modbusZone.cidr (ipv4 10 0 0 2) _ rfl
      (by decide +kernel) rfl ⟨0, by decide +kernel⟩
  have hsecond : fabricateFromTexts (fullPlant [modbusZone]) twoProtocolDb ⟨16, 3000, 24⟩ 2001
      ⟨id, 3⟩ = some (fullPlant [modbusZone, s7Zone], 0, ⟨id, 6⟩) :=
    @fabricate_fullPlant [modbusZone] [modbusZone, s7Zone] _ ⟨id, 5⟩ _ s7Zone.cidr
      (ipv4 10 0 3 2) _ rfl (by decide +kernel) rfl ⟨0, by decide +kernel⟩
  have hzones := (h _ _ _ _ 2001 2001 (Nat.le_refl _) _ _ _ _ _ _ _ _ _ hfirst hsecond hfirst).1
  exact absurd (congrArg List.length hzones) (by decide)

end TurboLaser
