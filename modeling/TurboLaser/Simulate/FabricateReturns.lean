import TurboLaser.Simulate.FabricateRuns

/-!
# What `fabricate` returns (simulate/devices.rs)

`fabricate` is to return from every ledger: with as many devices as were asked for, or with a
reason why there are no more of them. Two guards stand for a database that has nothing to
fabricate from: `fabricate` returns at once where it is empty, and `create_zone` creates nothing
where no core profile has a carrier protocol. `pick_profile` has no such guard, and the zones of
the ledger may be older than the database.

- `Finished`: the target is reached, or no zone has room and none can be created, or the ledger
  holds all the devices it ever may;
- `fabricateTurn_infra`: with infrastructure profiles only, **a zone that has room makes the draw from
  an empty slice**;
- `fabricates_iff`: **`fabricate` returns a finished ledger exactly if** it has nothing to do, or a
  core profile to do it with and a MAC for every profile it draws.
-/

namespace TurboLaser

open Lib Relation

variable {vuln : VulnDb} {params : AllocParams}

/-- No further zone can be created, whatever is drawn. -/
def NoFurtherZone (vuln : VulnDb) (params : AllocParams) (s : Session) : Prop :=
  params.maxSubnets ≤ s.subnets.length ∨
    ∀ rng, ∃ rng', createZone s vuln params rng = some (none, s, rng')

/-- Why fabrication ends: the target, nothing left to fill, or the hard cap. -/
inductive Finished (vuln : VulnDb) (params : AllocParams) (target : Nat) (s : Session) : Prop
  | reached (hdone : min target params.maxDevices ≤ s.devices.length)
  | full (hroom : zonesWithRoom s s.usedIps = []) (hzone : NoFurtherZone vuln params s)
  | capped (hcap : maxDevices ≤ s.devices.length)

/-- `fabricate` returns, and leaves a finished ledger unless the database is empty. -/
def Returns (vuln : VulnDb) (params : AllocParams) (target : Nat) (s : Session) (rng : Rng) :
    Prop :=
  ∃ s' added rng', fabricate s vuln params target rng = some (s', added, rng') ∧
    (vuln ≠ [] → Finished vuln params target s')

/-- On the way to the target, every profile that is drawn has a MAC left. -/
def MacsLeft (vuln : VulnDb) (params : AllocParams) (target : Nat) (s : Session) (rng : Rng) :
    Prop :=
  ∀ st, ReflTransGen (FabNext vuln params target) (fabricateInit s rng) st →
    st.session.devices.length < target → ∀ profile ip, Drawn vuln params st profile ip →
      MacLeft st.session.seed profile ip st.usedMacs

/-! ## Databases without a core profile -/

/-- Every profile has one of the four carrier protocols. -/
theorem protocolsPresent_eq_nil_iff :
    protocolsPresent vuln = [] ↔ vuln.filter DeviceProfile.isCore = [] := by
  constructor
  · intro hprotos
    rw [List.filter_eq_nil_iff]
    intro p hp hcore
    have hany : (vuln.byProtocol p.protocol).any DeviceProfile.isCore = true :=
      List.any_eq_true.mpr ⟨p, List.mem_filter.mpr ⟨hp, decide_eq_true rfl⟩, hcore⟩
    refine List.filter_eq_nil_iff.mp hprotos p.protocol ?_ hany
    cases p.protocol <;> decide
  · intro hcore
    by_contra hprotos
    exact core_of_protocols hprotos hcore

theorem createZone_infra (hprotos : protocolsPresent vuln = []) (params : AllocParams)
    (s : Session) (rng : Rng) : ∃ rng', createZone s vuln params rng = some (none, s, rng') := by
  unfold createZone
  rw [hprotos]
  exact ⟨_, rfl⟩

/-- A zone with room is chosen, since none is created. -/
theorem choose_infra (hprotos : protocolsPresent vuln = []) (params : AllocParams) {s : Session}
    {used : Finset Ipv4Addr} (hroom : zonesWithRoom s used ≠ []) (rng : Rng) :
    ∃ net rng', chooseOrCreateSubnet s vuln params used rng = some (some net, s, rng') ∧
      (nextFreeIn net used).isSome := by
  have hpick : ∀ rng, ∃ net rng', pickZone (zonesWithRoom s used) s rng =
      some (some net, s, rng') ∧ (nextFreeIn net used).isSome := by
    intro rng
    obtain ⟨net, rng', hpick⟩ := pick_isSome hroom rng
    refine ⟨net, rng', ?_, (List.mem_filter.mp (Rng.mem_of_pick hpick)).2⟩
    rw [pickZone, if_neg hroom, hpick]
    rfl
  unfold chooseOrCreateSubnet
  dsimp only
  split
  · obtain ⟨rng', hcreate⟩ := createZone_infra hprotos params s
      (wantsZone s vuln params (zonesWithRoom s used) rng).2
    rw [hcreate]
    exact hpick rng'
  · exact hpick _

/-- **Without a core profile, a turn with a zone that has room draws from an empty slice.** -/
theorem fabricateTurn_infra (hprotos : protocolsPresent vuln = []) (params : AllocParams)
    {st : FabState} (hroom : zonesWithRoom st.session st.used ≠ []) :
    fabricateTurn vuln params st = none := by
  obtain ⟨net, rng', hchoose, hfree⟩ := choose_infra hprotos params hroom st.rng
  have hpick : ∀ vendor, pickProfile vuln vendor rng' = none := by
    intro vendor
    unfold pickProfile
    rw [protocolsPresent_eq_nil_iff.mp hprotos]
    rfl
  obtain ⟨ip, hip⟩ := Option.isSome_iff_exists.mp hfree
  unfold fabricateTurn
  rw [hchoose]
  dsimp only
  rw [hip]
  dsimp only
  rw [hpick]

/-- Without a core profile and without room, the loop stops at its first turn. -/
theorem fabRun_infra (hprotos : protocolsPresent vuln = []) {target : Nat} {s : Session}
    (hroom : zonesWithRoom s s.usedIps = []) (hshort : s.devices.length < target) (rng : Rng) :
    ∃ rng', FabRun vuln params target (fabricateInit s rng)
      { fabricateInit s rng with rng := rng' } := by
  obtain ⟨rng', hchoose⟩ := @chooseOrCreateSubnet_saturated s vuln params s.usedIps rng hroom
    (.inr hprotos)
  refine ⟨rng', .stopped hshort ?_⟩
  unfold fabricateTurn
  rw [show chooseOrCreateSubnet (fabricateInit s rng).session vuln params
    (fabricateInit s rng).used (fabricateInit s rng).rng = _ from hchoose]
  rfl

/-! ## What is left at the end -/

/-- An exhausted ledger gets no further zone. -/
theorem Exhausted.noFurtherZone (hprotos : protocolsPresent vuln ≠ []) {s : Session}
    (h : Exhausted params s) : NoFurtherZone vuln params s := by
  by_cases hcap : params.maxSubnets ≤ s.subnets.length
  · exact .inl hcap
  · right
    intro rng
    obtain ⟨-, -, profile, rng', -, hcreate⟩ := createZone_eq hprotos params s rng
    rw [addSubnet_of_stuck (Nat.not_le.mp hcap) h.2 rfl] at hcreate
    exact ⟨rng', hcreate⟩

/-- **A run leaves a finished ledger**, when there is a core profile. -/
theorem FabRun.finished (hprotos : protocolsPresent vuln ≠ []) {target : Nat} {s : Session}
    {rng : Rng} {st : FabState}
    (h : FabRun vuln params (min target params.maxDevices) (fabricateInit s rng) st) :
    Finished vuln params target st.session := by
  by_cases hdone : min target params.maxDevices ≤ st.session.devices.length
  · exact .reached hdone
  · by_cases hcap : maxDevices ≤ st.session.devices.length
    · exact .capped hcap
    · have hexhausted := h.exhausted hprotos (fabricating_init s rng) (Nat.not_le.mp hcap)
        (Nat.not_le.mp hdone)
      exact .full hexhausted.1 (hexhausted.noFurtherZone hprotos)

/-- With a core profile, `fabricate` returns exactly if no profile runs out of MACs. -/
theorem fabricates_iff_macsLeft (hcore : vuln.filter DeviceProfile.isCore ≠ []) {target : Nat}
    {s : Session} {rng : Rng} :
    Returns vuln params target s rng ↔
      MacsLeft vuln params (min target params.maxDevices) s rng := by
  have hprotos : protocolsPresent vuln ≠ [] := mt protocolsPresent_eq_nil_iff.mp hcore
  have hvuln : vuln ≠ [] := by
    rintro rfl
    exact hcore rfl
  have hturns := @FabRun.exists_iff vuln params (min target params.maxDevices) (fabricateInit s rng)
  constructor
  · rintro ⟨s', added, rng', hfab, -⟩ st hcomes hshort
    obtain ⟨st', hrun, -⟩ := (fabricate_iff hvuln).mp hfab
    exact (fabricateTurn_isSome_iff hprotos params st).mp (hturns.mp ⟨st', hrun⟩ st hcomes hshort)
  · intro hleft
    obtain ⟨st', hrun⟩ := hturns.mpr fun st hcomes hshort =>
      (fabricateTurn_isSome_iff hprotos params st).mpr (hleft st hcomes hshort)
    exact ⟨_, _, _, (fabricate_iff hvuln).mpr ⟨st', hrun, rfl⟩, fun _ => hrun.finished hprotos⟩

/-! ## Exactly when it returns -/

/-- **`fabricate` returns a finished ledger exactly if** the database is empty, or the target is
reached already, or no listed zone has room and there is no core profile to create one for, or
there is a core profile and the salt loop finds a MAC for each profile drawn. Below `2 ^ 24` capture
hosts and devices it always finds one. -/
theorem fabricates_iff (vuln : VulnDb) (params : AllocParams) (target : Nat) (s : Session)
    (rng : Rng) :
    (Returns vuln params target s rng ↔
      vuln = [] ∨ min target params.maxDevices ≤ s.devices.length ∨
        (vuln.filter DeviceProfile.isCore = [] ∧ zonesWithRoom s s.usedIps = []) ∨
        (vuln.filter DeviceProfile.isCore ≠ [] ∧
          MacsLeft vuln params (min target params.maxDevices) s rng)) ∧
      (s.captureHosts.length + min target params.maxDevices ≤ 2 ^ 24 →
        MacsLeft vuln params (min target params.maxDevices) s rng) := by
  refine ⟨?_, fun hfew st hcomes hshort profile ip _ =>
    macLeft_of_few (fabricating_init s rng) hfew hcomes hshort profile ip⟩
  by_cases hvuln : vuln = []
  · refine iff_of_true ⟨s, 0, rng, ?_, fun hne => absurd hvuln hne⟩ (.inl hvuln)
    rw [fabricate, if_pos hvuln]
  by_cases hdone : min target params.maxDevices ≤ s.devices.length
  · refine iff_of_true ⟨s, 0, rng, ?_, fun _ => .reached hdone⟩ (.inr (.inl hdone))
    exact (fabricate_iff hvuln).mpr ⟨fabricateInit s rng, .reached hdone, rfl⟩
  have hshort := Nat.not_le.mp hdone
  by_cases hcore : vuln.filter DeviceProfile.isCore = []
  · have hprotos := protocolsPresent_eq_nil_iff.mpr hcore
    -- without a core profile no zone can be created, so all depends on the listed ones
    by_cases hroom : zonesWithRoom s s.usedIps = []
    · refine iff_of_true ?_ (.inr (.inr (.inl ⟨hcore, hroom⟩)))
      obtain ⟨rng', hrun⟩ := @fabRun_infra vuln params hprotos _ s hroom hshort rng
      exact ⟨_, _, _, (fabricate_iff hvuln).mpr ⟨_, hrun, rfl⟩,
        fun _ => .full hroom (.inr (createZone_infra hprotos params s))⟩
    · -- the first turn fails, so there is no run
      refine iff_of_false ?_ ?_
      · rintro ⟨s', added, rng', hfab, -⟩
        obtain ⟨st, hrun, -⟩ := (fabricate_iff hvuln).mp hfab
        obtain ⟨t, hturn⟩ := FabRun.exists_iff.mp ⟨st, hrun⟩ (fabricateInit s rng) .refl hshort
        rw [fabricateTurn_infra hprotos params hroom] at hturn
        cases hturn
      · rintro (h | h | ⟨-, h⟩ | ⟨h, -⟩)
        · exact hvuln h
        · exact hdone h
        · exact hroom h
        · exact h hcore
  · rw [fabricates_iff_macsLeft hcore]
    constructor
    · exact fun hleft => .inr (.inr (.inr ⟨hcore, hleft⟩))
    · rintro (h | h | ⟨h, -⟩ | ⟨-, hleft⟩)
      · exact absurd h hvuln
      · exact absurd h hdone
      · exact absurd h hcore
      · exact hleft

/-- A database with a firewall profile only. -/
def firewallDb : VulnDb :=
  [{ vendor := "Fortinet", model := "FortiGate Rugged 60F", firmware := "7.0.1",
     protocol := .switchSnmp, purdueLevel := 3, oui := some "00:09:0F", cves := [],
     assetClass := some "Firewall" }]

/-- A ledger with one zone, and no device in it. -/
def settledZone : Session :=
  { Session.new 355 with
    subnets := [⟨Ipv4Net.slash24 (ipv4 10 1 2 0), "PLC-Siemens", 1, some "Siemens", none⟩] }

/-- `pick_profile` finds no core profile for the device of the zone. -/
theorem fabricate_firewalls_panics : fabricate settledZone firewallDb ⟨16, 2000, 24⟩ 1 ⟨fun _ => 0, 0⟩ =
      none ∧
    ¬ ∀ (vuln : VulnDb) (params : AllocParams) (target : Nat) (s : Session) (rng : Rng),
      8 ≤ params.defaultPrefix → params.defaultPrefix ≤ 30 →
        Returns vuln params target s rng := by
  have hnone : fabricate settledZone firewallDb ⟨16, 2000, 24⟩ 1 ⟨fun _ => 0, 0⟩ = none := by
    decide +kernel
  refine ⟨hnone, fun h => ?_⟩
  obtain ⟨s', added, rng', hfab, -⟩ :=
    h firewallDb ⟨16, 2000, 24⟩ 1 settledZone ⟨fun _ => 0, 0⟩ (by decide) (by decide)
  rw [hnone] at hfab
  cases hfab

/-- A database with a controller profile. -/
def controllerDb : VulnDb :=
  [{ vendor := "Siemens", model := "S7-1200", firmware := "4.2", protocol := .s7, purdueLevel := 1,
     oui := some "00:1B:1B", cves := [], assetClass := none }]

/-- The same ledger is filled from it, whatever is drawn. -/
theorem fabricates_controllers (rng : Rng) :
    Returns controllerDb ⟨16, 2000, 24⟩ 20 settledZone rng := by
  have hfab := fabricates_iff controllerDb ⟨16, 2000, 24⟩ 20 settledZone rng
  exact hfab.1.mpr (.inr (.inr (.inr ⟨by decide, hfab.2 (by decide)⟩)))

end TurboLaser
