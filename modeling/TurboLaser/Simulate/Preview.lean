import TurboLaser.Simulate.Batches
import TurboLaser.Simulate.CappedRuns

/-!
# The preview and the daemon (simulate/mod.rs, simulate/engine.rs)

`cmd_plan` fabricates a plant in one go, from a generator of the session seed. The daemon seeds its
generator alike, but its scheduler draws from it first, and it goes on past ten zones.

What it takes for a preview to be right is said for all profiles and generators at once: for some of
them two different runs may well come to the same plant. The conditions are then on the
configuration, and can be checked before anything is fabricated.

- `PreviewsDaemon`: the plan of `n` devices is what the daemon's ticks come to begin with: its zones
  in order, and its devices with their addresses, MACs and models. Names are left out, for the two
  sides name at different moments;
- `PreviewHolds`: fabrication is on, the scheduler has nothing to draw, and ten zones are as good as
  the cap;
- `OneShot.begins`: a run for fewer devices is the beginning of one for more;
- `previews_of_holds`: **then the preview is what the daemon fabricates**. That each condition is
  needed is shown in the next module.
-/

namespace TurboLaser

open Lib Scenario

/-! ## The two sides -/

/-- The `AllocParams` of a configuration. -/
def DaemonConfig.allocParams (cfg : DaemonConfig) : AllocParams :=
  { maxSubnets := effectiveSubnetCap cfg.zones.maxSubnets
    maxDevices := effectiveDeviceCap cfg.synthesis.maxDevices
    defaultPrefix := cfg.zones.defaultPrefix }

/-- `cmd_plan` without a scenario, up to its fabrication step: the error it exits with, or what
`fabricate` returns. -/
def planFabricate (seedFrom : UInt64 → Rng) (cfg : DaemonConfig) (boot : Boot) (n : Nat) :
    Except String (Option (Session × Nat × Rng)) :=
  if boot.vuln = [] then .error "no vulnerable-device profiles available"
  else
    let seed := cfg.sessionSeed.getD boot.randomSeed
    .ok (fabricate (Session.new seed) boot.vuln cfg.allocParams.fabParams n (seedFrom seed))

/-- What a zone is, apart from its name. -/
def SubnetRecord.shape (z : SubnetRecord) : Ipv4Net × Option String × Nat :=
  (z.cidr, z.vendor, z.purdueLevel)

/-- What a device is on the wire. -/
def DeviceRecord.shape (d : DeviceRecord) : Ipv4Addr × Mac × String := (d.ip, d.mac, d.model)

/-- The zones of a plan are the first ones of a ledger, and its devices the first `n`. -/
structure Previews (plan ledger : Session) (n : Nat) : Prop where
  zones : plan.subnets.map SubnetRecord.shape <+: ledger.subnets.map SubnetRecord.shape
  devices : plan.devices.map DeviceRecord.shape =
    (ledger.devices.map DeviceRecord.shape).take n

/-- **The preview is what the daemon fabricates**: whatever the profiles, the generator and the
ticks are, once there have been enough of them. -/
def PreviewsDaemon (cfg : DaemonConfig) : Prop :=
  ∀ (dec : Decoders) (seedFrom : UInt64 → Rng) (boot : Boot) (now : UInt64) (io : Io) (n : Nat),
    boot.vuln ≠ [] → n ≤ effectiveDeviceCap cfg.synthesis.maxDevices →
    ∃ plan added rng e file k,
      planFabricate seedFrom cfg boot n = .ok (some (plan, added, rng)) ∧
      DaemonEngine.red dec seedFrom cfg boot now io .missing = some (.ok e, file) ∧
      ∀ ticks, k ≤ ticks.length → ∃ e' file', runTicks (e, file) ticks = some (e', file') ∧
        Previews plan e'.core.ledger n

/-- The scheduler has one interval to choose from. -/
def DaemonConfig.NoDraw (cfg : DaemonConfig) : Prop :=
  cfg.maxIntervalSecs ≤ cfg.minIntervalSecs ∨ cfg.maxIntervalSecs ≤ threatFloorSecs

instance (cfg : DaemonConfig) : Decidable cfg.NoDraw := inferInstanceAs (Decidable (_ ∨ _))

/-- Ten zones are as good as the cap: it is no higher, or there are no more devices than that, or
no more networks, or no network has room for a device. -/
def AllocParams.TenZones (params : AllocParams) : Prop :=
  params.maxSubnets ≤ 10 ∨ params.maxDevices ≤ 10 ∨ params.defaultPrefix ≤ 11 ∨
    30 ≤ params.defaultPrefix

instance (params : AllocParams) : Decidable params.TenZones :=
  inferInstanceAs (Decidable (_ ∨ _ ∨ _ ∨ _))

/-- When the preview holds. -/
structure PreviewHolds (cfg : DaemonConfig) : Prop where
  enabled : cfg.synthesis.enabled = true
  identity : cfg.synthesis.deviceIdentity = true
  noDraw : cfg.NoDraw
  tenZones : cfg.allocParams.TenZones

/-! ## Starting the daemon -/

/-- The generator once the scheduler has drawn. -/
def DaemonConfig.startRng (cfg : DaemonConfig) (rng : Rng) : Rng :=
  if cfg.NoDraw then rng else rng.advance

theorem noDraw_iff {cfg : DaemonConfig} : cfg.NoDraw ↔
    (ThreatScheduler.bounds cfg.minIntervalSecs cfg.maxIntervalSecs).max =
      (ThreatScheduler.bounds cfg.minIntervalSecs cfg.maxIntervalSecs).min := by
  unfold DaemonConfig.NoDraw ThreatScheduler.bounds
  dsimp only
  -- the bounds agree unless the larger one is above both the smaller one and the floor
  have hle : ∀ a b : UInt64, a ≤ b ↔ a.toNat ≤ b.toNat := fun _ _ => UInt64.le_iff_toNat_le
  rw [← UInt64.toNat_inj, hle, hle]
  split <;> split <;> rename_i hmin hmax <;> rw [hle] at hmin hmax <;> omega

/-- **A generic daemon starts** from a new session, with a generator its scheduler may have drawn
from. -/
theorem red_generic {cfg : DaemonConfig} {seed : UInt64} (htarget : cfg.target = none)
    (hseed : cfg.sessionSeed = some seed) (dec : Decoders) (seedFrom : UInt64 → Rng) (boot : Boot)
    (now : UInt64) (io : Io) :
    ∃ e, DaemonEngine.red dec seedFrom cfg boot now io .missing = some (.ok e, .missing) ∧
      e.core = { SimulatorEngine.red cfg.toConfig boot.vuln boot.oui (Session.new seed) with
        cache := boot.spill } ∧
      e.simRng = cfg.startRng (seedFrom seed) := by
  have hstart : startSession dec cfg boot now io .missing =
      some (.ok (StoredSession.new seed now), .missing) := by
    unfold startSession loadSession freshSession
    rw [htarget, hseed]
    rfl
  have hload : loadScenario dec cfg = .ok () := by
    unfold loadScenario
    rw [htarget]
  have hvuln : cfg.vuln dec boot = boot.vuln := by
    unfold DaemonConfig.vuln
    rw [htarget]
  obtain ⟨scheduler, rng, hnew, -⟩ := ThreatScheduler.schedule_spec
    (.bounds cfg.minIntervalSecs cfg.maxIntervalSecs) now (seedFrom seed)
  -- all that the scheduler does to the generator is to draw once, or not at all
  have hrng : rng = cfg.startRng (seedFrom seed) := by
    rw [ThreatScheduler.rng_of_schedule hnew, DaemonConfig.startRng]
    exact if_congr noDraw_iff.symm rfl rfl
  unfold DaemonEngine.red
  rw [hstart]
  dsimp only
  rw [hload]
  dsimp only
  rw [show ThreatScheduler.new cfg.minIntervalSecs cfg.maxIntervalSecs
    (StoredSession.new seed now).tail.lastThreatUnix now
    (seedFrom (StoredSession.new seed now).session.seed) = some (scheduler, rng) from hnew, hvuln]
  exact ⟨_, rfl, rfl, hrng⟩

/-! ## When the preview holds

The plan fabricates all devices at once, the daemon in batches, over many ticks. Both are runs of
one loop from one generator, when the scheduler has drawn nothing before. The plan stops at ten
zones and the daemon at its cap; where that makes no difference, the shorter run is the beginning of
the longer.
-/

section Sufficient

variable {vuln : VulnDb} {params : AllocParams} {seed : UInt64} {rng : Rng}

/-- **What is fabricated for fewer devices comes first.** -/
theorem OneShot.begins {n target : Nat} {st st' : FabState} (hle : n ≤ target)
    (h : OneShot vuln params seed rng n st) (h' : OneShot vuln params seed rng target st') :
    st.session.subnets <+: st'.session.subnets ∧
      st.session.devices = st'.session.devices.take n := by
  rcases FabRun.merge hle h h' with ⟨hdone, hrest⟩ | ⟨hmissed, rfl⟩
  · have hlen : st.session.devices.length = n := Nat.le_antisymm h.length_le hdone
    refine ⟨hrest.begins.subnets, ?_⟩
    rw [← hlen]
    exact List.prefix_iff_eq_take.mp hrest.begins.devices
  · exact ⟨List.prefix_rfl, (List.take_of_length_le (Nat.le_of_lt hmissed)).symm⟩

/-- **Where ten zones are as good as the cap, the two caps lead to the same devices**, and to
zones that begin alike. -/
theorem OneShot.capped (hten : params.TenZones) {n : Nat} (hn : n ≤ params.maxDevices)
    {st st' : FabState} (h : OneShot vuln params.fabParams seed rng n st)
    (h' : OneShot vuln params seed rng n st') :
    st.session.subnets <+: st'.session.subnets ∧ st.session.devices = st'.session.devices := by
  by_cases hcap : params.maxSubnets ≤ 10
  · rw [fabParams_of_le hcap] at h
    rw [FabRun.deterministic h h']
    exact ⟨List.prefix_rfl, rfl⟩
  have hmore : 10 ≤ params.maxSubnets := Nat.le_of_not_le hcap
  -- no device finds room in such zones, on either side
  by_cases hslash : 30 ≤ params.defaultPrefix
  · have hdevices := (fromNew_init params.fabParams seed rng).no_devices hslash h
    have hdevices' := (fromNew_init params seed rng).no_devices hslash h'
    refine ⟨?_, hdevices.trans hdevices'.symm⟩
    rcases FabRun.capped (P := fun _ => True) hmore (fun _ _ => trivial) trivial h h' with
      rfl | ⟨hzones, -⟩
    · exact List.prefix_rfl
    · exact hzones
  · have hsame : st = st' := by
      rcases FabRun.capped
          (P := fun m => FromNew params seed m ∧
            m.session.subnets.length ≤ m.session.devices.length)
          hmore (fun hm hturn => ⟨hm.1.next hturn, hm.1.zones_le (by omega) hm.2 hturn⟩)
          ⟨fromNew_init params seed rng, Nat.le_refl _⟩ h h' with
        hsame | ⟨-, m, ⟨hm, hzones⟩, hshort, hfull⟩
      · exact hsame
      · -- ten zones need ten devices, or more networks than there are
        have hcount := hm.length_le
        rcases hten with hten | hten | hten | hten
        · omega
        · omega
        · have hclamp : clampPrefix params.defaultPrefix - 8 ≤ 3 := by
            unfold clampPrefix
            omega
          have hfew : candidateCount params.defaultPrefix ≤ 8 :=
            Nat.pow_le_pow_right (by decide) hclamp
          omega
        · omega
    rw [hsame]
    exact ⟨List.prefix_rfl, rfl⟩

/-- The ledger of a batched engine is that of one run, but for names. -/
theorem Batched.oneShot {target : Nat} {e : DaemonEngine}
    (h : Batched vuln params seed rng target e) :
    ∃ st, OneShot vuln params seed rng target st ∧ SameWire st.session e.core.ledger := by
  cases h with
  | growing hrun _ hledger _ => exact ⟨_, hrun, hledger ▸ .refl _⟩
  | settled hrun hwire _ => exact ⟨_, hrun, hwire⟩

theorem effectiveCap_le {hard default : Nat} (hdefault : default ≤ hard) (hpos : 1 ≤ hard)
    (configured : Option Nat) : effectiveCap hard default configured ≤ hard := by
  unfold effectiveCap
  cases configured with
  | none => exact Nat.max_le.mpr ⟨hdefault, hpos⟩
  | some c => exact Nat.max_le.mpr ⟨Nat.min_le_right _ _, hpos⟩

/-- A daemon that fabricates is at the start of its run. -/
theorem batched_start {cfg : DaemonConfig} {boot : Boot} {e : DaemonEngine}
    (hcore : e.core = { SimulatorEngine.red cfg.toConfig boot.vuln boot.oui (Session.new seed) with
      cache := boot.spill })
    (hrng : e.simRng = rng) (enabled : cfg.synthesis.enabled = true)
    (identity : cfg.synthesis.deviceIdentity = true) :
    Fabricates boot.vuln cfg.allocParams e ∧
      Batched boot.vuln cfg.allocParams seed rng (min 0 cfg.allocParams.maxDevices) e := by
  constructor
  · constructor <;> rw [hcore]
    · rfl
    · rfl
    · exact enabled
    · exact identity
    · rfl
  · rw [Nat.zero_min]
    refine .growing (.reached (Nat.zero_le _)) (Nat.zero_le _) ?_ hrng
    rw [hcore]
    rfl

end Sufficient

/-- **The preview holds** under these conditions. -/
theorem previews_of_holds {cfg : DaemonConfig} {seed : UInt64} (htarget : cfg.target = none)
    (hseed : cfg.sessionSeed = some seed) (h : PreviewHolds cfg) : PreviewsDaemon cfg := by
  intro dec seedFrom boot now io n hvuln hn
  have hhard : cfg.allocParams.maxDevices ≤ maxDevices :=
    effectiveCap_le (Nat.le_refl _) (by decide) _
  obtain ⟨e, hred, hcore, hrng⟩ := red_generic htarget hseed dec seedFrom boot now io
  rw [DaemonConfig.startRng, if_pos h.noDraw] at hrng
  obtain ⟨he, hbatched⟩ := batched_start hcore hrng h.enabled h.identity
  obtain ⟨st, hplan⟩ := OneShot.exists boot.vuln cfg.allocParams.fabParams seed (seedFrom seed)
    (hn.trans hhard)
  have hfab : planFabricate seedFrom cfg boot n =
      .ok (some (st.session, st.added, st.rng)) := by
    unfold planFabricate
    rw [if_neg hvuln, hseed]
    refine congrArg _ ((fabricate_iff hvuln).mpr ⟨st, ?_, rfl⟩)
    rwa [show min n cfg.allocParams.fabParams.maxDevices = n from Nat.min_eq_left hn]
  refine ⟨_, _, _, e, _, n, hfab, hred, fun ticks hticks => ?_⟩
  obtain ⟨e', file', hrun, hbatched'⟩ := batched_of_ticks hvuln hhard he hbatched .missing ticks
  obtain ⟨last, hlast, hwire⟩ := hbatched'.oneShot
  obtain ⟨mid, hmid⟩ := OneShot.exists boot.vuln cfg.allocParams seed (seedFrom seed)
    (hn.trans hhard)
  -- the plan, one run of the daemon for as many devices, and all of its ticks
  have hle : n ≤ min (0 + fabricateBatch * ticks.length) cfg.allocParams.maxDevices := by
    refine Nat.le_min.mpr ⟨?_, hn⟩
    have hone : 1 * ticks.length ≤ fabricateBatch * ticks.length :=
      Nat.mul_le_mul_right _ (by decide)
    omega
  obtain ⟨hzones, hdevices⟩ := hplan.capped h.tenZones hn hmid
  obtain ⟨hzones', hdevices'⟩ := OneShot.begins hle hmid hlast
  refine ⟨e', file', hrun, ?_, ?_⟩
  · have hshapes : e'.core.ledger.subnets.map SubnetRecord.shape =
        last.session.subnets.map SubnetRecord.shape := hwire.zones
    rw [hshapes]
    exact (hzones.trans hzones').map _
  · rw [hdevices, hdevices', hwire.devices, List.map_take]

end TurboLaser
