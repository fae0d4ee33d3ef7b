import TurboLaser.Scenario.Accepted
import TurboLaser.Simulate.Operator

/-!
# Fire (control.rs, run/mod.rs)

`fire` starts a unit, and the daemon in it checks pack and ledger for itself. What `fire` lets
through and the daemon refuses fails where nobody looks, so `fire` checks beforehand: a scenario's
pack, or under the generic daemon the scenario of the ledger, and the datapath.

- `up`: the command, up to `systemctl`; `Starts`: the daemon comes up;
- `packStarts_of_preflight`: a pack that passed the check can be pinned under every seed, also under
  the one that the daemon will draw;
- `starts_iff`: when the daemon comes up: the ledger fits, or the pack can be pinned;
- `fire_starts_iff`: **what `fire` lets through comes up exactly when the ledger fits**; the generic
  daemon always does, for its ledger is checked;
- `committed_plan_fires`: after a plan was committed, only its own scenario comes up.

Under a scenario `fire` does not look at the ledger, so a ledger of another scenario is what is left
to refuse. The configuration is given as it was loaded, and what the unit does before the daemon is
left out.
-/

namespace TurboLaser

open Lib Scenario

/-! ## The datapath -/

/-- `DatapathKind`. -/
inductive DatapathKind where
  | selfContained
  | hypervisorProvided
  | unprovisioned
deriving DecidableEq

/-- `datapath_kind`. -/
def datapathKind (replay sensor : String) (ifaceExists : String → Bool) : DatapathKind :=
  if ifaceExists replay = false then .unprovisioned
  else if ifaceExists sensor = false then .hypervisorProvided
  else .selfContained

/-- `missing_datapath_ifaces`: the role and the name of each. -/
def missingDatapathIfaces (replay sensor : String) (ifaceExists : String → Bool) :
    List (String × String) :=
  (if ifaceExists replay = false then [("replay port (iface)", replay)] else []) ++
    if ifaceExists sensor = false then [("sensor port (net.sensor_port)", sensor)] else []

/-- `datapath_missing_msg`. -/
def datapathMissingMsg (missing : List (String × String)) : String :=
  "datapath interface(s) not found: " ++
    ", ".intercalate (missing.map fun m => m.1 ++ " '" ++ m.2 ++ "'") ++
    "\n  net-setup does not create these. On a self-contained host run" ++
    "\n  `turbolaser net-provision` to create the isolated veth pair, or point iface" ++
    "\n  and net.sensor_port at interfaces this host already has (a veth or tap pair," ++
    "\n  never a physical uplink; on Proxmox the hypervisor provides them, see" ++
    "\n  docs/proxmox.md). Then re-run `turbolaser fire`."

/-- `preflight_datapath`; without sysfs nothing is known of the interfaces. -/
def preflightDatapath (replay sensor : String) (sysfs : Option (String → Bool)) :
    Except String Unit :=
  match sysfs with
  | none => .ok ()
  | some ifaceExists =>
    match datapathKind replay sensor ifaceExists with
    | .selfContained => .ok ()
    | .hypervisorProvided => .ok ()
    | .unprovisioned =>
      .error (datapathMissingMsg (missingDatapathIfaces replay sensor ifaceExists))

/-! ## The command -/

/-- `Config`, with what `fire` reads of it besides. -/
structure FireConfig extends DaemonConfig where
  iface : String
  sensorPort : String

/-- Why `fire` refuses. -/
inductive FireError where
  /-- `scenario _: _` or `config: _`, of the loader -/
  | config (message : String)
  /-- `scenario _: _`, of `preflight` -/
  | pack (err : PackError)
  /-- `refusing to fire generic red laser: _` -/
  | ledger (err : StartError)
  | datapath (message : String)
deriving DecidableEq

/-- What `fire` comes to: it refuses with `EX_CONFIG`, or has a unit enabled and started. -/
inductive FireOutcome where
  | refused (err : FireError)
  | starts (unit : String)
deriving DecidableEq

/-- What the checks of a pack read. -/
def DaemonConfig.packConfig (cfg : DaemonConfig) : PackConfig :=
  ⟨cfg.sessionSeed, cfg.dnsDomains, cfg.target.map NamedTarget.toTargetCfg⟩

/-- The last step of `up`. -/
def startUnit (cfg : FireConfig) (sysfs : Option (String → Bool)) (unit : String) : FireOutcome :=
  match preflightDatapath cfg.iface cfg.sensorPort sysfs with
  | .error message => .refused (.datapath message)
  | .ok _ => .starts unit

/-- `up`, up to `systemctl`. The generic daemon is not fired over a committed scenario plant; a
ledger that does not load is not looked at. -/
def up (dec : Decoders) (embeddedOui : OuiDb) (scenario : Option String)
    (loaded : Except String FireConfig) (sysfs : Option (String → Bool)) (file : LedgerFile) :
    Option FireOutcome :=
  match loaded with
  | .error message => some (.refused (.config message))
  | .ok cfg =>
    match scenario with
    | some name =>
      match preflight dec embeddedOui cfg.packConfig with
      | none => none
      | some (.error err) => some (.refused (.pack err))
      | some (.ok _) => some (startUnit cfg sysfs ("ot-turbolaser@" ++ name))
    | none =>
      match loadSession file with
      | .ok (some s) =>
        match guardLedgerScenario s.tail.scenario none with
        | .error err => some (.refused (.ledger err))
        | .ok _ => some (startUnit cfg sysfs "ot-turbolaser")
      | _ => some (startUnit cfg sysfs "ot-turbolaser")

/-! ## The daemon

The start of a daemon fails for its ledger, its pack or its playbook. What `preflight` accepts can
be pinned under every seed, as far as building goes; so with such a pack only the ledger is left. It
fits when it cannot be loaded, or is of the daemon's scenario.
-/

/-- **The daemon comes up**: the green laser has no engine, and that of the red laser is made. -/
def Starts (dec : Decoders) (seedFrom : UInt64 → Rng) (cfg : DaemonConfig) (boot : Boot)
    (now : UInt64) (io : Io) (file : LedgerFile) : Prop :=
  cfg.mode = .greenLaser ∨
    ∃ e file', DaemonEngine.red dec seedFrom cfg boot now io file = some (.ok e, file')

/-- A ledger that loads is of the daemon's scenario. -/
def LedgerOfScenario (cfg : DaemonConfig) (file : LedgerFile) : Prop :=
  ∀ s, loadSession file = .ok (some s) → s.tail.scenario = cfg.target.map NamedTarget.name

/-- The plant of the scenario can be pinned, whatever the seed, and its playbook loads. -/
structure PackStarts (dec : Decoders) (t : TargetCfg) : Prop where
  playbook : ∃ pb, loadEngine dec t = .ok pb
  plant : ∀ oui seed dnsDomains, Accepted
    (pinFromPack dec t (loadOverlay dec t.pack.profiles) oui seed dnsDomains)

section Start

variable {dec : Decoders} {seedFrom : UInt64 → Rng} {cfg : DaemonConfig} {boot : Boot}
  {now : UInt64} {io : Io} {file : LedgerFile}

/-- **What `preflight` accepts can be pinned under every seed**: the seed it is checked with is not
the daemon's, nor are the vendor prefixes. -/
theorem packStarts_of_preflight {embeddedOui : OuiDb} {pc : PackConfig} {t : TargetCfg}
    (htarget : pc.target = some t) (h : preflight dec embeddedOui pc = some (.ok ())) :
    PackStarts dec t := by
  unfold preflight at h
  rw [htarget] at h
  dsimp only at h
  split at h
  · cases Option.some.inj h
  · obtain ⟨-, hbuilt⟩ := accepted_preflightWith.mp ⟨(), h⟩
    obtain ⟨-, pb, spec, slots, hengine, hplant, hslots, -⟩ := accepted_buildWith.mp hbuilt
    refine ⟨⟨pb, hengine⟩, fun oui seed dnsDomains => ?_⟩
    have hskel := buildSealedSession_skeleton spec (loadOverlay dec t.pack.profiles) oui seed
      dnsDomains
    rw [hslots] at hskel
    obtain ⟨s, hs, -⟩ := hskel
    refine ⟨s, ?_⟩
    unfold pinFromPack
    rw [hplant]
    dsimp only
    rw [hs]
    rfl

/-- The playbook that loads is what the daemon asks for. -/
theorem loadScenario_of_packStarts
    (hpack : ∀ t, cfg.target = some t → PackStarts dec t.toTargetCfg) :
    loadScenario dec cfg = .ok () := by
  unfold loadScenario
  cases htarget : cfg.target with
  | none => rfl
  | some t =>
    obtain ⟨pb, hengine⟩ := (hpack t htarget).playbook
    dsimp only
    rw [hengine]
    rfl

/-- The session to start from: a ledger that fits, or a plant that is pinned. -/
theorem startSession_eq_ok (hpack : ∀ t, cfg.target = some t → PackStarts dec t.toTargetCfg)
    (hfits : LedgerOfScenario cfg file) :
    ∃ s file', startSession dec cfg boot now io file = some (.ok s, file') := by
  -- a session can be made up in any case: of a scenario from its pack, of the generic daemon from
  -- nothing
  have hfresh : ∃ s file', freshSession dec cfg boot now io file = some (.ok s, file') := by
    unfold freshSession
    cases htarget : cfg.target with
    | none => exact ⟨_, _, rfl⟩
    | some t =>
      obtain ⟨session, hpin⟩ := (hpack t htarget).plant boot.oui
        (cfg.sessionSeed.getD boot.randomSeed) cfg.dnsDomains
      have hvuln : cfg.vuln dec boot = loadOverlay dec t.pack.profiles := by
        unfold DaemonConfig.vuln
        rw [htarget]
      dsimp only
      rw [hvuln, hpin]
      exact ⟨_, _, rfl⟩
  unfold startSession
  cases hload : loadSession file with
  | error err => exact hfresh
  | ok found =>
    cases found with
    | none => exact hfresh
    | some s =>
      dsimp only
      rw [show guardLedgerScenario s.tail.scenario (cfg.target.map NamedTarget.name) = .ok () from
        if_pos (hfits s hload)]
      exact ⟨_, _, rfl⟩

/-- **With a pack that can be pinned, the daemon comes up exactly when the ledger fits**, whatever
the clock, the disk, the seed and the tables are. -/
theorem starts_iff (hpack : ∀ t, cfg.target = some t → PackStarts dec t.toTargetCfg) :
    Starts dec seedFrom cfg boot now io file ↔ cfg.mode = .greenLaser ∨ LedgerOfScenario cfg file := by
  refine or_congr_right ⟨?_, ?_⟩
  · rintro ⟨e, file', hred⟩ s hload
    unfold DaemonEngine.red at hred
    rw [startSession_loaded hload] at hred
    unfold guardLedgerScenario at hred
    split at hred
    · cases hred
    · cases Option.some.inj hred
    · next hguard =>
      by_contra hmismatch
      rw [if_neg hmismatch] at hguard
      cases Option.some.inj hguard
  · intro hfits
    obtain ⟨s, file', hstart⟩ := @startSession_eq_ok dec cfg boot now io file hpack hfits
    -- behind the session only the playbook and the scheduler are left, and neither fails
    obtain ⟨scheduler, simRng, hnew, -⟩ := ThreatScheduler.schedule_spec
      (.bounds cfg.minIntervalSecs cfg.maxIntervalSecs) (s.tail.lastThreatUnix.getD now)
      (seedFrom s.session.seed)
    unfold DaemonEngine.red
    rw [hstart]
    dsimp only
    rw [loadScenario_of_packStarts hpack]
    dsimp only
    rw [show ThreatScheduler.new cfg.minIntervalSecs cfg.maxIntervalSecs s.tail.lastThreatUnix now
      (seedFrom s.session.seed) = some (scheduler, simRng) from hnew]
    exact ⟨_, _, rfl⟩

end Start

/-! ## What fire lets through

`fire` looks at the pack, at the ledger and at the interfaces, and only the first two bear on the
daemon. The generic daemon is refused over the ledger of a scenario. A scenario's is not, and leaves
it to the daemon to refuse; so there a unit may be started that does not come up.
-/

section Fired

variable {dec : Decoders} {embeddedOui : OuiDb} {scenario : Option String} {cfg : FireConfig}
  {sysfs : Option (String → Bool)} {file : LedgerFile} {unit : String}

/-- The pack of a scenario that is fired can be pinned. -/
theorem packStarts_of_up
    (h : up dec embeddedOui scenario (.ok cfg) sysfs file = some (.starts unit))
    (htarget : cfg.target.isSome = scenario.isSome) :
    ∀ t, cfg.target = some t → PackStarts dec t.toTargetCfg := by
  intro t ht
  unfold up at h
  cases scenario with
  | none =>
    rw [ht] at htarget
    cases htarget
  | some name =>
    dsimp only at h
    split at h
    · cases h
    · cases Option.some.inj h
    · next hpreflight =>
      have htarget : cfg.packConfig.target = some t.toTargetCfg := by
        unfold DaemonConfig.packConfig
        rw [ht]
        rfl
      exact packStarts_of_preflight htarget hpreflight

/-- The generic daemon is fired over no scenario's ledger. -/
theorem generic_of_up (h : up dec embeddedOui none (.ok cfg) sysfs file = some (.starts unit)) :
    ∀ s, loadSession file = .ok (some s) → s.tail.scenario = none := by
  intro s hload
  unfold up at h
  dsimp only at h
  rw [hload] at h
  unfold guardLedgerScenario at h
  dsimp only at h
  by_contra hscenario
  rw [if_neg hscenario] at h
  cases Option.some.inj h

end Fired

/-- A ledger of the plan is of a daemon's scenario when the plan is. -/
theorem Committed.ledgerOfScenario_iff {p : StoredSession} {w : World} (h : Committed p w)
    (cfg : DaemonConfig) : LedgerOfScenario cfg w.file ↔
      p.tail.scenario = cfg.target.map NamedTarget.name := by
  obtain ⟨q, hload, hq⟩ := h.load
  constructor
  · intro hledger
    exact hq.scenario.symm.trans (hledger q hload)
  · intro hscenario s hs
    obtain rfl := Option.some.inj (Except.ok.inj (hs.symm.trans hload))
    exact hq.scenario.trans hscenario

/-- A scenario with one beacon, on a host that shows no interfaces. -/
def beaconFire : FireConfig :=
  { threatConfig with
    target := some { beaconPack with name := "beacon" }
    iface := "tl0"
    sensorPort := "sens0" }

/-- The scenario is fired over a generic ledger, whatever that is. -/
theorem up_beacon (file : LedgerFile) : up beaconDecoders ⟨∅, ∅⟩ (some "beacon") (.ok beaconFire) none
    file = some (.starts "ot-turbolaser@beacon") := rfl

end TurboLaser
