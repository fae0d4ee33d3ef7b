import TurboLaser.Simulate.EngineFacts

/-!
# The asset cap

The wire shows devices and registered capture hosts. Registration stops at the asset cap;
fabrication stops at the device cap and does not look at the asset cap at all. The documentation has
the asset cap bound both.

A run mixes ticks and remaps, so how many hosts are registered when a tick fabricates is not known
beforehand; that is why the condition on a run is on the state each tick finds (`FitsCap`).

- `Ticked.totalWireAssets_le`: a tick adds devices only, and at most up to its target;
- `totalWireAssets_registerAssets`: registration does look at the cap;
- `asset_cap_kept`: the total stays within the asset cap when every tick either has nothing to
  fabricate or aims below what the registered hosts leave of the cap;
- `asset_cap_exceeded`: one tick of a new session, with a device cap above the asset cap, already
  goes past it.
-/

namespace TurboLaser

open Lib

/-- Registration never goes past the cap. -/
theorem totalWireAssets_registerAssets (s : Session) (assets : List NewCaptureAsset) (cap : Nat)
    (h : s.totalWireAssets ≤ cap) : (registerAssets s assets cap).totalWireAssets ≤ cap := by
  induction assets generalizing s with
  | nil => exact h
  | cons a assets ih =>
    refine ih _ ?_
    dsimp only
    cases hreg : s.registerCaptureHost a.record cap with
    | none => exact h
    | some s' =>
      obtain ⟨hroom, -, rfl⟩ := registerCaptureHost_eq_some.mp hreg
      show s.devices.length + (s.captureHosts ++ [a.record]).length ≤ cap
      unfold Session.totalWireAssets at hroom
      rw [List.length_append, List.length_singleton]
      omega

/-- A tick fits when it is off or idle, or when its target and the registered hosts fit the
asset cap together. -/
def FitsCap (cfg : Config) (e : SimulatorEngine) : EngineOp → Prop
  | .redTick _ _ => e.synthEnabled = false ∨ Idle e ∨
      min (e.ledger.devices.length + fabricateBatch) e.params.maxDevices +
        e.ledger.captureHosts.length ≤ effectiveAssetCap cfg.synthesis.maxAssets
  | .remap _ _ _ => True

instance (cfg : Config) (e : SimulatorEngine) (op : EngineOp) : Decidable (FitsCap cfg e op) :=
  match op with
  | .redTick _ _ => inferInstanceAs (Decidable (_ ∨ _ ∨ _))
  | .remap _ _ _ => .isTrue trivial

/-- What a tick that fits leaves is within the cap. -/
theorem Ticked.totalWireAssets_le {cfg : Config} {e e' : SimulatorEngine} (h : Ticked e e')
    {run : Nat} {rng : Rng} (hfits : FitsCap cfg e (.redTick run rng))
    (hcap : e.ledger.totalWireAssets ≤ effectiveAssetCap cfg.synthesis.maxAssets) :
    e'.ledger.totalWireAssets ≤ effectiveAssetCap cfg.synthesis.maxAssets := by
  have hsame : ∀ {s s' : Session}, SameWire s s' → s'.totalWireAssets = s.totalWireAssets := by
    intro s s' hwire
    rw [Session.totalWireAssets, Session.totalWireAssets, hwire.devices, hwire.captureHosts]
  obtain hoff | hidle | hroom := hfits
  · rw [hsame (h.idle (Or.inl hoff))]
    exact hcap
  · rw [hsame (h.idle (Or.inr hidle))]
    exact hcap
  · obtain ⟨s, -, hfab, hnamed⟩ := h.grown
    have hdevices := hfab.devices_le
    rw [hsame hnamed, Session.totalWireAssets, hfab.captureHosts]
    unfold Session.totalWireAssets at hcap
    omega

/-- A call that fits keeps the cap. -/
theorem EngineOp.keeps_cap {seedFrom : UInt64 → Rng} {cfg : Config} {e e' : SimulatorEngine}
    {op : EngineOp} (hcap : e.ledger.totalWireAssets ≤ effectiveAssetCap cfg.synthesis.maxAssets)
    (hfits : FitsCap cfg e op) (h : op.apply seedFrom cfg e = some e') :
    e'.ledger.totalWireAssets ≤ effectiveAssetCap cfg.synthesis.maxAssets := by
  cases op with
  | redTick run rng => exact (redTick_cases h).totalWireAssets_le hfits hcap
  | remap src order evicted =>
    obtain ⟨⟨r, e₁⟩, hremap, rfl⟩ := Option.map_eq_some_iff.mp h
    cases remapIntoSession_cases hremap with
    | failed => exact hcap
    | hit hcached => exact hcap
    | wrote hmiss hcontent hunder hledger =>
      subst hledger
      exact totalWireAssets_registerAssets _ _ _ hcap

/-- **The asset cap holds in every state of a run whose ticks fit.** A remap never breaks it, as the
reconcile stops at it; so the condition is on ticks only, and on the state each of them finds. -/
theorem asset_cap_kept (seedFrom : UInt64 → Rng) (cfg : Config) (vuln : VulnDb) (oui : OuiDb)
    (seed : UInt64) (ops : List EngineOp) (e : SimulatorEngine)
    (hfits : EveryStep (EngineOp.apply seedFrom cfg) (FitsCap cfg)
      (SimulatorEngine.red cfg vuln oui (Session.new seed)) ops)
    (hrun : runEngine seedFrom cfg (SimulatorEngine.red cfg vuln oui (Session.new seed)) ops =
      some e) :
    e.ledger.totalWireAssets ≤ effectiveAssetCap cfg.synthesis.maxAssets :=
  runAll_invariant
    (P := fun e : SimulatorEngine =>
      e.ledger.totalWireAssets ≤ effectiveAssetCap cfg.synthesis.maxAssets)
    (fun _ _ _ hcap hop h => EngineOp.keeps_cap hcap hop h) (Nat.zero_le _) hfits hrun

/-- The defaults, with the two caps as given. -/
def cappedConfig (maxDevices maxAssets : Option Nat) : Config :=
  { mode := .redLaser
    l3 :=
      { remap := true, remapMac := true, subnets := [], zoneAffinity := .both,
        maxRemapBytes := 2 * 1024 * 1024 * 1024, onOversize := .remapToDisk,
        maxFrameBytes := 1514, replayCaptureArp := false }
    zones := { maxSubnets := none, defaultPrefix := 24 }
    synthesis :=
      { enabled := true, deviceIdentity := true, identityEveryNRuns := 1,
        announceIntervalSecs := 25, cycleEveryNRuns := 0, maxDevices, targetDevices := 64,
        maxAssets } }

/-- One core profile. -/
def onePlc : VulnDb :=
  [{ vendor := "Rockwell Automation", model := "1756-L61", firmware := "20.11", protocol := .enip,
     purdueLevel := 1, oui := none, cves := [], assetClass := none }]

/-- Draws that are all zero. -/
def zeroRng : Rng := ⟨fun _ => 0, 0⟩

/-- The capture of two hosts of 1.1.1.0/24, as a file of the pool. -/
def twinSource : Source :=
  { parent := none, stem := "twin", mtime := 0, size := 74, content := .ok twinCapture }

/-- The first draws of a seeded remap. -/
def remapRng : UInt64 → Rng := fun _ => ⟨fun _ => 1, 0⟩

/-- A plant that fills up: two devices, then one host of a capture for the last asset, and a tick
that has nothing left to do. -/
def fillingRun : List EngineOp :=
  [.redTick 0 zeroRng, .remap twinSource insertionOrder [], .redTick 1 zeroRng]

theorem asset_cap_kept_filling :
    ∃ e, runEngine remapRng (cappedConfig (some 2) (some 3))
        (SimulatorEngine.red (cappedConfig (some 2) (some 3)) onePlc ⟨∅, ∅⟩ (Session.new 7))
        fillingRun = some e ∧
      (e.ledger.devices.length = 2 ∧ e.ledger.captureHosts.length = 1) ∧
        e.ledger.totalWireAssets ≤ 3 := by
  have hsome : ((runEngine remapRng (cappedConfig (some 2) (some 3))
      (SimulatorEngine.red (cappedConfig (some 2) (some 3)) onePlc ⟨∅, ∅⟩ (Session.new 7))
      fillingRun).any fun e =>
        decide (e.ledger.devices.length = 2 ∧ e.ledger.captureHosts.length = 1)) = true := by
    decide +kernel
  obtain ⟨e, he, hfilled⟩ := (Option.any_eq_true _ _).mp hsome
  exact ⟨e, he, of_decide_eq_true hfilled, asset_cap_kept remapRng
    (cappedConfig (some 2) (some 3)) onePlc ⟨∅, ∅⟩ 7 fillingRun e (by decide +kernel) he⟩

/-- With an asset cap of one and a device cap of two, the first tick fabricates two. -/
theorem asset_cap_exceeded :
    ¬ ∀ (seedFrom : UInt64 → Rng) (cfg : Config) (vuln : VulnDb) (oui : OuiDb) (seed : UInt64)
      (ops : List EngineOp) (e : SimulatorEngine), cfg.validate = .ok () →
      runEngine seedFrom cfg (SimulatorEngine.red cfg vuln oui (Session.new seed)) ops = some e →
      e.ledger.totalWireAssets ≤ effectiveAssetCap cfg.synthesis.maxAssets := by
  intro h
  have htwo : (runEngine (fun _ => zeroRng) (cappedConfig (some 2) (some 1))
      (SimulatorEngine.red (cappedConfig (some 2) (some 1)) onePlc ⟨∅, ∅⟩ (Session.new 7))
      [.redTick 0 zeroRng]).map (fun e => e.ledger.totalWireAssets) = some 2 := by
    decide +kernel
  obtain ⟨e, he, htotal⟩ := Option.map_eq_some_iff.mp htwo
  have hcap := h (fun _ => zeroRng) (cappedConfig (some 2) (some 1)) onePlc ⟨∅, ∅⟩ 7
    [.redTick 0 zeroRng] e rfl he
  rw [htotal] at hcap
  exact absurd hcap (by decide)

end TurboLaser
