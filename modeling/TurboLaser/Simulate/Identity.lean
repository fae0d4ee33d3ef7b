import TurboLaser.Simulate.Register

/-!
# Identities over the life of a ledger

A ledger starts empty and is changed by four operations in any order: fabrication, operations zones,
the bill of materials, and a reconcile followed by the registration of its assets. `runPlant` is
such a life; every operation of it is a run of `Grow` steps (`PlantOp.grows`), so `Identities` holds
throughout.

The fourth operation spans two modules of the source. The reconcile places hosts and returns assets;
the engine hands them to the ledger one by one, and the ledger may refuse. That it refuses none of
them is `registers`, and takes that the reconcile was told what the ledger has taken, and no more
room than it has.

- `PlantOp.Puts`: where the hosts of a reconcile are put, turn by turn, which is what a result about
  places adds to a result about identities;
- `identities_runPlant`: identities are kept over every life;
- `plant_identities`: **in every ledger the operations lead to, each identity is its own and
  everything is in its zone.**
-/

namespace TurboLaser

open Lib Relation

/-- One operation on the plant, with everything it is given. -/
inductive PlantOp where
  | fabricate (vuln : VulnDb) (params : AllocParams) (target : Nat) (rng : Rng)
  | createL3Zones (params : AllocParams) (count : Nat) (rng : Rng)
  | enrichPlant (vuln : VulnDb) (oui : OuiDb) (seed : UInt64)
  | reconcile (cap : Capture) (hints : List Ipv4Net) (oui : OuiDb) (order : HashOrder)
    (affinity : ZoneAffinity) (remapMac : Bool) (maxAssets : Option Nat)

/-- The assets a reconcile of a capture returns, with the registry, the reserved MACs
and the budget `remap_into_session` computes. -/
def reconciledAssets (s : Session) (cap : Capture) (hints : List Ipv4Net) (oui : OuiDb)
    (order : HashOrder) (affinity : ZoneAffinity) (remapMac : Bool) (maxAssets : Option Nat) :
    Option (List NewCaptureAsset) :=
  (reconcileCaptureIntoZones cap (captureGroups cap hints oui order)
    (s.reconcileCtx affinity remapMac (effectiveAssetCap maxAssets))).map fun r => r.2.2

/-- The ledger after an operation. -/
def PlantOp.apply (s : Session) : PlantOp → Option Session
  | .fabricate vuln params target rng => (TurboLaser.fabricate s vuln params target rng).map Prod.fst
  | .createL3Zones params count rng => some (TurboLaser.createL3Zones s params rng count).1
  | .enrichPlant vuln oui seed => TurboLaser.enrichPlant s vuln oui seed
  | .reconcile cap hints oui order affinity remapMac maxAssets =>
    (reconciledAssets s cap hints oui order affinity remapMac maxAssets).map fun assets =>
      registerAssets s assets (effectiveAssetCap maxAssets)

/-- The ledger after a sequence of operations. -/
abbrev runPlant (s : Session) (ops : List PlantOp) : Option Session := runAll PlantOp.apply s ops

/-- Where the hosts of a reconcile are put, turn by turn. -/
def PlantOp.Puts (host : CaptureHostRecord → Prop) (s : Session) : PlantOp → Prop
  | .reconcile cap hints oui order affinity remapMac maxAssets =>
    EveryJob (s.reconcileCtx affinity remapMac (effectiveAssetCap maxAssets))
      (fun st j => s.registeredOrigins.lookup j.host = none →
        ∀ ip mac, openSlot st j = some ip → host (j.asset ip mac).record)
      (jobs (s.reconcileCtx affinity remapMac (effectiveAssetCap maxAssets))
        (captureGroups cap hints oui order))
      (initState (s.reconcileCtx affinity remapMac (effectiveAssetCap maxAssets)))
  | _ => True

/-- The groups of a capture hold its hosts, as the remaps ask for. -/
theorem groupsOf_captureGroups (cap : Capture) (hints : List Ipv4Net) (oui : OuiDb)
    (order : HashOrder) : GroupsOf cap (captureGroups cap hints oui order) :=
  ⟨fun _ ha => mem_captureGroups.mpr ha,
    fun g hg _ ha => isRemappable_of_mem_captureHosts (mem_captureGroups.mp ⟨g, hg, ha⟩)⟩

/-- What a reconcile returns is what its run placed; without zones it is nothing. -/
theorem reconciledAssets_run {s : Session} {cap : Capture} {hints : List Ipv4Net} {oui : OuiDb}
    {order : HashOrder} {affinity : ZoneAffinity} {remapMac : Bool} {maxAssets : Option Nat}
    {assets : List NewCaptureAsset}
    (h : reconciledAssets s cap hints oui order affinity remapMac maxAssets = some assets) :
    ∃ st, placeAll (s.reconcileCtx affinity remapMac (effectiveAssetCap maxAssets))
        (jobs (s.reconcileCtx affinity remapMac (effectiveAssetCap maxAssets))
          (captureGroups cap hints oui order))
        (initState (s.reconcileCtx affinity remapMac (effectiveAssetCap maxAssets))) = some st ∧
      assets = st.newAssets := by
  unfold reconciledAssets at h
  obtain ⟨⟨cap', summary, assets'⟩, hrec, rfl⟩ := Option.map_eq_some_iff.mp h
  exact reconcile_assets hrec

/-- A reconcile loses none of its assets. -/
theorem reconciled_registers {host : CaptureHostRecord → Prop} {s : Session} (hs : Identities s)
    {cap : Capture} {hints : List Ipv4Net} {oui : OuiDb} {order : HashOrder}
    {affinity : ZoneAffinity} {remapMac : Bool} {maxAssets : Option Nat}
    {assets : List NewCaptureAsset}
    (hput : (PlantOp.reconcile cap hints oui order affinity remapMac maxAssets).Puts host s)
    (h : reconciledAssets s cap hints oui order affinity remapMac maxAssets = some assets) :
    AllAccepted s (effectiveAssetCap maxAssets) assets ∧
      Grows NoDevice host s (registerAssets s assets (effectiveAssetCap maxAssets)) := by
  obtain ⟨st, hrun, rfl⟩ := reconciledAssets_run h
  exact registers hs (nodup_captureGroups cap hints oui order) hput hrun

/-- **An operation is a run of small steps.** -/
theorem PlantOp.grows {host : CaptureHostRecord → Prop} {s s' : Session} (hs : Identities s)
    {op : PlantOp} (hput : op.Puts host s) (h : op.apply s = some s') :
    Grows OffSlots host s s' := by
  cases op with
  | fabricate vuln params target rng =>
    obtain ⟨⟨s₁, added, rng'⟩, hfab, rfl⟩ := Option.map_eq_some_iff.mp h
    exact (fabricate_grows hfab).mono (fun _ => id) fun _ => False.elim
  | createL3Zones params count rng =>
    cases h
    exact createL3Zones_grows params count s rng
  | enrichPlant vuln oui seed =>
    exact (enrichPlant_grows hs h).mono (fun _ => id) fun _ => False.elim
  | reconcile cap hints oui order affinity remapMac maxAssets =>
    obtain ⟨assets, hassets, rfl⟩ := Option.map_eq_some_iff.mp h
    exact (reconciled_registers hs hput hassets).2.mono (fun _ => False.elim) fun _ => id

/-- Nothing is asked of where hosts are put. -/
theorem PlantOp.puts_anywhere (s : Session) (op : PlantOp) : op.Puts (fun _ => True) s := by
  cases op with
  | reconcile => exact everyStep_of_forall (fun _ _ _ _ _ _ _ => trivial) _
  | _ => exact trivial

/-- Identities stay apart over a whole life. -/
theorem identities_runPlant {s s' : Session} {ops : List PlantOp} (hs : Identities s)
    (h : runPlant s ops = some s') : Identities s' :=
  runAll_invariant (P := Identities)
    (fun _ op _ hs hput hstep => (op.grows hs hput hstep).identities hs) hs
    (everyStep_of_forall (fun _ op _ => op.puts_anywhere _) s) h

/-- **In every ledger the operations lead to, each identity is its own and in its zone,
and every asset a reconcile would return is accepted.** -/
theorem plant_identities (seed : UInt64) (ops : List PlantOp) (s : Session)
    (h : runPlant (Session.new seed) ops = some s) :
    Identities s ∧
      ∀ cap hints oui order affinity remapMac maxAssets assets,
        reconciledAssets s cap hints oui order affinity remapMac maxAssets = some assets →
        AllAccepted s (effectiveAssetCap maxAssets) assets := by
  have hs := identities_runPlant (identities_new seed) h
  refine ⟨hs, ?_⟩
  intro cap hints oui order affinity remapMac maxAssets assets hassets
  have hput := PlantOp.puts_anywhere s
    (.reconcile cap hints oui order affinity remapMac maxAssets)
  exact (reconciled_registers hs hput hassets).1

/-- Hash maps that iterate in insertion order. -/
def insertionOrder : HashOrder :=
  { nets := id, vendor := fun _ => id, protocol := fun _ => id,
    nets_perm := fun _ => .refl _, vendor_perm := fun _ _ => .refl _,
    protocol_perm := fun _ _ => .refl _ }

/-- One operations zone with its bill of materials, then a capture. -/
def smallPlant : List PlantOp :=
  [.createL3Zones ⟨16, 2000, 24⟩ 1 ⟨fun _ => 0, 0⟩, .enrichPlant [] ⟨∅, ∅⟩ 0,
    .reconcile planAddressCapture [] ⟨∅, ∅⟩ insertionOrder .both true none]

theorem smallPlant_identities : ∃ s, runPlant (Session.new 7) smallPlant = some s ∧ Identities s := by
  have hsome : (runPlant (Session.new 7) smallPlant).isSome := by
    decide +kernel
  obtain ⟨s, hs⟩ := Option.isSome_iff_exists.mp hsome
  exact ⟨s, hs, (plant_identities 7 smallPlant s hs).1⟩

end TurboLaser
