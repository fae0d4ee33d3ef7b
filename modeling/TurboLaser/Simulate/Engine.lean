import TurboLaser.Lib.Memo
import TurboLaser.Simulate.Identity

/-!
# The simulator engine (simulate/engine.rs)

The engine owns the ledger. The run loop calls it in two ways, in any order:

- `remapIntoSession` relocates a capture into the plan, registers the hosts it placed, and keeps the
  result in the remap cache;
- `redTick` fabricates the next batch of devices, and renames the zones of a plant that no longer
  grows.

The cache is a table from file names (`CacheKey`) to captures. Which files an eviction removes
depends on file times and sizes on disk; here it is an argument. The draws of the simulation
generator are an argument of each tick, because other parts of the engine draw from it in between.
`none` stands for a panic or a loop that never ends.

What the name of a cache file is made from matters more than anything else here. It has the seed,
the generation of the registry, the zone affinity, and the time, size and stem of the source file
(`cachePath`); it has neither the zones nor the devices, which a reconcile reads as well.

The configuration is the part of it that these two calls read. A capture over the tmpfs budget goes
to disk or is refused, as configured; one over the remap ceiling is always refused.
-/

namespace TurboLaser

open Lib

/-! ## Configuration -/

/-- `Mode`. -/
inductive Mode where
  | redLaser
  | greenLaser
deriving DecidableEq

/-- `OversizePolicy`. -/
inductive OversizePolicy where
  | remapToDisk
  | skip
deriving DecidableEq

/-- `L3Cfg`; `subnets` holds the hints as parsed. -/
structure L3Cfg where
  remap : Bool
  remapMac : Bool
  subnets : List Ipv4Net
  zoneAffinity : ZoneAffinity
  maxRemapBytes : Nat
  onOversize : OversizePolicy
  maxFrameBytes : Nat
  replayCaptureArp : Bool

/-- `ZonesCfg`. -/
structure ZonesCfg where
  maxSubnets : Option Nat
  defaultPrefix : Nat

/-- `SynthesisCfg`. -/
structure SynthesisCfg where
  enabled : Bool
  deviceIdentity : Bool
  identityEveryNRuns : Nat
  announceIntervalSecs : Nat
  cycleEveryNRuns : Nat
  maxDevices : Option Nat
  targetDevices : Nat
  maxAssets : Option Nat

/-- `Config`: what the engine reads of it, and the checks on that. -/
structure Config where
  mode : Mode
  l3 : L3Cfg
  zones : ZonesCfg
  synthesis : SynthesisCfg

/-- `Config::validate`. -/
def Config.validate (cfg : Config) : Except String Unit :=
  if cfg.mode = .redLaser ∧ cfg.l3.remap = false then
    .error "red_laser requires l3.remap = true (plan==wire); use green_laser for raw replay"
  else if cfg.zones.maxSubnets = some 0 then .error "zones.max_subnets must be > 0"
  else if ¬ (8 ≤ cfg.zones.defaultPrefix ∧ cfg.zones.defaultPrefix ≤ 30) then
    .error "zones.default_prefix must be between 8 and 30"
  else if cfg.synthesis.maxDevices = some 0 then .error "synthesis.max_devices must be > 0"
  else if cfg.synthesis.identityEveryNRuns = 0 then
    .error "synthesis.identity_every_n_runs must be > 0"
  else if cfg.synthesis.targetDevices = 0 then .error "synthesis.target_devices must be > 0"
  else if cfg.synthesis.maxAssets = some 0 then .error "synthesis.max_assets must be > 0"
  else if cfg.synthesis.enabled = true ∧ cfg.synthesis.announceIntervalSecs = 0 then
    .error "synthesis.announce_interval_secs must be > 0"
  else .ok ()

/-! ## The engine -/

/-- `FABRICATE_BATCH`. -/
def fabricateBatch : Nat := 16

/-- `MAX_SHM_BYTES`. -/
def maxShmBytes : Nat := 256 * 1024 * 1024

/-- `REMAP_CACHE_VERSION`. -/
def remapCacheVersion : Nat := 3

/-- The directory a remap is cached in: the tmpfs one, or beside the source capture. -/
inductive CacheDir where
  | shm
  | remapCache
  | beside (parent : String)
deriving DecidableEq

/-- What the cache knows of a source: where its remap goes, and time, size and stem of the
file. -/
structure SourceKey where
  dir : CacheDir
  mtime : Nat
  size : Nat
  stem : String
deriving DecidableEq

/-- The path of a cached remap. -/
structure CacheKey where
  version : Nat
  seed : UInt64
  generation : Nat
  affinity : ZoneAffinity
  source : SourceKey
deriving DecidableEq

/-- A source capture; reading it may fail. -/
structure Source where
  parent : Option String
  stem : String
  mtime : Nat
  size : Nat
  content : Except String Capture

/-- `SimulatorEngine`. -/
structure SimulatorEngine where
  ledger : Session
  vuln : VulnDb
  oui : OuiDb
  params : AllocParams
  cycleEvery : Nat
  synthEnabled : Bool
  deviceIdentity : Bool
  sealed : Bool
  cache : Memo CacheKey Capture

/-- `SimulatorEngine::red`, over a session and no cached remap. -/
def SimulatorEngine.red (cfg : Config) (vuln : VulnDb) (oui : OuiDb) (session : Session) :
    SimulatorEngine :=
  { ledger := session
    vuln
    oui
    params :=
      { maxSubnets := effectiveSubnetCap cfg.zones.maxSubnets
        maxDevices := effectiveDeviceCap cfg.synthesis.maxDevices
        defaultPrefix := cfg.zones.defaultPrefix }
    cycleEvery := cfg.synthesis.cycleEveryNRuns
    synthEnabled := cfg.synthesis.enabled
    deviceIdentity := cfg.synthesis.deviceIdentity
    sealed := session.sealed
    cache := ∅ }

/-! ## Remapping a capture -/

/-- The capture is too large for the tmpfs budget. -/
def Source.toDisk (src : Source) : Bool := decide (maxShmBytes < src.size)

/-- What the cache path takes from the source. -/
def Source.key (src : Source) : SourceKey :=
  { dir := if src.toDisk then src.parent.elim .shm .beside else .remapCache
    mtime := src.mtime
    size := src.size
    stem := src.stem }

/-- `cache_path`. -/
def cachePath (cfg : Config) (s : Session) (src : Source) : CacheKey :=
  { version := remapCacheVersion
    seed := s.seed
    generation := s.registryGeneration
    affinity := cfg.l3.zoneAffinity
    source := src.key }

/-- Drop what is over the link MTU, and the capture's own ARP unless it is asked for. -/
def thinCapture (cfg : Config) (cap : Capture) : Capture :=
  let cap := dropOversizeFrames cap cfg.l3.maxFrameBytes
  if cfg.l3.replayCaptureArp then cap else dropArpFrames cap

section Remap

variable (seedFrom : UInt64 → Rng) (cfg : Config)

/-- The remap of a capture under a ledger, with the assets to register. Without zones it is
the seeded random one. -/
def remapUnder (s : Session) (oui : OuiDb) (cap : Capture) (order : HashOrder) :
    Option (Capture × List NewCaptureAsset) :=
  let ctx := s.reconcileCtx cfg.l3.zoneAffinity cfg.l3.remapMac
    (effectiveAssetCap cfg.synthesis.maxAssets)
  if ctx.zones = [] then
    some (thinCapture cfg (remapCapture seedFrom cap cfg.l3.subnets s.seed cfg.l3.remapMac).1, [])
  else
    match reconcileCaptureIntoZones cap (captureGroups cap cfg.l3.subnets oui order) ctx with
    | none => none
    | some (out, _, assets) => some (thinCapture cfg out, assets)

/-- `remap_into_session`. -/
def SimulatorEngine.remapIntoSession (e : SimulatorEngine) (src : Source) (order : HashOrder)
    (evicted : List CacheKey) : Option (Except String CacheKey × SimulatorEngine) :=
  if cfg.l3.maxRemapBytes < src.size then
    some (.error ("capture is " ++ toString src.size ++ " bytes, over the " ++
      toString cfg.l3.maxRemapBytes ++ " byte remap ceiling"), e)
  else if src.toDisk = true ∧ cfg.l3.onOversize = .skip then
    some (.error ("capture is " ++ toString src.size ++ " bytes, over the " ++
      toString maxShmBytes ++ " byte tmpfs budget (on_oversize=skip)"), e)
  else
    let out := cachePath cfg e.ledger src
    if out ∈ e.cache then some (.ok out, e)
    else
      match src.content with
      | .error err => some (.error err, e)
      | .ok cap =>
        match remapUnder seedFrom cfg e.ledger e.oui cap order with
        | none => none
        | some (written, assets) =>
          let ledger := registerAssets e.ledger assets (effectiveAssetCap cfg.synthesis.maxAssets)
          -- the generation may have advanced, and the file just written is never evicted
          let out := cachePath cfg ledger src
          let cache := eraseAll (e.cache.insert out written)
            (evicted.filter fun k => decide (k ≠ out))
          some (.ok out, { e with ledger, cache })

end Remap

/-! ## One iteration of the plant -/

/-- The fabrication step of `red_tick`: the ledger it leaves, and how many devices it added. -/
def SimulatorEngine.growPlant (e : SimulatorEngine) (rng : Rng) : Option (Session × Nat) :=
  if e.deviceIdentity = true ∧ e.sealed = false then
    let target := min (e.ledger.devices.length + fabricateBatch) e.params.maxDevices
    (fabricate e.ledger e.vuln e.params target rng).map fun r => (r.1, r.2.1)
  else some (e.ledger, 0)

/-- `usize::MAX`. -/
def usizeMax : Nat := 2 ^ 64 - 1

/-- The zone names of the next cycle; the area number saturates. -/
def Session.renameZones (s : Session) : Session :=
  s.renameZonesNewCycle fun idx z =>
    nameZone z.vendor none z.purdueLevel
      (min (idx + min ((s.cycle + 1) * maxSubnets) usizeMax) usizeMax)

/-- `red_tick`, up to the identity burst it builds from the ledger. -/
def SimulatorEngine.redTick (e : SimulatorEngine) (run : Nat) (rng : Rng) :
    Option SimulatorEngine :=
  if e.synthEnabled = true then
    match e.growPlant rng with
    | none => none
    | some (ledger, added) =>
      let rename := e.sealed = false ∧ 0 < e.cycleEvery ∧ 0 < run ∧ run % e.cycleEvery = 0 ∧
        added = 0 ∧ 0 < ledger.subnets.length
      some { e with ledger := if rename then ledger.renameZones else ledger }
  else some e

/-! ## Runs -/

/-- One call of the run loop. -/
inductive EngineOp where
  | redTick (run : Nat) (rng : Rng)
  | remap (src : Source) (order : HashOrder) (evicted : List CacheKey)

/-- The engine after a call; a remap that fails leaves it as it was. -/
def EngineOp.apply (seedFrom : UInt64 → Rng) (cfg : Config) (e : SimulatorEngine) :
    EngineOp → Option SimulatorEngine
  | .redTick run rng => e.redTick run rng
  | .remap src order evicted => (e.remapIntoSession seedFrom cfg src order evicted).map Prod.snd

/-- The engine after a sequence of calls. -/
abbrev runEngine (seedFrom : UInt64 → Rng) (cfg : Config) (e : SimulatorEngine)
    (ops : List EngineOp) : Option SimulatorEngine :=
  runAll (EngineOp.apply seedFrom cfg) e ops

end TurboLaser
