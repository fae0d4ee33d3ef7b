import TurboLaser.Scenario.Preflight
import TurboLaser.Simulate.EngineFacts
import TurboLaser.Threat.Promote
import TurboLaser.Threat.Scheduler

/-!
# The engine and its ledger file (simulate/engine.rs, ledger/mod.rs)

`SimulatorEngine` is what remaps and ticks compute. Around it the daemon keeps a ledger file: it
loads the session from it, or starts a fresh one, and writes it back when something was recorded.
Promotions and their scheduler belong to this half as well.

- `LedgerFile`, `StoredSession`: what a ledger file holds. Addresses, MACs and networks are values,
  as in the ledger itself; the reader of JSON is a library. A file is there or not, is readable or
  not, and holds a session or some other text;
- `loadSession`, `saveAtomic`: reading the file and replacing it;
- `startSession`: which session a daemon begins with: that of the file, that of a scenario, or a new
  one;
- `DaemonEngine`: the engine with its generator, its scheduler and the rest of the session;
- `DaemonCall.apply`: one call of the run loop, over the engine and the file.

Whether the disk takes a write is an argument of every call (`Io`), and so is the clock. `none`
stands for a panic or a loop that never ends. A call that fails is not `none`: a capture that cannot
be read or written is reported, and the daemon goes on with the engine it has.
-/

namespace TurboLaser

open Lib Scenario

/-! ## The ledger file -/

/-- `SCHEMA`. -/
def schemaVersion : Nat := 4

/-- The fields of `Session` that fabrication and remaps leave alone. -/
structure SessionTail where
  schema : Nat
  createdUnix : UInt64
  promoted : List PromotedHost
  lastThreatUnix : Option UInt64
  targetDevices : Nat
  maxAssets : Nat
  scenario : Option String
deriving DecidableEq

/-- `Session`, all its fields. -/
structure StoredSession where
  session : Session
  tail : SessionTail
deriving DecidableEq

/-- `Session::new`. -/
def StoredSession.new (seed now : UInt64) : StoredSession :=
  { session := .new seed
    tail :=
      { schema := schemaVersion
        createdUnix := now
        promoted := []
        lastThreatUnix := none
        targetDevices := 0
        maxAssets := 0
        scenario := none } }

/-- What is found at the path of the ledger. -/
inductive LedgerFile where
  | missing
  | unreadable
  | malformed (text : String)
  | json (s : StoredSession)
deriving DecidableEq

/-- Why a ledger is refused. -/
inductive LoadError where
  /-- `reading _` -/
  | unreadable
  /-- `parsing _` -/
  | malformed
  /-- `session _ has schema _ but this build supports up to 4; refusing to misread it` -/
  | newerSchema (schema : Nat)
deriving DecidableEq

/-- `Session::load`: an older session is brought to the current schema, a newer one refused. -/
def loadSession : LedgerFile → Except LoadError (Option StoredSession)
  | .missing => .ok none
  | .unreadable => .error .unreadable
  | .malformed _ => .error .malformed
  | .json s =>
    if schemaVersion < s.tail.schema then .error (.newerSchema s.tail.schema)
    else if s.tail.schema < schemaVersion then
      .ok (some { s with tail := { s.tail with schema := schemaVersion } })
    else .ok (some s)

/-- Which writes the disk takes during a call. -/
structure Io where
  /-- The ledger: its directory, the temporary file and the rename. -/
  ledger : Bool
  /-- The directory of a capture. -/
  dirs : Bool
  /-- The capture itself. -/
  pcap : Bool
deriving DecidableEq

/-- `save_atomic`: whether it succeeded, and the file it leaves. -/
def StoredSession.saveAtomic (s : StoredSession) (io : Io) (file : LedgerFile) :
    Bool × LedgerFile :=
  if io.ledger then (true, .json s) else (false, file)

/-! ## Configuration -/

/-- `TargetCfg`, with its name. -/
structure NamedTarget extends TargetCfg where
  name : String
deriving DecidableEq

/-- `Config`, with what the daemon reads of it besides. -/
structure DaemonConfig extends Config where
  sessionSeed : Option UInt64
  threatsEnabled : Bool
  minIntervalSecs : UInt64
  maxIntervalSecs : UInt64
  externalCidrs : List String
  dnsDomains : List String
  target : Option NamedTarget

/-- What the daemon finds when it starts: the tables at the configured paths, a random seed,
and the remaps an earlier run left beside their sources. -/
structure Boot where
  vuln : VulnDb
  oui : OuiDb
  randomSeed : UInt64
  spill : Memo CacheKey Capture

/-- Why the daemon does not start. -/
inductive StartError where
  /-- `session ledger belongs to scenario _ but the active config is _` -/
  | scenarioMismatch (ledger active : Option String)
  | pack (err : PackError)
deriving DecidableEq

/-- `guard_ledger_scenario`. -/
def guardLedgerScenario (ledger active : Option String) : Except StartError Unit :=
  if ledger = active then .ok () else .error (.scenarioMismatch ledger active)

/-! ## The engine -/

/-- `SimulatorEngine`, with its generator, its scheduler and the rest of its session. -/
structure DaemonEngine where
  core : SimulatorEngine
  tail : SessionTail
  threatsEnabled : Bool
  externalCidrs : List String
  scheduler : ThreatScheduler
  simRng : Rng
  dirty : Bool

/-- The session the engine would write. -/
def DaemonEngine.stored (e : DaemonEngine) : StoredSession := ⟨e.core.ledger, e.tail⟩

section Start

variable (dec : Decoders) (seedFrom : UInt64 → Rng)

/-- The database of the daemon: a scenario lays its pack over the embedded one. -/
def DaemonConfig.vuln (cfg : DaemonConfig) (boot : Boot) : VulnDb :=
  match cfg.target with
  | some t => loadOverlay dec t.pack.profiles
  | none => boot.vuln

/-- The session when there is none to load. A scenario pins its plant and saves it at once; a
save that fails is only logged. -/
def freshSession (cfg : DaemonConfig) (boot : Boot) (now : UInt64) (io : Io) (file : LedgerFile) :
    Option (Except StartError StoredSession × LedgerFile) :=
  let seed := cfg.sessionSeed.getD boot.randomSeed
  match cfg.target with
  | some t =>
    match pinFromPack dec t.toTargetCfg (cfg.vuln dec boot) boot.oui seed cfg.dnsDomains with
    | none => none
    | some (.error err) => some (.error (.pack err), file)
    | some (.ok session) =>
      let p : StoredSession :=
        { session
          tail :=
            { (StoredSession.new seed now).tail with
              targetDevices := session.devices.length
              maxAssets := effectiveAssetCap cfg.synthesis.maxAssets
              scenario := some t.name } }
      some (.ok p, (p.saveAtomic io file).2)
  | none => some (.ok (.new seed now), file)

/-- The session the daemon starts from: the loaded one, if it belongs to the active scenario. A
ledger that does not load counts as none. -/
def startSession (cfg : DaemonConfig) (boot : Boot) (now : UInt64) (io : Io) (file : LedgerFile) :
    Option (Except StartError StoredSession × LedgerFile) :=
  match loadSession file with
  | .ok (some s) =>
    some ((guardLedgerScenario s.tail.scenario (cfg.target.map NamedTarget.name)).map fun _ => s,
      file)
  | .ok none => freshSession dec cfg boot now io file
  | .error _ => freshSession dec cfg boot now io file

/-- The playbook of the scenario loads. -/
def loadScenario (cfg : DaemonConfig) : Except StartError Unit :=
  match cfg.target with
  | some t => ((loadEngine dec t.toTargetCfg).map fun _ => ()).mapError .pack
  | none => .ok ()

/-- `SimulatorEngine::red`. The cache beside the sources survives, the one in tmpfs is purged. -/
def DaemonEngine.red (cfg : DaemonConfig) (boot : Boot) (now : UInt64) (io : Io)
    (file : LedgerFile) : Option (Except StartError DaemonEngine × LedgerFile) :=
  match startSession dec cfg boot now io file with
  | none => none
  | some (.error err, file) => some (.error err, file)
  | some (.ok s, file) =>
    match loadScenario dec cfg with
    | .error err => some (.error err, file)
    | .ok _ =>
      match ThreatScheduler.new cfg.minIntervalSecs cfg.maxIntervalSecs s.tail.lastThreatUnix now
          (seedFrom s.session.seed) with
      | none => none
      | some (scheduler, simRng) =>
        let core := SimulatorEngine.red cfg.toConfig (cfg.vuln dec boot) boot.oui s.session
        some (.ok
          { core := { core with cache := boot.spill }
            tail := s.tail
            threatsEnabled := cfg.threatsEnabled
            externalCidrs := cfg.externalCidrs
            scheduler
            simRng
            dirty := false }, file)

end Start

/-! ## Calls

Each call is given in two steps, what it makes of the engine and what it then saves. The order
matters where a write fails: hosts are registered and saved before their capture is written, while a
promotion is recorded after its capture is. What the disk refuses is an argument of the call.
-/

/-- `persist_if_dirty`. -/
def DaemonEngine.persistIfDirty (e : DaemonEngine) (io : Io) (file : LedgerFile) :
    DaemonEngine × LedgerFile :=
  if e.dirty then
    let (saved, file) := e.stored.saveAtomic io file
    ({ e with dirty := !saved }, file)
  else (e, file)

/-- The fabrication step of `red_tick`: the ledger it leaves, how many devices it added, and the
generator. -/
def DaemonEngine.growPlant (e : DaemonEngine) : Option (Session × Nat × Rng) :=
  if e.core.deviceIdentity = true ∧ e.core.sealed = false then
    let target := min (e.core.ledger.devices.length + fabricateBatch) e.core.params.maxDevices
    fabricate e.core.ledger e.core.vuln e.core.params target e.simRng
  else some (e.core.ledger, 0, e.simRng)

/-- Whether `red_tick` renames the zones: nothing was added, and the cycle is due. -/
def SimulatorEngine.renameDue (e : SimulatorEngine) (run : Nat) (grown : Session) (added : Nat) :
    Bool :=
  decide (e.sealed = false ∧ 0 < e.cycleEvery ∧ 0 < run ∧ run % e.cycleEvery = 0 ∧ added = 0 ∧
    0 < grown.subnets.length)

/-- The engine of a tick, before it is saved. -/
def DaemonEngine.ticked (e : DaemonEngine) (run : Nat) (grown : Session) (added : Nat)
    (simRng : Rng) : DaemonEngine :=
  let rename := e.core.renameDue run grown added
  { e with
    core := { e.core with ledger := if rename then grown.renameZones else grown }
    simRng
    dirty := e.dirty || decide (0 < added) || rename }

/-- `red_tick`, up to the identity burst it builds from the ledger. -/
def DaemonEngine.redTick (e : DaemonEngine) (run : Nat) (io : Io) (file : LedgerFile) :
    Option (DaemonEngine × LedgerFile) :=
  if e.core.synthEnabled = true then
    match e.growPlant with
    | none => none
    | some (grown, added, simRng) =>
      some ((e.ticked run grown added simRng).persistIfDirty io file)
  else some (e, file)

/-- The engine once the assets of a remap are registered, before it is saved. -/
def DaemonEngine.registered (cfg : Config) (e : DaemonEngine) (assets : List NewCaptureAsset) :
    DaemonEngine :=
  let ledger := registerAssets e.core.ledger assets (effectiveAssetCap cfg.synthesis.maxAssets)
  { e with
    core := { e.core with ledger }
    dirty := e.dirty || decide (e.core.ledger.captureHosts.length < ledger.captureHosts.length) }

/-- The registry of a remap, saved; without zones nothing is registered, nor saved. -/
def DaemonEngine.settle (cfg : Config) (e : DaemonEngine) (assets : List NewCaptureAsset) (io : Io)
    (file : LedgerFile) : DaemonEngine × LedgerFile :=
  if e.core.ledger.zoneTargets = [] then (e.registered cfg assets, file)
  else (e.registered cfg assets).persistIfDirty io file

/-- `remap_into_session`. With zones, the hosts that were placed are registered and saved before
the capture is written; what is registered stays registered when that write fails. -/
def DaemonEngine.remapIntoSession (seedFrom : UInt64 → Rng) (cfg : Config) (e : DaemonEngine)
    (src : Source) (order : HashOrder) (evicted : List CacheKey) (io : Io) (file : LedgerFile) :
    Option (Except String CacheKey × DaemonEngine × LedgerFile) :=
  if cfg.l3.maxRemapBytes < src.size then
    some (.error ("capture is " ++ toString src.size ++ " bytes, over the " ++
      toString cfg.l3.maxRemapBytes ++ " byte remap ceiling"), e, file)
  else if src.toDisk = true ∧ cfg.l3.onOversize = .skip then
    some (.error ("capture is " ++ toString src.size ++ " bytes, over the " ++
      toString maxShmBytes ++ " byte tmpfs budget (on_oversize=skip)"), e, file)
  else
    let out := cachePath cfg e.core.ledger src
    if out ∈ e.core.cache then some (.ok out, e, file)
    else
      match src.content with
      | .error err => some (.error err, e, file)
      | .ok cap =>
        match remapUnder seedFrom cfg e.core.ledger e.core.oui cap order with
        | none => none
        | some (written, assets) =>
          let (e', file) := e.settle cfg assets io file
          if io.dirs = false then some (.error "mkdir", e', file)
          else if io.pcap = false then some (.error "write", e', file)
          else
            -- the generation may have advanced, and the file just written is never evicted
            let out := cachePath cfg e'.core.ledger src
            let cache := eraseAll (e'.core.cache.insert out written)
              (evicted.filter fun k => decide (k ≠ out))
            some (.ok out, { e' with core := { e'.core with cache } }, file)

/-- The engine with a promotion in its ledger, before it is saved. -/
def DaemonEngine.recorded (e : DaemonEngine) (record : PromotedHost) (now : UInt64) :
    DaemonEngine :=
  { e with
    tail :=
      { e.tail with
        promoted := e.tail.promoted ++ [record]
        lastThreatUnix := some now }
    dirty := true }

/-- `maybe_promote`: the record of a promotion that reached the wire. The scheduler is set again
whenever it was due; the ledger records a promotion only once its capture is written. -/
def DaemonEngine.maybePromote (e : DaemonEngine) (content : Except String Capture) (now : UInt64)
    (io : Io) (file : LedgerFile) : Option (Option PromotedHost × DaemonEngine × LedgerFile) :=
  if e.threatsEnabled = false ∨ e.scheduler.due now = false then some (none, e, file)
  else
    match content with
    | .error _ =>
      match e.scheduler.reschedule now e.simRng with
      | none => none
      | some (scheduler, simRng) => some (none, { e with scheduler, simRng }, file)
    | .ok cap =>
      let (promotion, simRng) := promoteHost cap e.externalCidrs e.core.oui now e.simRng
      match e.scheduler.reschedule now simRng with
      | none => none
      | some (scheduler, simRng) =>
        let e := { e with scheduler, simRng }
        match promotion with
        | none => some (none, e, file)
        | some (record, _) =>
          if io.dirs = false ∨ io.pcap = false then some (none, e, file)
          else some (some record, (e.recorded record now).persistIfDirty io file)

/-- One call of the run loop, with what it meets. -/
inductive DaemonCall where
  | redTick (run : Nat) (io : Io)
  | remap (cfg : Config) (src : Source) (order : HashOrder) (evicted : List CacheKey) (io : Io)
  | promote (content : Except String Capture) (now : UInt64) (io : Io)

/-- The engine and the ledger file after a call. -/
def DaemonCall.apply (seedFrom : UInt64 → Rng) (st : DaemonEngine × LedgerFile) :
    DaemonCall → Option (DaemonEngine × LedgerFile)
  | .redTick run io => st.1.redTick run io st.2
  | .remap cfg src order evicted io =>
    (st.1.remapIntoSession seedFrom cfg src order evicted io st.2).map Prod.snd
  | .promote content now io => (st.1.maybePromote content now io st.2).map Prod.snd

end TurboLaser
