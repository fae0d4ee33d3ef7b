import TurboLaser.Run.Replay
import TurboLaser.Run.Selection
import TurboLaser.Proto.FailsClosed
import TurboLaser.Scenario.Fidelity
import TurboLaser.Simulate.Assertions
import TurboLaser.Simulate.DaemonFacts

/-!
# The replay daemon (run/mod.rs)

One turn of the loop picks a capture, remaps it, perhaps promotes one of its hosts, checks it for
public addresses, replays it, and replays the identity burst the engine made meanwhile. Around that
it writes the heartbeat and sleeps.

The source is one function of two hundred lines with early continues. Here a turn is cut where the
source has its comments: what is prepared to be sent (`prepare`), the send with its burst
(`LoopState.send`), and the end of the turn. A turn that cannot go on is a value of `Prepared` with
its reason, and the heartbeat that goes with it is written where the source writes it. The variables
that the loop carries from turn to turn are the fields of `LoopState`; its log is not in the source,
it is what the outside sees.

- `LoopEngine`: the engine with what its bursts are made of; `LoopEngine.redTick` returns the burst;
- `Turn`: what one turn meets, from the captures that are there to what `tcpreplay` prints;
- `LoopState`: the state of the loop, with the log of what it wrote and sent;
- `LoopState.step`: one turn; `runLoop`: the turns one after the other.

The clock, the disk, the process and the random draws are arguments of a turn, so a statement about
all turns is one about all of these. Sleeping takes no time here. `none` stands for a panic, or a
step that never ends.
-/

namespace TurboLaser

open Lib Scenario Synth

/-- What the loop does with its `f64` numbers. -/
class FloatOps (F : Type) extends NatCast F, Add F, Sub F, Mul F, Div F, Zero F, LinearOrder F

/-! ## The engine and its bursts -/

/-- What the heartbeat shows of a phase. -/
structure PhaseLabel where
  id : String
  name : Option String
  techniques : List String

/-- The overlay of a target scenario: the timeline, how its events are rendered, and its labels. -/
structure ScenarioOverlay where
  name : String
  renderer : Renderer
  timeline : ScenarioEngine Event
  labels : List PhaseLabel

/-- `SimulatorEngine`, with the fields its bursts are made of. -/
structure LoopEngine extends DaemonEngine where
  profiles : List WireProfile
  bursts : BurstConfig
  identityEvery : Nat
  announceIntervalSecs : UInt64
  lastAnnounceUnix : Option UInt64
  announceCount : UInt64
  overlay : Option ScenarioOverlay

/-- A call of the daemon's engine leaves the burst fields alone. -/
def LoopEngine.withDaemon (e : LoopEngine) (d : DaemonEngine) : LoopEngine :=
  { e with toDaemonEngine := d }

/-- `scenario_phase_label`: the name of the current phase, or its id. -/
def ScenarioOverlay.phaseLabel (o : ScenarioOverlay) : Option String :=
  (o.labels[o.timeline.phaseIdx]?).map fun l => l.name.getD l.id

/-- `scenario_techniques`. -/
def ScenarioOverlay.techniques (o : ScenarioOverlay) : List String :=
  ((o.labels[o.timeline.phaseIdx]?).map PhaseLabel.techniques).getD []

/-- The announce interval has passed. -/
def LoopEngine.cadenceDue (e : LoopEngine) (now : UInt64) : Bool :=
  match e.lastAnnounceUnix with
  | some t => decide (e.announceIntervalSecs ≤ (checkedSub now t).getD 0)
  | none => true

/-- A burst goes out at this run. -/
def LoopEngine.announces (e : LoopEngine) (run : Nat) (now : UInt64) : Bool :=
  decide (run % e.identityEvery = 0) && e.cadenceDue now

/-- The engine once a burst is counted. -/
def LoopEngine.counted (e : LoopEngine) (now : UInt64) : LoopEngine :=
  { e with lastAnnounceUnix := some now, announceCount := e.announceCount + 1 }

/-- The frames of a burst: the assertions, then the attack. -/
def LoopEngine.burstFrames (e : LoopEngine) (run : Nat) (now : UInt64) :
    Option (List Frame × LoopEngine) :=
  let assertions := buildAssertions e.bursts e.core.ledger e.profiles (UInt64.ofNat run)
    e.announceCount
  match e.overlay with
  | none => some (assertions, e.counted now)
  | some o =>
    let render := fun ev nonce => o.renderer.renderEvent ev (plantLedger e.core.ledger) e.core.vuln
      nonce
    match o.timeline.phaseFrames render e.announceCount with
    | none => none
    | some (attack, timeline) =>
      some (assertions ++ attack, { e.counted now with overlay := some { o with timeline } })

/-- `red_tick`: the burst to fire, if there is one. -/
def LoopEngine.redTick (e : LoopEngine) (run : Nat) (now : UInt64) (io : Io) (file : LedgerFile) :
    Option (Option Capture × LoopEngine × LedgerFile) :=
  if e.core.synthEnabled = true then
    match e.growPlant with
    | none => none
    | some (grown, added, simRng) =>
      let ticked := e.withDaemon (e.ticked run grown added simRng)
      match if ticked.announces run now then ticked.burstFrames run now else some ([], ticked) with
      | none => none
      | some (frames, announced) =>
        let (saved, file) := announced.persistIfDirty io file
        let sent := if frames = [] ∨ io.dirs = false ∨ io.pcap = false then none
          else some (identityCapture frames [])
        some (sent, announced.withDaemon saved, file)
  else some (none, e, file)

/-! ## What a turn meets -/

/-- `Config`, with what only the loop reads. -/
structure LoopConfig (F : Type) extends Config where
  guardPublicSources : Bool
  iface : String
  rateModel : String
  weights : Weights F
  once : Bool

/-- A capture of the pool: its name and path, and what is known of the file. -/
structure PcapFile extends Source where
  name : String
  path : String

/-- What one turn of the loop meets, in the order in which it meets it. -/
structure Turn (F : Type) where
  shutdown : Bool
  files : List PcapFile
  draw : F → F
  order : HashOrder
  evicted : List CacheKey
  remapIo : Io
  /-- The file to send can be read for a promotion. -/
  readable : Bool
  promoteNow : UInt64
  promoteIo : Io
  replay : ReplayRun
  tickNow : UInt64
  tickIo : Io
  burst : ReplayRun
  gap : F
  /-- The turns of the poll thread during the gap. -/
  gapReadings : List (Option UInt64)

/-! ## The heartbeat -/

/-- The states of the heartbeat. -/
inductive Activity where
  | starting
  | idleNoPcaps
  | skippedRemapFailed
  | skippedPublicSource
  | replaying
  | gap
  | stopping
deriving DecidableEq

/-- The text of a state. -/
def Activity.text : Activity → String
  | starting => "starting"
  | idleNoPcaps => "idle_no_pcaps"
  | skippedRemapFailed => "skipped_remap_failed"
  | skippedPublicSource => "skipped_public_source"
  | replaying => "replaying"
  | gap => "gap"
  | stopping => "stopping"

/-- `StatusZone`. -/
structure StatusZone where
  cidr : Ipv4Net
  name : String
  purdueLevel : Nat
  devices : Nat
deriving DecidableEq

/-- `Status`, without the process id, the clock and the interface counter. -/
structure Status (F : Type) where
  schema : Nat := 4
  state : Activity
  laser : String
  iface : String
  run : Nat
  currentFile : Option String := none
  l3Seed : Option UInt64 := none
  rateModel : String
  lastRunPackets : Option Nat
  pps : Option F := none
  mbps : Option F := none
  nextGapSecs : Option F := none
  lastError : Option String := none
  zoneCount : Nat := 0
  deviceCount : Nat := 0
  deviceCap : Nat := 0
  subnetCap : Nat := 0
  captureHostCount : Nat := 0
  totalWireAssets : Nat := 0
  maxAssets : Nat := 0
  targetDevices : Nat := 0
  sealed : Bool := false
  cycle : Nat := 0
  lastThreatUnix : Option UInt64 := none
  zones : List StatusZone := []
  scenario : Option String := none
  phase : Option String := none
  techniqueIds : List String := []

/-- `PpsState`. -/
structure PpsState (F : Type) where
  pps : Option F
  mbps : Option F

/-- `PpsState::new`. -/
def PpsState.new (F : Type) : PpsState F := ⟨none, none⟩

/-- A reading that is shown. -/
def positive {F : Type} [Zero F] [LT F] [DecidableLT F] (reading : Option F) : Option F :=
  reading.filter fun x => decide (0 < x)

/-- `PpsState::record`: the last positive reading stays. -/
def PpsState.record {F : Type} [Zero F] [LT F] [DecidableLT F] (s : PpsState F)
    (pps mbps : Option F) : PpsState F :=
  { pps := (positive pps).or s.pps, mbps := (positive mbps).or s.mbps }

/-! ## The state of the loop -/

/-- Where a capture that is replayed comes from. -/
inductive Origin where
  | raw
  | remapped
  | promoted
deriving DecidableEq

/-- What the loop writes and sends. -/
inductive Output (F : Type) where
  | heartbeat (s : Status F)
  | replay (origin : Origin) (content : Except String Capture)
  | burst (now : UInt64) (content : Capture)

/-- The variables of `run`, the engine with its ledger file, and the log. -/
structure LoopState (F : Type) where
  engine : Option LoopEngine
  file : LedgerFile
  watchdog : WatchdogState
  runCounter : Nat
  lastPackets : Option Nat
  rates : PpsState F
  running : Bool
  log : List (Output F)

section Status

variable {F : Type}

/-- `Mode::as_str`. -/
def Mode.text : Mode → String
  | redLaser => "red_laser"
  | greenLaser => "green_laser"

/-- `base_status`, with its state. -/
def LoopState.status (cfg : LoopConfig F) (st : LoopState F) (state : Activity) : Status F :=
  { state
    laser := cfg.mode.text
    iface := cfg.iface
    run := st.runCounter
    rateModel := cfg.rateModel
    lastRunPackets := st.lastPackets }

/-- One of the zones of the heartbeat in red laser. -/
def Session.statusZone (s : Session) (z : SubnetRecord) : StatusZone :=
  { cidr := z.cidr
    name := z.zoneName
    purdueLevel := z.purdueLevel
    devices := s.devices.countP fun d => decide (d.subnetCidr = z.cidr) }

/-- The red-laser half of `apply_sim_status`. -/
def LoopEngine.fill (e : LoopEngine) (s : Status F) : Status F :=
  { s with
    deviceCount := e.core.ledger.devices.length
    captureHostCount := e.core.ledger.captureHosts.length
    totalWireAssets := e.core.ledger.totalWireAssets
    targetDevices := e.tail.targetDevices
    sealed := e.core.ledger.sealed
    cycle := e.core.ledger.cycle
    lastThreatUnix := e.tail.lastThreatUnix
    zones := e.core.ledger.subnets.map e.core.ledger.statusZone
    zoneCount := e.core.ledger.subnets.length
    scenario := e.overlay.map ScenarioOverlay.name
    phase := e.overlay.bind ScenarioOverlay.phaseLabel
    techniqueIds := (e.overlay.map ScenarioOverlay.techniques).getD []
    laser := (e.overlay.map fun o => "target:" ++ o.name).getD s.laser }

/-- `apply_sim_status`. -/
def applySimStatus (cfg : LoopConfig F) (oui : OuiDb) (order : HashOrder) (engine : Option LoopEngine)
    (chosen : PcapFile) (s : Status F) : Status F :=
  let s :=
    { s with
      deviceCap := effectiveDeviceCap cfg.synthesis.maxDevices
      subnetCap := effectiveSubnetCap cfg.zones.maxSubnets
      maxAssets := effectiveAssetCap cfg.synthesis.maxAssets }
  match cfg.mode with
  | .redLaser =>
    match engine with
    | some e => e.fill s
    | none => s
  | .greenLaser =>
    match chosen.content with
    | .ok cap =>
      let zones := (deriveZones cap cfg.l3.subnets oui order).map fun z =>
        { cidr := z.cidr, name := z.name, purdueLevel := z.purdueLevel,
          devices := z.deviceIps.length }
      { s with zones, zoneCount := zones.length }
    | .error _ => s

/-- `write`: the heartbeat goes out with the rates that are held. -/
def LoopState.write (st : LoopState F) (s : Status F) : LoopState F :=
  { st with log := st.log ++ [.heartbeat { s with pps := st.rates.pps, mbps := st.rates.mbps }] }

end Status

/-! ## One turn

A turn of the source is one body with early exits, and every exit is a heartbeat and a wait. It is
cut here where the source has a choice: what is prepared, what comes back of the send, what the
burst does, and the end. Each piece returns the state with its log, so that the order of the
heartbeats can be read off.
-/

/-- `has_public_source`: a file that is too large, or cannot be read, counts as a leak. -/
def hasPublicSource (src : Source) (limit : Nat) : Bool :=
  if limit < src.size then true
  else
    match src.content with
    | .error _ => true
    | .ok cap => cap.packets.any fun p => carriesPublicAddress p.data

/-- What is to be replayed: the capture the remap or the promotion made, else the one chosen. -/
structure ToSend where
  remapped : Option CacheKey
  promoted : Option Capture
  l3Seed : Option UInt64

/-- The first half of a turn, or why the capture is skipped. -/
inductive Prepared where
  | ready (send : ToSend)
  | skipped (why : Activity) (err : Option String)

section Turn

variable {F : Type} (seedFrom : UInt64 → Rng) (cfg : LoopConfig F)

/-- The remap of a turn. -/
def remapTurn (t : Turn F) (chosen : PcapFile) (engine : Option LoopEngine)
    (file : LedgerFile) :
    Option (Except String (Option CacheKey × Option UInt64) × Option LoopEngine × LedgerFile) :=
  match engine with
  | none => some (.ok (none, none), engine, file)
  | some e =>
    if cfg.mode = .redLaser ∧ cfg.l3.remap = true then
      match e.remapIntoSession seedFrom cfg.toConfig chosen.toSource t.order t.evicted t.remapIo
          file with
      | none => none
      | some (.ok key, d, file) =>
        some (.ok (some key, some d.core.ledger.seed), some (e.withDaemon d), file)
      | some (.error err, d, file) => some (.error err, some (e.withDaemon d), file)
    else some (.ok (none, none), engine, file)

/-- The file that is to be sent, as a promotion reads it. -/
def fileToSend (t : Turn F) (chosen : PcapFile) (engine : Option LoopEngine)
    (remapped : Option CacheKey) : Except String Capture :=
  match remapped with
  | none => chosen.content
  | some key =>
    match engine.bind fun e => e.core.cache.lookup key with
    | some cap => if t.readable then .ok cap else .error "read"
    | none => .error "open"

/-- The capture a promotion writes. -/
def DaemonEngine.promotedCapture (e : DaemonEngine) (content : Except String Capture)
    (now : UInt64) : Option Capture :=
  content.toOption.bind fun cap =>
    ((promoteHost cap e.externalCidrs e.core.oui now e.simRng).1).map Prod.snd

/-- The promotion of a turn. -/
def promoteTurn (t : Turn F) (content : Except String Capture)
    (engine : Option LoopEngine) (file : LedgerFile) :
    Option (Option Capture × Option LoopEngine × LedgerFile) :=
  match engine with
  | none => some (none, engine, file)
  | some e =>
    match e.maybePromote content t.promoteNow t.promoteIo file with
    | none => none
    | some (record, d, file) =>
      some (record.bind fun _ => e.promotedCapture content t.promoteNow, some (e.withDaemon d), file)

/-- From the chosen capture to the file to send. -/
def prepare (t : Turn F) (chosen : PcapFile) (engine : Option LoopEngine)
    (file : LedgerFile) : Option (Prepared × Option LoopEngine × LedgerFile) :=
  match remapTurn seedFrom cfg t chosen engine file with
  | none => none
  | some (.error err, engine, file) => some (.skipped .skippedRemapFailed (some err), engine, file)
  | some (.ok (remapped, l3Seed), engine, file) =>
    match promoteTurn t (fileToSend t chosen engine remapped) engine file with
    | none => none
    | some (promoted, engine, file) =>
      if cfg.mode = .redLaser ∧ cfg.guardPublicSources = true ∧ remapped = none ∧
          promoted = none ∧ hasPublicSource chosen.toSource cfg.l3.maxRemapBytes = true then
        some (.skipped .skippedPublicSource none, engine, file)
      else some (.ready ⟨remapped, promoted, l3Seed⟩, engine, file)

/-- What `tcpreplay` is pointed at. -/
def ToSend.output (send : ToSend) (chosen : PcapFile) (engine : Option LoopEngine) :
    Output F :=
  match send.promoted with
  | some cap => .replay .promoted (.ok cap)
  | none =>
    match send.remapped with
    | some key =>
      .replay .remapped ((engine.bind fun e => e.core.cache.lookup key).elim (.error "open") .ok)
    | none => .replay .raw chosen.content

variable [FloatOps F] (readF : List Char → Option F) (glob : GlobMatcher) (oui : OuiDb) (times : WatchdogTimes)

/-- The variables once a send came back: a success carries its count and its rate forward. -/
def LoopState.sentBack (st : LoopState F) (res : Except String (ReplayResult F)) : LoopState F :=
  match res with
  | .ok r =>
    if r.success then
      { st with
        lastPackets := r.packets.or st.lastPackets
        rates := st.rates.record r.pps r.mbps }
    else st
  | .error _ => st

/-- The heartbeat once a send came back. -/
def Status.sentBack (s : Status F) (lastPackets : Option Nat) (res : Except String (ReplayResult F)) :
    Status F :=
  match res with
  | .ok r => if r.success then { s with lastRunPackets := lastPackets }
    else { s with lastError := some r.detail }
  | .error err => { s with lastError := some err }

/-- The burst of a turn, fired when there is one; whether it arrives changes nothing. -/
def LoopState.burstTurn (st : LoopState F) (t : Turn F) : Option (LoopState F) :=
  match st.engine with
  | none => some st
  | some e =>
    match e.redTick st.runCounter t.tickNow t.tickIo st.file with
    | none => none
    | some (none, e, file) => some { st with engine := some e, file }
    | some (some burst, e, file) =>
      match runOnce readF times t.burst st.watchdog with
      | none => none
      | some (_, watchdog) =>
        some { st with engine := some e, file, watchdog, log := st.log ++ [.burst t.tickNow burst] }

/-- The heartbeat of a send. -/
def LoopState.replayStatus (st : LoopState F) (t : Turn F) (chosen : PcapFile) (send : ToSend) :
    Status F :=
  applySimStatus cfg oui t.order st.engine chosen
    { st.status cfg .replaying with currentFile := some chosen.path, l3Seed := send.l3Seed }

/-- The send of a turn, and the heartbeat behind it. -/
def LoopState.replayTurn (st : LoopState F) (t : Turn F) (chosen : PcapFile) (send : ToSend) :
    Option (LoopState F × Status F) :=
  let s := st.replayStatus cfg oui t chosen send
  match runOnce readF times t.replay st.watchdog with
  | none => none
  | some (res, watchdog) =>
    let st := st.write s
    let st := ({ st with
      watchdog, log := st.log ++ [send.output chosen st.engine] } : LoopState F).sentBack res
    some (st, s.sentBack st.lastPackets res)

/-- The end of a turn: the heartbeat once the plant has grown, and that of the gap. -/
def LoopState.endTurn (st : LoopState F) (t : Turn F) (chosen : PcapFile) (s : Status F) :
    LoopState F :=
  let s := if st.engine.isSome then applySimStatus cfg oui t.order st.engine chosen s else s
  let st := if st.engine.isSome then st.write s else st
  if cfg.once then { st with running := false }
  else
    let st := st.write { s with state := .gap, nextGapSecs := some t.gap }
    { st with watchdog := st.watchdog.pollAll times t.gapReadings, runCounter := st.runCounter + 1 }

/-- The second half of a turn: the send, the burst, and the gap. -/
def LoopState.send (st : LoopState F) (t : Turn F) (chosen : PcapFile) (send : ToSend) :
    Option (LoopState F) :=
  match st.replayTurn cfg readF oui times t chosen send with
  | none => none
  | some (st, s) => (st.burstTurn readF times t).map fun st => st.endTurn cfg oui times t chosen s

/-- A capture that is skipped. -/
def LoopState.skip (st : LoopState F) (t : Turn F) (why : Activity) (err : Option String) :
    LoopState F :=
  let st := st.write { st.status cfg why with lastError := err }
  { st with watchdog := st.watchdog.pollAll times t.gapReadings, runCounter := st.runCounter + 1 }

/-- The last heartbeat. -/
def LoopState.stop (st : LoopState F) : LoopState F :=
  { st.write (st.status cfg .stopping) with running := false }

/-- **One turn of the loop.** -/
def LoopState.step (st : LoopState F) (t : Turn F) : Option (LoopState F) :=
  if st.running = false then some st
  else if t.shutdown then some (st.stop cfg)
  else
    match weightedPick (fun f => weightFor glob cfg.weights f.name f.path) t.files t.draw with
    | none =>
      let st := st.write (st.status cfg .idleNoPcaps)
      some { st with watchdog := st.watchdog.pollAll times t.gapReadings }
    | some chosen =>
      match prepare seedFrom cfg t chosen st.engine st.file with
      | none => none
      | some (.skipped why err, engine, file) =>
        some (({ st with engine, file } : LoopState F).skip cfg times t why err)
      | some (.ready send, engine, file) =>
        match ({ st with engine, file } : LoopState F).send cfg readF oui times t chosen send with
        | none => none
        | some st => some (if st.running then st else st.stop cfg)

/-- The loop as it starts, with its first heartbeat. -/
def LoopState.start (engine : Option LoopEngine) (file : LedgerFile) : LoopState F :=
  let st : LoopState F :=
    { engine, file, watchdog := .spawned, runCounter := 0, lastPackets := none,
      rates := .new F, running := true, log := [] }
  st.write (st.status cfg .starting)

/-- The loop after some turns. -/
abbrev runLoop (st : LoopState F) (turns : List (Turn F)) : Option (LoopState F) :=
  runAll (LoopState.step seedFrom cfg readF glob oui times) st turns

end Turn

end TurboLaser
