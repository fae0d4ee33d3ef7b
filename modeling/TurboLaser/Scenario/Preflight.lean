import TurboLaser.Scenario.Plant
import TurboLaser.Scenario.Render
import TurboLaser.Simulate.EmbeddedProfiles

/-!
# Checking a pack before it is fired (scenario/mod.rs, scenario/engine.rs)

A pack is three files: the profiles laid over the embedded database, the plant and the playbook.
`preflight` checks them without sending anything; `buildValidatedPlant` is the build every caller
shares, preflight included.

That sharing is what makes a check worth something: what passed at pre-flight is built in the same
way when it is fired. The result of a check is an error with its reason, and the order of the checks
is the source's, so that the first of several errors is the one that is reported.

- The readers of TOML and YAML are libraries. `Decoders` holds them as partial functions: the TOML
  syntax, and what a document decodes to.
- A file that cannot be read is `none`.
- An error is a constructor with the values its message shows; the messages of the libraries are
  left out.
- `none` as a result stands for a salt loop that never ends.
-/

namespace TurboLaser.Scenario

open Lib

/-- The TOML and YAML readers. -/
structure Decoders where
  /-- A TOML document. -/
  Toml : Type
  /-- `toml::from_str::<toml::Value>` -/
  toml : String → Option Toml
  /-- A document as a `ProfileFile`, its profiles in order. -/
  profileFile : Toml → Option (List DeviceProfile)
  /-- `serde_norway::from_str::<PlantSpec>` -/
  plantSpec : String → Option PlantSpec
  /-- `serde_norway::from_str::<Playbook>` -/
  playbook : String → Option PlaybookSpec

/-- The texts of a pack's files. -/
structure PackFiles where
  profiles : Option String
  plant : Option String
  playbook : Option String
deriving DecidableEq

/-- `TargetCfg`, its paths read. -/
structure TargetCfg where
  pack : PackFiles
  campaign : Campaign := .oneshot
  maxFramesPerBurst : Nat := 64
  iocFidelity : IocFidelity := .real
  actors : ActorsCfg := {}
deriving DecidableEq

/-- What the checks of a pack read of the configuration. -/
structure PackConfig where
  seed : Option UInt64
  dnsDomains : List String
  target : Option TargetCfg
deriving DecidableEq

/-- Why a pack is refused. -/
inductive PackError where
  /-- `scenario profiles _ is malformed` -/
  | profilesMalformed
  /-- `scenario plant model _ resolves to no CVE profile and declares no identity-only fields` -/
  | unknownModel (model : String)
  /-- `no vulnerable-device profiles available` -/
  | noProfiles
  /-- `reading plant _` -/
  | plantUnreadable
  /-- `parsing plant spec` -/
  | plantMalformed
  /-- `reading playbook _` -/
  | playbookUnreadable
  /-- `parsing playbook` -/
  | playbookMalformed
  /-- `playbook has no phases` -/
  | noPhases
  /-- `playbook phase _: payload_hex …` -/
  | payload (phase : String) (err : HexError)
  /-- An error of `build_sealed_session`. -/
  | plant (err : PlantError)
  /-- `playbook phase _ event _ (emit _) targets _, which no plant device matches` -/
  | targetUnmatched (phase : String) (event : Nat) (emit : EmitKind) (target : DeviceRef)
  /-- `playbook phase _ event _ (emit _) has no target; only c2_beacon may omit one` -/
  | targetMissing (phase : String) (event : Nat) (emit : EmitKind)
deriving DecidableEq

/-! ## The files of a pack -/

/-- `trim().is_empty()`. -/
def isBlank (text : String) : Bool := text.toList.all isWhiteSpace

section Files

variable (dec : Decoders)

/-- `VulnDb::parse`. -/
def parseProfiles (text : String) : Option (List DeviceProfile) :=
  (dec.toml text).bind dec.profileFile

/-- `VulnDb::load_overlay`: a pack that is missing or malformed leaves the embedded set. -/
def loadOverlay (profiles : Option String) : VulnDb :=
  match profiles.bind (parseProfiles dec) with
  | some pack => VulnDb.embedded.overlay pack
  | none => VulnDb.embedded

/-- `PlantSpec::load`. -/
def loadPlant (plant : Option String) : Except PackError PlantSpec :=
  match plant with
  | none => .error .plantUnreadable
  | some text =>
    match dec.plantSpec text with
    | none => .error .plantMalformed
    | some spec => .ok spec

/-- `Playbook::load`. -/
def loadPlaybook (playbook : Option String) : Except PackError PlaybookSpec :=
  match playbook with
  | none => .error .playbookUnreadable
  | some text =>
    match dec.playbook text with
    | none => .error .playbookMalformed
    | some pb => if pb = [] then .error .noPhases else .ok pb

end Files

/-- The first error of a list of checks. -/
def firstError (errors : List PackError) : Except PackError Unit :=
  match errors with
  | [] => .ok ()
  | e :: _ => .error e

/-- The check of an event's payload. -/
def payloadError (phase : String) (ev : Event) : Option PackError :=
  ev.payloadHex.bind fun h =>
    match decodeHexStrict h with
    | .ok _ => none
    | .error e => some (.payload phase e)

/-- The payloads of a playbook, in order. -/
def payloadErrors (pb : PlaybookSpec) : List PackError :=
  pb.flatMap fun ph => ph.events.filterMap (payloadError ph.id)

/-- `ScenarioEngine::load`, its checks. -/
def loadEngine (dec : Decoders) (t : TargetCfg) : Except PackError PlaybookSpec :=
  match loadPlaybook dec t.pack.playbook with
  | .error e => .error e
  | .ok pb => (firstError (payloadErrors pb)).map fun _ => pb

/-- `ScenarioEngine::load`, what `render_event` reads. -/
def TargetCfg.renderer (t : TargetCfg) (crc : List UInt8 → UInt16) (seed : UInt64) : Renderer :=
  ⟨t.actors, t.iocFidelity, seed, crc⟩

/-! ## Targets -/

/-- The check of one event: a target that is set resolves, and only a beacon has none. -/
def targetError (ledger : PlantLedger) (phase : String) (e : Event × Nat) : Option PackError :=
  match e.1.target with
  | some t =>
    if (resolve ledger (some t)).isNone then some (.targetUnmatched phase e.2 e.1.emit t) else none
  | none => if e.1.emit = .c2Beacon then none else some (.targetMissing phase e.2 e.1.emit)

/-- The targets of a playbook, in order. -/
def targetErrors (pb : PlaybookSpec) (ledger : PlantLedger) : List PackError :=
  pb.flatMap fun ph => ph.events.zipIdx.filterMap (targetError ledger ph.id)

/-- `validate_targets`. -/
def validateTargets (pb : PlaybookSpec) (ledger : PlantLedger) : Except PackError Unit :=
  firstError (targetErrors pb ledger)

/-! ## The build and the check -/

/-- `pin_from_pack`. -/
def pinFromPack (dec : Decoders) (t : TargetCfg) (vuln : VulnDb) (oui : OuiDb) (seed : UInt64)
    (fallbackDomains : List String) : Option (Except PackError Session) :=
  match loadPlant dec t.pack.plant with
  | .error e => some (.error e)
  | .ok spec => (buildSealedSession spec vuln oui seed fallbackDomains).map (Except.mapError .plant)

/-- `build_validated_plant`, over a database. -/
def buildWith (dec : Decoders) (vuln : VulnDb) (dnsDomains : List String) (t : TargetCfg)
    (oui : OuiDb) (seed : UInt64) : Option (Except PackError Session) :=
  if vuln = [] then some (.error .noProfiles)
  else
    match loadEngine dec t with
    | .error e => some (.error e)
    | .ok pb =>
      match pinFromPack dec t vuln oui seed dnsDomains with
      | none => none
      | some (.error e) => some (.error e)
      | some (.ok session) =>
        some ((validateTargets pb (plantLedger session)).map fun _ => session)

/-- `build_validated_plant`. -/
def buildValidatedPlant (dec : Decoders) (dnsDomains : List String) (t : TargetCfg) (oui : OuiDb)
    (seed : UInt64) : Option (Except PackError Session) :=
  buildWith dec (loadOverlay dec t.pack.profiles) dnsDomains t oui seed

/-- The profiles file is readable, not blank, and no TOML. -/
def profilesMalformed (dec : Decoders) (profiles : Option String) : Bool :=
  profiles.elim false fun text => !isBlank text && (dec.toml text).isNone

/-- The device describes itself, so its model need not be a profile's. -/
def DeviceSpec.identityOnly (d : DeviceSpec) : Bool :=
  d.protocol.isSome || d.vendor.isSome || d.firmware.isSome

/-- The model of a device that is no profile's and should be. -/
def unknownModel (vuln : VulnDb) (d : DeviceSpec) : Option PackError :=
  d.model.bind fun m =>
    if d.identityOnly = false ∧ vuln.byModel m = none then some (.unknownModel m) else none

/-- The checks of `preflight` behind the one of the profiles file, over a database. -/
def preflightWith (dec : Decoders) (vuln : VulnDb) (cfg : PackConfig) (t : TargetCfg)
    (embeddedOui : OuiDb) : Option (Except PackError Unit) :=
  match loadPlant dec t.pack.plant with
  | .error e => some (.error e)
  | .ok spec =>
    match firstError (spec.devices.filterMap (unknownModel vuln)) with
    | .error e => some (.error e)
    | .ok _ =>
      (buildWith dec vuln cfg.dnsDomains t embeddedOui (cfg.seed.getD 0)).map
        (Except.map fun _ => ())

/-- `preflight`; `embeddedOui` is the table the binary carries. -/
def preflight (dec : Decoders) (embeddedOui : OuiDb) (cfg : PackConfig) :
    Option (Except PackError Unit) :=
  match cfg.target with
  | none => some (.ok ())
  | some t =>
    if profilesMalformed dec t.pack.profiles then some (.error .profilesMalformed)
    else preflightWith dec (loadOverlay dec t.pack.profiles) cfg t embeddedOui

end TurboLaser.Scenario
