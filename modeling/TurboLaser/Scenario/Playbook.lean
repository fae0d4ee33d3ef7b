import TurboLaser.Scenario.Timeline
import TurboLaser.Simulate.Profiles

/-!
# Playbooks (scenario/playbook.rs)

An event is flat: an `emit` kind and the parameters of every kind, each optional and each of the
type the schema gives it. `parse` takes what the YAML library decoded and refuses a playbook without
phases.

The types of the parameters are those of the source's schema, as machine words where they are
integers, since what becomes of them on the wire depends on their widths. Parameters that a kind
does not use are there and ignored. The payload of an event is hexadecimal text with separators; it
is decoded strictly at load, where a fault is an error, and once more when the event is rendered,
where a text that is absent or empty stands for a default.
-/

namespace TurboLaser.Scenario

/-- `EmitKind`: which synth builder an event drives. -/
inductive EmitKind where
  | s7Read
  | s7ProgramDownload
  | s7Write
  | s7Stop
  | modbusWrite
  | tristationStatus
  | tristationDownload
  | iec104Interrogation
  | iec104Command
  | dnp3Read
  | dnp3Operate
  | cipRead
  | cipWrite
  | opcuaRead
  | iec101Interrogation
  | iec101Command
  | c2Beacon
  | remoteAccess
  | wiper
  | moxaBrick
deriving DecidableEq

/-- `DeviceRef`: how an event selects a plant device. -/
structure DeviceRef where
  ip : Option String := none
  model : Option String := none
  assetType : Option String := none
deriving DecidableEq

/-- `Event`. -/
structure Event where
  emit : EmitKind
  target : Option DeviceRef := none
  value : Option UInt16 := none
  register : Option UInt16 := none
  db : Option UInt16 := none
  offset : Option UInt16 := none
  unit : Option UInt8 := none
  ioa : Option UInt32 := none
  commonAddr : Option UInt16 := none
  point : Option UInt16 := none
  close : Option Bool := none
  blockId : Option String := none
  payloadHex : Option String := none
  chunk : Option Nat := none
  domain : Option String := none
  ip : Option String := none
  port : Option UInt16 := none
  share : Option String := none
deriving DecidableEq

/-- A `Phase` of the playbook file; the name and the technique ids are not modelled. -/
structure PhaseSpec where
  id : String
  dwellRuns : Nat := 1
  events : List Event := []
deriving DecidableEq

/-- What drives the timeline of a phase. -/
def PhaseSpec.timing (p : PhaseSpec) : Phase Event := ⟨p.dwellRuns, p.events⟩

/-- The playbook file, its phases. -/
abbrev PlaybookSpec := List PhaseSpec

/-- The timeline of a playbook that has phases. -/
def PlaybookSpec.playbook (pb : PlaybookSpec) (h : pb ≠ []) : Playbook Event :=
  ⟨pb.map PhaseSpec.timing, by simpa using h⟩

/-- `IocFidelity`. -/
inductive IocFidelity where
  | real
  | standin
deriving DecidableEq

/-- `ActorsCfg`: the network identity of the threat actor. -/
structure ActorsCfg where
  externalCidrs : List String := []
  c2Domains : List String := []
  c2Ips : List String := []
deriving DecidableEq

/-! ## Payloads in hexadecimal -/

/-- Why a `payload_hex` is refused. -/
inductive HexError where
  | invalidCharacter (c : Char)
  | oddDigits (digits : Nat)
deriving DecidableEq

/-- The separators `decode_hex_strict` skips. -/
def isHexSeparator (c : Char) : Bool := c ∈ [' ', '\t', '\n', '\r', ':', '-', '_']

/-- The digits of a text, separators left out; the first other character is an error. -/
def hexNibbles : List Char → Except HexError (List Nat)
  | [] => .ok []
  | c :: cs =>
    if isHexSeparator c then hexNibbles cs
    else
      match hexDigit c with
      | none => .error (.invalidCharacter c)
      | some d =>
        match hexNibbles cs with
        | .error e => .error e
        | .ok ds => .ok (d :: ds)

/-- Two digits a byte. -/
def packNibbles : List Nat → List UInt8
  | hi :: lo :: rest => UInt8.ofNat (hi * 16 + lo) :: packNibbles rest
  | _ => []

/-- `decode_hex_strict`. -/
def decodeHexStrict (s : String) : Except HexError (List UInt8) :=
  match hexNibbles s.toList with
  | .error e => .error e
  | .ok nibbles =>
    if nibbles.length % 2 = 0 then .ok (packNibbles nibbles) else .error (.oddDigits nibbles.length)

/-- `payload_bytes`: an absent, empty or malformed payload falls back to the default. -/
def payloadBytes (hex : Option String) (default : List UInt8) : List UInt8 :=
  match hex with
  | some h =>
    match decodeHexStrict h with
    | .ok b => if b.isEmpty then default else b
    | .error _ => default
  | none => default

/-- A payload is never empty, if its default is not. -/
theorem payloadBytes_ne_nil (hex : Option String) {default : List UInt8} (h : default ≠ []) :
    payloadBytes hex default ≠ [] := by
  unfold payloadBytes
  split
  · split
    · split
      · exact h
      · next hb => simpa using hb
    · exact h
  · exact h

end TurboLaser.Scenario
