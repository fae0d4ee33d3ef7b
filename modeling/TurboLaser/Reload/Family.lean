import TurboLaser.Lib.Lines
import TurboLaser.Lib.Numerals
import TurboLaser.Reload.Pipeline
import TurboLaser.Simulate.Zones
import TurboLaser.Synth.Oid
import TurboLaser.Text

/-!
# Families of rounds (reload/mod.rs, reload/manifest.rs)

`reload` forges one round for each of a range of seeds, writes each with a manifest, and adds them
to the index of the out dir, which earlier reloads have filled.

A directory is a finite map from names to what a file holds, and a file may be missing, whole, or
torn: a write that fails may have begun. So a write is one of three outcomes, which the caller of
the model picks for every file that the command writes; what the disk and `tshark` do is an
argument. The index is read again at every reload, and an index that cannot be read counts as empty,
as in the source.

- `parseSeed`, `roundName`, `buildManifest`: the texts and records of a round;
- `OutDir`: what is in the out dir, where a write may not begin, or not finish;
- `reload`: the command, its exit code and the out dir it leaves.

The duration in a manifest, a floating-point number, is left out, and so is what is printed. The CRC
of the DNP3 mutator and the table of identities are arguments of the forge, and so of the command.
-/

namespace TurboLaser

open Lib Synth

/-! ## Seeds and names -/

/-- `u64::from_str_radix`, in base 16: a sign is allowed, and any number of leading zeros. -/
def parseHex64 (cs : List Char) : Option Nat :=
  let digits := if cs.head? = some '+' then cs.drop 1 else cs
  (readNumeral hexDigit 16 digits).filter fun n => decide (n < 18446744073709551616)

/-- `parse_seed`; `none` for its error. -/
def parseSeed : Option String → Option UInt64
  | none => some 0
  | some t =>
    let t := trim isWhiteSpace t.toList
    match (stripPrefix ['0', 'x'] t).or (stripPrefix ['0', 'X'] t) with
    | some hex => (parseHex64 hex).map UInt64.ofNat
    | none => (parseU64 t).map UInt64.ofNat

/-- The text of a seed in base 16. -/
def hexText (seed : UInt64) : List Char := Nat.toDigits 16 seed.toNat

/-- The name of a round, without the extension. -/
def roundName (stem : String) (i : Nat) (seed : UInt64) : String :=
  String.ofList (stem.toList ++ "__v".toList ++ pad 4 (Nat.toDigits 10 (i + 1)) ++
    "__seed-".toList ++ hexText seed)

/-! ## Manifests -/

/-- `ModeSel`. -/
inductive ModeSel where
  | redLaser
  | greenLaser
deriving DecidableEq

def ModeSel.text : ModeSel → String
  | redLaser => "red_laser"
  | greenLaser => "green_laser"

/-- `proto_name`. -/
def protoName : Protocol → String
  | .modbus => "modbus"
  | .enip => "enip"
  | .s7 => "s7"
  | .dnp3 => "dnp3"

/-- `MutationEntry`. -/
structure MutationEntry where
  protocol : String
  field : String
  original : UInt64
  new : UInt64
deriving DecidableEq

def MutationReport.entry (m : MutationReport) : MutationEntry :=
  ⟨protoName m.protocol, m.field, m.original, m.new⟩

/-- The rewrites of a round, each once, in the order in which they were made. -/
def uniqueMutations (reports : List MutationReport) : List MutationEntry :=
  reports.foldl (fun seen m => if m.entry ∈ seen then seen else seen ++ [m.entry]) []

/-- `L3Entry`. -/
structure L3Entry where
  old : String
  new : String
deriving DecidableEq

/-- `Manifest`, without the duration. -/
structure Manifest where
  source : String
  seed : UInt64
  seedHex : String
  mode : String
  frames : Nat
  mutations : List MutationEntry
  l3 : List L3Entry
deriving DecidableEq

/-- `build`. -/
def buildManifest (source : String) (seed : UInt64) (mode : String) (result : RoundResult) :
    Manifest :=
  { source
    seed
    seedHex := String.ofList (hexText seed)
    mode
    frames := result.frames
    mutations := uniqueMutations result.mutations
    l3 := (result.l3.map fun s => s.subnets.map fun n => ⟨showIpv4Net n.1, showIpv4Net n.2⟩).getD [] }

/-! ## The out dir -/

/-- A file: its content, or what a write that did not finish has left. -/
inductive OutFile (α : Type) where
  | whole (content : α)
  | torn
deriving DecidableEq

/-- How a write goes: to its end, not at all, or not to its end. -/
inductive WriteOutcome where
  | done
  | refused
  | torn
deriving DecidableEq

/-- The file behind a write. -/
def WriteOutcome.leaves {α : Type} (w : WriteOutcome) (old : Option (OutFile α)) (new : α) :
    Option (OutFile α) :=
  match w with
  | .done => some (.whole new)
  | .refused => old
  | .torn => some .torn

/-- `IndexEntry`. -/
structure IndexEntry where
  file : String
  seed : UInt64
  frames : Nat
  mutations : Nat
deriving DecidableEq

/-- The out dir: captures and manifests by the names of their rounds, and the index. -/
structure OutDir where
  pcaps : String → Option (OutFile Capture)
  manifests : String → Option (OutFile Manifest)
  index : Option (OutFile (List IndexEntry))

/-- An out dir with nothing in it. -/
def OutDir.empty : OutDir := ⟨fun _ => none, fun _ => none, none⟩

/-- `load_index`: an index that is missing, or cannot be read, is empty. -/
def OutDir.loadIndex (dir : OutDir) : List IndexEntry :=
  match dir.index with
  | some (.whole entries) => entries
  | some .torn => []
  | none => []

/-! ## The command -/

/-- `ReloadArgs`, with the stem of the input. -/
structure ReloadArgs where
  stem : Option String
  proto : Option Protocol
  seedBase : Option String
  count : Nat
  mode : ModeSel
  remapL3 : Bool
  validate : Bool

/-- What one round meets; `tshark` is `none` where there is no `tshark`. -/
structure RoundIo where
  pcap : WriteOutcome
  manifest : WriteOutcome
  tshark : Option (Except String Unit)

/-- What `reload` meets. -/
structure ReloadEnv where
  input : Except String Capture
  mkdir : Bool
  rounds : Nat → RoundIo
  index : WriteOutcome

/-- `for_protocol`. -/
def forProtocol (p : Option Protocol) : List Protocol :=
  match p with
  | none => allMutators
  | some want => allMutators.filter fun m => decide (m = want)

def ReloadArgs.stemText (args : ReloadArgs) : String := args.stem.getD "capture"

def ReloadArgs.options (args : ReloadArgs) : ReloadOptions :=
  ⟨args.remapL3, [], forProtocol args.proto⟩

/-- The state of the loop over the rounds. -/
structure ReloadState where
  dir : OutDir
  index : List IndexEntry
  ok : Bool

/-- `tshark` finds nothing wrong with a round, or is not asked. -/
def RoundIo.clean (io : RoundIo) (validate : Bool) : Bool :=
  !validate || (io.tshark.map fun verdict => verdict.isOk).getD true

section Command

variable (seedFrom : UInt64 → Rng) (crc : List UInt8 → UInt16) (ids : List EnipId)
  (args : ReloadArgs) (src : Capture)
  (base : UInt64) (env : ReloadEnv)

/-- The seed of a round. -/
def roundSeed (base : UInt64) (i : Nat) : UInt64 := base + UInt64.ofNat i

/-- What a round forges. -/
def ReloadArgs.forge (i : Nat) : Capture × RoundResult :=
  forgeRound seedFrom crc ids src (roundSeed base i) args.options

/-- The name of a round of a family. -/
def ReloadArgs.name (i : Nat) : String := roundName args.stemText i (roundSeed base i)

/-- The manifest of a round. -/
def ReloadArgs.manifest (i : Nat) : Manifest :=
  buildManifest args.stemText (roundSeed base i) args.mode.text
    (args.forge seedFrom crc ids src base i).2

/-- The entry of a round in the index. -/
def ReloadArgs.entry (i : Nat) : IndexEntry :=
  { file := args.name base i ++ ".pcap"
    seed := roundSeed base i
    frames := (args.forge seedFrom crc ids src base i).2.frames
    mutations := (args.manifest seedFrom crc ids src base i).mutations.length }

/-- One round: without its capture there is no manifest, and no entry. -/
def reloadRound (st : ReloadState) (i : Nat) : ReloadState :=
  let name := args.name base i
  let io := env.rounds i
  let pcaps := Function.update st.dir.pcaps name
    (io.pcap.leaves (st.dir.pcaps name) (args.forge seedFrom crc ids src base i).1)
  if io.pcap = .done then
    { dir :=
        { st.dir with
          pcaps
          manifests := Function.update st.dir.manifests name
            (io.manifest.leaves (st.dir.manifests name)
              (args.manifest seedFrom crc ids src base i)) }
      index := st.index ++ [args.entry seedFrom crc ids src base i]
      ok := st.ok && io.clean args.validate }
  else { st with dir := { st.dir with pcaps }, ok := false }

/-- The first rounds of a family. -/
def reloadRounds (dir : OutDir) (count : Nat) : ReloadState :=
  (List.range count).foldl (reloadRound seedFrom crc ids args src base env)
    ⟨dir, dir.loadIndex, true⟩

/-- `reload`: the exit code, and the out dir behind it. -/
def reload (dir : OutDir) : Nat × OutDir :=
  match parseSeed args.seedBase with
  | none => (2, dir)
  | some base =>
    match env.input with
    | .error _ => (1, dir)
    | .ok src =>
      if env.mkdir = false then (1, dir)
      else
        let st := reloadRounds seedFrom crc ids args src base env dir args.count
        (if st.ok then 0 else 1,
          { st.dir with index := env.index.leaves st.dir.index st.index })

end Command

end TurboLaser
