import TurboLaser.Config.Overlay
import TurboLaser.Lib.Paths
import TurboLaser.Scenario.Preflight
import TurboLaser.Simulate.Engine

/-!
# Where a scenario pack lies (config.rs)

`load_with_scenario` finds a pack by its name: the name is a directory of `targets`, next to the
base configuration. It lays the pack's `scenario.yaml` over the base, and notes the directory in
the `target` block of the result. The plant, the playbook and the profiles are read from there,
under paths that the pack itself gives. A pack may come from anywhere, so the name and the three
paths are checked before anything is read through them.

A path is a text of components, as `std::path` takes it (`Lib.Path`). The YAML library, the file
system and the checks of `validate` in front of those of the `target` block are arguments.

- `checkTarget_eq_none_iff`: what a `target` block has to satisfy;
- `steps_of_isInside`: a path that is relative and never goes up is made of names only;
- `pack_confined`: **a configuration that loads reads its pack from below the directory of its
  name**, whatever the pack says.
-/

namespace TurboLaser.Config

open Lib Path
open Scenario (isBlank)

/-! ## The `target` block -/

/-- The fields of `TargetCfg` that say what is read, and those that `validate` checks. -/
structure TargetBlock where
  name : String
  maxFramesPerBurst : Nat
  plant : List Char
  playbook : List Char
  profiles : List Char
  packDir : List Char
deriving DecidableEq

/-- The paths that are joined onto the pack directory, by their fields. -/
def TargetBlock.files (t : TargetBlock) : List (String × List Char) :=
  [("plant", t.plant), ("playbook", t.playbook), ("profiles", t.profiles)]

/-- A configuration, as far as its `target` block is concerned; `rest` is all that the other
checks read. -/
structure PackedConfig (γ : Type) where
  mode : Mode
  remap : Bool
  target : Option TargetBlock
  rest : γ

/-- Why a configuration is refused. -/
inductive LoadError where
  /-- `invalid scenario name _ (use a bare slug like 'stuxnet')` -/
  | invalidName (name : String)
  /-- `reading _: _` -/
  | reading (path : List Char)
  /-- `reading scenario _: _` -/
  | readingScenario (path : List Char)
  /-- `parsing _: _` -/
  | parsing (path : List Char)
  /-- `merging scenario _ over _: _` -/
  | merging (name : String) (base : List Char)
  /-- ``scenario _ did not set a `target:` block in _`` -/
  | noTarget (name : String) (path : List Char)
  /-- What the checks in front of the `target` block say. -/
  | invalid (message : String)
  /-- `target scenario _ requires mode red_laser (it overlays red laser)` -/
  | targetMode (name : String)
  /-- `target scenario _ requires l3.remap = true (red laser is plan==wire)` -/
  | targetRemap (name : String)
  /-- `target.name must not be empty` -/
  | targetName
  /-- `target.max_frames_per_burst must be > 0` -/
  | targetBurst
  /-- `target._ '_' must be a relative path inside the pack dir (no leading '/' or '..')` -/
  | outsidePack (field : String) (path : List Char)
deriving DecidableEq

/-- The path is relative and never goes up. -/
def isInside (path : List Char) : Bool :=
  !isAbsolute path && (components path).all fun c => decide (c ≠ .up)

/-- The checks of `validate` on the `target` block: the first that fails. -/
def checkTarget {γ : Type} (cfg : PackedConfig γ) (t : TargetBlock) : Option LoadError :=
  if cfg.mode ≠ .redLaser then some (.targetMode t.name)
  else if cfg.remap = false then some (.targetRemap t.name)
  else if isBlank t.name = true then some .targetName
  else if t.maxFramesPerBurst = 0 then some .targetBurst
  else (t.files.find? fun f => !isInside f.2).map fun f => .outsidePack f.1 f.2

/-! ## Loading -/

/-- What a load meets: the files, the YAML library, and the checks of `validate` in front of
those of the `target` block. -/
structure LoadEnv (ν γ : Type) where
  /-- `read_to_string`; why a file cannot be read is left out. -/
  read : List Char → Option String
  /-- `serde_norway::from_str`, into a value. -/
  value : String → Option (Value ν)
  /-- `serde_norway::from_str`, into a configuration. -/
  config : String → Option (PackedConfig γ)
  /-- `serde_norway::from_value`. -/
  typed : Value ν → Option (PackedConfig γ)
  /-- `std::fs::canonicalize`. -/
  canonicalize : List Char → Option (List Char)
  /-- The earlier checks of `validate`, with their message. -/
  earlier : PackedConfig γ → Option String

section Load

variable {ν γ : Type} [BEq (Value ν)] (env : LoadEnv ν γ)

/-- `validate`. -/
def LoadEnv.validate (cfg : PackedConfig γ) : Except LoadError (PackedConfig γ) :=
  match env.earlier cfg with
  | some message => .error (.invalid message)
  | none =>
    match cfg.target.bind (checkTarget cfg) with
    | some e => .error e
    | none => .ok cfg

/-- `load`. -/
def LoadEnv.load (path : List Char) : Except LoadError (PackedConfig γ) :=
  match env.read path with
  | none => .error (.reading path)
  | some text =>
    match env.config text with
    | none => .error (.parsing path)
    | some cfg => env.validate cfg

/-- A name that can stand for a directory: not blank, and without a slash or a dot. -/
def isSlug (name : String) : Bool :=
  !isBlank name && name.toList.all fun c => c != '/' && c != '\\' && c != '.'

/-- The directory of the base configuration. -/
def baseDir (base : List Char) : List Char := (parent base).getD ['.']

/-- The directory of the pack: `targets/<name>`, next to the base configuration. -/
def packDirOf (base : List Char) (name : String) : List Char :=
  join (join (baseDir base) "targets".toList) name.toList

/-- `load_with_scenario`. -/
def LoadEnv.loadWithScenario (base : List Char) :
    Option String → Except LoadError (PackedConfig γ)
  | none => env.load base
  | some name =>
    if isSlug name = false then .error (.invalidName name)
    else
      match env.read base with
      | none => .error (.reading base)
      | some baseText =>
        let dir := packDirOf base name
        let path := join dir "scenario.yaml".toList
        match env.read path with
        | none => .error (.readingScenario path)
        | some overlayText =>
          match env.value baseText with
          | none => .error (.parsing base)
          | some merged =>
            match env.value overlayText with
            | none => .error (.parsing path)
            | some overlay =>
              match env.typed (deepMerge merged overlay) with
              | none => .error (.merging name base)
              | some cfg =>
                match cfg.target with
                | none => .error (.noTarget name path)
                -- what the YAML says of the directory is overwritten
                | some t =>
                  env.validate { cfg with
                    target := some { t with packDir := (env.canonicalize dir).getD dir } }

end Load

/-! ## What is checked -/

/-- **What a `target` block has to satisfy.** -/
theorem checkTarget_eq_none_iff {γ : Type} {cfg : PackedConfig γ} {t : TargetBlock} :
    checkTarget cfg t = none ↔
      (cfg.mode = .redLaser ∧ cfg.remap = true ∧ isBlank t.name = false ∧
        0 < t.maxFramesPerBurst) ∧ ∀ f ∈ t.files, isInside f.2 = true := by
  unfold checkTarget
  by_cases hmode : cfg.mode = .redLaser
  · by_cases hremap : cfg.remap = true
    · by_cases hname : isBlank t.name = true
      · simp [hmode, hremap, hname]
      · by_cases hburst : t.maxFramesPerBurst = 0
        · simp [hmode, hremap, hname, hburst]
        · simp [hmode, hremap, hname, hburst, Nat.pos_of_ne_zero hburst]
    · simp [hmode, hremap]
  · simp [hmode]

/-- A configuration that is validated is the one that came in, and its `target` block passes. -/
theorem validate_ok {ν γ : Type} {env : LoadEnv ν γ} {cfg cfg' : PackedConfig γ}
    (h : env.validate cfg = .ok cfg') :
    cfg' = cfg ∧ ∀ t ∈ cfg.target, checkTarget cfg t = none := by
  unfold LoadEnv.validate at h
  split at h
  · cases h
  · split at h
    · cases h
    · next hpass =>
      refine ⟨(Except.ok.inj h).symm, fun t ht => ?_⟩
      rwa [Option.mem_def.mp ht] at hpass

/-- **What a load with a scenario comes to**: the name is a slug, and the block that passed has
the directory of that name. -/
theorem loadWithScenario_ok {ν γ : Type} [BEq (Value ν)] {env : LoadEnv ν γ} {base : List Char}
    {name : String} {cfg : PackedConfig γ}
    (h : env.loadWithScenario base (some name) = .ok cfg) :
    isSlug name = true ∧ ∃ t, cfg.target = some t ∧
      t.packDir = (env.canonicalize (packDirOf base name)).getD (packDirOf base name) ∧
        checkTarget cfg t = none := by
  unfold LoadEnv.loadWithScenario at h
  dsimp only at h
  split at h
  · cases h
  · next hslug =>
    refine ⟨by simpa using hslug, ?_⟩
    split at h
    · cases h
    · split at h
      · cases h
      · split at h
        · cases h
        · split at h
          · cases h
          · split at h
            · cases h
            · split at h
              · cases h
              · obtain ⟨rfl, hpass⟩ := validate_ok h
                exact ⟨_, rfl, rfl, hpass _ rfl⟩

/-! ## Where it leads

A path is walked from a directory step by step, and `..` leads up. A file of a pack is checked to be
relative and without such a step, so it leads down from the pack directory, whatever that is. The
name of a scenario is checked as well; hence the pack directory is two steps below that of the
configuration.
-/

/-- **A path that passes is made of names**, after a dot perhaps. -/
theorem steps_of_isInside {path : List Char} (h : isInside path = true) :
    isAbsolute path = false ∧ ∃ names : List (List Char), steps path = names.map .name := by
  unfold isInside at h
  rw [Bool.and_eq_true, Bool.not_eq_true', List.all_eq_true] at h
  obtain ⟨hrelative, hdown⟩ := h
  refine ⟨hrelative, ?_⟩
  have hnames : ∀ c ∈ steps path, ∃ n, c = .name n := by
    intro c hc
    have hup : c ≠ .up := of_decide_eq_true (hdown c (List.mem_append_right _ hc))
    cases c with
    | name n => exact ⟨n, rfl⟩
    | up => exact absurd rfl hup
    -- neither a root nor a dot stands behind the beginning of a path
    | root => exact absurd (isStep_of_mem_steps hc).2 (by decide)
    | here => exact absurd (isStep_of_mem_steps hc).2 (by decide)
  generalize steps path = cs at hnames
  induction cs with
  | nil => exact ⟨[], rfl⟩
  | cons c cs ih =>
    obtain ⟨n, rfl⟩ := hnames c List.mem_cons_self
    obtain ⟨names, rfl⟩ := ih fun c hc => hnames c (List.mem_cons_of_mem _ hc)
    exact ⟨n :: names, rfl⟩

/-- The beginning of a relative path leads nowhere. -/
theorem walk_components_relative {path : List Char} (h : isAbsolute path = false)
    (cwd : List (List Char)) : walk cwd (components path) = walk cwd (steps path) := by
  have hfront : front path = [] ∨ front path = [.here] := by
    unfold front
    rw [if_neg (ne_true_of_eq_false h)]
    split
    · exact .inr rfl
    · exact .inl rfl
  unfold components
  obtain hnil | hhere := hfront
  · rw [hnil, List.nil_append]
  · rw [hhere]
    rfl

/-- A relative path behind another leads on from where that one leads. -/
theorem walk_join {a b : List Char} (h : isAbsolute b = false) (cwd : List (List Char)) :
    walk cwd (components (join a b)) = walk (walk cwd (components a)) (steps b) := by
  rw [components_join h]
  split
  · next hnil =>
    rw [hnil]
    exact walk_components_relative h cwd
  · rw [walk_append]

/-- A name without slash and dot is one step down. -/
theorem steps_of_isSlug {name : String} (h : isSlug name = true) :
    isAbsolute name.toList = false ∧ steps name.toList = [.name name.toList] := by
  unfold isSlug at h
  rw [Bool.and_eq_true, Bool.not_eq_true', List.all_eq_true] at h
  obtain ⟨hblank, hchars⟩ := h
  have hplain : '/' ∉ name.toList ∧ '.' ∉ name.toList := by
    constructor
    · intro hmem
      simpa using hchars _ hmem
    · intro hmem
      simpa using hchars _ hmem
  have hne : name.toList ≠ [] := by
    intro hnil
    rw [isBlank, hnil] at hblank
    cases hblank
  obtain ⟨hslash, hdot⟩ := hplain
  generalize name.toList = text at hslash hdot hne ⊢
  have hsegment : Lib.Path.segment text = some (.name text) := by
    unfold Lib.Path.segment
    split
    · exact absurd rfl hne
    · exact absurd List.mem_cons_self hdot
    · exact absurd List.mem_cons_self hdot
    · rfl
  refine ⟨?_, by rw [steps_segment hslash, hsegment]; rfl⟩
  cases text with
  | nil => rfl
  | cons c text =>
    refine decide_eq_false fun heq => hslash ?_
    rw [show c = '/' from heq]
    exact List.mem_cons_self

/-- The directory of the base configuration is where its components but the last lead. A base
without a parent has nothing else, and its directory is the one that one is in. -/
theorem walk_baseDir (base : List Char) (cwd : List (List Char)) :
    walk cwd (components (baseDir base)) = walk cwd (components base).dropLast := by
  unfold baseDir
  cases h : parent base with
  | some dir =>
    rw [Option.getD_some, components_parent h]
  | none =>
    have hshort : (components base).dropLast = [] := by
      unfold parent at h
      split at h
      · next hlast =>
        rw [List.getLast?_eq_none_iff.mp hlast]
        rfl
      · next hlast =>
        -- the root is a last component only where it is the only one
        exact dropLast_of_root hlast
      · cases h
    rw [hshort]
    rfl

/-- The directory of a pack is two steps below that of the base configuration. -/
theorem walk_packDirOf {base : List Char} {name : String} (h : isSlug name = true)
    (cwd : List (List Char)) :
    walk cwd (components (packDirOf base name)) =
      walk cwd (components base).dropLast ++ ["targets".toList, name.toList] := by
  obtain ⟨hrelative, hsteps⟩ := steps_of_isSlug h
  have htargets : isAbsolute "targets".toList = false ∧
      steps "targets".toList = [.name "targets".toList] := steps_of_isSlug (by decide +kernel)
  unfold packDirOf
  rw [walk_join hrelative, walk_join htargets.1, hsteps, htargets.2, walk_baseDir]
  show (_ ++ ["targets".toList]) ++ [name.toList] = _
  rw [List.append_assoc]
  rfl

/-- **A configuration that loads reads its pack from below the directory of its name.** The pack
directory is the canonical one of `targets/<name>` next to the base configuration, and every file
of the pack lies below the pack directory, wherever one starts from. -/
theorem pack_confined {ν γ : Type} [BEq (Value ν)] (env : LoadEnv ν γ) (base : List Char)
    (name : String) (cfg : PackedConfig γ)
    (h : env.loadWithScenario base (some name) = .ok cfg) :
    ∃ t, cfg.target = some t ∧
      t.packDir = (env.canonicalize (packDirOf base name)).getD (packDirOf base name) ∧
      (∀ cwd, walk cwd (components (packDirOf base name)) =
        walk cwd (components base).dropLast ++ ["targets".toList, name.toList]) ∧
      ∀ f ∈ t.files, ∃ down, ∀ cwd, walk cwd (components (join t.packDir f.2)) =
        walk cwd (components t.packDir) ++ down := by
  obtain ⟨hslug, t, htarget, hdir, hpass⟩ := loadWithScenario_ok h
  refine ⟨t, htarget, hdir, walk_packDirOf hslug, fun f hf => ?_⟩
  obtain ⟨-, hinside⟩ := checkTarget_eq_none_iff.mp hpass
  obtain ⟨hrelative, names, hnames⟩ := steps_of_isInside (hinside f hf)
  refine ⟨names, fun cwd => ?_⟩
  rw [walk_join hrelative, hnames, walk_names]

/-! ## A pack that points elsewhere -/

/-- A disk with a base configuration and the scenario of a pack; the texts stand for themselves. -/
def packEnv (plant : String) : LoadEnv Int Unit where
  read path := if path = "/etc/base.yaml".toList then some "base"
    else if path = "/etc/targets/grid/scenario.yaml".toList then some "overlay" else none
  value text := some (.string text)
  config _ := none
  typed _ := some ⟨.redLaser, true,
    some ⟨"grid", 64, plant.toList, "playbook.yaml".toList, "profiles.toml".toList, []⟩, ()⟩
  canonicalize := some
  earlier _ := none

/-- The pack of the slug loads, and its plant is read from below its directory. -/
theorem pack_confined_grid :
    ∃ cfg, (packEnv "plant.yaml").loadWithScenario "/etc/base.yaml".toList (some "grid") =
        .ok cfg ∧
      ∃ t, cfg.target = some t ∧ t.packDir =
          (some (packDirOf "/etc/base.yaml".toList "grid")).getD
            (packDirOf "/etc/base.yaml".toList "grid") ∧
        (∀ cwd, walk cwd (components (packDirOf "/etc/base.yaml".toList "grid")) =
          walk cwd (components "/etc/base.yaml".toList).dropLast ++
            ["targets".toList, "grid".toList]) ∧
        ∀ f ∈ t.files, ∃ down, ∀ cwd, walk cwd (components (join t.packDir f.2)) =
          walk cwd (components t.packDir) ++ down :=
  ⟨_, rfl, pack_confined (packEnv "plant.yaml") "/etc/base.yaml".toList "grid" _ rfl⟩

end TurboLaser.Config
