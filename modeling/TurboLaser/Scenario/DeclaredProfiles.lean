import TurboLaser.Scenario.PreflightFacts

/-!
# Profiles a pack declares

`preflight` refuses a profiles file that is no TOML. `load_overlay` ignores one that is TOML and no
profile file, and then everything behind runs over the embedded database. So a declared profile is
ignored silently when the pack is sound without it.

The readers of the two formats are libraries, and one of them is stricter than the other: a document
may be well formed and have a field missing. Only the first kind of fault is fatal. The second
leaves a line in the log of the daemon, and at pre-flight it shows at most as a model that is not
found, which is no error either: a device of an unknown model is pinned with the identity it
declares.

- `PackSound`: the files of a pack, over a database, pass every check but that of the profiles file;
- `declared_profiles_used_iff`: **`preflight` guarantees that the declared profiles are used exactly
  when the file decodes, is no TOML, or the pack is not sound without it.** In the last two cases
  there is no acceptance, and nothing to guarantee.
-/

namespace TurboLaser.Scenario

/-- The pack is sound over a database: its playbook and its plant are read, the models the plant
names are known, the plant can be built, and every event has a target in it. -/
def PackSound (dec : Decoders) (vuln : VulnDb) (seed : UInt64) (t : TargetCfg) : Prop :=
  ∃ pb spec slots, loadEngine dec t = .ok pb ∧ loadPlant dec t.pack.plant = .ok spec ∧
    AllModelsKnown vuln spec ∧ skeleton spec vuln = .ok slots ∧
    AllTargeted pb (slots.map (Slot.shape vuln seed))

/-- The checks behind that of the profiles file accept the sound packs. -/
theorem accepted_preflightWith_iff_sound {dec : Decoders} {vuln : VulnDb} {cfg : PackConfig}
    {t : TargetCfg} (oui : OuiDb) (hvuln : vuln ≠ []) :
    Accepted (preflightWith dec vuln cfg t oui) ↔ PackSound dec vuln (cfg.seed.getD 0) t := by
  rw [accepted_preflightWith, accepted_buildWith]
  constructor
  · rintro ⟨⟨spec, hspec, hknown⟩, -, pb, spec', slots, hengine, hplant, hslots, htargets⟩
    rw [hspec] at hplant
    cases hplant
    exact ⟨pb, spec, slots, hengine, hspec, hknown, hslots, htargets⟩
  · rintro ⟨pb, spec, slots, hengine, hplant, hknown, hslots, htargets⟩
    exact ⟨⟨spec, hplant, hknown⟩, hvuln, pb, spec, slots, hengine, hplant, hslots, htargets⟩

/-- What `preflight` accepts of a pack whose profiles file is readable and not blank. -/
theorem preflight_eq_ok {dec : Decoders} {oui : OuiDb} {cfg : PackConfig} {t : TargetCfg}
    {text : String} (htarget : cfg.target = some t) (htext : t.pack.profiles = some text)
    (hblank : isBlank text = false) :
    preflight dec oui cfg = some (.ok ()) ↔
      dec.toml text ≠ none ∧
        PackSound dec (loadOverlay dec (some text)) (cfg.seed.getD 0) t := by
  have hmal : profilesMalformed dec t.pack.profiles = (dec.toml text).isNone := by
    simp [profilesMalformed, htext, hblank]
  have hbehind : preflightWith dec (loadOverlay dec (some text)) cfg t oui = some (.ok ()) ↔
      PackSound dec (loadOverlay dec (some text)) (cfg.seed.getD 0) t := by
    rw [← accepted_preflightWith_iff_sound oui (loadOverlay_ne_nil dec (some text))]
    exact ⟨fun h => ⟨(), h⟩, fun ⟨_, h⟩ => h⟩
  unfold preflight
  rw [htarget]
  dsimp only
  rw [hmal, htext]
  cases dec.toml text with
  | none => simp
  | some doc => simpa using hbehind

/-- **`preflight` guarantees that the declared profiles are used, the last one for each model,
exactly when the file decodes, is no TOML, or the pack is not sound without it.** -/
theorem declared_profiles_used_iff (dec : Decoders) (oui : OuiDb) (cfg : PackConfig) (t : TargetCfg)
    (text : String) (htarget : cfg.target = some t) (htext : t.pack.profiles = some text)
    (hblank : isBlank text = false) :
    (preflight dec oui cfg = some (.ok ()) →
        ∃ pack, parseProfiles dec text = some pack ∧
          ∀ m p, VulnDb.lastByModel pack m = some p →
            (loadOverlay dec t.pack.profiles).byModel m = some p) ↔
      parseProfiles dec text ≠ none ∨ dec.toml text = none ∨
        ¬ PackSound dec VulnDb.embedded (cfg.seed.getD 0) t := by
  rw [preflight_eq_ok htarget htext hblank, htext]
  cases hparse : parseProfiles dec text with
  -- a file that decodes is laid over the embedded set; one that does not leaves that set as it is
  | some pack =>
    have hoverlay : loadOverlay dec (some text) = VulnDb.embedded.overlay pack := by
      simp [loadOverlay, hparse]
    refine iff_of_true (fun _ => ⟨pack, rfl, fun m p hlast => ?_⟩) (.inl (Option.some_ne_none pack))
    rw [hoverlay, VulnDb.byModel_overlay, hlast]
    rfl
  | none =>
    have hoverlay : loadOverlay dec (some text) = VulnDb.embedded := by
      simp [loadOverlay, hparse]
    rw [hoverlay]
    constructor
    · intro h
      by_cases htoml : dec.toml text = none
      · exact .inr (.inl htoml)
      · refine .inr (.inr fun hsound => ?_)
        obtain ⟨pack, hpack, -⟩ := h ⟨htoml, hsound⟩
        cases hpack
    · rintro (hne | htoml | hsound) ⟨htoml', hsound'⟩
      · exact absurd rfl hne
      · exact absurd htoml htoml'
      · exact absurd hsound' hsound

/-! ## A profiles file that is ignored -/

/-- A profile without vendor, firmware and protocol; a plant with one device of that model that
describes itself; a playbook without events; and what they decode to. -/
def partialProfilesText : String := "[[profile]]\nmodel = 'SIMATIC S7-417'\n"

def partialPlantText : String :=
  "zones:\n- cidr: 10.20.10.0/24\n  name: Cell\n  purdue_level: 1\ndevices:\n" ++
    "- zone: 10.20.10.0/24\n  model: SIMATIC S7-417\n  vendor: Siemens AG\nenrich: false\n"

def partialPlaybookText : String := "phases:\n- id: idle\n"

def partialPlant : PlantSpec :=
  { zones := [⟨"10.20.10.0/24", "Cell", 1, none⟩]
    devices :=
      [{ zone := "10.20.10.0/24", model := some "SIMATIC S7-417", vendor := some "Siemens AG" }]
    enrich := false }

def partialDecoders : Decoders where
  Toml := Unit
  toml := fun text => if text = partialProfilesText then some () else none
  profileFile := fun _ => none
  plantSpec := fun text => if text = partialPlantText then some partialPlant else none
  playbook := fun text => if text = partialPlaybookText then some [{ id := "idle" }] else none

def partialPack : TargetCfg :=
  { pack := ⟨some partialProfilesText, some partialPlantText, some partialPlaybookText⟩ }

theorem partial_pack_profiles :
    (preflight partialDecoders ⟨∅, ∅⟩ ⟨none, [], some partialPack⟩ = some (.ok ()) →
        ∃ pack, parseProfiles partialDecoders partialProfilesText = some pack ∧
          ∀ m p, VulnDb.lastByModel pack m = some p →
            (loadOverlay partialDecoders partialPack.pack.profiles).byModel m = some p) ↔
      parseProfiles partialDecoders partialProfilesText ≠ none ∨
        partialDecoders.toml partialProfilesText = none ∨
        ¬ PackSound partialDecoders VulnDb.embedded 0 partialPack :=
  declared_profiles_used_iff partialDecoders ⟨∅, ∅⟩ ⟨none, [], some partialPack⟩ partialPack
    partialProfilesText rfl rfl (by decide +kernel)

/-- `preflight` accepts the pack, and its profiles file does not decode. -/
theorem undecodable_profiles_accepted :
    ¬ ∀ (dec : Decoders) (oui : OuiDb) (cfg : PackConfig) (t : TargetCfg) (text : String),
      cfg.target = some t → t.pack.profiles = some text → isBlank text = false →
        preflight dec oui cfg = some (.ok ()) →
          ∃ pack, parseProfiles dec text = some pack ∧
            ∀ m p, VulnDb.lastByModel pack m = some p →
              (loadOverlay dec t.pack.profiles).byModel m = some p := by
  intro h
  have hblank : isBlank partialProfilesText = false := by decide +kernel
  have hsound : PackSound partialDecoders VulnDb.embedded 0 partialPack :=
    ⟨_, partialPlant, [⟨ipv4 10 20 10 2, "Controller", .pinned "SIMATIC S7-417"⟩], rfl,
      by simp [loadPlant, partialPack, partialDecoders],
      by simp [AllModelsKnown, partialPlant, DeviceSpec.identityOnly], by decide +kernel,
      by decide +kernel⟩
  obtain ⟨pack, hpack, -⟩ := h partialDecoders ⟨∅, ∅⟩ ⟨none, [], some partialPack⟩ partialPack
    partialProfilesText rfl rfl hblank
    ((preflight_eq_ok rfl rfl hblank).mpr ⟨by decide +kernel, hsound⟩)
  cases hpack

end TurboLaser.Scenario
