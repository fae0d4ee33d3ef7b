import TurboLaser.Scenario.Preflight
import TurboLaser.Scenario.Skeleton

/-!
# Which packs are accepted

What a pack is accepted for, in terms of its files: the playbook and the plant are read, the
skeleton of the plant exists, and every event finds its target among the shapes of the plant.

`preflight` builds the plant under one fixed seed and validates the playbook against it; the daemon
builds it under the seed of its session. So a fact about acceptance is worth having only in a form
that does not mention a seed. The skeleton gives that form for whether there is a plant at all. For
the targets it cannot: which infrastructure profile a firewall gets does depend on the seed, so
`AllTargeted` takes the shapes the plant shows under one.

- `AllTargeted`: what `validate_targets` checks, over shapes;
- `validateTargets_eq_ok`: that it does check this, event by event, up to the first event without a
  target;
- `buildWith_eq_ok`: **what a plant that was built and validated is**;
- `accepted_buildWith`, `accepted_preflightWith`: **when there is one**. Over the same database the
  models of the plant are known as well, since `preflight` refuses a model that no profile has.
-/

namespace TurboLaser.Scenario

open Lib

/-- The call returned `Ok`. -/
def Accepted {ε α : Type} (outcome : Option (Except ε α)) : Prop := ∃ a, outcome = some (.ok a)

/-! ## Targets -/

/-- The reference names an asset: by its address, its model or its asset type. -/
def DeviceRef.Names (t : DeviceRef) (sh : Shape) : Prop :=
  t.ip = some (showIpv4Addr sh.ip) ∨ t.model = some sh.model ∨
    (t.assetType ≠ none ∧ t.assetType = sh.assetType)

instance (t : DeviceRef) (sh : Shape) : Decidable (t.Names sh) :=
  inferInstanceAs (Decidable (_ ∨ _ ∨ (_ ∧ _)))

/-- The event has a target among the shapes; only a beacon needs none. -/
def Event.Targeted (shapes : List Shape) (ev : Event) : Prop :=
  match ev.target with
  | some t => ∃ sh ∈ shapes, t.Names sh
  | none => ev.emit = .c2Beacon

instance (shapes : List Shape) (ev : Event) : Decidable (ev.Targeted shapes) := by
  unfold Event.Targeted
  split <;> infer_instance

/-- Every event of the playbook has a target. -/
def AllTargeted (pb : PlaybookSpec) (shapes : List Shape) : Prop :=
  ∀ ph ∈ pb, ∀ ev ∈ ph.events, ev.Targeted shapes

instance (pb : PlaybookSpec) (shapes : List Shape) : Decidable (AllTargeted pb shapes) :=
  inferInstanceAs (Decidable (∀ ph ∈ pb, ∀ ev ∈ ph.events, ev.Targeted shapes))

theorem isSome_bind_find? {α β : Type} (o : Option β) (l : List α) (p : β → α → Bool) :
    (o.bind fun b => l.find? (p b)).isSome ↔ ∃ a ∈ l, ∃ b, o = some b ∧ p b a = true := by
  cases o with
  | none => simp
  | some b => simp

/-- A reference resolves exactly when it names a device. -/
theorem isSome_resolve (s : Session) (t : DeviceRef) :
    (resolve (plantLedger s) (some t)).isSome ↔ ∃ sh ∈ s.devices.map shapeOf, t.Names sh := by
  rw [resolve, Option.bind_some, Option.isSome_or, Option.isSome_or, Bool.or_eq_true,
    Bool.or_eq_true, isSome_bind_find?, isSome_bind_find?, isSome_bind_find?]
  constructor
  · rintro (⟨e, he, ip, ht, hp⟩ | ⟨e, he, m, ht, hp⟩ | ⟨e, he, a, ht, hp⟩)
    all_goals
      obtain ⟨d, hd, rfl⟩ := List.mem_map.mp he
      refine ⟨shapeOf d, List.mem_map_of_mem hd, ?_⟩
      simp only [decide_eq_true_eq] at hp
    · exact .inl (by rw [ht, ← hp]; rfl)
    · exact .inr (.inl (by rw [ht, ← hp]; rfl))
    · exact .inr (.inr ⟨by rw [ht]; exact Option.some_ne_none a, by rw [ht, ← hp]; rfl⟩)
  · rintro ⟨sh, hsh, hnames⟩
    obtain ⟨d, hd, rfl⟩ := List.mem_map.mp hsh
    have hentry : entryOf d ∈ plantLedger s := List.mem_map_of_mem hd
    obtain h | h | ⟨hsome, h⟩ := hnames
    · exact .inl ⟨_, hentry, _, h, decide_eq_true rfl⟩
    · exact .inr (.inl ⟨_, hentry, _, h, decide_eq_true rfl⟩)
    · obtain ⟨a, ha⟩ := Option.ne_none_iff_exists'.mp hsome
      exact .inr (.inr ⟨_, hentry, a, ha, decide_eq_true (h.symm.trans ha)⟩)

/-- The check of one event finds nothing exactly when the event has a target. -/
theorem targetError_eq_none (s : Session) (phase : String) (ev : Event) (i : Nat) :
    targetError (plantLedger s) phase (ev, i) = none ↔ ev.Targeted (s.devices.map shapeOf) := by
  unfold targetError Event.Targeted
  dsimp only
  cases ev.target with
  | none => simp
  | some t =>
    dsimp only
    rw [← isSome_resolve, ← Option.not_isSome_iff_eq_none]
    cases resolve (plantLedger s) (some t) <;> simp

theorem firstError_eq_ok {errors : List PackError} :
    firstError errors = .ok () ↔ errors = [] := by
  cases errors with
  | nil => simp [firstError]
  | cons e es => simp [firstError]

/-- **`validate_targets` accepts exactly the playbooks whose events all have a target.** -/
theorem validateTargets_eq_ok (pb : PlaybookSpec) (s : Session) :
    validateTargets pb (plantLedger s) = .ok () ↔ AllTargeted pb (s.devices.map shapeOf) := by
  rw [validateTargets, firstError_eq_ok, targetErrors, List.flatMap_eq_nil_iff]
  refine forall₂_congr fun ph _ => ?_
  rw [List.filterMap_eq_nil_iff]
  constructor
  · intro h ev hev
    obtain ⟨i, hi, rfl⟩ := List.mem_iff_getElem.mp hev
    exact (targetError_eq_none s ph.id _ i).mp
      (h _ (List.mk_mem_zipIdx_iff_getElem?.mpr (List.getElem?_eq_getElem hi)))
  · rintro h ⟨ev, i⟩ he
    exact (targetError_eq_none s ph.id ev i).mpr (h ev (List.fst_mem_of_mem_zipIdx he))

/-! ## Accepted plants

To build and validate reads the files, pins the plant, casts the gear and looks for the target of
every event. The skeleton of the plant and the shapes of its slots say how each of these ends,
without building. `preflight` looks for unknown models on top.
-/

theorem loadOverlay_ne_nil (dec : Decoders) (profiles : Option String) :
    loadOverlay dec profiles ≠ [] := by
  unfold loadOverlay
  split
  · exact VulnDb.overlay_ne_nil VulnDb.embedded_ne_nil _
  · exact VulnDb.embedded_ne_nil

variable {dec : Decoders} {vuln : VulnDb} {dnsDomains : List String} {t : TargetCfg} {oui : OuiDb}
  {seed : UInt64}

theorem map_eq_ok {ε α β : Type} {x : Except ε α} {f : α → β} {b : β} :
    x.map f = .ok b ↔ ∃ a, x = .ok a ∧ f a = b := by
  cases x with
  | error e => simp [Except.map]
  | ok a => simp [Except.map]

/-- **A plant that was built and validated**: its files were read, it shows what its skeleton
says, and every event of the playbook has a target in it. -/
theorem buildWith_eq_ok {s : Session} :
    buildWith dec vuln dnsDomains t oui seed = some (.ok s) ↔
      vuln ≠ [] ∧ ∃ pb spec, loadEngine dec t = .ok pb ∧ loadPlant dec t.pack.plant = .ok spec ∧
        buildSealedSession spec vuln oui seed dnsDomains = some (.ok s) ∧
        AllTargeted pb (s.devices.map shapeOf) := by
  unfold buildWith pinFromPack
  by_cases hvuln : vuln = []
  · simp [hvuln]
  -- the steps of the build in their order; each that fails ends it
  rw [if_neg hvuln]
  cases hengine : loadEngine dec t with
  | error e => simp
  | ok pb =>
    cases hplant : loadPlant dec t.pack.plant with
    | error e => simp
    | ok spec =>
      dsimp only
      cases hbuild : buildSealedSession spec vuln oui seed dnsDomains with
      | none => simp [hbuild]
      | some r =>
        cases r with
        | error e => simp [hbuild, Except.mapError]
        | ok s' =>
          simp only [Option.map_some, Except.mapError, Option.some.injEq, map_eq_ok,
            Except.ok.injEq]
          constructor
          · rintro ⟨⟨⟩, hvalid, rfl⟩
            exact ⟨hvuln, pb, spec, rfl, rfl, hbuild, (validateTargets_eq_ok pb s').mp hvalid⟩
          · rintro ⟨-, pb', spec', rfl, rfl, heq, htargets⟩
            rw [hbuild] at heq
            cases heq
            exact ⟨(), (validateTargets_eq_ok pb _).mpr htargets, rfl⟩

/-- **A plant can be built and validated** when its files are read, its skeleton exists and every
event has a target among the shapes the slots have under the seed. -/
theorem accepted_buildWith :
    Accepted (buildWith dec vuln dnsDomains t oui seed) ↔
      vuln ≠ [] ∧ ∃ pb spec slots, loadEngine dec t = .ok pb ∧
        loadPlant dec t.pack.plant = .ok spec ∧ skeleton spec vuln = .ok slots ∧
        AllTargeted pb (slots.map (Slot.shape vuln seed)) := by
  constructor
  · rintro ⟨s, hs⟩
    obtain ⟨hvuln, pb, spec, hengine, hplant, hbuild, htargets⟩ := buildWith_eq_ok.mp hs
    have hskel := buildSealedSession_skeleton spec vuln oui seed dnsDomains
    cases hslots : skeleton spec vuln with
    | error e =>
      rw [hslots] at hskel
      rw [hskel] at hbuild
      cases hbuild
    | ok slots =>
      rw [hslots] at hskel
      obtain ⟨s', hs', hshows⟩ := hskel
      rw [hs'] at hbuild
      cases hbuild
      exact ⟨hvuln, pb, spec, slots, hengine, hplant, hslots, hshows.shapes ▸ htargets⟩
  · rintro ⟨hvuln, pb, spec, slots, hengine, hplant, hslots, htargets⟩
    have hskel := buildSealedSession_skeleton spec vuln oui seed dnsDomains
    rw [hslots] at hskel
    obtain ⟨s, hs, hshows⟩ := hskel
    exact ⟨s, buildWith_eq_ok.mpr ⟨hvuln, pb, spec, hengine, hplant, hs, hshows.shapes ▸ htargets⟩⟩

/-- No device of the plant should have been a profile's and is none. -/
def AllModelsKnown (vuln : VulnDb) (spec : PlantSpec) : Prop :=
  ∀ d ∈ spec.devices, ∀ m, d.model = some m → d.identityOnly = true ∨ vuln.byModel m ≠ none

/-- **`preflight` accepts over a database** when the models of the plant are known to it and the
plant can be built and validated. -/
theorem accepted_preflightWith {cfg : PackConfig} :
    Accepted (preflightWith dec vuln cfg t oui) ↔
      (∃ spec, loadPlant dec t.pack.plant = .ok spec ∧ AllModelsKnown vuln spec) ∧
        Accepted (buildWith dec vuln cfg.dnsDomains t oui (cfg.seed.getD 0)) := by
  unfold preflightWith Accepted
  cases hplant : loadPlant dec t.pack.plant with
  | error e => simp
  | ok spec =>
    -- the check of the models stands between reading the plant and building it
    have hknown : firstError (spec.devices.filterMap (unknownModel vuln)) = .ok () ↔
        AllModelsKnown vuln spec := by
      rw [firstError_eq_ok, List.filterMap_eq_nil_iff]
      refine forall₂_congr fun d _ => ?_
      unfold unknownModel
      cases d.model with
      | none => simp
      | some m => cases d.identityOnly <;> simp
    dsimp only
    cases hfirst : firstError (spec.devices.filterMap (unknownModel vuln)) with
    | error e =>
      rw [hfirst] at hknown
      have hno : ¬ AllModelsKnown vuln spec := fun h => by cases hknown.mpr h
      simp [hno]
    | ok u =>
      have hyes : AllModelsKnown vuln spec := hknown.mp hfirst
      generalize buildWith dec vuln cfg.dnsDomains t oui (cfg.seed.getD 0) = outcome
      simp [hyes, map_eq_ok]

end TurboLaser.Scenario
