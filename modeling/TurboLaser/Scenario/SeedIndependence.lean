import TurboLaser.Scenario.PreflightFacts

/-!
# When the verdict on a pack does not depend on the seed

`preflight` runs under seed 0 or the configured one, the daemon draws another. What the
seed changes of a plant is which profile `infra_profile` picks for a firewall, a router
or a switch out of those the database holds for its class, so it matters exactly for
events that name such an asset by its model.

- `Slot.models`: the models an asset may have, read off its class and the database;
  `exists_seed_of_mem_models`: some seed gives it each of them;
- `PackSettled`: every event has a target whichever profiles are picked, or no choice of
  profiles gives all events one;
- `pack_validation_seed_free_iff`: **the verdict is then the same under all seeds, and, as
  long as no two assets matter at once, only then.**

The picks of several assets are functions of one seed. Two firewalls whose addresses
differ in the right bit always pick different profiles of two, and then an event that
names one of the two makes is served by one or the other: no single choice explains it,
and `PackSettled` does not count on it.
-/

namespace TurboLaser.Scenario

open Lib

variable {dec : Decoders} {t : TargetCfg} {vuln : VulnDb}

/-- The verdict on a pack, over its skeleton. -/
theorem accepted_buildValidatedPlant {dnsDomains : List String} {oui : OuiDb} {seed : UInt64} :
    Accepted (buildValidatedPlant dec dnsDomains t oui seed) ↔
      loadOverlay dec t.pack.profiles ≠ [] ∧ ∃ pb spec slots, loadEngine dec t = .ok pb ∧
        loadPlant dec t.pack.plant = .ok spec ∧
        skeleton spec (loadOverlay dec t.pack.profiles) = .ok slots ∧
        AllTargeted pb (slots.map (Slot.shape (loadOverlay dec t.pack.profiles) seed)) :=
  accepted_buildWith

/-- The verdict on a pack whose files are read and whose skeleton exists: whether every event
has a target. -/
theorem accepted_of_skeleton {dnsDomains : List String} {oui : OuiDb} {seed : UInt64}
    {pb : PlaybookSpec} {spec : PlantSpec} {slots : List Slot} (hengine : loadEngine dec t = .ok pb)
    (hplant : loadPlant dec t.pack.plant = .ok spec)
    (hslots : skeleton spec (loadOverlay dec t.pack.profiles) = .ok slots) :
    Accepted (buildValidatedPlant dec dnsDomains t oui seed) ↔
      AllTargeted pb (slots.map (Slot.shape (loadOverlay dec t.pack.profiles) seed)) := by
  rw [accepted_buildValidatedPlant]
  constructor
  · rintro ⟨-, pb', spec', slots', hengine', hplant', hslots', htargets⟩
    rw [hengine] at hengine'
    rw [hplant] at hplant'
    cases hengine'
    cases hplant'
    rw [hslots] at hslots'
    cases hslots'
    exact htargets
  · intro htargets
    exact ⟨loadOverlay_ne_nil dec t.pack.profiles, pb, spec, slots, hengine, hplant, hslots,
      htargets⟩

/-! ## The models an asset may have

The pick of an asset is a word of seed and address, modulo the number of profiles in its class. The
word is a rotation and a xor, so some seed makes it any number that is wanted. An asset whose model
is pinned, or whose class has no profiles, has one model under every seed.
-/

/-- The profiles the model of an asset is picked from: those of its class, when assets of
the class bear CVEs; none for a pinned device. -/
def Slot.candidates (vuln : VulnDb) (slot : Slot) : List DeviceProfile :=
  match slot.source with
  | .pinned _ => []
  | .bom atype =>
    if atype.cveBearing then vuln.filter fun p => decide (p.assetClass = some atype.label) else []

/-- The model of an asset nothing is picked for. -/
def Slot.fixedModel (slot : Slot) : String :=
  match slot.source with
  | .pinned m => m
  | .bom atype => atype.bomModel

/-- The models an asset may have. -/
def Slot.models (vuln : VulnDb) (slot : Slot) : List String :=
  if slot.candidates vuln = [] then [slot.fixedModel]
  else (slot.candidates vuln).map DeviceProfile.model

/-- The word the index of a pick is the remainder of. -/
def pickWord (seed : UInt64) (ip : Ipv4Addr) : UInt64 :=
  rotateLeft (seed ^^^ (UInt64.ofNat ip.toNat * 0x0100000001B3)) 17

/-- The model of an asset is the one at the picked index. -/
theorem Slot.model_eq (vuln : VulnDb) (seed : UInt64) (slot : Slot) :
    slot.model vuln seed =
      ((slot.candidates vuln)[(pickWord seed slot.ip).toNat % (slot.candidates vuln).length]?).elim
        slot.fixedModel DeviceProfile.model := by
  unfold Slot.model Slot.candidates Slot.fixedModel
  cases slot.source with
  | pinned m => rfl
  | bom atype =>
    dsimp only [bomModelUnder]
    by_cases hcve : atype.cveBearing = true
    · rw [if_pos hcve, if_pos hcve]
      rfl
    · rw [if_neg hcve, if_neg hcve]
      rfl

/-- The model of an asset is one of those it may have. -/
theorem Slot.model_mem_models (vuln : VulnDb) (seed : UInt64) (slot : Slot) :
    slot.model vuln seed ∈ slot.models vuln := by
  rw [slot.model_eq vuln seed]
  unfold Slot.models
  by_cases hnone : slot.candidates vuln = []
  · rw [if_pos hnone, hnone]
    exact List.mem_singleton_self _
  · have hlt : (pickWord seed slot.ip).toNat % (slot.candidates vuln).length <
        (slot.candidates vuln).length :=
      Nat.mod_lt _ (List.length_pos_iff.mpr hnone)
    rw [if_neg hnone, List.getElem?_eq_getElem hlt]
    exact List.mem_map_of_mem (List.getElem_mem hlt)

/-- Rotating by 47 and then by 17 bits is a whole turn. -/
theorem rotateLeft_cancel (w : UInt64) : rotateLeft (rotateLeft w 47) 17 = w := by
  have h17 : ∀ v : UInt64,
      (rotateLeft v 17).toBitVec = v.toBitVec <<< 17 ||| v.toBitVec >>> 47 := fun _ => rfl
  have h47 : (rotateLeft w 47).toBitVec = w.toBitVec <<< 47 ||| w.toBitVec >>> 17 := rfl
  rw [← UInt64.toBitVec_inj, h17, h47]
  apply BitVec.eq_of_getLsbD_eq
  intro i hi
  simp only [BitVec.getLsbD_or, BitVec.getLsbD_shiftLeft, BitVec.getLsbD_ushiftRight]
  have hover : w.toBitVec.getLsbD (17 + (47 + i)) = false :=
    BitVec.getLsbD_of_ge _ _ (by omega)
  -- the low 17 bits went out at the top and come in again at the bottom
  by_cases h : i < 17
  · have hin : 47 + i < 64 := by omega
    have hback : 47 + i - 47 = i := by omega
    simp [h, hover, hin, hback]
  · have hin : i - 17 < 64 := by omega
    have hlow : i - 17 < 47 := by omega
    have hnot : ¬ 47 + i < 64 := by omega
    have hback : 17 + (i - 17) = i := by omega
    simp [h, hi, hin, hlow, hover, hnot, hback]

/-- **Some seed gives an asset each model it may have**: the seed is xored with a key of the
address and rotated, and both can be undone. -/
theorem exists_seed_of_mem_models {slot : Slot} {m : String} (hm : m ∈ slot.models vuln)
    (hlen : vuln.length < 2 ^ 64) : ∃ seed, slot.model vuln seed = m := by
  unfold Slot.models at hm
  split at hm
  · next hnone =>
    refine ⟨0, ?_⟩
    rw [slot.model_eq vuln 0, List.mem_singleton.mp hm, hnone]
    rfl
  · obtain ⟨p, hp, rfl⟩ := List.mem_map.mp hm
    obtain ⟨i, hi, rfl⟩ := List.mem_iff_getElem.mp hp
    -- the index of a candidate has to be a word
    have hshort : (slot.candidates vuln).length ≤ vuln.length := by
      unfold Slot.candidates
      split
      · exact Nat.zero_le _
      · split
        · exact List.length_filter_le _ _
        · exact Nat.zero_le _
    have hword : i < 2 ^ 64 := by omega
    -- the seed is built backwards: rotate the index, and take the key of the address off it
    let key := UInt64.ofNat slot.ip.toNat * 0x0100000001B3
    have hpick : pickWord (rotateLeft (UInt64.ofNat i) 47 ^^^ key) slot.ip = UInt64.ofNat i := by
      rw [pickWord, show UInt64.ofNat slot.ip.toNat * 0x0100000001B3 = key from rfl,
        UInt64.xor_assoc, UInt64.xor_self, UInt64.xor_zero, rotateLeft_cancel]
    refine ⟨rotateLeft (UInt64.ofNat i) 47 ^^^ key, ?_⟩
    rw [slot.model_eq vuln, hpick, UInt64.toNat_ofNat_of_lt' hword, Nat.mod_eq_of_lt hi,
      List.getElem?_eq_getElem hi]
    rfl

/-! ## Settled packs

Which profiles are picked is a choice of one model for each asset that may have several. An event is
firm if it has a target under every choice. A settled pack has firm events only, or is refused under
every choice; and where a single asset matters, each of its models is the pick of some seed, so a
pack that is not settled gets two verdicts.
-/

/-- What an asset shows when it has a model. -/
def Slot.shapeOf (slot : Slot) (model : String) : Shape := ⟨slot.ip, model, some slot.assetType⟩

/-- A choice of a model for each asset, among those it may have. -/
def Choice (vuln : VulnDb) (slots : List Slot) (σ : Slot → String) : Prop :=
  ∀ slot ∈ slots, σ slot ∈ slot.models vuln

/-- The event has a target whichever profiles are picked: some asset is what it names with
every model it may have. -/
def Event.Firm (vuln : VulnDb) (slots : List Slot) (ev : Event) : Prop :=
  match ev.target with
  | some t => ∃ slot ∈ slots, ∀ m ∈ slot.models vuln, t.Names (slot.shapeOf m)
  | none => ev.emit = .c2Beacon

/-- **The pack is settled**: over the assets of its plant and the profiles of its database,
every event has a target whichever profiles are picked, or no choice of profiles gives all
events a target. -/
def PackSettled (dec : Decoders) (t : TargetCfg) : Prop :=
  ∀ pb spec slots, loadEngine dec t = .ok pb → loadPlant dec t.pack.plant = .ok spec →
    skeleton spec (loadOverlay dec t.pack.profiles) = .ok slots →
    (∀ ph ∈ pb, ∀ ev ∈ ph.events, ev.Firm (loadOverlay dec t.pack.profiles) slots) ∨
      ∀ σ, Choice (loadOverlay dec t.pack.profiles) slots σ →
        ¬ AllTargeted pb (slots.map fun slot => slot.shapeOf (σ slot))

/-- Some event can tell two models of the asset apart. -/
def Slot.Matters (vuln : VulnDb) (pb : PlaybookSpec) (slot : Slot) : Prop :=
  ∃ ph ∈ pb, ∃ ev ∈ ph.events, ∃ t, ev.target = some t ∧
    ∃ m ∈ slot.models vuln, ∃ m' ∈ slot.models vuln,
      t.Names (slot.shapeOf m) ∧ ¬ t.Names (slot.shapeOf m')

/-- At most one asset matters to the events. -/
def OnePick (dec : Decoders) (t : TargetCfg) : Prop :=
  ∀ pb spec slots, loadEngine dec t = .ok pb → loadPlant dec t.pack.plant = .ok spec →
    skeleton spec (loadOverlay dec t.pack.profiles) = .ok slots →
    ∀ slot ∈ slots, ∀ slot' ∈ slots, slot.Matters (loadOverlay dec t.pack.profiles) pb →
      slot'.Matters (loadOverlay dec t.pack.profiles) pb → slot = slot'

/-- A firm event has a target under every choice. -/
theorem Event.Firm.targeted {slots : List Slot} {ev : Event} (h : ev.Firm vuln slots)
    {σ : Slot → String} (hσ : Choice vuln slots σ) :
    ev.Targeted (slots.map fun slot => slot.shapeOf (σ slot)) := by
  unfold Event.Firm at h
  unfold Event.Targeted
  cases htarget : ev.target with
  | none => rwa [htarget] at h
  | some t =>
    rw [htarget] at h
    obtain ⟨slot, hslot, hnames⟩ := h
    exact ⟨_, List.mem_map_of_mem hslot, hnames _ (hσ slot hslot)⟩

/-- The picks of a seed are a choice. -/
theorem choice_of_seed (slots : List Slot) (seed : UInt64) :
    Choice vuln slots fun slot => slot.model vuln seed :=
  fun slot _ => slot.model_mem_models vuln seed

/-- **A settled pack gets one verdict.** -/
theorem PackSettled.verdict (h : PackSettled dec t) {dnsDomains : List String} {oui oui' : OuiDb}
    {seed seed' : UInt64} (hacc : Accepted (buildValidatedPlant dec dnsDomains t oui seed)) :
    Accepted (buildValidatedPlant dec dnsDomains t oui' seed') := by
  obtain ⟨-, pb, spec, slots, hengine, hplant, hslots, htargets⟩ :=
    accepted_buildValidatedPlant.mp hacc
  obtain hfirm | hnone := h pb spec slots hengine hplant hslots
  · exact (accepted_of_skeleton hengine hplant hslots).mpr fun ph hph ev hev =>
      (hfirm ph hph ev hev).targeted (choice_of_seed slots seed')
  · exact absurd htargets (hnone _ (choice_of_seed slots seed))

/-- An asset that does not matter is named with all of its models or with none. -/
theorem Slot.names_of_not_matters {pb : PlaybookSpec} {slot : Slot} (h : ¬ slot.Matters vuln pb)
    {ph : PhaseSpec} (hph : ph ∈ pb) {ev : Event} (hev : ev ∈ ph.events) {target : DeviceRef}
    (htarget : ev.target = some target) {m m' : String} (hm : m ∈ slot.models vuln)
    (hm' : m' ∈ slot.models vuln) (hnames : target.Names (slot.shapeOf m)) :
    target.Names (slot.shapeOf m') := by
  by_contra hno
  exact h ⟨ph, hph, ev, hev, target, htarget, m, hm, m', hm', hnames, hno⟩

/-- A choice serves what another one serves, if the two agree on the assets that matter. -/
theorem Choice.serves {pb : PlaybookSpec} {slots : List Slot} {σ τ : Slot → String}
    (hτ : Choice vuln slots τ) (hσ : Choice vuln slots σ)
    (hagree : ∀ slot ∈ slots, slot.Matters vuln pb → τ slot = σ slot)
    (hserves : AllTargeted pb (slots.map fun slot => slot.shapeOf (σ slot))) :
    AllTargeted pb (slots.map fun slot => slot.shapeOf (τ slot)) := by
  intro ph hph ev hev
  have hserved := hserves ph hph ev hev
  unfold Event.Targeted at hserved ⊢
  cases htarget : ev.target with
  | none => rwa [htarget] at hserved
  | some target =>
    rw [htarget] at hserved
    obtain ⟨sh, hsh, hnames⟩ := hserved
    obtain ⟨slot, hslot, rfl⟩ := List.mem_map.mp hsh
    refine ⟨_, List.mem_map_of_mem hslot, ?_⟩
    by_cases hmatters : slot.Matters vuln pb
    · rw [hagree slot hslot hmatters]
      exact hnames
    · exact slot.names_of_not_matters hmatters hph hev htarget (hσ slot hslot) (hτ slot hslot)
        hnames

/-- An event that a choice serves and that is not firm relies on an asset that matters: with
another model the event does not name it. -/
theorem Event.relies_on {pb : PlaybookSpec} {slots : List Slot} {ph : PhaseSpec} (hph : ph ∈ pb)
    {ev : Event} (hev : ev ∈ ph.events) (hopen : ¬ ev.Firm vuln slots) {σ : Slot → String}
    (hσ : Choice vuln slots σ)
    (hserved : ev.Targeted (slots.map fun slot => slot.shapeOf (σ slot))) :
    ∃ target, ev.target = some target ∧ ∃ slot ∈ slots, slot.Matters vuln pb ∧
      ∃ m ∈ slot.models vuln, ¬ target.Names (slot.shapeOf m) := by
  unfold Event.Targeted at hserved
  unfold Event.Firm at hopen
  cases htarget : ev.target with
  | none =>
    rw [htarget] at hserved hopen
    exact absurd hserved hopen
  | some target =>
    rw [htarget] at hserved hopen
    obtain ⟨sh, hsh, hnames⟩ := hserved
    obtain ⟨slot, hslot, rfl⟩ := List.mem_map.mp hsh
    have hother : ∃ m ∈ slot.models vuln, ¬ target.Names (slot.shapeOf m) := by
      by_contra hall
      push Not at hall
      exact hopen ⟨slot, hslot, hall⟩
    obtain ⟨m, hm, hunnamed⟩ := hother
    exact ⟨target, rfl, slot, hslot,
      ⟨ph, hph, ev, hev, target, htarget, _, hσ slot hslot, m, hm, hnames, hunnamed⟩,
      m, hm, hunnamed⟩

/-- **An event that is not firm, in a pack some choice serves**: the asset it relies on
matters, and one seed serves all events while another leaves this one without a target. -/
theorem seeds_apart {pb : PlaybookSpec} {slots : List Slot} (hlen : vuln.length < 2 ^ 64)
    (hone : ∀ slot ∈ slots, ∀ slot' ∈ slots, slot.Matters vuln pb → slot'.Matters vuln pb →
      slot = slot')
    {ph : PhaseSpec} (hph : ph ∈ pb) {ev : Event} (hev : ev ∈ ph.events)
    (hopen : ¬ ev.Firm vuln slots) {σ : Slot → String} (hσ : Choice vuln slots σ)
    (hserves : AllTargeted pb (slots.map fun slot => slot.shapeOf (σ slot))) :
    ∃ seed seed', AllTargeted pb (slots.map (Slot.shape vuln seed)) ∧
      ¬ AllTargeted pb (slots.map (Slot.shape vuln seed')) := by
  obtain ⟨target, htarget, slot, hslot, hmatters, m, hm, hunnamed⟩ :=
    ev.relies_on hph hev hopen hσ (hserves ph hph ev hev)
  -- one seed picks as the choice does, the other the model that the event does not name
  obtain ⟨seed, hseed⟩ := exists_seed_of_mem_models (hσ slot hslot) hlen
  obtain ⟨seed', hseed'⟩ := exists_seed_of_mem_models hm hlen
  refine ⟨seed, seed', (choice_of_seed slots seed).serves hσ ?_ hserves, fun hall => ?_⟩
  · intro slot' hslot' hmatters'
    rw [hone slot' hslot' slot hslot hmatters' hmatters]
    exact hseed
  · have hserved := hall ph hph ev hev
    unfold Event.Targeted at hserved
    rw [htarget] at hserved
    obtain ⟨sh, hsh, hnames⟩ := hserved
    obtain ⟨slot', hslot', rfl⟩ := List.mem_map.mp hsh
    by_cases heq : slot' = slot
    · subst heq
      rw [Slot.shape, hseed'] at hnames
      exact hunnamed hnames
    · -- an asset that does not matter would make the event firm
      have hidle : ¬ slot'.Matters vuln pb := fun h => heq (hone slot' hslot' slot hslot h hmatters)
      refine hopen ?_
      unfold Event.Firm
      rw [htarget]
      exact ⟨slot', hslot', fun m' hm' => slot'.names_of_not_matters hidle hph hev htarget
        (slot'.model_mem_models vuln seed') hm' hnames⟩

/-- **A settled pack gets the same verdict under all seeds**, whatever the vendor tables of the
two runs; and where at most one asset matters to the events, only a settled pack does. -/
theorem pack_validation_seed_free_iff (dec : Decoders) (t : TargetCfg) (dnsDomains : List String)
    (oui₁ oui₂ : OuiDb) :
    (PackSettled dec t → ∀ seed₁ seed₂,
      (Accepted (buildValidatedPlant dec dnsDomains t oui₁ seed₁) ↔
        Accepted (buildValidatedPlant dec dnsDomains t oui₂ seed₂))) ∧
    (OnePick dec t → (loadOverlay dec t.pack.profiles).length < 2 ^ 64 →
      ((∀ seed₁ seed₂, Accepted (buildValidatedPlant dec dnsDomains t oui₁ seed₁) ↔
        Accepted (buildValidatedPlant dec dnsDomains t oui₂ seed₂)) ↔ PackSettled dec t)) := by
  have hfree : PackSettled dec t → ∀ seed₁ seed₂,
      (Accepted (buildValidatedPlant dec dnsDomains t oui₁ seed₁) ↔
        Accepted (buildValidatedPlant dec dnsDomains t oui₂ seed₂)) :=
    fun hsettled _ _ => ⟨hsettled.verdict, hsettled.verdict⟩
  refine ⟨hfree, fun hone hlen => ⟨fun hsame => ?_, hfree⟩⟩
  intro pb spec slots hengine hplant hslots
  by_contra hnot
  push Not at hnot
  obtain ⟨⟨ph, hph, ev, hev, hopen⟩, σ, hσ, hserves⟩ := hnot
  obtain ⟨seed, seed', hyes, hno⟩ :=
    seeds_apart hlen (hone pb spec slots hengine hplant hslots) hph hev hopen hσ hserves
  have hacc := (hsame seed seed').mp ((accepted_of_skeleton hengine hplant hslots).mpr hyes)
  exact hno ((accepted_of_skeleton hengine hplant hslots).mp hacc)

/-! ## A pack that is not settled -/

/-- The text of a plant with one small zone, whose only asset is its firewall, and those of two
playbooks with remote access through it: one asks for a make, the other for the class. -/
def firewallPlantText : String := "zones:\n- cidr: 10.20.10.0/30\n  name: Edge\n  purdue_level: 1\n"

def byModelText : String :=
  "phases:\n- id: entry\n  events:\n  - emit: remote_access\n" ++
    "    target:\n      model: FortiGate 100E\n"

def byTypeText : String :=
  "phases:\n- id: entry\n  events:\n  - emit: remote_access\n" ++
    "    target:\n      asset_type: Firewall\n"

/-- What the two playbooks decode to. -/
def remoteAccessVia (target : DeviceRef) : PlaybookSpec :=
  [{ id := "entry", events := [{ emit := .remoteAccess, target := some target }] }]

def byModel : DeviceRef := { model := some "FortiGate 100E" }

def byType : DeviceRef := { assetType := some "Firewall" }

/-- The plant the text decodes to. -/
def firewallPlant : PlantSpec := { zones := [⟨"10.20.10.0/30", "Edge", 1, none⟩] }

def firewallDecoders : Decoders where
  Toml := Empty
  toml := fun _ => none
  profileFile := fun _ => none
  plantSpec := fun text => if text = firewallPlantText then some firewallPlant else none
  playbook := fun text =>
    if text = byModelText then some (remoteAccessVia byModel)
    else if text = byTypeText then some (remoteAccessVia byType)
    else none

/-- The pack with one of the playbooks. -/
def firewallPack (playbook : String) : TargetCfg :=
  { pack := ⟨none, some firewallPlantText, some playbook⟩ }

/-- The one asset of the plant. -/
def firewallSlot : Slot := ⟨ipv4 10 20 10 1, "Firewall", .bom .firewall⟩

theorem firewall_skeleton : skeleton firewallPlant VulnDb.embedded = .ok [firewallSlot] := by
  decide +kernel

/-- The plant of either pack is that one asset. -/
theorem eq_of_firewallPack {playbook : String} {pb pb' : PlaybookSpec} {spec : PlantSpec}
    {slots : List Slot} (hpb : loadEngine firewallDecoders (firewallPack playbook) = .ok pb')
    (hengine : loadEngine firewallDecoders (firewallPack playbook) = .ok pb)
    (hplant : loadPlant firewallDecoders (firewallPack playbook).pack.plant = .ok spec)
    (hslots : skeleton spec VulnDb.embedded = .ok slots) : pb = pb' ∧ slots = [firewallSlot] := by
  have hspec : loadPlant firewallDecoders (firewallPack playbook).pack.plant = .ok firewallPlant :=
    rfl
  rw [hspec] at hplant
  cases hplant
  rw [firewall_skeleton] at hslots
  rw [hpb] at hengine
  exact ⟨Except.ok.inj hengine.symm, Except.ok.inj hslots.symm⟩

/-- Seed 0 picks the make that the playbook asks for, and seed `2 ^ 47` the other one. -/
theorem byModel_apart :
    Accepted (buildValidatedPlant firewallDecoders [] (firewallPack byModelText) ⟨∅, ∅⟩ 0) ∧
      ¬ Accepted (buildValidatedPlant firewallDecoders [] (firewallPack byModelText) ⟨∅, ∅⟩
        0x800000000000) := by
  constructor
  · exact (accepted_of_skeleton rfl rfl firewall_skeleton).mpr (by decide +kernel)
  · intro hacc
    exact absurd ((accepted_of_skeleton rfl rfl firewall_skeleton).mp hacc) (by decide +kernel)

/-- The playbook that asks for the class is settled, and gets one verdict; the one that asks for
a make is not settled. -/
theorem byType_seed_free :
    (∀ seed₁ seed₂,
      (Accepted (buildValidatedPlant firewallDecoders [] (firewallPack byTypeText) ⟨∅, ∅⟩ seed₁) ↔
        Accepted (buildValidatedPlant firewallDecoders [] (firewallPack byTypeText) ⟨∅, ∅⟩ seed₂))) ∧
      ¬ PackSettled firewallDecoders (firewallPack byModelText) := by
  have hone : OnePick firewallDecoders (firewallPack byModelText) := by
    intro pb spec slots hengine hplant hslots slot hslot slot' hslot' _ _
    obtain ⟨-, rfl⟩ := eq_of_firewallPack rfl hengine hplant hslots
    rw [List.mem_singleton.mp hslot, List.mem_singleton.mp hslot']
  have hsettled : PackSettled firewallDecoders (firewallPack byTypeText) := by
    intro pb spec slots hengine hplant hslots
    obtain ⟨rfl, rfl⟩ := eq_of_firewallPack rfl hengine hplant hslots
    refine .inl fun ph hph ev hev => ?_
    rw [List.mem_singleton.mp hph] at hev
    rw [List.mem_singleton.mp hev]
    exact ⟨firewallSlot, List.mem_singleton_self _, fun m _ => .inr (.inr ⟨by decide, rfl⟩)⟩
  have hlen : (loadOverlay firewallDecoders (firewallPack byModelText).pack.profiles).length <
      2 ^ 64 := by
    decide +kernel
  refine ⟨(pack_validation_seed_free_iff firewallDecoders (firewallPack byTypeText) [] ⟨∅, ∅⟩
    ⟨∅, ∅⟩).1 hsettled, fun hbad => ?_⟩
  have hsame := ((pack_validation_seed_free_iff firewallDecoders (firewallPack byModelText) []
    ⟨∅, ∅⟩ ⟨∅, ∅⟩).2 hone hlen).mpr hbad
  exact byModel_apart.2 ((hsame 0 0x800000000000).mp byModel_apart.1)

/-- The embedded database has two makes of firewall, and the seed picks one: `preflight` accepts
the pack that asks for one of them, and the build under another seed refuses it. -/
theorem seed_decides_firewall_target :
    ¬ ∀ (dec : Decoders) (t : TargetCfg) (dnsDomains : List String) (oui : OuiDb)
      (seed₁ seed₂ : UInt64), Accepted (buildValidatedPlant dec dnsDomains t oui seed₁) ↔
        Accepted (buildValidatedPlant dec dnsDomains t oui seed₂) := by
  intro h
  have hsame := h firewallDecoders (firewallPack byModelText) [] ⟨∅, ∅⟩ 0 0x800000000000
  exact byModel_apart.2 (hsame.mp byModel_apart.1)

end TurboLaser.Scenario
