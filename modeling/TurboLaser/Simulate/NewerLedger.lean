import TurboLaser.Simulate.FabricateRuns
import TurboLaser.Simulate.RemapCache
import TurboLaser.Threat.Floor

/-!
# A ledger of a newer schema

`loadSession` refuses a ledger of a newer schema rather than misread it. The daemon takes the
refusal for a ledger that is corrupt, starts from a fresh plant, and replaces the file as soon
as that plant records something: a scenario at once, a generic plant with its first devices.

What a call is about to record can be told beforehand, from the configuration, the ledger and
the capture. A tick records devices unless there is nothing to fabricate (`Idle`), and new names
when a cycle is due; a remap records the hosts that find a place (`NothingToPlace`); a promotion
records itself.

- `Untouched`: the file keeps its content over a run;
- `Unrecorded`: a call that records nothing, or whose save the disk refuses;
- `newer_ledger_kept`: **over such calls the file is kept exactly when no plant is pinned and
  saved at the start**;
- `newer_ledger_replaced`: the first tick of a plain daemon replaces it.
-/

namespace TurboLaser

open Lib Scenario

/-- A scenario daemon without a session pins the plant of its pack. -/
def PinsPlant (dec : Decoders) (cfg : DaemonConfig) (boot : Boot) : Prop :=
  ∃ t ∈ cfg.target, ∃ s, pinFromPack dec t.toTargetCfg (cfg.vuln dec boot) boot.oui
    (cfg.sessionSeed.getD boot.randomSeed) cfg.dnsDomains = some (.ok s)

/-- The file keeps its content: after the start, and in every state of the run that follows. -/
def Untouched (seedFrom : UInt64 → Rng) (s : StoredSession)
    (started : Except StartError DaemonEngine × LedgerFile) (calls : List DaemonCall) : Prop :=
  started.2 = .json s ∧ ∀ e, started.1 = .ok e → ∀ done rest, calls = done ++ rest → ∀ st,
    runAll (DaemonCall.apply seedFrom) (e, started.2) done = some st → st.2 = .json s

/-- A file of a newer schema is not the one an engine of this build saves. -/
theorem json_ne_of_newer {s s' : StoredSession} (hnewer : schemaVersion < s.tail.schema)
    (hschema : s'.tail.schema = schemaVersion) : LedgerFile.json s' ≠ .json s := by
  intro heq
  obtain rfl := LedgerFile.json.inj heq
  omega

section Start

variable {dec : Decoders} {seedFrom : UInt64 → Rng} {cfg : DaemonConfig} {boot : Boot}
  {now : UInt64} {io : Io}

/-- The start from a fresh session: it pins a plant and saves it, or leaves the file. -/
theorem freshSession_file {file file' : LedgerFile} {r : Except StartError StoredSession}
    (h : freshSession dec cfg boot now io file = some (r, file')) :
    ((PinsPlant dec cfg boot ∧ io.ledger = true) ∧
      ∃ p : StoredSession, p.tail.schema = schemaVersion ∧ file' = .json p) ∨
    (¬ (PinsPlant dec cfg boot ∧ io.ledger = true) ∧ file' = file) := by
  unfold freshSession at h
  dsimp only at h
  split at h
  · next t htarget =>
    -- there is one target, so to pin a plant is to pin that one
    have honly : PinsPlant dec cfg boot ↔ ∃ s, pinFromPack dec t.toTargetCfg (cfg.vuln dec boot)
        boot.oui (cfg.sessionSeed.getD boot.randomSeed) cfg.dnsDomains = some (.ok s) := by
      rw [PinsPlant, htarget]
      constructor
      · rintro ⟨t', ht', hpin⟩
        obtain rfl := Option.some.inj ht'
        exact hpin
      · exact fun hpin => ⟨t, rfl, hpin⟩
    split at h
    · cases h
    · next err hpin =>
      cases h
      refine Or.inr ⟨fun hboth => ?_, rfl⟩
      obtain ⟨s, hs⟩ := honly.mp hboth.1
      cases hpin.symm.trans hs
    · next session hpin =>
      cases h
      cases hio : io.ledger with
      | true =>
        refine Or.inl ⟨⟨honly.mpr ⟨session, hpin⟩, rfl⟩, ?_⟩
        exact ⟨_, rfl, by rw [StoredSession.saveAtomic, hio]; rfl⟩
      | false =>
        refine Or.inr ⟨fun hboth => Bool.false_ne_true hboth.2, ?_⟩
        rw [StoredSession.saveAtomic, hio]
        rfl
  · next hgeneric =>
    cases h
    refine Or.inr ⟨?_, rfl⟩
    rintro ⟨⟨t, ht, -⟩, -⟩
    cases hgeneric.symm.trans ht

/-- **The start over a newer ledger**: the plant of a scenario replaces it, and an engine that
comes up is of this build's schema and has nothing recorded. -/
theorem red_newer {s : StoredSession} (hnewer : schemaVersion < s.tail.schema)
    {r : Except StartError DaemonEngine} {file' : LedgerFile}
    (h : DaemonEngine.red dec seedFrom cfg boot now io (.json s) = some (r, file')) :
    (file' = .json s ↔ ¬ (PinsPlant dec cfg boot ∧ io.ledger = true)) ∧
      ∀ e, r = .ok e → e.tail.schema = schemaVersion := by
  have hload : loadSession (.json s) = .error (.newerSchema s.tail.schema) := if_pos hnewer
  -- to the start a refused ledger is as good as none
  have hstart : startSession dec cfg boot now io (.json s) =
      freshSession dec cfg boot now io (.json s) := by
    rw [startSession, hload]
  have hfile : ∀ {r₀ file₀}, freshSession dec cfg boot now io (.json s) = some (r₀, file₀) →
      (file₀ = .json s ↔ ¬ (PinsPlant dec cfg boot ∧ io.ledger = true)) := by
    intro r₀ file₀ hfresh
    rcases freshSession_file hfresh with ⟨hpins, p, hschema, rfl⟩ | ⟨hkeeps, rfl⟩
    · exact iff_of_false (json_ne_of_newer hnewer hschema) (not_not_intro hpins)
    · exact iff_of_true rfl hkeeps
  unfold DaemonEngine.red at h
  rw [hstart] at h
  split at h
  · cases h
  · next hfresh =>
    cases h
    refine ⟨hfile hfresh, fun e he => ?_⟩
    cases he
  · next p file₀ hfresh =>
    split at h
    · cases h
      refine ⟨hfile hfresh, fun e he => ?_⟩
      cases he
    · split at h
      · cases h
      · cases h
        refine ⟨hfile hfresh, fun e he => ?_⟩
        obtain rfl := Except.ok.inj he
        exact freshSession_schema hfresh p rfl

end Start

/-! ## Calls that leave nothing recorded

A call writes the file when it has something to record or an earlier save is pending. Both can be
told from the state before it, without running the call: an idle tick by the configuration and the
caps, a tick of a full plant by the room in its zones, a remap by its capture and the registry.
`Unrecorded` is the disjunction of these, and it is decidable.
-/

/-- No host of the capture becomes an asset of the ledger. -/
def RegistersNone (cfg : Config) (e : DaemonEngine) (cap : Capture) (order : HashOrder) : Prop :=
  let ctx := e.core.ledger.reconcileCtx cfg.l3.zoneAffinity cfg.l3.remapMac
    (effectiveAssetCap cfg.synthesis.maxAssets)
  NothingToPlace ctx (jobs ctx (captureGroups cap cfg.l3.subnets e.core.oui order))

instance (cfg : Config) (e : DaemonEngine) (cap : Capture) (order : HashOrder) :
    Decidable (RegistersNone cfg e cap order) :=
  inferInstanceAs (Decidable (NothingToPlace _ _))

/-- The cycle of `red_tick` comes round: zones are renamed if there are any. -/
def SimulatorEngine.cycleDue (e : SimulatorEngine) (run : Nat) : Bool :=
  decide (e.sealed = false ∧ 0 < e.cycleEvery ∧ 0 < run ∧ run % e.cycleEvery = 0)

/-- **The call leaves the file alone**, as far as the configuration, the ledger and the capture
tell. Its write is refused, or no earlier save is pending and

- the tick is off, or has nothing to fabricate and no zone to rename, or takes no device and has
  no cycle due, so that zones it may create are not renamed either;
- the remap does not get to the reconcile, or there are no zones, or no host is registered;
- the promotion is not made. -/
def Unrecorded (e : DaemonEngine) : DaemonCall → Prop
  | .redTick run io =>
    io.ledger = false ∨ e.core.synthEnabled = false ∨
      e.dirty = false ∧
        (Idle e.core ∧ e.core.renameDue run e.core.ledger 0 = false ∨
          TakesNone e.core.params e.core.ledger ∧ e.core.cycleDue run = false)
  | .remap cfg src order _ io =>
    io.ledger = false ∨ e.reconciles cfg src = false ∨ e.core.ledger.zoneTargets = [] ∨
      e.dirty = false ∧ ∀ cap ∈ src.content.toOption, RegistersNone cfg e cap order
  | .promote content now io =>
    io.ledger = false ∨ ¬ e.Promotes content now io

instance (e : DaemonEngine) (content : Except String Capture) (now : UInt64) (io : Io) :
    Decidable (e.Promotes content now io) :=
  decidable_of_iff (e.threatsEnabled = true ∧ e.scheduler.due now = true ∧ io.dirs = true ∧
      io.pcap = true ∧ ∃ cap ∈ content.toOption, Promotable cap e.externalCidrs) <| by
    cases content <;> simp [DaemonEngine.Promotes, Except.toOption]

instance (e : DaemonEngine) : DecidablePred (Unrecorded e)
  | .redTick _ _ => inferInstanceAs (Decidable (_ ∨ _ ∨ _))
  | .remap _ _ _ _ _ => inferInstanceAs (Decidable (_ ∨ _ ∨ _ ∨ _))
  | .promote _ _ _ => inferInstanceAs (Decidable (_ ∨ _))

/-- An idle tick adds nothing. -/
theorem growPlant_idle {e : DaemonEngine} (hidle : Idle e.core) {grown : Session} {added : Nat}
    {simRng : Rng} (h : e.growPlant = some (grown, added, simRng)) :
    grown = e.core.ledger ∧ added = 0 := by
  unfold DaemonEngine.growPlant at h
  split at h
  · next hon =>
    obtain hoff | hoff | hsat := hidle
    · exact absurd (hoff.symm.trans hon.1) Bool.false_ne_true
    · exact absurd (hon.2.symm.trans hoff) Bool.false_ne_true
    · exact fabricate_saturated hsat h
  · cases h
    exact ⟨rfl, rfl⟩

/-- A tick of a plant that takes no device adds none. -/
theorem growPlant_takesNone {e : DaemonEngine} (hnone : TakesNone e.core.params e.core.ledger)
    {grown : Session} {added : Nat} {simRng : Rng}
    (h : e.growPlant = some (grown, added, simRng)) : added = 0 := by
  unfold DaemonEngine.growPlant at h
  split at h
  · exact fabricate_takesNone hnone h
  · cases h
    rfl

/-- Nothing is renamed before a cycle comes round. -/
theorem renameDue_of_cycleDue {e : SimulatorEngine} {run : Nat} (hcycle : e.cycleDue run = false)
    (grown : Session) (added : Nat) : e.renameDue run grown added = false := by
  unfold SimulatorEngine.cycleDue at hcycle
  unfold SimulatorEngine.renameDue
  rw [decide_eq_false_iff_not] at hcycle ⊢
  rintro ⟨hsealed, hevery, hrun, hmod, -⟩
  exact hcycle ⟨hsealed, hevery, hrun, hmod⟩

/-- A remap that registers no host places no asset. -/
theorem assets_of_registersNone {seedFrom : UInt64 → Rng} {cfg : Config} {e : DaemonEngine}
    {cap written : Capture} {order : HashOrder} {assets : List NewCaptureAsset}
    (hnone : RegistersNone cfg e cap order)
    (h : remapUnder seedFrom cfg e.core.ledger e.core.oui cap order = some (written, assets)) :
    assets = [] := by
  obtain hnil | hassets := remapUnder_assets h
  · exact hnil
  · obtain ⟨st, hrun, rfl⟩ := reconciledAssets_run hassets
    exact (newAssets_eq_nil_iff hrun).mpr hnone

/-- **Such a call does not save.** -/
theorem Unrecorded.not_saves {seedFrom : UInt64 → Rng} {e : DaemonEngine} {call : DaemonCall}
    (h : Unrecorded e call) : ¬ Saves seedFrom e call := by
  cases call with
  | redTick run io =>
    rintro ⟨hon, hdirty, hio⟩
    obtain hoff | hoff | ⟨hclean, hnone⟩ := h
    · exact Bool.false_ne_true (hoff.symm.trans hio)
    · exact Bool.false_ne_true (hoff.symm.trans hon)
    · unfold DaemonEngine.tickDirty at hdirty
      split at hdirty
      · cases hdirty
      · next grown added simRng hgrow =>
        have hquiet : added = 0 ∧ e.core.renameDue run grown added = false := by
          obtain ⟨hidle, hrename⟩ | ⟨hnone, hcycle⟩ := hnone
          · obtain ⟨rfl, rfl⟩ := growPlant_idle hidle hgrow
            exact ⟨rfl, hrename⟩
          · exact ⟨growPlant_takesNone hnone hgrow, renameDue_of_cycleDue hcycle grown added⟩
        obtain ⟨rfl, hrename⟩ := hquiet
        simp only [DaemonEngine.ticked, hclean, hrename] at hdirty
        exact absurd hdirty (by decide)
  | remap cfg src order evicted io =>
    rintro ⟨hgoes, hzones, hdirty, hio⟩
    obtain hoff | hstop | hnone | ⟨hclean, hregisters⟩ := h
    · exact Bool.false_ne_true (hoff.symm.trans hio)
    · exact Bool.false_ne_true (hstop.symm.trans hgoes)
    · exact hzones hnone
    · unfold DaemonEngine.remapDirty at hdirty
      split at hdirty
      · cases hdirty
      · next cap hcontent =>
        have hnone : RegistersNone cfg e cap order := hregisters cap (by rw [hcontent]; rfl)
        split at hdirty
        · cases hdirty
        · next written assets hremap =>
          obtain rfl := assets_of_registersNone hnone hremap
          -- an empty registration leaves the ledger as it is
          have hsame : registerAssets e.core.ledger []
              (effectiveAssetCap cfg.synthesis.maxAssets) = e.core.ledger := rfl
          simp only [DaemonEngine.registered, hclean, hsame, Nat.lt_irrefl, decide_false,
            Bool.or_self] at hdirty
          exact Bool.false_ne_true hdirty
  | promote content now io =>
    rintro ⟨hmade, hio⟩
    obtain hoff | hidle := h
    · exact Bool.false_ne_true (hoff.symm.trans hio)
    · exact hidle hmade

/-- A run keeps the file exactly when none of its calls saves. -/
theorem run_untouched_iff {seedFrom : UInt64 → Rng} {s : StoredSession}
    (hnewer : schemaVersion < s.tail.schema) {e : DaemonEngine} {calls : List DaemonCall}
    (hschema : e.tail.schema = schemaVersion) :
    (∀ done rest, calls = done ++ rest → ∀ st,
      runAll (DaemonCall.apply seedFrom) (e, .json s) done = some st → st.2 = .json s) ↔
    EveryStep (DaemonCall.apply seedFrom) (fun st call => ¬ Saves seedFrom st.1 call) (e, .json s)
      calls := by
  induction calls generalizing e with
  | nil =>
    refine iff_of_true (fun done rest hsplit st hrun => ?_) trivial
    obtain ⟨rfl, -⟩ := List.append_eq_nil_iff.mp hsplit.symm
    cases hrun
    rfl
  | cons call calls ih =>
    constructor
    · intro hkept
      -- the file is kept by the first call, so that one does not save
      have hnow : ∀ st, call.apply seedFrom (e, .json s) = some st → st.2 = .json s := by
        intro st hst
        refine hkept [call] calls rfl st ?_
        rw [runAll, hst]
        rfl
      refine ⟨fun hsaves => ?_, fun st hst => ?_⟩
      · obtain ⟨st, hst⟩ := Option.isSome_iff_exists.mp (apply_isSome_of_saves (.json s) hsaves)
        rcases apply_file hst with ⟨-, hfile⟩ | ⟨hkeeps, -⟩
        · exact json_ne_of_newer hnewer ((apply_schema hst).trans hschema)
            (hfile.symm.trans (hnow st hst))
        · exact hkeeps hsaves
      · obtain ⟨e', file'⟩ := st
        obtain rfl : file' = .json s := hnow _ hst
        refine (ih ((apply_schema hst).trans hschema)).mp fun done rest hsplit st' hrun => ?_
        refine hkept (call :: done) rest (by rw [hsplit]; rfl) st' ?_
        rwa [runAll, hst]
    · rintro ⟨hsaves, hrest⟩ done rest hsplit st hrun
      cases done with
      | nil =>
        cases hrun
        rfl
      | cons first done =>
        obtain ⟨rfl, rfl⟩ := List.cons.inj hsplit
        rw [runAll] at hrun
        split at hrun
        · cases hrun
        · next st' hst =>
          obtain ⟨e', file'⟩ := st'
          -- a call that does not save leaves the file, and the rest starts from the same one
          have hfile : file' = .json s := by
            rcases apply_file hst with ⟨hs, -⟩ | ⟨-, hfile⟩
            · exact absurd hs hsaves
            · exact hfile
          subst hfile
          exact (ih ((apply_schema hst).trans hschema)).mpr (hrest _ hst) done rest rfl st hrun

/-- **Over calls that leave nothing recorded, a newer ledger keeps its content exactly when no plant
is pinned and saved at the start.** A call leaves nothing recorded when the configuration, the
ledger and the capture give it nothing to record, or when the disk refuses the save. -/
theorem newer_ledger_kept (dec : Decoders) (seedFrom : UInt64 → Rng) (cfg : DaemonConfig)
    (boot : Boot) (now : UInt64) (io : Io) (s : StoredSession)
    (hnewer : schemaVersion < s.tail.schema) (calls : List DaemonCall)
    (started : Except StartError DaemonEngine × LedgerFile)
    (hstart : DaemonEngine.red dec seedFrom cfg boot now io (.json s) = some started)
    (hunrecorded : ∀ e, started.1 = .ok e → EveryStep (DaemonCall.apply seedFrom)
      (fun st call => Unrecorded st.1 call) (e, started.2) calls) :
    Untouched seedFrom s started calls ↔ ¬ (PinsPlant dec cfg boot ∧ io.ledger = true) := by
  obtain ⟨r, file⟩ := started
  obtain ⟨hfile, hschema⟩ := red_newer hnewer hstart
  rw [Untouched, ← hfile]
  refine and_iff_left_of_imp fun hsame e he => ?_
  dsimp only at hsame he hunrecorded ⊢
  subst hsame
  refine (run_untouched_iff hnewer (hschema e he)).mpr ?_
  exact (hunrecorded e he).imp fun st call hcall => hcall.not_saves

/-! ## A plain daemon -/

/-- A ledger of the next schema, with a promotion on record. -/
def newerLedger : StoredSession :=
  { session := .new 1
    tail := { (StoredSession.new 1 0).tail with schema := 5, lastThreatUnix := some 50000 } }

/-- The daemon over that ledger. -/
def overNewerLedger (boot : Boot) : Option (Except StartError DaemonEngine × LedgerFile) :=
  DaemonEngine.red blindDecoders (fun _ => zeroRng) threatConfig boot 1000 allWrites
    (.json newerLedger)

/-- Tables without a profile. -/
def bareBoot : Boot := { threatBoot with vuln := [] }

/-- A day of a daemon that has nothing to record: there is nothing to fabricate, so there are no
zones, and the capture to promote from cannot be read. -/
def quietDay : List DaemonCall :=
  [.redTick 0 allWrites, .remap (cappedConfig none none) twinSource insertionOrder [] allWrites,
    .promote (.ok twinCapture) 1001 allWrites, .redTick 1 allWrites,
    .promote (.error "truncated") 90000 allWrites]

/-- The ledger survives such a day. -/
theorem newer_ledger_kept_quietDay :
    ∃ started, overNewerLedger bareBoot = some started ∧
      Untouched (fun _ => zeroRng) newerLedger started quietDay := by
  have hsome : (overNewerLedger bareBoot).isSome = true := by decide +kernel
  obtain ⟨started, hstarted⟩ := Option.isSome_iff_exists.mp hsome
  have hday : (overNewerLedger bareBoot).all fun started => started.1.toOption.all fun e =>
      decide (EveryStep (DaemonCall.apply fun _ => zeroRng) (fun st call => Unrecorded st.1 call)
        (e, started.2) quietDay) := by
    decide +kernel
  rw [hstarted, Option.all_some] at hday
  refine ⟨started, hstarted, (newer_ledger_kept blindDecoders (fun _ => zeroRng) threatConfig
    bareBoot 1000 allWrites newerLedger (by decide) quietDay started hstarted fun e he => ?_).mpr ?_⟩
  · rw [he] at hday
    exact of_decide_eq_true hday
  · rintro ⟨⟨t, ht, -⟩, -⟩
    cases ht

/-- **The first tick of a plain daemon replaces a newer ledger.** -/
theorem newer_ledger_replaced :
    ¬ ∀ (dec : Decoders) (seedFrom : UInt64 → Rng) (cfg : DaemonConfig) (boot : Boot)
      (now : UInt64) (io : Io) (s : StoredSession), schemaVersion < s.tail.schema →
      ∀ calls started,
        DaemonEngine.red dec seedFrom cfg boot now io (.json s) = some started →
        Untouched seedFrom s started calls := by
  intro h
  have hafter : ((overNewerLedger threatBoot).bind fun started => started.1.toOption.bind fun e =>
      (DaemonCall.apply (fun _ => zeroRng) (e, started.2) (.redTick 0 allWrites)).map fun st =>
        decide (st.2 = .json newerLedger)) = some false := by
    decide +kernel
  obtain ⟨started, hstarted, he⟩ := Option.bind_eq_some_iff.mp hafter
  obtain ⟨e, he, hcall⟩ := Option.bind_eq_some_iff.mp he
  obtain ⟨st, hst, hchanged⟩ := Option.map_eq_some_iff.mp hcall
  have hok : started.1 = .ok e := by
    cases hr : started.1 with
    | error err =>
      rw [hr] at he
      cases he
    | ok e₁ =>
      rw [hr] at he
      exact congrArg Except.ok (Option.some.inj he)
  have hkept := (h blindDecoders (fun _ => zeroRng) threatConfig threatBoot 1000 allWrites
    newerLedger (by decide) [.redTick 0 allWrites] started hstarted).2 e hok [.redTick 0 allWrites] []
    rfl st (by rw [runAll, hst]; rfl)
  exact of_decide_eq_false hchanged hkept

end TurboLaser
