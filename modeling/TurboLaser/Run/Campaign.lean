import TurboLaser.Run.BurstRuns

/-!
# A campaign on the wire (run/mod.rs, simulate/engine.rs, scenario/engine.rs)

Under a target scenario the plant is sealed and every burst carries the next piece of an attack. The
attack is rendered from the plant, so it is one timeline only as long as the plant stays what it was
when the timeline began.

The scenario engine is a small machine beside the loop: it has a phase, a cursor in the phase, and
frames that are left over from an event that did not fit a burst. The loop steps it with every burst
and forgets the result if the burst cannot be written: those frames are lost, the machine has moved
on. So what is on the wire is a selection of what was played, in order, and all of it if every burst
was written.

- `SealedAs.apply`: **no call of the loop changes a sealed plant**: fabrication and renaming are off,
  and the remap registers hosts, which the renderer does not look at;
- `Played`: what was played of a timeline, and what of that is on the wire;
- `sealed_timeline`: **over a sealed plant the loop plays the timeline of its scenario** under
  consecutive nonces;
- `campaign_on_wire`: **what reaches the wire is the playbook's events in order**, each rendered
  whole, as long as the disk takes the bursts.
-/

namespace TurboLaser

open Lib Scenario

/-! ## A timeline that goes on -/

/-- Where a run leaves the engine. -/
def Scenario.ScenarioEngine.played {Event Frame : Type} (eng : ScenarioEngine Event)
    (log : List (Burst Event Frame)) : ScenarioEngine Event :=
  log.foldl (fun _ b => b.after) eng

/-- One more call of `phase_frames` behind a run. -/
theorem timeline_snoc {Event Frame : Type} {render : Event → UInt64 → List Frame}
    {eng eng' : ScenarioEngine Event} {nonces : List UInt64} {nonce : UInt64}
    {log : List (Burst Event Frame)} {frames : List Frame}
    (h : timeline render eng nonces = some log)
    (hnext : (eng.played log).phaseFrames render nonce = some (frames, eng')) :
    ∃ b, timeline render eng (nonces ++ [nonce]) = some (log ++ [b]) ∧ b.frames = frames ∧
      b.after = eng' := by
  induction nonces generalizing eng log with
  | nil =>
    obtain rfl := Option.some.inj h
    unfold ScenarioEngine.phaseFrames at hnext
    rw [List.nil_append, timeline]
    split at hnext
    · cases hnext
    · next phase hphase =>
      obtain ⟨⟨frames', mid⟩, hemit, hout⟩ := Option.map_eq_some_iff.mp hnext
      obtain ⟨rfl, rfl⟩ := Prod.mk.inj hout
      rw [show eng.currentPhase = some phase from hphase]
      dsimp only
      rw [show eng.emitBurst render phase nonce = some (frames', mid) from hemit]
      exact ⟨_, rfl, rfl, rfl⟩
  | cons first nonces ih =>
    rw [timeline] at h
    rw [List.cons_append, timeline]
    split at h
    · cases h
    · next phase hphase =>
      split at h
      · cases h
      · next frames' mid hemit =>
        obtain ⟨log', hlog', rfl⟩ := Option.map_eq_some_iff.mp h
        obtain ⟨b, hrest, hframes, hafter⟩ := ih hlog' hnext
        refine ⟨b, ?_, hframes, hafter⟩
        rw [hrest]
        rfl

theorem played_snoc {Event Frame : Type} (eng : ScenarioEngine Event)
    (log : List (Burst Event Frame)) (b : Burst Event Frame) :
    eng.played (log ++ [b]) = b.after :=
  List.foldl_concat _ _ _ _

theorem consecutive_succ (n : UInt64) (bursts : Nat) :
    consecutive n (bursts + 1) = consecutive n bursts ++ [n + UInt64.ofNat bursts] := by
  rw [consecutive, List.range_succ, List.map_append]
  rfl

/-! ## A sealed plant -/

/-- The plant is sealed, and what it was. -/
structure SealedAs (core core' : SimulatorEngine) : Prop where
  sealed : core'.sealed = true
  devices : core'.ledger.devices = core.ledger.devices
  subnets : core'.ledger.subnets = core.ledger.subnets
  vuln : core'.vuln = core.vuln

/-- **No call of the loop changes a sealed plant.** -/
theorem SealedAs.apply {seedFrom : UInt64 → Rng} {core : SimulatorEngine} {d d' : DaemonEngine}
    {file file' : LedgerFile} {c : DaemonCall} (h : SealedAs core d.core)
    (hcall : c.apply seedFrom (d, file) = some (d', file')) : SealedAs core d'.core := by
  obtain ⟨hsealed, hdevices, hsubnets, hvuln⟩ := h
  cases c with
  | redTick run io =>
    generalize hout : (d', file') = out at hcall
    cases daemonTick_cases hcall with
    | off =>
      obtain ⟨rfl, -⟩ := Prod.mk.inj hout
      exact ⟨hsealed, hdevices, hsubnets, hvuln⟩
    | @grew grown added simRng hon hgrow =>
      unfold DaemonEngine.growPlant at hgrow
      rw [if_neg fun hopen => Bool.false_ne_true (hopen.2.symm.trans hsealed)] at hgrow
      cases hgrow
      have hsame : d'.core = d.core := by
        have hd' : d' = ((d.ticked run d.core.ledger 0 d.simRng).persistIfDirty io file).1 :=
          congrArg Prod.fst hout
        -- nothing is fabricated, so renaming would be due, were the plant not sealed
        have hkeep : d.core.renameDue run d.core.ledger 0 = false :=
          decide_eq_false fun hdue => Bool.false_ne_true (hdue.1.symm.trans hsealed)
        rw [hd', (persistIfDirty_frame _ _ _).1]
        unfold DaemonEngine.ticked
        dsimp only
        rw [hkeep, if_neg Bool.false_ne_true]
      rw [hsame]
      exact ⟨hsealed, hdevices, hsubnets, hvuln⟩
  | remap cfg src order evicted io =>
    obtain ⟨⟨r, out⟩, hremap, hout⟩ := Option.map_eq_some_iff.mp hcall
    dsimp only at hout
    subst hout
    generalize hwhole : (r, d', file') = whole at hremap
    cases daemonRemap_cases hremap with
    | stopped hstop =>
      obtain ⟨-, hout⟩ := Prod.mk.inj hwhole
      obtain ⟨rfl, -⟩ := Prod.mk.inj hout
      exact ⟨hsealed, hdevices, hsubnets, hvuln⟩
    | @settled cap written assets e' file₁ r' cache hgoes hcontent hunder hsettle =>
      obtain ⟨-, hout⟩ := Prod.mk.inj hwhole
      obtain ⟨rfl, -⟩ := Prod.mk.inj hout
      have hcore := (settle_frame cfg d assets io file).1
      rw [hsettle] at hcore
      dsimp only at hcore ⊢
      -- a remap does change the ledger: it registers hosts, which are no devices
      obtain ⟨hdevs, hnets, -⟩ := registerAssets_frame d.core.ledger assets
        (effectiveAssetCap cfg.synthesis.maxAssets)
      rw [hcore]
      exact ⟨hsealed, hdevs.trans hdevices, hnets.trans hsubnets, hvuln⟩
  | promote content now io =>
    obtain ⟨⟨record, out⟩, hpromote, hout⟩ := Option.map_eq_some_iff.mp hcall
    dsimp only at hout
    subst hout
    obtain ⟨hcore, -⟩ := daemonPromote_frame hpromote
    dsimp only at hcore
    rw [hcore]
    exact ⟨hsealed, hdevices, hsubnets, hvuln⟩

/-! ## What was played

A timeline goes on with every burst that announces, whether or not the disk takes it. So two lists
are kept beside each other: the bursts the timeline played, and those of them that were written, in
their order. A burst that was lost is not played again, as its nonce is used up.
-/

/-- What the wire holds of some bursts: each is there, behind its assertions. -/
def Carries (wire : List (UInt64 × Capture)) (sent : List (Burst Event Synth.Frame)) : Prop :=
  List.Forall₂
    (fun w b => ∃ assertions, w.2 = identityCapture (assertions ++ b.frames) []) wire sent

/-- **What was played of a timeline**, under consecutive nonces, and what of that was sent: all of
it if the disk took the bursts. -/
structure Played (render : Event → UInt64 → List Synth.Frame) (o : ScenarioOverlay) (first : UInt64)
    (writes : Prop) (e : LoopEngine) (wire : List (UInt64 × Capture))
    (log sent : List (Burst Event Synth.Frame)) : Prop where
  plays : timeline render o.timeline (consecutive first log.length) = some log
  count : e.announceCount = first + UInt64.ofNat log.length
  overlay : e.overlay = some { o with timeline := o.timeline.played log }
  ordered : sent.Sublist log
  carries : Carries wire sent
  whole : writes → sent.flatMap Burst.frames = log.flatMap Burst.frames

/-- **A tick plays at most one burst.** -/
theorem Played.ticked {render : Event → UInt64 → List Synth.Frame} {o : ScenarioOverlay}
    {first : UInt64} {writes : Prop} {e e' : LoopEngine} {wire : List (UInt64 × Capture)}
    {log sent : List (Burst Event Synth.Frame)} {run : Nat} {now : UInt64} {io : Io}
    {burst : Option Capture} (h : Played render o first writes e wire log sent)
    (hrender : o.renders e'.core = render) (hio : writes → io.dirs = true ∧ io.pcap = true)
    (htick : LoopTicked e run now io burst e') :
    ∃ log' sent', Played render o first writes e'
      (wire ++ (burst.map fun content => (now, content)).toList) log' sent' := by
  obtain ⟨hlog, hcount, hoverlay, hsub, hwire, hwhole⟩ := h
  cases htick with
  | quiet hsame =>
    refine ⟨log, sent, hlog, hsame.count.trans hcount, hsame.overlay.trans hoverlay, hsub, ?_,
      hwhole⟩
    rwa [Option.map_none, Option.toList_none, List.append_nil]
  | @announced e' attack burst hrun hdue hlast hcount' hinterval hconfig hattack hsent hlost =>
    unfold Attacks at hattack
    rw [hoverlay] at hattack
    obtain ⟨after, hphase, hoverlay'⟩ := hattack
    rw [show ({ o with timeline := o.timeline.played log } : ScenarioOverlay).renders e'.core =
      render from hrender, hcount] at hphase
    obtain ⟨b, hlog', rfl, rfl⟩ := timeline_snoc hlog hphase
    rw [← consecutive_succ] at hlog'
    have hlength : (log ++ [b]).length = log.length + 1 := List.length_append
    have hcounted : e'.announceCount = first + UInt64.ofNat (log ++ [b]).length := by
      rw [hcount', hcount, hlength, UInt64.ofNat_add, UInt64.add_assoc]
      rfl
    have hmoved : e'.overlay = some { o with timeline := o.timeline.played (log ++ [b]) } := by
      rw [hoverlay', played_snoc]
    cases burst with
    | none =>
      -- the burst is lost: it is played, and not sent
      refine ⟨log ++ [b], sent, hlength ▸ hlog', hcounted, hmoved,
        hsub.trans (List.sublist_append_left _ _), ?_, fun hwrites => ?_⟩
      · rwa [Option.map_none, Option.toList_none, List.append_nil]
      · obtain ⟨hdirs, hpcap⟩ := hio hwrites
        have hempty : b.frames = [] := by
          rcases hlost rfl with hoff | hoff | hempty
          · exact absurd (hoff.symm.trans hdirs) Bool.false_ne_true
          · exact absurd (hoff.symm.trans hpcap) Bool.false_ne_true
          · exact hempty
        rw [hwhole hwrites, List.flatMap_append, List.flatMap_singleton, hempty, List.append_nil]
    | some content =>
      refine ⟨log ++ [b], sent ++ [b], hlength ▸ hlog', hcounted, hmoved, hsub.append_right [b], ?_,
        fun hwrites => ?_⟩
      · exact List.rel_append hwire (List.Forall₂.cons ⟨_, hsent content rfl⟩ List.Forall₂.nil)
      · rw [List.flatMap_append, List.flatMap_append, hwhole hwrites]

section Runs

variable {F : Type} [FloatOps F] {seedFrom : UInt64 → Rng} {cfg : LoopConfig F}
  {readF : List Char → Option F} {glob : GlobMatcher} {oui : OuiDb} {times : WatchdogTimes}

/-- **The timeline of a sealed plant.** Over any turns the plant stays what it was, the loop plays
the timeline of its scenario under consecutive nonces, burst after burst, and what it fires are
bursts of that timeline in their order: one that cannot be written is lost, and never played again. -/
theorem sealed_timeline (e : LoopEngine) (o : ScenarioOverlay) (file : LedgerFile)
    (turns : List (Turn F)) (st : LoopState F) (hoverlay : e.overlay = some o)
    (hsealed : e.core.sealed = true)
    (hrun : runLoop seedFrom cfg readF glob oui times (.start cfg (some e) file) turns = some st) :
    ∃ e', st.engine = some e' ∧ SealedAs e.core e'.core ∧
      ∃ log sent, Played (o.renders e.core) o e.announceCount
        (∀ t ∈ turns, t.tickIo.dirs = true ∧ t.tickIo.pcap = true) e' (bursts st.log) log sent := by
  have hguard : EveryStep (LoopState.step seedFrom cfg readF glob oui times) (fun _ t => t ∈ turns)
      (.start cfg (some e) file) turns := everyStep_of_forall (fun _ t ht => ht) _
  refine runAll_invariant
    (P := fun st : LoopState F => ∃ e', st.engine = some e' ∧ SealedAs e.core e'.core ∧
      ∃ log sent, Played (o.renders e.core) o e.announceCount
        (∀ t ∈ turns, t.tickIo.dirs = true ∧ t.tickIo.pcap = true) e' (bursts st.log) log sent)
    (fun st t st' hst ht hstep => ?_) ?_ hguard hrun
  · obtain ⟨e₁, he₁, hplant, log, sent, hplayed⟩ := hst
    have hstepped := step_cases hstep
    obtain ⟨e₂, burst, he₂, hticked, hlog⟩ := step_bursts hstepped he₁
    -- the other calls of the turn keep the plant, and the renderer reads nothing else of it
    have hcalls := step_calls hstepped
    unfold LoopState.CallsTo at hcalls
    rw [he₁, he₂] at hcalls
    have hplant' : SealedAs e.core e₂.core :=
      hcalls.invariant (P := fun d _ => SealedAs e.core d.core)
        (fun _ _ _ _ _ hd _ happly => hd.apply happly) hplant
    have hrender : o.renders e₂.core = o.renders e.core := by
      unfold ScenarioOverlay.renders plantLedger
      rw [hplant'.devices, hplant'.vuln]
    obtain ⟨log', sent', hplayed'⟩ := hplayed.ticked hrender (fun hwrites => hwrites t ht) hticked
    exact ⟨e₂, he₂, hplant', log', sent', hlog ▸ hplayed'⟩
  · exact ⟨e, rfl, ⟨hsealed, rfl, rfl, rfl⟩, [], [], rfl,
      (UInt64.add_zero _).symm, hoverlay, List.Sublist.refl _, List.Forall₂.nil, fun _ => rfl⟩

end Runs

/-! ## A CPU stopped twice -/

/-- A plant of the one S7 CPU, sealed. -/
def cabinetCore : SimulatorEngine :=
  { twinEngine with
    ledger := { Session.new 7 with
      devices :=
        [{ ip := ipv4 10 20 10 11, mac := ⟨0, 0x0E, 0x8C, 0x11, 0x22, 0x33⟩, vendor := "Siemens",
           model := "SIMATIC S7-300", firmware := "V3.2", protocol := "s7", cves := [],
           subnetCidr := Ipv4Net.slash24 (ipv4 10 20 10 0), hostname := none,
           assetType := some "Controller" }]
      sealed := true }
    sealed := true }

/-- The overlay that stops it. -/
def stopOverlay : ScenarioOverlay :=
  ⟨"cabinet", standinRenderer, .load stopTwice .oneshot 100, []⟩

/-- The engine of the bench under that overlay. -/
def cabinetEngine : LoopEngine :=
  { announcingEngine with core := cabinetCore, overlay := some stopOverlay }

theorem cabinetLoop_isSome :
    (benchLoop (.start benchConfig (some cabinetEngine) .missing) benchTurns).isSome = true := by
  decide +kernel

end TurboLaser
