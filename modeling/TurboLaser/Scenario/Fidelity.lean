import Mathlib.Algebra.Ring.Nat
import TurboLaser.Proto.Rewrite
import TurboLaser.Scenario.FrameSizes
import TurboLaser.Scenario.Places
import TurboLaser.Scenario.PreflightFacts

/-!
# The fidelity report (scenario/engine.rs)

Before a scenario runs, `fidelity_report` counts the frames every event renders. What is then
written is another matter: `red_tick` drops the frames of a burst that are over the link's size.

The report is made with a nonce of its own, and the run with others; that the counts can be compared
at all rests on the sizes of an event's frames being the same for all nonces
(`Scenario.FrameSizes`). A run may loop, and hold a phase as long as it likes, so what is written of
an event is counted over one pass of the timeline, in which every event is sent once.

- `writtenOf`: what is written of one event over a run, burst by burst;
- `FullPass.writtenOf_eq`: over one pass that is the event's frames of link size;
- `report_counts_written_iff`: **over one pass, the report's count of an event is what is written of
  it exactly when the event keeps to the link's size.** Whether it does is a matter of its texts and
  its payload (`Event.FitsLink`).
-/

namespace TurboLaser.Scenario

open Lib Synth

/-! ## The report -/

/-- What the report says of an event's target. -/
inductive TargetLine where
  | device (dev : LedgerEntry)
  | unresolved (t : DeviceRef)
  | viaFirst (dev : LedgerEntry)
  | noDevice
  | noTarget
deriving DecidableEq

/-- The report on one event. -/
structure EventLine where
  emit : EmitKind
  target : TargetLine
  frames : Nat
deriving DecidableEq

/-- The report on one phase. -/
structure PhaseReport where
  id : String
  dwellRuns : Nat
  events : List EventLine
  frames : Nat
deriving DecidableEq

/-- What `fidelity_report` prints, but for the settings it repeats. -/
structure FidelityReport where
  phases : List PhaseReport
  total : Nat
deriving DecidableEq

/-- The target of an event, as the report names it. -/
def targetLine (ledger : PlantLedger) (ev : Event) : TargetLine :=
  match ev.target with
  | some t =>
    match resolve ledger ev.target with
    | some d => .device d
    | none => .unresolved t
  | none =>
    if ev.emit = .c2Beacon then
      match ledger.head? with
      | some d => .viaFirst d
      | none => .noDevice
    else .noTarget

section

variable (r : Renderer) (ledger : PlantLedger) (vuln : VulnDb)

/-- The line of event number `i` of a phase. -/
def eventLine (ev : Event) (i : Nat) : EventLine :=
  { emit := ev.emit
    target := targetLine ledger ev
    frames := (r.renderEvent ev ledger vuln (UInt64.ofNat i)).length }

def phaseReport (ph : PhaseSpec) : PhaseReport :=
  let lines := ph.events.zipIdx.map fun (ev, i) => eventLine r ledger vuln ev i
  { id := ph.id
    dwellRuns := ph.dwellRuns
    events := lines
    frames := (lines.map EventLine.frames).sum }

/-- `fidelity_report`. -/
def fidelityReport (pb : PlaybookSpec) : FidelityReport :=
  let phases := pb.map (phaseReport r ledger vuln)
  { phases, total := (phases.map PhaseReport.frames).sum }

end

/-- The count of the event at a place. -/
def FidelityReport.countAt (report : FidelityReport) (place : Place) : Option Nat :=
  (report.phases[place.phase]?).bind fun ph => (ph.events[place.index]?).map EventLine.frames

/-! ## What is written

The report counts what is rendered and the daemon writes what fits the link, frame by frame. Frames
are told apart by the place of their event, so that the two counts can be compared event by event.
Over one pass every event is rendered once, hence the difference is the frames that are too long.
-/

/-- `to_capture`: a packet a frame, a millisecond apart. -/
def toCapture (frames : List Frame) : Capture :=
  ⟨frames.zipIdx.map fun (data, i) => { ts := i, origLen := data.length, data }⟩

/-- The capture `red_tick` writes for a burst: the identity assertions, then the attack. -/
def identityCapture (assertions attack : List Frame) : Capture :=
  dropOversizeFrames (toCapture (assertions ++ attack)) standardFrameBytes

/-- The frames of that capture, each with the place of its event; an assertion has none. -/
def writtenFrames (assertions : List Frame) (attack : List (Place × Frame)) :
    List (Option Place × Frame) :=
  (assertions.map (Prod.mk none) ++ attack.map (Prod.map some id)).filter fun m =>
    decide (m.2.length ≤ standardFrameBytes)

/-- How many frames of the event at a place are in the captures of a run; `assertions k` are
the identity assertions of burst number `k`. -/
def writtenOf (assertions : Nat → List Frame)
    (log : List (Burst (Place × Event) (Place × Frame))) (place : Place) : Nat :=
  (log.zipIdx.flatMap fun (b, k) => writtenFrames (assertions k) b.frames).countP fun m =>
    decide (m.1 = some place)

@[simp] theorem data_toCapture (frames : List Frame) :
    (toCapture frames).packets.map OwnedPacket.data = frames := by
  rw [toCapture, List.map_map]
  exact List.zipIdx_map_fst 0 _

/-- **What is written of a burst**: the frames of the assertions and of the attack that fit the
link. -/
theorem data_identityCapture (assertions attack : List Frame) :
    (identityCapture assertions attack).packets.map OwnedPacket.data =
      (assertions ++ attack).filter fun f => decide (f.length ≤ standardFrameBytes) := by
  have hdata := data_toCapture (assertions ++ attack)
  rw [identityCapture, dropOversizeFrames, Capture.retain]
  conv_rhs => rw [← hdata, List.filter_map]
  rfl

section

variable (r : Renderer) (ledger : PlantLedger) (vuln : VulnDb)

/-- How many frames fit the link. -/
def fitting (frames : List (Place × Frame)) : Nat :=
  frames.countP fun m => decide (m.2.length ≤ standardFrameBytes)

/-- What one burst writes of an event. -/
theorem countP_writtenFrames (assertions : List Frame) (attack : List (Place × Frame))
    (place : Place) :
    (writtenFrames assertions attack).countP (fun m => decide (m.1 = some place)) =
      fitting (attack.filter fun m => decide (m.1 = place)) := by
  have hassertions : (assertions.map (Prod.mk (none : Option Place))).countP
      (fun m => decide (m.1 = some place) && decide (m.2.length ≤ standardFrameBytes)) = 0 := by
    rw [List.countP_map, List.countP_eq_zero]
    intro f _
    simp
  rw [writtenFrames, fitting, List.countP_filter, List.countP_append, hassertions, Nat.zero_add,
    List.countP_map, List.countP_filter]
  refine List.countP_congr fun m _ => ?_
  simp [and_comm]

/-- **What is written of an event over one pass**: its frames that fit the link. -/
theorem FullPass.writtenOf_eq {render : Event → UInt64 → List Frame} {playbook : Playbook Event}
    {campaign : Campaign} {cap : Nat} {nonces : List UInt64}
    {log : List (Burst (Place × Event) (Place × Frame))} (hpass : FullPass log)
    (hrun : timeline (renderPlaced render) (ScenarioEngine.load playbook.placed campaign cap)
      nonces = some log) {place : Place} {ev : Event} (hev : playbook.eventAt place = some ev)
    (assertions : Nat → List Frame) :
    ∃ nonce, writtenOf assertions log place =
      (render ev nonce).countP fun f => decide (f.length ≤ standardFrameBytes) := by
  obtain ⟨nonce, hframes⟩ := hpass.ofPlace hrun hev
  refine ⟨nonce, ?_⟩
  have hcount : ∀ x : Burst (Place × Event) (Place × Frame) × Nat,
      (writtenFrames (assertions x.2) x.1.frames).countP (fun m => decide (m.1 = some place)) =
        fitting (x.1.frames.filter fun m => decide (m.1 = place)) :=
    fun x => countP_writtenFrames _ _ place
  calc writtenOf assertions log place
      = (log.zipIdx.map fun x => fitting (x.1.frames.filter fun m => decide (m.1 = place))).sum := by
        rw [writtenOf, List.countP_flatMap]
        exact congrArg List.sum (List.map_congr_left fun x _ => hcount x)
    _ = (log.map fun b => fitting (b.frames.filter fun m => decide (m.1 = place))).sum := by
        conv_rhs => rw [← List.zipIdx_map_fst 0 log, List.map_map]
        rfl
    _ = fitting ((log.flatMap Burst.frames).filter fun m => decide (m.1 = place)) := by
        rw [List.filter_flatMap, fitting, List.countP_flatMap]
        rfl
    _ = (render ev nonce).countP fun f => decide (f.length ≤ standardFrameBytes) := by
        rw [hframes, fitting, List.countP_map]
        rfl

/-- The report's count of an event. -/
theorem countAt_fidelityReport (pb : PlaybookSpec) (h : pb ≠ []) {place : Place} {ev : Event}
    (hev : (pb.playbook h).eventAt place = some ev) :
    (fidelityReport r ledger vuln pb).countAt place =
      some (r.renderEvent ev ledger vuln (UInt64.ofNat place.index)).length := by
  obtain ⟨phase, hphase, hindex⟩ := Option.bind_eq_some_iff.mp hev
  rw [PlaybookSpec.playbook, List.getElem?_map, Option.map_eq_some_iff] at hphase
  obtain ⟨ph, hph, rfl⟩ := hphase
  rw [FidelityReport.countAt, fidelityReport, List.getElem?_map, hph, Option.map_some,
    Option.bind_some, phaseReport]
  dsimp only
  rw [List.getElem?_map, List.getElem?_zipIdx, show ph.events[place.index]? = some ev from hindex]
  simp [eventLine]

/-- An event has as many frames under every nonce. -/
theorem length_renderEvent (ev : Event) (nonce nonce' : UInt64) :
    (r.renderEvent ev ledger vuln nonce).length = (r.renderEvent ev ledger vuln nonce').length := by
  have hlengths := congrArg List.length (lengths_renderEvent r ledger vuln ev nonce nonce')
  rwa [List.length_map, List.length_map] at hlengths

/-- **What the report promises of an event.** Over one pass, the report's count of an event is
what is written of it, whatever the nonces are, exactly when the event keeps to the size of
the link. -/
theorem report_counts_written_iff {pb : PlaybookSpec} (h : pb ≠ []) {campaign : Campaign}
    {cap : Nat} {nonces : List UInt64} {log : List (Burst (Place × Event) (Place × Frame))}
    (hrun : timeline (renderPlaced fun ev => r.renderEvent ev ledger vuln)
      (ScenarioEngine.load (pb.playbook h).placed campaign cap) nonces = some log)
    (hpass : FullPass log) (assertions : Nat → List Frame) (place : Place) {ev : Event}
    (hev : (pb.playbook h).eventAt place = some ev) :
    ((fidelityReport r ledger vuln pb).countAt place = some (writtenOf assertions log place) ∧
        ∀ nonce nonce', (r.renderEvent ev ledger vuln nonce).length =
          (r.renderEvent ev ledger vuln nonce').length) ↔
      ev.FitsLink r ledger := by
  have hsame := length_renderEvent r ledger vuln ev
  obtain ⟨nonce, hwritten⟩ := hpass.writtenOf_eq hrun hev assertions
  rw [countAt_fidelityReport r ledger vuln pb h hev, hwritten, Option.some_inj, hsame _ nonce,
    ← forall_renderEvent_le_iff r ledger vuln ev nonce, eq_comm, List.countP_eq_length]
  simp only [decide_eq_true_eq]
  exact and_iff_left hsame

end

/-! ## A share that is too long -/

/-- A file server. -/
def fileServer : LedgerEntry :=
  { ip := "10.0.0.9", mac := "00:30:a7:00:00:09", model := "Windows Server", firmware := "10.0",
    subnetCidr := "10.0.0.0/24", assetType := some "Server" }

theorem length_utf8_replicate (n : Nat) :
    (utf8 (String.ofList (List.replicate n 'a'))).length = n := by
  rw [utf8, String.toList_ofList, List.length_flatMap, List.map_replicate, List.sum_replicate]
  exact Nat.mul_one n

/-- A playbook of one wiper event on that server. -/
def wiperPlaybook (share : String) : PlaybookSpec :=
  [{ id := "impact"
     events := [{ emit := .wiper, target := some { ip := some "10.0.0.9" }, share := some share }] }]

theorem short_share_counted :
    ∃ n log, timeline (renderPlaced fun ev =>
          Renderer.renderEvent ⟨{}, .real, 7, crcDnp3⟩ ev [fileServer] [])
        (ScenarioEngine.load (PlaybookSpec.playbook (wiperPlaybook "a") (by decide)).placed .oneshot 4)
        ((List.range n).map fun i => UInt64.ofNat i) = some log ∧ FullPass log ∧
      (fidelityReport ⟨{}, .real, 7, crcDnp3⟩ [fileServer] [] (wiperPlaybook "a")).countAt ⟨0, 0⟩ =
        some (writtenOf (fun _ => []) log ⟨0, 0⟩) := by
  obtain ⟨n, log, hrun, hpass⟩ := exists_fullPass
    (renderPlaced fun ev => Renderer.renderEvent ⟨{}, .real, 7, crcDnp3⟩ ev [fileServer] [])
    (PlaybookSpec.playbook (wiperPlaybook "a") (by decide)).placed .oneshot 4 fun i => UInt64.ofNat i
  refine ⟨n, log, hrun, hpass, ((report_counts_written_iff ⟨{}, .real, 7, crcDnp3⟩ [fileServer] []
    (by decide)
    hrun hpass (fun _ => []) ⟨0, 0⟩ rfl).mpr ?_).1⟩
  intro _ share hshare
  obtain rfl := Option.some.inj hshare
  decide

/-- One byte of share too many, and its frame is counted and never written. -/
theorem long_share_not_written :
    ¬ ∀ (r : Renderer) (ledger : PlantLedger) (vuln : VulnDb) (pb : PlaybookSpec) (h : pb ≠ [])
        (campaign : Campaign) (cap : Nat) (nonces : List UInt64)
        (log : List (Burst (Place × Event) (Place × Frame))) (assertions : Nat → List Frame)
        (place : Place) (ev : Event),
      firstError (payloadErrors pb) = .ok () → validateTargets pb ledger = .ok () →
      timeline (renderPlaced fun ev => r.renderEvent ev ledger vuln)
        (ScenarioEngine.load (pb.playbook h).placed campaign cap) nonces = some log →
      FullPass log → (pb.playbook h).eventAt place = some ev →
        (fidelityReport r ledger vuln pb).countAt place =
          some (writtenOf assertions log place) := by
  intro hall
  have hne : wiperPlaybook (String.ofList (List.replicate 1345 'a')) ≠ [] := List.cons_ne_nil _ _
  obtain ⟨n, log, hrun, hpass⟩ := exists_fullPass
    (renderPlaced fun ev => Renderer.renderEvent ⟨{}, .real, 7, crcDnp3⟩ ev [fileServer] [])
    (PlaybookSpec.playbook _ hne).placed .oneshot 4 fun i => UInt64.ofNat i
  have hcount := hall ⟨{}, .real, 7, crcDnp3⟩ [fileServer] [] _ hne .oneshot 4 _ log (fun _ => [])
    ⟨0, 0⟩ _
    rfl rfl hrun hpass rfl
  have hfits := (report_counts_written_iff ⟨{}, .real, 7, crcDnp3⟩ [fileServer] [] hne hrun hpass
    (fun _ => []) ⟨0, 0⟩ rfl).mp ⟨hcount, length_renderEvent _ _ _ _⟩
  have hshort := hfits (by decide +kernel) _ rfl
  rw [length_utf8_replicate] at hshort
  exact absurd hshort (by decide)

end TurboLaser.Scenario
