import Mathlib.Data.List.Basic

/-!
# The scenario timeline (scenario/engine.rs)

`phaseFrames` renders one burst of the current phase: it walks the phase's events from a cursor,
slices an event that does not fit under the frame cap and carries the rest into the next burst, and
advances the phase when everything is sent and the dwell has elapsed. A carried event is rendered
again with the nonce it was first rendered with, which is pinned in `spillNonce`.

What an event renders to depends on the ledger and the vulnerability database, which are fixed here:
`render` stands for `render_event` of one plant. Indexing and slicing return `none` where the source
would panic, and that they never do is a result about runs and not a check of the model.

- `emit`: the loop over the events of a burst, and `sliceFrames` its cut under the cap;
- `ScenarioEngine.settle`: what a burst leaves behind: the cursor, the frames already sent of the
  event at it, and its nonce;
- `timeline`: the bursts of a whole run, given the time and the nonce of each.
-/

namespace TurboLaser.Scenario

/-- `Campaign`. -/
inductive Campaign where
  | oneshot
  | loop
deriving DecidableEq

/-- The part of a `Phase` that drives the timeline: `dwell_runs` and `events`. -/
structure Phase (Event : Type) where
  dwellRuns : Nat
  events : List Event

/-- `Playbook`: parsing refuses one without phases. -/
structure Playbook (Event : Type) where
  phases : List (Phase Event)
  nonempty : phases ≠ []

/-- Where a phase stands: the event at the cursor, how many of its frames are sent,
and the nonce pinned while it spills. -/
structure Position where
  eventCursor : Nat
  eventFrameOffset : Nat
  spillNonce : Option UInt64
deriving DecidableEq

/-- The start of a phase. -/
def Position.start : Position := ⟨0, 0, none⟩

/-- `ScenarioEngine`, without the fields only `render_event` reads. -/
structure ScenarioEngine (Event : Type) where
  playbook : Playbook Event
  campaign : Campaign
  maxFramesPerBurst : Nat
  phaseIdx : Nat
  pos : Position
  burstsInPhase : Nat

section

variable {Event Frame : Type}

/-- `ScenarioEngine::load`: a frame cap of zero counts as one. -/
def ScenarioEngine.load (playbook : Playbook Event) (campaign : Campaign)
    (maxFramesPerBurst : Nat) : ScenarioEngine Event :=
  { playbook, campaign, maxFramesPerBurst := max maxFramesPerBurst 1, phaseIdx := 0,
    pos := .start, burstsInPhase := 0 }

/-- The phase at `phase_idx`. -/
def ScenarioEngine.currentPhase (eng : ScenarioEngine Event) : Option (Phase Event) :=
  eng.playbook.phases[eng.phaseIdx]?

/-- `&frames[a..b]`. -/
def sliceFrames (frames : List Frame) (a b : Nat) : Option (List Frame) :=
  if a ≤ b ∧ b ≤ frames.length then some ((frames.take b).drop a) else none

/-- The emission loop of `phase_frames`. Every round that does not end the loop moves
the cursor, so the events behind the cursor bound its length. -/
def emit (render : Event → UInt64 → List Frame) (events : List Event) (cap : Nat)
    (nonce : UInt64) : Nat → Position → List Frame → Option (List Frame × Position)
  | 0, pos, frames => some (frames, pos)
  | fuel + 1, pos, frames =>
    if pos.eventCursor < events.length then
      let room := cap - frames.length
      if room = 0 then some (frames, pos)
      else
        let evNonce := pos.spillNonce.getD (nonce + UInt64.ofNat pos.eventCursor)
        match events[pos.eventCursor]? with
        | none => none
        | some ev =>
          let evFrames := render ev evNonce
          let remaining := evFrames.length - pos.eventFrameOffset
          let take := min remaining room
          match sliceFrames evFrames pos.eventFrameOffset (pos.eventFrameOffset + take) with
          | none => none
          | some part =>
            if take = remaining then
              emit render events cap nonce fuel ⟨pos.eventCursor + 1, 0, none⟩ (frames ++ part)
            else
              some (frames ++ part,
                ⟨pos.eventCursor, pos.eventFrameOffset + take, some evNonce⟩)
    else some (frames, pos)

/-- The phase after `idx`: the next one, and behind the last one the first (loop) or
the last again (one-shot). -/
def nextPhase (playbook : Playbook Event) (campaign : Campaign) (idx : Nat) : Nat :=
  if idx < playbook.phases.length - 1 then idx + 1
  else if campaign = .loop then 0
  else idx

/-- `advance`. -/
def ScenarioEngine.advance (eng : ScenarioEngine Event) : ScenarioEngine Event :=
  { eng with
    phaseIdx := nextPhase eng.playbook eng.campaign eng.phaseIdx
    pos := .start
    burstsInPhase := 0 }

/-- A phase is over: every event is drained and the dwell has elapsed. -/
def ScenarioEngine.Done (eng : ScenarioEngine Event) (phase : Phase Event) : Prop :=
  phase.events.length ≤ eng.pos.eventCursor ∧ eng.pos.eventFrameOffset = 0 ∧
    max phase.dwellRuns 1 ≤ eng.burstsInPhase

instance (eng : ScenarioEngine Event) (phase : Phase Event) : Decidable (eng.Done phase) :=
  inferInstanceAs (Decidable (_ ∧ _ ∧ _))

/-- The first half of `phase_frames`: emit and count the burst. -/
def ScenarioEngine.emitBurst (render : Event → UInt64 → List Frame) (eng : ScenarioEngine Event)
    (phase : Phase Event) (nonce : UInt64) : Option (List Frame × ScenarioEngine Event) :=
  (emit render phase.events eng.maxFramesPerBurst nonce
      (phase.events.length - eng.pos.eventCursor) eng.pos []).map fun (frames, pos) =>
    (frames, { eng with pos, burstsInPhase := eng.burstsInPhase + 1 })

/-- The second half of `phase_frames`: advance when the phase is over. -/
def ScenarioEngine.settle (eng : ScenarioEngine Event) (phase : Phase Event) :
    ScenarioEngine Event :=
  if eng.Done phase then eng.advance else eng

/-- `phase_frames`. -/
def ScenarioEngine.phaseFrames (render : Event → UInt64 → List Frame) (eng : ScenarioEngine Event)
    (nonce : UInt64) : Option (List Frame × ScenarioEngine Event) :=
  match eng.currentPhase with
  | none => none
  | some phase =>
    (eng.emitBurst render phase nonce).map fun (frames, mid) => (frames, mid.settle phase)

/-! ## Runs -/

/-- One call of `phase_frames`: the engine before it, the frames it returned, the
engine before it may have advanced, and the engine after it. -/
structure Burst (Event Frame : Type) where
  before : ScenarioEngine Event
  nonce : UInt64
  frames : List Frame
  mid : ScenarioEngine Event
  after : ScenarioEngine Event

/-- The log of a run, one burst a nonce. -/
def timeline (render : Event → UInt64 → List Frame) :
    ScenarioEngine Event → List UInt64 → Option (List (Burst Event Frame))
  | _, [] => some []
  | eng, nonce :: nonces =>
    match eng.currentPhase with
    | none => none
    | some phase =>
      match eng.emitBurst render phase nonce with
      | none => none
      | some (frames, mid) =>
        (timeline render (mid.settle phase) nonces).map
          (⟨eng, nonce, frames, mid, mid.settle phase⟩ :: ·)

end

end TurboLaser.Scenario
