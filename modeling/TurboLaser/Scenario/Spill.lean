import Mathlib.Data.List.Chain
import TurboLaser.Scenario.Timeline

/-!
# Nothing is lost when an event spills

Within one stay in a phase, what has been sent so far is always the events in front of the cursor,
rendered whole, and a prefix of the event at the cursor (`sent`). Each event has one nonce, the one
of the burst that started it: a later burst renders a spilling event with the pinned nonce and so
continues the same frames.

The induction over a run is on three levels, as the source has three loops. The emission loop walks
the events of one burst (`emit_spec`), the bursts of a stay follow one another until a burst enters
a phase (`stay_spec`), and the stays follow one another in the order of the phases. A burst that
enters a phase starts at its first event with nothing sent, which is what lets the stays be treated
one at a time.

- `emit_spec`: one run of the emission loop extends what was sent and nothing else;
- `stay_spec`: so does a whole stay, burst after burst;
- `timeline_spec`: **every run from load: no panic, bursts within the cap, exact content, and the
  phases in order.**

How many frames an event renders to may be anything, also none, and `render` may give different
frames for different nonces. Only that it gives the same frames for the same nonce is used, and it
is a function.
-/

namespace TurboLaser.Scenario

section

variable {Event Frame : Type} (render : Event → UInt64 → List Frame) (events : List Event)
  (starts : Nat → UInt64)

/-- Event `i` rendered under its nonce. -/
def renderAt (i : Nat) : List Frame :=
  match events[i]? with
  | some ev => render ev (starts i)
  | none => []

/-- The first `c` events, rendered whole and in order. -/
def rendered (c : Nat) : List Frame := (List.range c).flatMap (renderAt render events starts)

/-- What has been sent when a phase stands at `pos`. -/
def sent (pos : Position) : List Frame :=
  rendered render events starts pos.eventCursor ++
    (renderAt render events starts pos.eventCursor).take pos.eventFrameOffset

/-- An event is started: drained, or spilling. -/
def Started (pos : Position) (i : Nat) : Prop :=
  i < pos.eventCursor ∨ (i = pos.eventCursor ∧ 0 < pos.eventFrameOffset)

instance (pos : Position) (i : Nat) : Decidable (Started pos i) :=
  inferInstanceAs (Decidable (_ ∨ _))

/-- A position the emission loop can be in: a spilling event has its nonce pinned and
frames left, another has neither. -/
structure Position.Valid (pos : Position) : Prop where
  cursor_le : pos.eventCursor ≤ events.length
  idle : pos.eventFrameOffset = 0 → pos.spillNonce = none
  spilling : 0 < pos.eventFrameOffset →
    pos.spillNonce = some (starts pos.eventCursor) ∧
      pos.eventFrameOffset < (renderAt render events starts pos.eventCursor).length

end

section Emit

variable {Event Frame : Type} {render : Event → UInt64 → List Frame} {events : List Event}
  {starts : Nat → UInt64}

theorem rendered_succ (c : Nat) :
    rendered render events starts (c + 1) =
      rendered render events starts c ++ renderAt render events starts c := by
  unfold rendered
  rw [List.range_succ, List.flatMap_append, List.flatMap_singleton]

/-- What was sent depends on the nonces of the started events only. -/
theorem sent_congr {starts' : Nat → UInt64} {pos : Position}
    (h : ∀ i, Started pos i → starts i = starts' i) :
    sent render events starts pos = sent render events starts' pos := by
  have hrender : ∀ i, Started pos i →
      renderAt render events starts i = renderAt render events starts' i := by
    intro i hi
    unfold renderAt
    rw [h i hi]
  unfold sent rendered
  congr 1
  · exact List.flatMap_congr fun i hi => hrender i (Or.inl (List.mem_range.mp hi))
  · rcases Nat.eq_zero_or_pos pos.eventFrameOffset with hz | hpos
    · rw [hz, List.take_zero, List.take_zero]
    · rw [hrender _ (Or.inr ⟨rfl, hpos⟩)]

/-- **One run of the emission loop.** It never indexes out of range, stays within the
cap, and what it appends takes what was sent from the old position to the new one. -/
theorem emit_spec {cap fuel : Nat} {nonce : UInt64} {pos : Position} {frames : List Frame}
    (hfuel : events.length - pos.eventCursor = fuel)
    (hvalid : pos.Valid render events starts)
    (hfresh : ∀ i, ¬ Started pos i → starts i = nonce + UInt64.ofNat i)
    (hcap : frames.length ≤ cap) :
    ∃ part pos', emit render events cap nonce fuel pos frames = some (frames ++ part, pos') ∧
      pos'.Valid render events starts ∧ (frames ++ part).length ≤ cap ∧
      (∀ i, Started pos i → Started pos' i) ∧
      sent render events starts pos ++ part = sent render events starts pos' := by
  induction fuel generalizing pos frames with
  | zero =>
    refine ⟨[], pos, ?_, hvalid, ?_, fun _ h => h, List.append_nil _⟩
    · rw [emit, List.append_nil]
    · rwa [List.append_nil]
  | succ fuel ih =>
    have hlt : pos.eventCursor < events.length := by omega
    rw [emit, if_pos hlt]
    dsimp only
    by_cases hroom : cap - frames.length = 0
    · rw [if_pos hroom]
      refine ⟨[], pos, ?_, hvalid, ?_, fun _ h => h, List.append_nil _⟩
      · rw [List.append_nil]
      · rwa [List.append_nil]
    · rw [if_neg hroom]
      -- the event at the cursor is rendered under its own nonce, pinned or fresh
      have hnonce : pos.spillNonce.getD (nonce + UInt64.ofNat pos.eventCursor) =
          starts pos.eventCursor := by
        rcases Nat.eq_zero_or_pos pos.eventFrameOffset with hz | hpos
        · have hidle : ¬ Started pos pos.eventCursor := by
            unfold Started
            omega
          rw [hvalid.idle hz, hfresh _ hidle]
          rfl
        · rw [(hvalid.spilling hpos).1]
          rfl
      have hget : events[pos.eventCursor]? = some events[pos.eventCursor] :=
        List.getElem?_eq_getElem hlt
      have hrender : renderAt render events starts pos.eventCursor =
          render events[pos.eventCursor] (starts pos.eventCursor) := by
        rw [renderAt, hget]
      rw [hget, hnonce]
      dsimp only
      rw [← hrender]
      have hoff : pos.eventFrameOffset ≤
          (renderAt render events starts pos.eventCursor).length := by
        rcases Nat.eq_zero_or_pos pos.eventFrameOffset with hz | hpos
        · omega
        · exact (hvalid.spilling hpos).2.le
      generalize hev : renderAt render events starts pos.eventCursor = evFrames at hoff
      rw [sliceFrames, if_pos (by omega)]
      dsimp only
      by_cases hdrained : min (evFrames.length - pos.eventFrameOffset) (cap - frames.length) =
          evFrames.length - pos.eventFrameOffset
      · rw [if_pos hdrained, hdrained, Nat.add_sub_cancel' hoff, List.take_length]
        have hlen : (frames ++ evFrames.drop pos.eventFrameOffset).length ≤ cap := by
          rw [List.length_append, List.length_drop]
          omega
        obtain ⟨part, pos', hemit, hvalid', hcap', hmono, hsent⟩ :=
          ih (by dsimp only; omega)
            (show Position.Valid render events starts ⟨pos.eventCursor + 1, 0, none⟩ from
              ⟨hlt, fun _ => rfl, fun h => absurd h (Nat.lt_irrefl 0)⟩)
            (fun i hi => hfresh i fun hs => hi (by unfold Started at hs ⊢; dsimp only; omega))
            hlen
        refine ⟨evFrames.drop pos.eventFrameOffset ++ part, pos', ?_, hvalid', ?_, ?_, ?_⟩
        · rw [hemit, List.append_assoc]
        · rwa [← List.append_assoc]
        · exact fun i hi => hmono i (by unfold Started at hi ⊢; dsimp only; omega)
        · rw [← hsent, ← List.append_assoc]
          congr 1
          rw [sent, sent, rendered_succ, hev, List.append_assoc, List.take_append_drop,
            List.take_zero, List.append_nil]
      · rw [if_neg hdrained]
        -- the event does not fit: it spills, and its nonce is pinned
        have htake : min (evFrames.length - pos.eventFrameOffset) (cap - frames.length) =
            cap - frames.length := by omega
        refine ⟨_, _, rfl, ⟨hlt.le, ?_, ?_⟩, ?_, ?_, ?_⟩
        · dsimp only
          omega
        · intro _
          refine ⟨rfl, ?_⟩
          dsimp only
          rw [hev]
          omega
        · rw [List.length_append, List.length_drop, List.length_take]
          omega
        · intro i hi
          unfold Started at hi ⊢
          dsimp only
          omega
        · unfold sent
          dsimp only
          rw [hev, List.append_assoc]
          congr 1
          have hsplit := List.take_append_drop pos.eventFrameOffset
            (evFrames.take (pos.eventFrameOffset +
              min (evFrames.length - pos.eventFrameOffset) (cap - frames.length)))
          rwa [List.take_take, Nat.min_eq_left (Nat.le_add_right _ _)] at hsplit

end Emit

/-! ## One burst

A burst goes on where the engine stands: it drains the event that is spilling, if there is one, and
starts events as long as there is room and events are left. What was sent in a phase so far is a
beginning of its frames, every started event under its own nonce, and a burst makes that beginning
longer.
-/

section Burst

variable {Event Frame : Type} {render : Event → UInt64 → List Frame}

/-- A log entry is what one call of `phase_frames` did. -/
structure Burst.Genuine (render : Event → UInt64 → List Frame) (b : Burst Event Frame)
    (phase : Phase Event) : Prop where
  current : b.before.currentPhase = some phase
  emitted : b.before.emitBurst render phase b.nonce = some (b.frames, b.mid)
  settled : b.after = b.mid.settle phase

/-- The burst ended the phase. -/
def Burst.Advanced (b : Burst Event Frame) : Prop := b.after.burstsInPhase = 0

/-- The engine is at the start of a phase. -/
def ScenarioEngine.AtEntry (eng : ScenarioEngine Event) : Prop :=
  eng.pos = .start ∧ eng.burstsInPhase = 0

/-- The burst started event `i`. -/
def Burst.Starts (b : Burst Event Frame) (i : Nat) : Prop :=
  ¬ Started b.before.pos i ∧ Started b.mid.pos i

/-- The nonces after a burst: the started events keep theirs, the others would start now. -/
def startsFrom (pos : Position) (starts : Nat → UInt64) (nonce : UInt64) (i : Nat) : UInt64 :=
  if Started pos i then starts i else nonce + UInt64.ofNat i

theorem Position.Valid.restart {events : List Event} {starts : Nat → UInt64} {pos : Position}
    (h : pos.Valid render events starts) (nonce : UInt64) :
    pos.Valid render events (startsFrom pos starts nonce) := by
  refine ⟨h.cursor_le, h.idle, fun hpos => ?_⟩
  have hkeep : startsFrom pos starts nonce pos.eventCursor = starts pos.eventCursor :=
    if_pos (Or.inr ⟨rfl, hpos⟩)
  have hrender : renderAt render events (startsFrom pos starts nonce) pos.eventCursor =
      renderAt render events starts pos.eventCursor := by
    unfold renderAt
    rw [hkeep]
  rw [hkeep, hrender]
  exact h.spilling hpos

/-- One burst, emission half: it does not panic, and sends the next stretch. -/
theorem emitBurst_spec {eng : ScenarioEngine Event} {phase : Phase Event}
    {starts : Nat → UInt64} (hvalid : eng.pos.Valid render phase.events starts)
    (nonce : UInt64) :
    ∃ frames pos', eng.emitBurst render phase nonce =
        some (frames, { eng with pos := pos', burstsInPhase := eng.burstsInPhase + 1 }) ∧
      pos'.Valid render phase.events (startsFrom eng.pos starts nonce) ∧
      frames.length ≤ eng.maxFramesPerBurst ∧ (∀ i, Started eng.pos i → Started pos' i) ∧
      sent render phase.events starts eng.pos ++ frames =
        sent render phase.events (startsFrom eng.pos starts nonce) pos' := by
  obtain ⟨part, pos', hemit, hvalid', hcap, hmono, hsent⟩ :=
    emit_spec rfl (hvalid.restart nonce) (fun i hi => if_neg hi)
      (show ([] : List Frame).length ≤ eng.maxFramesPerBurst from Nat.zero_le _)
  refine ⟨part, pos', ?_, hvalid', hcap, hmono, ?_⟩
  · rw [ScenarioEngine.emitBurst, hemit]
    rfl
  · rw [← hsent]
    congr 1
    exact sent_congr fun i hi => (if_pos hi).symm

/-- A burst that did not end the phase leaves the engine where the emission left it. -/
theorem Burst.Genuine.after_eq {b : Burst Event Frame} {phase : Phase Event}
    (h : b.Genuine render phase) (hadv : ¬ b.Advanced) : b.after = b.mid := by
  have hsettled := h.settled
  unfold ScenarioEngine.settle at hsettled
  split at hsettled
  · exact absurd (by rw [Burst.Advanced, hsettled]; rfl) hadv
  · exact hsettled

/-- A genuine burst from a valid position sends the next stretch. -/
theorem Burst.Genuine.step {b : Burst Event Frame} {phase ph : Phase Event}
    (h : b.Genuine render ph) (hphase : b.before.currentPhase = some phase)
    {starts : Nat → UInt64} (hvalid : b.before.pos.Valid render phase.events starts) :
    b.Genuine render phase ∧
      b.mid = { b.before with pos := b.mid.pos, burstsInPhase := b.before.burstsInPhase + 1 } ∧
      b.mid.pos.Valid render phase.events (startsFrom b.before.pos starts b.nonce) ∧
      b.frames.length ≤ b.before.maxFramesPerBurst ∧
      (∀ i, Started b.before.pos i → Started b.mid.pos i) ∧
      sent render phase.events starts b.before.pos ++ b.frames =
        sent render phase.events (startsFrom b.before.pos starts b.nonce) b.mid.pos := by
  have hsame : ph = phase := Option.some.inj (h.current.symm.trans hphase)
  subst hsame
  obtain ⟨frames, pos', hemit, hvalid', hcap, hmono, hsent⟩ := emitBurst_spec hvalid b.nonce
  have hout := Option.some.inj (h.emitted.symm.trans hemit)
  obtain ⟨rfl, hmid⟩ := Prod.mk.inj hout
  have hpos : b.mid.pos = pos' := by rw [hmid]
  subst hpos
  exact ⟨h, hmid, hvalid', hcap, hmono, hsent⟩

/-- What a stay has done by its last burst: the engine still stands in the phase, and
what was sent grew burst by burst. -/
structure Stayed (render : Event → UInt64 → List Frame) (phase : Phase Event)
    (eng : ScenarioEngine Event) (starts : Nat → UInt64) (bursts : List (Burst Event Frame))
    (last : Burst Event Frame) (starts' : Nat → UInt64) : Prop where
  genuine : last.Genuine render phase
  phaseIdx : ∀ b ∈ bursts, b.before.phaseIdx = eng.phaseIdx
  mid : last.mid =
    { eng with pos := last.mid.pos, burstsInPhase := eng.burstsInPhase + bursts.length }
  valid : last.mid.pos.Valid render phase.events starts'
  sent : sent render phase.events starts eng.pos ++ bursts.flatMap Burst.frames =
    sent render phase.events starts' last.mid.pos
  mono : ∀ i, Started eng.pos i → Started last.mid.pos i
  nonces : ∀ i, Started last.mid.pos i → (Started eng.pos i ∧ starts' i = starts i) ∨
    ∃ b ∈ bursts, b.Starts i ∧ starts' i = b.nonce + UInt64.ofNat i

/-- **One stay in a phase.** Over consecutive bursts none of which but the last may end
the phase, what was sent grows burst by burst: nothing is lost, doubled or reordered,
and every event started in the stay keeps the nonce of the burst that started it. -/
theorem stay_spec {phase : Phase Event} {seg : List (Burst Event Frame)} {last : Burst Event Frame}
    (hgenuine : ∀ b ∈ seg ++ [last], ∃ ph, b.Genuine render ph)
    (hchain : (seg ++ [last]).IsChain fun b b' => b'.before = b.after)
    (hstay : ∀ b ∈ seg, ¬ b.Advanced)
    {eng : ScenarioEngine Event} (hhead : ∀ b ∈ (seg ++ [last]).head?, b.before = eng)
    (hphase : eng.currentPhase = some phase)
    {starts : Nat → UInt64} (hvalid : eng.pos.Valid render phase.events starts) :
    ∃ starts', Stayed render phase eng starts (seg ++ [last]) last starts' := by
  induction seg generalizing eng starts with
  | nil =>
    obtain ⟨ph, hph⟩ := hgenuine last List.mem_cons_self
    have hbefore : last.before = eng := hhead last rfl
    subst hbefore
    obtain ⟨hgen, hmid, hvalid', -, hmono, hsent⟩ := hph.step hphase hvalid
    refine ⟨_, hgen, fun b hb => by rw [List.mem_singleton.mp hb], hmid, hvalid', ?_, hmono,
      fun i hi => ?_⟩
    · rw [List.nil_append, List.flatMap_singleton]
      exact hsent
    -- an event was started before the last burst, or by it
    · by_cases hold : Started last.before.pos i
      · exact Or.inl ⟨hold, if_pos hold⟩
      · exact Or.inr ⟨last, List.mem_cons_self, ⟨hold, hi⟩, if_neg hold⟩
  | cons b seg ih =>
    obtain ⟨ph, hph⟩ := hgenuine b List.mem_cons_self
    have hbefore : b.before = eng := hhead b rfl
    subst hbefore
    obtain ⟨hgen, hmid, hvalid', -, hmono, hsent⟩ := hph.step hphase hvalid
    -- the first burst stays in the phase, so the others start from where it stopped
    have hafter := hgen.after_eq (hstay b List.mem_cons_self)
    have hnext : ∀ b' ∈ (seg ++ [last]).head?, b'.before = b.mid := by
      intro b' hb'
      rw [← hafter]
      exact (List.isChain_cons.mp hchain).1 b' hb'
    obtain ⟨starts', h⟩ := ih (fun b' hb' => hgenuine b' (List.mem_cons_of_mem _ hb'))
      (List.isChain_cons.mp hchain).2 (fun b' hb' => hstay b' (List.mem_cons_of_mem _ hb'))
      hnext (by rw [hmid]; exact hphase) hvalid'
    refine ⟨starts', h.genuine, ?_, ?_, h.valid, ?_, fun i hi => h.mono i (hmono i hi), ?_⟩
    · intro b' hb'
      rcases List.mem_cons.mp hb' with rfl | hb'
      · rfl
      · rw [h.phaseIdx b' hb', hmid]
    · have hbursts : b.mid.burstsInPhase = b.before.burstsInPhase + 1 := by rw [hmid]
      rw [h.mid, hbursts, List.cons_append, List.length_cons,
        Nat.add_right_comm b.before.burstsInPhase, Nat.add_assoc b.before.burstsInPhase, hmid]
    · rw [List.cons_append, List.flatMap_cons, ← List.append_assoc, hsent]
      exact h.sent
    · intro i hi
      rcases h.nonces i hi with ⟨hold, hkeep⟩ | ⟨b', hb', hstart, hnonce⟩
      · by_cases hfirst : Started b.before.pos i
        · exact Or.inl ⟨hfirst, hkeep.trans (if_pos hfirst)⟩
        · exact Or.inr ⟨b, List.mem_cons_self, ⟨hfirst, hold⟩, hkeep.trans (if_neg hfirst)⟩
      · exact Or.inr ⟨b', List.mem_cons_of_mem _ hb', hstart, hnonce⟩

end Burst

/-! ## A whole run

A run is described stay by stay. In a stay the bursts are a chain: each starts at the position where
the one before stopped, and an event that does not fit one burst goes on in the next under the nonce
it began with. The end of the phase is decided by the chain as a whole, that is by the last event
and the dwell.
-/

section Run

variable {Event Frame : Type} {render : Event → UInt64 → List Frame} {playbook : Playbook Event}
  {campaign : Campaign} {cap : Nat}

/-- The engine of a run of this playbook: its phase exists and its position is valid. -/
structure Running (render : Event → UInt64 → List Frame) (playbook : Playbook Event)
    (campaign : Campaign) (cap : Nat) (eng : ScenarioEngine Event) : Prop where
  samePlaybook : eng.playbook = playbook
  sameCampaign : eng.campaign = campaign
  sameCap : eng.maxFramesPerBurst = cap
  position : ∃ phase, eng.currentPhase = some phase ∧
    ∃ starts, eng.pos.Valid render phase.events starts

theorem Position.start_valid {events : List Event} (starts : Nat → UInt64) :
    Position.start.Valid render events starts :=
  ⟨Nat.zero_le _, fun _ => rfl, fun h => absurd h (Nat.lt_irrefl 0)⟩

theorem nextPhase_lt {idx : Nat} (h : idx < playbook.phases.length) :
    nextPhase playbook campaign idx < playbook.phases.length := by
  unfold nextPhase
  split
  · omega
  · split
    · exact List.length_pos_iff.mpr playbook.nonempty
    · exact h

theorem Running.phaseIdx_lt {eng : ScenarioEngine Event}
    (h : Running render playbook campaign cap eng) : eng.phaseIdx < playbook.phases.length := by
  obtain ⟨phase, hphase, -⟩ := h.position
  rw [ScenarioEngine.currentPhase, h.samePlaybook] at hphase
  exact (List.getElem?_eq_some_iff.mp hphase).1

/-- A phase of the playbook, from its start. -/
theorem running_at_start {eng : ScenarioEngine Event} (hplaybook : eng.playbook = playbook)
    (hcampaign : eng.campaign = campaign) (hcap : eng.maxFramesPerBurst = cap)
    (hidx : eng.phaseIdx < playbook.phases.length) (hpos : eng.pos = .start) :
    Running render playbook campaign cap eng := by
  refine ⟨hplaybook, hcampaign, hcap, playbook.phases[eng.phaseIdx], ?_, fun _ => 0, ?_⟩
  · rw [ScenarioEngine.currentPhase, hplaybook]
    exact List.getElem?_eq_getElem hidx
  · rw [hpos]
    exact Position.start_valid _

theorem running_load (playbook : Playbook Event) (campaign : Campaign) (cap : Nat) :
    Running render playbook campaign (max cap 1) (ScenarioEngine.load playbook campaign cap) :=
  running_at_start rfl rfl rfl (List.length_pos_iff.mpr playbook.nonempty) rfl

/-- **One call of `phase_frames` in a run.** -/
theorem Running.burst {eng : ScenarioEngine Event} (h : Running render playbook campaign cap eng)
    (nonce : UInt64) :
    ∃ b : Burst Event Frame, ∃ phase, b.before = eng ∧ b.nonce = nonce ∧ b.Genuine render phase ∧
      b.frames.length ≤ cap ∧ Running render playbook campaign cap b.after := by
  obtain ⟨phase, hphase, starts, hvalid⟩ := h.position
  obtain ⟨frames, pos', hemit, hvalid', hcap, -, -⟩ := emitBurst_spec hvalid nonce
  refine ⟨⟨eng, nonce, frames, _, ScenarioEngine.settle _ phase⟩, phase, rfl, rfl,
    ⟨hphase, hemit, rfl⟩, h.sameCap ▸ hcap, ?_⟩
  dsimp only
  unfold ScenarioEngine.settle
  split
  · refine running_at_start h.samePlaybook h.sameCampaign h.sameCap ?_ rfl
    show nextPhase eng.playbook _ _ < _
    rw [h.samePlaybook]
    exact nextPhase_lt h.phaseIdx_lt
  · exact ⟨h.samePlaybook, h.sameCampaign, h.sameCap, phase, hphase, _, hvalid'⟩

/-- What holds of every burst of a run. -/
structure Burst.Sound (render : Event → UInt64 → List Frame) (playbook : Playbook Event)
    (campaign : Campaign) (cap : Nat) (b : Burst Event Frame) : Prop where
  genuine : ∃ phase, b.Genuine render phase
  length_le : b.frames.length ≤ cap
  before : Running render playbook campaign cap b.before
  after : Running render playbook campaign cap b.after

/-- A run never panics, and its log is a chain of sound bursts. -/
theorem timeline_total {eng : ScenarioEngine Event}
    (h : Running render playbook campaign cap eng) (nonces : List UInt64) :
    ∃ log : List (Burst Event Frame), timeline render eng nonces = some log ∧
      log.map Burst.nonce = nonces ∧ (∀ b ∈ log, b.Sound render playbook campaign cap) ∧
      log.IsChain (fun b b' => b'.before = b.after) ∧ ∀ b ∈ log.head?, b.before = eng := by
  induction nonces generalizing eng with
  | nil => exact ⟨[], rfl, rfl, nofun, List.IsChain.nil, nofun⟩
  | cons nonce nonces ih =>
    obtain ⟨b, phase, rfl, rfl, hgen, hcap, hafter⟩ := h.burst nonce
    obtain ⟨log, hlog, hnonces, hsound, hchain, hhead⟩ := ih hafter
    refine ⟨b :: log, ?_, by rw [List.map_cons, hnonces], ?_,
      List.isChain_cons.mpr ⟨hhead, hchain⟩, ?_⟩
    · rw [timeline, hgen.current]
      dsimp only
      rw [hgen.emitted]
      dsimp only
      rw [← hgen.settled, hlog]
      rfl
    · intro b' hb'
      rcases List.mem_cons.mp hb' with rfl | hb'
      · exact ⟨⟨phase, hgen⟩, hcap, h, hafter⟩
      · exact hsound b' hb'
    · intro b' hb'
      rw [List.head?_cons, Option.mem_some_iff] at hb'
      rw [hb']

/-- A stay in a phase, from its first burst to `last`, did what the playbook says:
every frame of every event in order, each event under the nonce of the burst that
started it, and the phase ends exactly when all is sent and the dwell has elapsed. -/
structure StayCorrect (render : Event → UInt64 → List Frame) (playbook : Playbook Event)
    (campaign : Campaign) (seg : List (Burst Event Frame)) (last : Burst Event Frame)
    (phase : Phase Event) (starts : Nat → UInt64) : Prop where
  inPhase : ∀ b ∈ seg ++ [last], playbook.phases[b.before.phaseIdx]? = some phase
  cursor_le : last.mid.pos.eventCursor ≤ phase.events.length
  sentFrames : (seg ++ [last]).flatMap Burst.frames =
    sent render phase.events starts last.mid.pos
  drained : last.mid.pos.eventCursor = phase.events.length →
    (seg ++ [last]).flatMap Burst.frames =
      rendered render phase.events starts phase.events.length
  nonces : ∀ i, Started last.mid.pos i →
    ∃ b ∈ seg ++ [last], b.Starts i ∧ starts i = b.nonce + UInt64.ofNat i
  advances : last.Advanced ↔ last.mid.pos.eventCursor = phase.events.length ∧
    max phase.dwellRuns 1 ≤ seg.length + 1
  next : last.Advanced → last.after.AtEntry ∧
    last.after.phaseIdx = nextPhase playbook campaign last.before.phaseIdx
  stays : ¬ last.Advanced → last.after = last.mid ∧ last.after.phaseIdx = last.before.phaseIdx

theorem stayCorrect {seg : List (Burst Event Frame)} {last : Burst Event Frame}
    (hsound : ∀ b ∈ seg ++ [last], b.Sound render playbook campaign cap)
    (hchain : (seg ++ [last]).IsChain fun b b' => b'.before = b.after)
    (hentry : ∀ b ∈ (seg ++ [last]).head?, b.before.AtEntry)
    (hstay : ∀ b ∈ seg, ¬ b.Advanced) :
    ∃ phase starts, StayCorrect render playbook campaign seg last phase starts := by
  obtain ⟨first, hfirst⟩ : ∃ b, (seg ++ [last]).head? = some b := by
    cases seg with
    | nil => exact ⟨last, rfl⟩
    | cons b seg => exact ⟨b, rfl⟩
  have hmem : first ∈ seg ++ [last] := List.mem_of_mem_head? hfirst
  obtain ⟨hpos, hbursts⟩ := hentry first hfirst
  have hrunning := (hsound first hmem).before
  obtain ⟨phase, hphase, -⟩ := hrunning.position
  obtain ⟨starts, h⟩ := stay_spec (fun b hb => (hsound b hb).genuine) hchain hstay
    (fun b hb => by rw [Option.some.inj (hb.symm.trans hfirst)]) hphase
    (show first.before.pos.Valid render phase.events fun _ => 0 by
      rw [hpos]
      exact Position.start_valid _)
  have hsent : (seg ++ [last]).flatMap Burst.frames =
      sent render phase.events starts last.mid.pos := by
    rw [← h.sent, hpos]
    rfl
  -- behind the last event there is nothing to spill
  have hoffset : last.mid.pos.eventCursor = phase.events.length →
      last.mid.pos.eventFrameOffset = 0 := by
    intro hcur
    by_contra hne
    have := (h.valid.spilling (Nat.pos_of_ne_zero hne)).2
    rw [hcur, renderAt, List.getElem?_eq_none (Nat.le_refl _)] at this
    exact absurd this (Nat.not_lt_zero _)
  have hmidBursts : last.mid.burstsInPhase = seg.length + 1 := by
    have := congrArg ScenarioEngine.burstsInPhase h.mid
    rw [hbursts, List.length_append] at this
    simpa using this
  have hmidIdx : last.mid.phaseIdx = last.before.phaseIdx := by
    rw [h.phaseIdx last (List.mem_append_right _ (List.mem_singleton.mpr rfl)), h.mid]
  -- the phase is over when its events are sent and its dwell has passed
  have hdone : last.mid.Done phase ↔ last.mid.pos.eventCursor = phase.events.length ∧
      max phase.dwellRuns 1 ≤ seg.length + 1 := by
    unfold ScenarioEngine.Done
    rw [hmidBursts]
    constructor
    · rintro ⟨hcur, -, hdwell⟩
      exact ⟨Nat.le_antisymm h.valid.cursor_le hcur, hdwell⟩
    · rintro ⟨hcur, hdwell⟩
      exact ⟨hcur.ge, hoffset hcur, hdwell⟩
  have hsettled := h.genuine.settled
  have hadvanced : last.Advanced ↔ last.mid.Done phase := by
    unfold Burst.Advanced
    rw [hsettled, ScenarioEngine.settle]
    split
    · next hd => exact ⟨fun _ => hd, fun _ => rfl⟩
    · next hd =>
      rw [hmidBursts]
      exact ⟨fun hz => absurd hz (Nat.succ_ne_zero _), fun hd' => absurd hd' hd⟩
  refine ⟨phase, starts, ?_, h.valid.cursor_le, hsent, ?_, ?_, hadvanced.trans hdone, ?_, ?_⟩
  · intro b hb
    rw [h.phaseIdx b hb, ← hrunning.samePlaybook]
    exact hphase
  · intro hcur
    rw [hsent, sent, hoffset hcur, hcur, List.take_zero, List.append_nil]
  · intro i hi
    rcases h.nonces i hi with ⟨hold, -⟩ | hnew
    · rw [hpos] at hold
      unfold Started Position.start at hold
      dsimp only at hold
      omega
    · exact hnew
  · intro hadv
    rw [hsettled, ScenarioEngine.settle, if_pos (hadvanced.mp hadv)]
    refine ⟨⟨rfl, rfl⟩, ?_⟩
    show nextPhase last.mid.playbook last.mid.campaign last.mid.phaseIdx = _
    have hplaybook : last.mid.playbook = playbook := by
      rw [h.mid]
      exact hrunning.samePlaybook
    have hcampaign : last.mid.campaign = campaign := by
      rw [h.mid]
      exact hrunning.sameCampaign
    rw [hplaybook, hcampaign, hmidIdx]
  · intro hadv
    have hafter := h.genuine.after_eq hadv
    exact ⟨hafter, by rw [hafter, hmidIdx]⟩

/-- What a run of `phase_frames` from load promises. -/
structure RunCorrect (render : Event → UInt64 → List Frame) (playbook : Playbook Event)
    (campaign : Campaign) (cap : Nat) (nonces : List UInt64) (log : List (Burst Event Frame)) :
    Prop where
  sameNonces : log.map Burst.nonce = nonces
  calls : ∀ b ∈ log, b.before.phaseFrames render b.nonce = some (b.frames, b.after)
  first : ∀ b ∈ log.head?, b.before = ScenarioEngine.load playbook campaign cap
  chain : log.IsChain fun b b' => b'.before = b.after
  length_le : ∀ b ∈ log, b.frames.length ≤ max cap 1
  phaseIdx_lt : ∀ b ∈ log, b.before.phaseIdx < playbook.phases.length ∧
    b.after.phaseIdx < playbook.phases.length
  stays : ∀ pre seg last post, log = pre ++ (seg ++ [last]) ++ post →
    (∀ b ∈ (seg ++ [last]).head?, b.before.AtEntry) → (∀ b ∈ seg, ¬ b.Advanced) →
    ∃ phase starts, StayCorrect render playbook campaign seg last phase starts

/-- **The scenario timeline.** From load, for every playbook, frame cap, campaign and
sequence of nonces: no index or slice is out of range, every burst is within the cap,
each stay in a phase sends its events exactly, and the phases follow one another. -/
theorem timeline_spec (render : Event → UInt64 → List Frame) (playbook : Playbook Event)
    (campaign : Campaign) (cap : Nat) (nonces : List UInt64) :
    ∃ log, timeline render (ScenarioEngine.load playbook campaign cap) nonces = some log ∧
      RunCorrect render playbook campaign cap nonces log := by
  obtain ⟨log, hlog, hnonces, hsound, hchain, hhead⟩ :=
    timeline_total
      (show Running render playbook campaign _ _ from running_load playbook campaign cap) nonces
  refine ⟨log, hlog, hnonces, fun b hb => ?_, hhead, hchain, fun b hb => (hsound b hb).length_le,
    fun b hb => ⟨(hsound b hb).before.phaseIdx_lt, (hsound b hb).after.phaseIdx_lt⟩, ?_⟩
  · obtain ⟨phase, hgen⟩ := (hsound b hb).genuine
    rw [ScenarioEngine.phaseFrames, hgen.current]
    dsimp only
    rw [hgen.emitted, hgen.settled]
    rfl
  · rintro pre seg last post rfl hentry hstay
    have hsub : ∀ b ∈ seg ++ [last], b ∈ pre ++ (seg ++ [last]) ++ post :=
      fun b hb => List.mem_append_left _ (List.mem_append_right _ hb)
    exact stayCorrect (fun b hb => hsound b (hsub b hb))
      (List.isChain_append.mp (List.isChain_append.mp hchain).1).2.1 hentry hstay

end Run

end TurboLaser.Scenario
