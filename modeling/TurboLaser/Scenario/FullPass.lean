import TurboLaser.Scenario.Emissions

/-!
# One pass of the timeline

A pass ends with the burst that ends the last phase, whatever the campaign does after it: it may
begin again, or hold. Within a pass every phase is entered once, and left when its dwell is over and
its events are sent.

What makes this a theorem is the spill. A phase whose dwell is over is held as long as an event of
it has frames pending, and an event may take any number of bursts; phases may be empty of events,
and a dwell may be shorter than the phase has events. So the length of a pass is not known
beforehand, and that it ends is proved by a measure that every burst decreases
(`ScenarioEngine.left`): phases that are left, then bursts of the present one, then frames that are
pending.

- `FullPass.sends`: **a pass sends every event of every phase once, whole and in order**;
- `exists_fullPass`: **every run comes to the end of its first pass**, however long the events and
  the dwell are.
-/

namespace TurboLaser.Scenario

section

variable {Event Frame : Type} {render : Event → UInt64 → List Frame}

/-- The burst ends the last phase of its playbook. -/
def Burst.EndsPass (b : Burst Event Frame) : Prop :=
  b.Advanced ∧ b.before.phaseIdx + 1 = b.before.playbook.phases.length

/-- The log of one pass: its last burst ends the last phase, and no earlier one does. -/
inductive FullPass : List (Burst Event Frame) → Prop where
  | last (b : Burst Event Frame) (h : b.EndsPass) : FullPass [b]
  | step (b : Burst Event Frame) (log : List (Burst Event Frame)) (h : ¬ b.EndsPass)
      (hlog : FullPass log) : FullPass (b :: log)

/-- The events of a phase, rendered whole and in order under some nonces. -/
def Drains (render : Event → UInt64 → List Frame) (phase : Phase Event) (frames : List Frame) :
    Prop :=
  ∃ starts : Nat → UInt64, frames = rendered render phase.events starts phase.events.length

/-- A burst ends the phase exactly when the phase is over. -/
theorem Burst.Genuine.advanced_iff {b : Burst Event Frame} {phase : Phase Event}
    (h : b.Genuine render phase) {starts : Nat → UInt64}
    (hvalid : b.before.pos.Valid render phase.events starts) :
    b.Advanced ↔ b.mid.Done phase := by
  obtain ⟨-, hmid, -⟩ := h.step h.current hvalid
  have hbursts : b.mid.burstsInPhase = b.before.burstsInPhase + 1 := by rw [hmid]
  unfold Burst.Advanced
  rw [h.settled, ScenarioEngine.settle]
  split
  · next hdone => exact ⟨fun _ => hdone, fun _ => rfl⟩
  · next hdone =>
    rw [hbursts]
    exact ⟨fun hz => absurd hz (Nat.succ_ne_zero _), fun hd => absurd hd hdone⟩

/-- Behind a phase that is not the last one starts the next. -/
theorem Burst.Genuine.after_of_advanced {b : Burst Event Frame} {phase : Phase Event}
    (h : b.Genuine render phase) {starts : Nat → UInt64}
    (hvalid : b.before.pos.Valid render phase.events starts) (hadv : b.Advanced)
    (hends : ¬ b.EndsPass) :
    b.before.phaseIdx + 1 < b.before.playbook.phases.length ∧
      b.after = { b.before with
        phaseIdx := b.before.phaseIdx + 1, pos := .start, burstsInPhase := 0 } := by
  obtain ⟨-, hmid, -⟩ := h.step h.current hvalid
  have hlt : b.before.phaseIdx < b.before.playbook.phases.length :=
    (List.getElem?_eq_some_iff.mp h.current).1
  have hne : b.before.phaseIdx + 1 ≠ b.before.playbook.phases.length :=
    fun heq => hends ⟨hadv, heq⟩
  refine ⟨by omega, ?_⟩
  rw [h.settled, ScenarioEngine.settle, if_pos ((h.advanced_iff hvalid).mp hadv), hmid,
    ScenarioEngine.advance, nextPhase, if_pos (by dsimp only; omega)]

/-- A phase that is over has sent all its events whole. -/
theorem drains_of_done {eng : ScenarioEngine Event} {phase : Phase Event}
    {starts : Nat → UInt64} (hvalid : eng.pos.Valid render phase.events starts)
    (hdone : eng.Done phase) : Drains render phase (sent render phase.events starts eng.pos) := by
  obtain ⟨hcursor, hoffset, -⟩ := hdone
  refine ⟨starts, ?_⟩
  rw [sent, hoffset, List.take_zero, List.append_nil, Nat.le_antisymm hvalid.cursor_le hcursor]

/-- The first burst of a log, and the run behind it. -/
theorem timeline_eq_cons {eng : ScenarioEngine Event} {phase : Phase Event}
    (hphase : eng.currentPhase = some phase) {nonces : List UInt64} {b : Burst Event Frame}
    {log : List (Burst Event Frame)} (hrun : timeline render eng nonces = some (b :: log)) :
    b.before = eng ∧ b.Genuine render phase ∧
      ∃ nonces', timeline render b.after nonces' = some log := by
  cases nonces with
  | nil => cases hrun
  | cons nonce nonces =>
    obtain ⟨b', phase', log', heq, hbefore, -, hgen, hlog⟩ := timeline_cons hrun
    obtain ⟨rfl, rfl⟩ := List.cons.inj heq
    subst hbefore
    obtain rfl : phase' = phase := Option.some.inj (hgen.current.symm.trans hphase)
    exact ⟨rfl, hgen, nonces, hlog⟩

/-- What the rest of a pass sends: the rest of the current phase, and the later phases. -/
theorem FullPass.sends_from {log : List (Burst Event Frame)} (hpass : FullPass log)
    {eng : ScenarioEngine Event} {phase : Phase Event} {starts : Nat → UInt64}
    (hphase : eng.currentPhase = some phase) (hvalid : eng.pos.Valid render phase.events starts)
    {nonces : List UInt64} (hrun : timeline render eng nonces = some log) :
    ∃ whole rest, Drains render phase whole ∧
      List.Forall₂ (Drains render) (eng.playbook.phases.drop (eng.phaseIdx + 1)) rest ∧
      sent render phase.events starts eng.pos ++ log.flatMap Burst.frames =
        whole ++ rest.flatten := by
  induction hpass generalizing eng phase starts nonces with
  | last b hends =>
    obtain ⟨rfl, hgen, -⟩ := timeline_eq_cons hphase hrun
    obtain ⟨-, -, hvalid', -, -, hsent⟩ := hgen.step hphase hvalid
    refine ⟨_, [], drains_of_done hvalid' ((hgen.advanced_iff hvalid).mp hends.1), ?_, ?_⟩
    · rw [hends.2, List.drop_length]
      exact .nil
    · rw [List.flatMap_singleton, hsent, List.flatten_nil, List.append_nil]
  | step b log hends _ ih =>
    obtain ⟨rfl, hgen, nonces', hlog⟩ := timeline_eq_cons hphase hrun
    obtain ⟨-, hmid, hvalid', -, -, hsent⟩ := hgen.step hphase hvalid
    rw [List.flatMap_cons, ← List.append_assoc, hsent]
    by_cases hadv : b.Advanced
    · -- the phase is over and is not the last one, so the next one starts
      have hdone := (hgen.advanced_iff hvalid).mp hadv
      obtain ⟨hnext, hafter⟩ := hgen.after_of_advanced hvalid hadv hends
      have hcurrent : b.after.currentPhase =
          some b.before.playbook.phases[b.before.phaseIdx + 1] := by
        rw [hafter]
        exact List.getElem?_eq_getElem hnext
      have hstart : b.after.pos.Valid render
          b.before.playbook.phases[b.before.phaseIdx + 1].events fun _ => 0 := by
        rw [hafter]
        exact Position.start_valid _
      obtain ⟨whole, rest, hwhole, hrest, hsends⟩ := ih hcurrent hstart hlog
      rw [hafter] at hrest hsends
      refine ⟨_, whole :: rest, drains_of_done hvalid' hdone, ?_, ?_⟩
      · rw [List.drop_eq_getElem_cons hnext]
        exact .cons hwhole hrest
      · rw [List.flatten_cons, ← hsends]
        rfl
    · have hafter : b.after = b.mid := hgen.after_eq hadv
      have hcurrent : b.after.currentPhase = some phase := by
        rw [hafter, hmid]
        exact hphase
      -- the phase goes on from where the burst stopped
      obtain ⟨whole, rest, hwhole, hrest, hsends⟩ := ih hcurrent (hafter ▸ hvalid') hlog
      rw [hafter] at hsends hrest
      refine ⟨whole, rest, hwhole, ?_, hsends⟩
      rw [hmid] at hrest
      exact hrest

/-- Drained phases, with the nonces of each chosen at once. -/
theorem exists_starts {phases : List (Phase Event)} {parts : List (List Frame)}
    (h : List.Forall₂ (Drains render) phases parts) (k : Nat) :
    ∃ starts : Nat → Nat → UInt64, parts.flatten = (phases.zipIdx k).flatMap fun x =>
      rendered render x.1.events (starts x.2) x.1.events.length := by
  induction h generalizing k with
  | nil => exact ⟨fun _ _ => 0, rfl⟩
  | @cons phase part phases parts hpart _ ih =>
    obtain ⟨first, rfl⟩ := hpart
    obtain ⟨starts, hrest⟩ := ih (k + 1)
    refine ⟨fun p => if p = k then first else starts p, ?_⟩
    rw [List.flatten_cons, hrest, List.zipIdx_cons, List.flatMap_cons]
    dsimp only
    rw [if_pos rfl]
    congr 1
    refine List.flatMap_congr fun x hx => ?_
    have hlt := List.le_snd_of_mem_zipIdx hx
    rw [if_neg (by omega)]

/-- **What a pass sends.** From load, the frames of one pass are the phases in order, each
with its events rendered whole and in order. -/
theorem FullPass.sends {playbook : Playbook Event} {campaign : Campaign} {cap : Nat}
    {nonces : List UInt64} {log : List (Burst Event Frame)} (hpass : FullPass log)
    (hrun : timeline render (ScenarioEngine.load playbook campaign cap) nonces = some log) :
    ∃ starts : Nat → Nat → UInt64, log.flatMap Burst.frames =
      playbook.phases.zipIdx.flatMap fun x =>
        rendered render x.1.events (starts x.2) x.1.events.length := by
  have hlt : 0 < playbook.phases.length := List.length_pos_iff.mpr playbook.nonempty
  have hphase : (ScenarioEngine.load playbook campaign cap).currentPhase =
      some playbook.phases[0] := List.getElem?_eq_getElem hlt
  obtain ⟨whole, rest, hwhole, hrest, hsends⟩ :=
    hpass.sends_from hphase (Position.start_valid fun _ => 0) hrun
  have hparts : List.Forall₂ (Drains render) playbook.phases (whole :: rest) := by
    rw [show playbook.phases = playbook.phases[0] :: playbook.phases.drop 1 from
      (List.cons_getElem_drop_succ (h := hlt)).symm]
    exact .cons hwhole hrest
  obtain ⟨starts, hstarts⟩ := exists_starts hparts 0
  refine ⟨starts, ?_⟩
  rw [← hstarts, List.flatten_cons, ← hsends]
  rfl

/-! ## Every run ends its first pass

The measure of a pass counts phases, events, frames of a spilling event and bursts of dwell, in this
order. A burst may start events without ending them, or only wait; each of these takes something
from the measure. So a pass ends after finitely many bursts, whatever nonces and clocks the run is
given.
-/

/-- The emission loop never goes back. -/
theorem emit_cursor_le {events : List Event} {cap fuel : Nat} {nonce : UInt64}
    {pos pos' : Position} {frames out : List Frame}
    (h : emit render events cap nonce fuel pos frames = some (out, pos')) :
    pos.eventCursor ≤ pos'.eventCursor := by
  induction fuel generalizing pos frames with
  | zero =>
    obtain ⟨-, rfl⟩ := Prod.mk.inj (Option.some.inj h)
    exact Nat.le_refl _
  | succ fuel ih =>
    rw [emit] at h
    split at h
    · dsimp only at h
      split at h
      · obtain ⟨-, rfl⟩ := Prod.mk.inj (Option.some.inj h)
        exact Nat.le_refl _
      · split at h
        · cases h
        · split at h
          · cases h
          · split at h
            · exact (Nat.le_succ _).trans (ih h)
            · obtain ⟨-, rfl⟩ := Prod.mk.inj (Option.some.inj h)
              exact Nat.le_refl _
    · obtain ⟨-, rfl⟩ := Prod.mk.inj (Option.some.inj h)
      exact Nat.le_refl _

/-- **A burst that has an event to send and room to send it gets on**: it drains the event at
the cursor, or sends more of it under the nonce it is pinned to. -/
theorem emit_progress {events : List Event} {cap fuel : Nat} {nonce : UInt64}
    {pos pos' : Position} {frames out : List Frame} (hlt : pos.eventCursor < events.length)
    (hroom : frames.length < cap)
    (h : emit render events cap nonce (fuel + 1) pos frames = some (out, pos')) :
    pos.eventCursor < pos'.eventCursor ∨
      pos'.eventCursor = pos.eventCursor ∧ pos.eventFrameOffset < pos'.eventFrameOffset ∧
        pos'.spillNonce = some (pos.spillNonce.getD (nonce + UInt64.ofNat pos.eventCursor)) := by
  rw [emit, if_pos hlt] at h
  dsimp only at h
  rw [if_neg (by omega)] at h
  split at h
  · cases h
  · split at h
    · cases h
    · split at h
      · exact .inl (emit_cursor_le h)
      · next hdrained =>
        obtain ⟨-, rfl⟩ := Prod.mk.inj (Option.some.inj h)
        refine .inr ⟨rfl, ?_, rfl⟩
        dsimp only
        omega

/-- The emission of a burst. -/
theorem Burst.Genuine.emit_eq {b : Burst Event Frame} {phase : Phase Event}
    (h : b.Genuine render phase) :
    emit render phase.events b.before.maxFramesPerBurst b.nonce
        (phase.events.length - b.before.pos.eventCursor) b.before.pos [] =
      some (b.frames, b.mid.pos) := by
  obtain ⟨out, hemit, hout⟩ := Option.map_eq_some_iff.mp h.emitted
  obtain ⟨hframes, hmid⟩ := Prod.mk.inj hout
  rw [hemit, ← hframes, ← hmid]

/-- How many frames a spilling event has left. -/
def spillLeft (render : Event → UInt64 → List Frame) (events : List Event) (pos : Position) : Nat :=
  match pos.spillNonce, events[pos.eventCursor]? with
  | some nonce, some ev => (render ev nonce).length - pos.eventFrameOffset
  | _, _ => 0

/-- What is left of a pass: phases, events to start or drain, frames of a spilling event, and
bursts of dwell. -/
def ScenarioEngine.left (render : Event → UInt64 → List Frame) (eng : ScenarioEngine Event) :
    Nat × Nat × Nat × Nat :=
  match eng.currentPhase with
  | none => (0, 0, 0, 0)
  | some phase =>
    (eng.playbook.phases.length - eng.phaseIdx,
      (phase.events.length - eng.pos.eventCursor) + (phase.events.length - eng.pos.startedCount),
      spillLeft render phase.events eng.pos, max phase.dwellRuns 1 - eng.burstsInPhase)

/-- **Every burst leaves less of the pass**, unless it ends it. -/
theorem Burst.Genuine.left_lt {b : Burst Event Frame} {phase : Phase Event}
    (h : b.Genuine render phase) {starts : Nat → UInt64}
    (hvalid : b.before.pos.Valid render phase.events starts)
    (hcap : 0 < b.before.maxFramesPerBurst) (hends : ¬ b.EndsPass) :
    Prod.Lex (· < ·) (Prod.Lex (· < ·) (Prod.Lex (· < ·) (· < ·))) (b.after.left render)
      (b.before.left render) := by
  obtain ⟨-, hmid, hvalid', -, hmono, -⟩ := h.step h.current hvalid
  unfold ScenarioEngine.left
  rw [h.current]
  by_cases hadv : b.Advanced
  -- the phase is over: there are fewer phases left, and nothing else counts
  · obtain ⟨hnext, hafter⟩ := h.after_of_advanced hvalid hadv hends
    have hcurrent : b.after.currentPhase =
        some b.before.playbook.phases[b.before.phaseIdx + 1] := by
      rw [hafter]
      exact List.getElem?_eq_getElem hnext
    rw [hcurrent, hafter]
    refine Prod.Lex.left _ _ ?_
    dsimp only
    omega
  · have hafter : b.after = b.mid := h.after_eq hadv
    have hcurrent : b.after.currentPhase = some phase := by
      rw [hafter, hmid]
      exact h.current
    have hsame : b.mid.playbook = b.before.playbook ∧ b.mid.phaseIdx = b.before.phaseIdx := by
      rw [hmid]
      exact ⟨rfl, rfl⟩
    have hbursts : b.mid.burstsInPhase = b.before.burstsInPhase + 1 := by rw [hmid]
    rw [hcurrent, hafter]
    dsimp only
    rw [hsame.1, hsame.2, hbursts]
    refine Prod.Lex.right _ ?_
    have hemit := h.emit_eq
    by_cases hlt : b.before.pos.eventCursor < phase.events.length
    · -- there is an event to send, and room for it
      have hcursor := hvalid'.cursor_le
      have hstarted := hvalid'.startedCount_le
      have hcount := startedCount_mono hmono
      rw [show phase.events.length - b.before.pos.eventCursor =
        (phase.events.length - b.before.pos.eventCursor - 1) + 1 by omega] at hemit
      -- the cursor moves on, or the event at it spills: it has just begun, or has fewer frames left
      rcases emit_progress hlt hcap hemit with hgo | ⟨hkeep, hmore, hpinned⟩
      · exact Prod.Lex.left _ _ (by omega)
      · rcases Nat.eq_zero_or_pos b.before.pos.eventFrameOffset with hz | hpos
        · have hnew : b.before.pos.startedCount < b.mid.pos.startedCount := by
            unfold Position.startedCount
            rw [if_pos hz, if_neg (by omega)]
            omega
          exact Prod.Lex.left _ _ (by omega)
        · obtain ⟨hnonce, hfew⟩ := hvalid.spilling hpos
          have hold : b.mid.pos.startedCount = b.before.pos.startedCount := by
            unfold Position.startedCount
            rw [if_neg (by omega), if_neg (by omega), hkeep]
          rw [hold, hkeep]
          refine Prod.Lex.right _ (Prod.Lex.left _ _ ?_)
          rw [renderAt, List.getElem?_eq_getElem hlt] at hfew
          unfold spillLeft
          rw [hkeep, hpinned, hnonce, List.getElem?_eq_getElem hlt]
          dsimp only [Option.getD_some] at hfew ⊢
          omega
    · -- the phase is drained and its dwell goes on
      rw [show phase.events.length - b.before.pos.eventCursor = 0 by omega, emit] at hemit
      obtain ⟨-, hpos⟩ := Prod.mk.inj (Option.some.inj hemit)
      rw [← hpos]
      refine Prod.Lex.right _ (Prod.Lex.right _ ?_)
      have hoffset : b.before.pos.eventFrameOffset = 0 := by
        by_contra hne
        have hfew := (hvalid.spilling (Nat.pos_of_ne_zero hne)).2
        rw [renderAt, List.getElem?_eq_none (by omega)] at hfew
        exact absurd hfew (Nat.not_lt_zero _)
      have hdwell : ¬ max phase.dwellRuns 1 ≤ b.before.burstsInPhase + 1 := by
        intro hle
        refine hadv ((h.advanced_iff hvalid).mpr ?_)
        unfold ScenarioEngine.Done
        rw [hbursts, ← hpos]
        exact ⟨by omega, hoffset, hle⟩
      omega

/-- A run comes to the end of the pass it is in. -/
theorem exists_fullPass_from {playbook : Playbook Event} {campaign : Campaign} {cap : Nat}
    (hcap : 0 < cap) (eng : ScenarioEngine Event)
    (h : Running render playbook campaign cap eng) (nonces : Nat → UInt64) :
    ∃ n log, timeline render eng ((List.range n).map nonces) = some log ∧ FullPass log := by
  obtain ⟨b, phase, hbefore, hnonce, hgen, -, hafter⟩ := h.burst (nonces 0)
  subst hbefore
  have hrun : ∀ {n : Nat} {log : List (Burst Event Frame)},
      timeline render b.after ((List.range n).map fun i => nonces (i + 1)) = some log →
        timeline render b.before ((List.range (n + 1)).map nonces) = some (b :: log) := by
    intro n log hlog
    rw [List.range_succ_eq_map, List.map_cons, List.map_map, ← hnonce, timeline, hgen.current]
    dsimp only
    rw [hgen.emitted]
    dsimp only
    rw [← hgen.settled, show nonces ∘ Nat.succ = fun i => nonces (i + 1) from rfl, hlog]
    rfl
  by_cases hends : b.EndsPass
  · exact ⟨1, [b], hrun (n := 0) rfl, .last b hends⟩
  · obtain ⟨phase', hphase', starts, hvalid⟩ := h.position
    obtain rfl : phase' = phase := Option.some.inj (hphase'.symm.trans hgen.current)
    have hless := hgen.left_lt hvalid (h.sameCap ▸ hcap) hends
    obtain ⟨n, log, hlog, hpass⟩ :=
      exists_fullPass_from hcap b.after hafter fun i => nonces (i + 1)
    exact ⟨n + 1, b :: log, hrun hlog, .step b log hends hpass⟩
termination_by eng.left render
decreasing_by
  subst hbefore
  exact hless

/-- **Every run comes to the end of its first pass**, whatever nonces it uses. -/
theorem exists_fullPass (render : Event → UInt64 → List Frame) (playbook : Playbook Event)
    (campaign : Campaign) (cap : Nat) (nonces : Nat → UInt64) :
    ∃ n log, timeline render (ScenarioEngine.load playbook campaign cap)
        ((List.range n).map nonces) = some log ∧ FullPass log :=
  exists_fullPass_from (show 0 < max cap 1 by omega) _ (running_load playbook campaign cap) nonces

end

end TurboLaser.Scenario
