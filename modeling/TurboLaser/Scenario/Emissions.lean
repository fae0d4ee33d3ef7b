import Mathlib.Algebra.Order.BigOperators.Group.List
import Mathlib.Algebra.Order.Group.Nat
import Mathlib.Algebra.Ring.Nat
import TurboLaser.Scenario.Spill

/-!
# The emissions of a run

An emission is one event started in one burst; it is rendered under the nonce of that burst plus its
index, and its frames go out in that burst and the ones after it. The log of a run determines its
emissions, and they determine what the run sends.

The scenario engine hands out at most so many frames a burst, and keeps the rest of an event for the
next one. So a burst has three parts: what was pending, the events it starts, and what of the last
of them is left over. Emissions undo that cutting: over a run they are a list of events, each with a
nonce, and what the run has sent is their frames, up to what is still pending.

- `Burst.Genuine.emits`: what one burst sends, and what it leaves pending;
- `timeline_sends`: **a run from load sends its emissions in order, each rendered whole, but for
  what its last event still has pending**;
- `cursor_lt_of_mem_emissions`: an emission is not the first of its stay unless its index is zero,
  so indices stay below the number of emissions.
-/

namespace TurboLaser.Scenario

section

variable {Event Frame : Type}

/-- One event started in one burst of a run, and the nonce it is rendered under. -/
structure Emission (Event : Type) where
  burst : Nat
  cursor : Nat
  event : Event
  nonce : UInt64
deriving DecidableEq

/-- How many events of the phase are started. -/
def Position.startedCount (pos : Position) : Nat :=
  if pos.eventFrameOffset = 0 then pos.eventCursor else pos.eventCursor + 1

/-- The emissions of burst number `k`: the events it starts. -/
def Burst.emissions (b : Burst Event Frame) (k : Nat) : List (Emission Event) :=
  match b.before.currentPhase with
  | none => []
  | some phase =>
    (List.range' b.before.pos.startedCount
        (b.mid.pos.startedCount - b.before.pos.startedCount)).flatMap fun i =>
      ((phase.events[i]?).map fun ev => ⟨k, i, ev, b.nonce + UInt64.ofNat i⟩).toList

/-- The emissions of a log whose first burst is number `k`. -/
def emissionsFrom : Nat → List (Burst Event Frame) → List (Emission Event)
  | _, [] => []
  | k, b :: log => b.emissions k ++ emissionsFrom (k + 1) log

/-- The emissions of a run. -/
def emissions (log : List (Burst Event Frame)) : List (Emission Event) := emissionsFrom 0 log

/-- The events the timeline goes through in one pass. -/
def Playbook.eventCount (playbook : Playbook Event) : Nat :=
  (playbook.phases.map fun p => p.events.length).sum

theorem started_iff {pos : Position} {i : Nat} : Started pos i ↔ i < pos.startedCount := by
  unfold Started Position.startedCount
  split
  · omega
  · omega

theorem startedCount_mono {pos pos' : Position} (h : ∀ i, Started pos i → Started pos' i) :
    pos.startedCount ≤ pos'.startedCount := by
  by_contra hlt
  have hlast := h pos'.startedCount (started_iff.mpr (by omega))
  rw [started_iff] at hlast
  omega

/-- An event is among the emissions of a burst exactly when the burst starts it. -/
theorem mem_emissions {b : Burst Event Frame} {k : Nat} {phase : Phase Event}
    (hphase : b.before.currentPhase = some phase) {e : Emission Event} :
    e ∈ b.emissions k ↔ b.Starts e.cursor ∧ phase.events[e.cursor]? = some e.event ∧
      e.burst = k ∧ e.nonce = b.nonce + UInt64.ofNat e.cursor := by
  unfold Burst.emissions Burst.Starts
  rw [hphase]
  simp only [List.mem_flatMap, List.mem_range'_1, Option.mem_toList,
    Option.map_eq_some_iff, started_iff]
  constructor
  · rintro ⟨i, hi, ev, hev, rfl⟩
    exact ⟨by dsimp only; omega, hev, rfl, rfl⟩
  · rintro ⟨hs, hev, rfl, hnonce⟩
    exact ⟨e.cursor, by omega, e.event, hev, by rw [← hnonce]⟩

/-- The frames of a spilling event that are still to be sent. -/
def pending (render : Event → UInt64 → List Frame) (events : List Event)
    (starts : Nat → UInt64) (pos : Position) : List Frame :=
  if pos.eventFrameOffset = 0 then []
  else (renderAt render events starts pos.eventCursor).drop pos.eventFrameOffset

end

section

variable {Event Frame : Type} {render : Event → UInt64 → List Frame} {events : List Event}
  {starts : Nat → UInt64}

/-- Sent and pending together are the started events, rendered whole. -/
theorem sent_append_pending (pos : Position) :
    sent render events starts pos ++ pending render events starts pos =
      rendered render events starts pos.startedCount := by
  unfold sent pending Position.startedCount
  split
  · next hz => rw [hz, List.take_zero, List.append_nil, List.append_nil]
  · rw [List.append_assoc, List.take_append_drop, rendered_succ]

/-- The events behind the first `c`, up to `c + n`. -/
theorem rendered_add (render : Event → UInt64 → List Frame) (events : List Event)
    (starts : Nat → UInt64) (c n : Nat) :
    rendered render events starts (c + n) =
      rendered render events starts c ++
        (List.range' c n).flatMap (renderAt render events starts) := by
  unfold rendered
  rw [List.range_eq_range', List.range_eq_range', ← List.flatMap_append]
  congr 1
  rw [← List.range'_append_1, Nat.zero_add]

/-- A started event is an event of the phase. -/
theorem Position.Valid.startedCount_le {pos : Position}
    (h : pos.Valid render events starts) : pos.startedCount ≤ events.length := by
  unfold Position.startedCount
  split
  · exact h.cursor_le
  · next hne =>
    have hlt := (h.spilling (Nat.pos_of_ne_zero hne)).2
    by_contra hgt
    have hnone : events[pos.eventCursor]? = none := List.getElem?_eq_none (by omega)
    rw [renderAt, hnone] at hlt
    exact absurd hlt (Nat.not_lt_zero _)

/-- The emissions of a burst, rendered: its events under the nonces they start with. -/
theorem flatMap_emissions (render : Event → UInt64 → List Frame) (starts : Nat → UInt64)
    {b : Burst Event Frame} (k : Nat) {phase : Phase Event}
    (hphase : b.before.currentPhase = some phase)
    (hstart : ∀ i, b.Starts i → starts i = b.nonce + UInt64.ofNat i) :
    (b.emissions k).flatMap (fun e => render e.event e.nonce) =
      (List.range' b.before.pos.startedCount
        (b.mid.pos.startedCount - b.before.pos.startedCount)).flatMap
          (renderAt render phase.events starts) := by
  unfold Burst.emissions
  rw [hphase]
  dsimp only
  rw [List.flatMap_assoc]
  refine List.flatMap_congr fun i hi => ?_
  have hi' : b.Starts i := by
    unfold Burst.Starts
    rw [started_iff, started_iff]
    have := List.mem_range'_1.mp hi
    omega
  unfold renderAt
  cases phase.events[i]? with
  | none => rfl
  | some ev =>
    rw [hstart i hi']
    simp

/-- A burst starts a run of events, without gaps. -/
theorem length_emissions {b : Burst Event Frame} (k : Nat) {phase : Phase Event}
    (hphase : b.before.currentPhase = some phase)
    (hle : b.mid.pos.startedCount ≤ phase.events.length) :
    (b.emissions k).length = b.mid.pos.startedCount - b.before.pos.startedCount := by
  unfold Burst.emissions
  rw [hphase]
  dsimp only
  generalize hstart : b.before.pos.startedCount = start
  generalize hcount : b.mid.pos.startedCount - start = count
  have hfits : start + count ≤ phase.events.length ∨ count = 0 := by omega
  clear hstart hcount
  induction count generalizing start with
  | zero => rfl
  | succ count ih =>
    have hlt : start < phase.events.length := by omega
    rw [List.range'_succ, List.flatMap_cons, List.length_append, ih _ (by omega),
      List.getElem?_eq_getElem hlt]
    simp only [Option.map_some, Option.toList_some, List.length_singleton]
    omega

/-- **What one burst sends**: the pending frames, then its emissions, but for what stays
pending. -/
theorem Burst.Genuine.emits {b : Burst Event Frame} {phase : Phase Event}
    (h : b.Genuine render phase) (hvalid : b.before.pos.Valid render phase.events starts)
    (k : Nat) :
    ∃ starts', b.mid.pos.Valid render phase.events starts' ∧
      b.before.pos.startedCount ≤ b.mid.pos.startedCount ∧
      b.frames ++ pending render phase.events starts' b.mid.pos =
        pending render phase.events starts b.before.pos ++
          (b.emissions k).flatMap fun e => render e.event e.nonce := by
  obtain ⟨-, -, hvalid', -, hmono, hsent⟩ := h.step h.current hvalid
  set starts' := startsFrom b.before.pos starts b.nonce with hstarts'
  have hcount : b.before.pos.startedCount ≤ b.mid.pos.startedCount := startedCount_mono hmono
  refine ⟨starts', hvalid', hcount, ?_⟩
  have hkeep : rendered render phase.events starts b.before.pos.startedCount =
      rendered render phase.events starts' b.before.pos.startedCount := by
    unfold rendered renderAt
    refine List.flatMap_congr fun i hi => ?_
    have hi' : starts' i = starts i := if_pos (started_iff.mpr (List.mem_range.mp hi))
    rw [hi']
  have hnew := flatMap_emissions render starts' k h.current
    fun i hi => if_neg hi.1
  have hall := rendered_add render phase.events starts' b.before.pos.startedCount
    (b.mid.pos.startedCount - b.before.pos.startedCount)
  rw [Nat.add_sub_cancel' hcount, ← hnew, ← hkeep, ← sent_append_pending,
    ← sent_append_pending, ← hsent, List.append_assoc, List.append_assoc] at hall
  exact List.append_cancel_left hall

end

/-! ## Runs

A run sends emissions one after another, and a burst may end in the middle of one. So what the first
bursts have sent is a beginning of the emissions' frames, and the rest of the event that was begun
is pending. The induction is over the bursts, and it starts from any valid position, as the rest of
a run does.
-/

section

variable {Event Frame : Type} {render : Event → UInt64 → List Frame} {playbook : Playbook Event}
  {campaign : Campaign} {cap : Nat}

/-- The first burst of a run, and the run behind it. -/
theorem timeline_cons {eng : ScenarioEngine Event} {nonce : UInt64} {nonces : List UInt64}
    {log : List (Burst Event Frame)} (h : timeline render eng (nonce :: nonces) = some log) :
    ∃ b phase log', log = b :: log' ∧ b.before = eng ∧ b.nonce = nonce ∧ b.Genuine render phase ∧
      timeline render b.after nonces = some log' := by
  rw [timeline] at h
  split at h
  · cases h
  · next phase hphase =>
    split at h
    · cases h
    · next frames mid hemit =>
      obtain ⟨log', hlog', rfl⟩ := Option.map_eq_some_iff.mp h
      exact ⟨_, phase, log', rfl, rfl, rfl, ⟨hphase, hemit, rfl⟩, hlog'⟩

/-- The phase goes on, or the next one starts: what is pending stays pending. -/
theorem Burst.Genuine.pending_after {b : Burst Event Frame} {phase : Phase Event}
    (h : b.Genuine render phase) {starts : Nat → UInt64}
    (hmid : b.mid = { b.before with pos := b.mid.pos, burstsInPhase := b.mid.burstsInPhase })
    (hvalid : b.mid.pos.Valid render phase.events starts) :
    ∃ phase' starts', b.after.currentPhase = some phase' ∧
      b.after.pos.Valid render phase'.events starts' ∧
      b.after.pos.startedCount ≤ b.mid.pos.startedCount ∧
      pending render phase'.events starts' b.after.pos =
        pending render phase.events starts b.mid.pos := by
  have hphase : b.mid.currentPhase = some phase := by
    rw [hmid]
    exact h.current
  rw [h.settled, ScenarioEngine.settle]
  split
  · next hdone =>
    have hlt : b.mid.phaseIdx < b.mid.playbook.phases.length :=
      (List.getElem?_eq_some_iff.mp hphase).1
    refine ⟨_, starts, List.getElem?_eq_getElem (nextPhase_lt hlt), Position.start_valid starts,
      Nat.zero_le _, ?_⟩
    rw [pending, pending, if_pos hdone.2.1]
    rfl
  · exact ⟨phase, starts, hphase, hvalid, Nat.le_refl _, rfl⟩

/-- One burst of a run, from a valid position to a valid position. -/
theorem Burst.Genuine.next {b : Burst Event Frame} {phase : Phase Event}
    (h : b.Genuine render phase) {starts : Nat → UInt64}
    (hvalid : b.before.pos.Valid render phase.events starts) (k : Nat) :
    ∃ phase' starts', b.after.currentPhase = some phase' ∧
      b.after.pos.Valid render phase'.events starts' ∧
      b.after.pos.startedCount ≤ b.before.pos.startedCount + (b.emissions k).length ∧
      (∀ e ∈ b.emissions k,
        e.cursor < b.before.pos.startedCount + (b.emissions k).length) ∧
      b.frames ++ pending render phase'.events starts' b.after.pos =
        pending render phase.events starts b.before.pos ++
          (b.emissions k).flatMap fun e => render e.event e.nonce := by
  obtain ⟨-, hmid, -⟩ := h.step h.current hvalid
  obtain ⟨startsMid, hvalidMid, hcount, hframes⟩ := h.emits hvalid k
  obtain ⟨phase', starts', hphase', hvalid', hle, hpending⟩ :=
    h.pending_after (by rw [hmid]) hvalidMid
  have hlength := length_emissions k h.current hvalidMid.startedCount_le
  refine ⟨phase', starts', hphase', hvalid', by omega, fun e he => ?_, ?_⟩
  · have hstarts := ((mem_emissions h.current).mp he).1.2
    rw [started_iff] at hstarts
    omega
  · rw [hpending, hframes]

/-- What a run sends from a valid position on: the pending frames and its emissions. -/
theorem timeline_sends_from {eng : ScenarioEngine Event} {phase : Phase Event}
    {starts : Nat → UInt64} (hphase : eng.currentPhase = some phase)
    (hvalid : eng.pos.Valid render phase.events starts) {nonces : List UInt64}
    {log : List (Burst Event Frame)} (h : timeline render eng nonces = some log) (k : Nat) :
    (∃ rest, log.flatMap Burst.frames ++ rest = pending render phase.events starts eng.pos ++
      (emissionsFrom k log).flatMap fun e => render e.event e.nonce) ∧
    ∀ e ∈ emissionsFrom k log,
      e.cursor < eng.pos.startedCount + (emissionsFrom k log).length := by
  induction nonces generalizing eng phase starts log k with
  | nil =>
    cases h
    exact ⟨⟨_, rfl⟩, fun e he => absurd he List.not_mem_nil⟩
  | cons nonce nonces ih =>
    obtain ⟨b, phase₀, log', rfl, rfl, -, hgen, hlog'⟩ := timeline_cons h
    obtain rfl : phase₀ = phase := Option.some.inj (hgen.current.symm.trans hphase)
    obtain ⟨phase', starts', hphase', hvalid', hcount, hcursor, hframes⟩ := hgen.next hvalid k
    obtain ⟨⟨rest, hrest⟩, hrun⟩ := ih hphase' hvalid' hlog' (k + 1)
    refine ⟨⟨rest, ?_⟩, fun e he => ?_⟩
    · rw [List.flatMap_cons, List.append_assoc, hrest, emissionsFrom, List.flatMap_append,
        ← List.append_assoc, hframes, List.append_assoc]
    · rw [emissionsFrom, List.length_append]
      rcases List.mem_append.mp he with he | he
      · have := hcursor e he
        omega
      · have := hrun e he
        omega

/-- The position a run starts from. -/
theorem load_position (render : Event → UInt64 → List Frame) (playbook : Playbook Event)
    (campaign : Campaign) (cap : Nat) :
    ∃ phase, (ScenarioEngine.load playbook campaign cap).currentPhase = some phase ∧
      ∃ starts, (ScenarioEngine.load playbook campaign cap).pos.Valid render phase.events starts :=
  (show Running render playbook campaign _ _ from running_load playbook campaign cap).position

/-- Where an emission comes from: its burst, the nonce of that burst, and an event of
the playbook. -/
theorem source_of_mem_emissionsFrom {eng : ScenarioEngine Event} {phase : Phase Event}
    {starts : Nat → UInt64} (hphase : eng.currentPhase = some phase)
    (hvalid : eng.pos.Valid render phase.events starts) {nonces : List UInt64}
    {log : List (Burst Event Frame)} (h : timeline render eng nonces = some log) {k : Nat}
    {e : Emission Event} (he : e ∈ emissionsFrom k log) :
    ∃ j nonce, nonces[j]? = some nonce ∧ e.burst = k + j ∧
      e.nonce = nonce + UInt64.ofNat e.cursor ∧
      ∃ p ∈ eng.playbook.phases, p.events[e.cursor]? = some e.event := by
  induction nonces generalizing eng phase starts log k with
  | nil =>
    cases h
    exact absurd he List.not_mem_nil
  | cons nonce nonces ih =>
    obtain ⟨b, phase₀, log', rfl, rfl, hnonce, hgen, hlog'⟩ := timeline_cons h
    obtain rfl : phase₀ = phase := Option.some.inj (hgen.current.symm.trans hphase)
    obtain ⟨-, hmid, -⟩ := hgen.step hgen.current hvalid
    obtain ⟨phase', starts', hphase', hvalid', -⟩ := hgen.next hvalid k
    rcases List.mem_append.mp he with he | he
    · obtain ⟨-, hev, hburst, hen⟩ := (mem_emissions hgen.current).mp he
      exact ⟨0, nonce, rfl, hburst, by rw [hen, hnonce], phase₀,
        List.mem_of_getElem? hgen.current, hev⟩
    · obtain ⟨j, m, hm, hburst, hen, p, hp, hev⟩ := ih hphase' hvalid' hlog' he
      refine ⟨j + 1, m, hm, by omega, hen, p, ?_, hev⟩
      rw [hgen.settled, ScenarioEngine.settle, hmid] at hp
      split at hp
      · exact hp
      · exact hp

/-- Where an emission of a run from load comes from. -/
theorem source_of_mem_emissions {nonces : List UInt64} {log : List (Burst Event Frame)}
    (h : timeline render (ScenarioEngine.load playbook campaign cap) nonces = some log)
    {e : Emission Event} (he : e ∈ emissions log) :
    ∃ nonce, nonces[e.burst]? = some nonce ∧ e.nonce = nonce + UInt64.ofNat e.cursor ∧
      e.cursor < playbook.eventCount := by
  obtain ⟨phase, hphase, starts, hvalid⟩ := load_position render playbook campaign cap
  obtain ⟨j, nonce, hnonce, hburst, hen, p, hp, hev⟩ :=
    source_of_mem_emissionsFrom hphase hvalid h he
  refine ⟨nonce, by rw [hburst, Nat.zero_add]; exact hnonce, hen, ?_⟩
  calc e.cursor < p.events.length := (List.getElem?_eq_some_iff.mp hev).1
    _ ≤ playbook.eventCount :=
      List.single_le_sum (fun _ _ => Nat.zero_le _) _ (List.mem_map_of_mem hp)

/-- **What a run sends.** From load, the frames of all bursts are the emissions of the
run in order, each rendered under its nonce, up to frames its last event has pending. -/
theorem timeline_sends {nonces : List UInt64} {log : List (Burst Event Frame)}
    (h : timeline render (ScenarioEngine.load playbook campaign cap) nonces = some log) :
    ∃ rest, log.flatMap Burst.frames ++ rest =
      (emissions log).flatMap fun e => render e.event e.nonce := by
  obtain ⟨phase, hphase, starts, hvalid⟩ := load_position render playbook campaign cap
  exact (timeline_sends_from hphase hvalid h 0).1

/-- The index of an emission stays below the number of emissions so far. -/
theorem cursor_lt_of_mem_emissions {nonces : List UInt64} {log : List (Burst Event Frame)}
    (h : timeline render (ScenarioEngine.load playbook campaign cap) nonces = some log)
    {e : Emission Event} (he : e ∈ emissions log) : e.cursor < (emissions log).length := by
  obtain ⟨phase, hphase, starts, hvalid⟩ := load_position render playbook campaign cap
  have hlt := (timeline_sends_from hphase hvalid h 0).2 e he
  rwa [show (ScenarioEngine.load playbook campaign cap).pos.startedCount = 0 from rfl,
    Nat.zero_add] at hlt

end

end TurboLaser.Scenario
