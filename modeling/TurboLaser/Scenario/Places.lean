import Mathlib.Data.List.Nodup
import TurboLaser.Scenario.FullPass

/-!
# Which frame is of which event

The playbook is tagged: every event with its place, and every frame with the place of the event it
is rendered from. The timeline looks neither into events nor into frames (`timeline_map`), so a
tagged run is the plain run with its frames labelled.

Two events of a playbook may be equal, and two frames may be; so "the frames of this event" is not a
question about frames. With tags it is one, and the tags are no part of the program: they are put on
by a renderer for the purpose of a proof, and taken off again by a projection. That the projection
of the tagged run is the plain run is naturality of the timeline in events and frames, one lemma for
each of its functions.

- `timeline_placed`: **the plain run is the tagged run without its tags**;
- `FullPass.ofPlace`: **the frames a tagged pass sends for one event** are that event, rendered
  whole under some nonce.
-/

namespace TurboLaser.Scenario

/-! ## Changing events and frames

The timeline counts frames and never looks into them. So it commutes with any change of the events
and any change of the frames that go together, and a run over changed events is the changed run.
Tags on events and frames are the change that is needed below.
-/

section

variable {Event Event' Frame Frame' : Type}

def Phase.map (f : Event → Event') (phase : Phase Event) : Phase Event' :=
  ⟨phase.dwellRuns, phase.events.map f⟩

def Playbook.map (f : Event → Event') (playbook : Playbook Event) : Playbook Event' :=
  ⟨playbook.phases.map (Phase.map f), by simpa using playbook.nonempty⟩

def ScenarioEngine.map (f : Event → Event') (eng : ScenarioEngine Event) : ScenarioEngine Event' :=
  { playbook := eng.playbook.map f, campaign := eng.campaign,
    maxFramesPerBurst := eng.maxFramesPerBurst, phaseIdx := eng.phaseIdx, pos := eng.pos,
    burstsInPhase := eng.burstsInPhase }

def Burst.map (f : Event → Event') (g : Frame → Frame') (b : Burst Event Frame) :
    Burst Event' Frame' :=
  ⟨b.before.map f, b.nonce, b.frames.map g, b.mid.map f, b.after.map f⟩

variable {render : Event → UInt64 → List Frame} {render' : Event' → UInt64 → List Frame'}
  {f : Event → Event'} {g : Frame → Frame'}

theorem sliceFrames_map (frames : List Frame) (a b : Nat) :
    sliceFrames (frames.map g) a b = (sliceFrames frames a b).map (List.map g) := by
  unfold sliceFrames
  rw [List.length_map]
  split
  · rw [Option.map_some, List.map_drop, List.map_take]
  · rfl

/-- The emission loop moves frames about, whatever they are. -/
theorem emit_map (h : ∀ ev nonce, render' (f ev) nonce = (render ev nonce).map g)
    (events : List Event) (cap : Nat) (nonce : UInt64) (fuel : Nat) (pos : Position)
    (frames : List Frame) :
    emit render' (events.map f) cap nonce fuel pos (frames.map g) =
      (emit render events cap nonce fuel pos frames).map fun r => (r.1.map g, r.2) := by
  induction fuel generalizing pos frames with
  | zero => rfl
  | succ fuel ih =>
    rw [emit, emit, List.length_map, List.length_map]
    split
    · dsimp only
      split
      · rfl
      · rw [List.getElem?_map]
        cases events[pos.eventCursor]? with
        | none => rfl
        | some ev =>
          rw [Option.map_some]
          dsimp only
          rw [h, List.length_map, sliceFrames_map]
          -- how much of an event fits depends on how many frames it has, not on what they are
          generalize sliceFrames (render ev _) _ _ = part
          cases part with
          | none => rfl
          | some part =>
            rw [Option.map_some]
            dsimp only
            split
            · rw [← List.map_append]
              exact ih _ _
            · rw [← List.map_append]
              rfl
    · rfl

theorem emitBurst_map (h : ∀ ev nonce, render' (f ev) nonce = (render ev nonce).map g)
    (eng : ScenarioEngine Event) (phase : Phase Event) (nonce : UInt64) :
    (eng.map f).emitBurst render' (phase.map f) nonce =
      (eng.emitBurst render phase nonce).map fun r => (r.1.map g, r.2.map f) := by
  have hloop := emit_map h phase.events eng.maxFramesPerBurst nonce
    (phase.events.length - eng.pos.eventCursor) eng.pos []
  rw [List.map_nil] at hloop
  unfold ScenarioEngine.emitBurst
  rw [show (phase.map f).events.length = phase.events.length from List.length_map f]
  show Option.map _ (emit render' (phase.events.map f) eng.maxFramesPerBurst nonce
    (phase.events.length - eng.pos.eventCursor) eng.pos []) = _
  rw [hloop, Option.map_map, Option.map_map]
  rfl

theorem settle_map (mid : ScenarioEngine Event) (phase : Phase Event) :
    (mid.map f).settle (phase.map f) = (mid.settle phase).map f := by
  have hdone : (mid.map f).Done (phase.map f) ↔ mid.Done phase := by
    unfold ScenarioEngine.Done
    rw [show (phase.map f).events.length = phase.events.length from List.length_map f]
    exact Iff.rfl
  have hnext : nextPhase (mid.playbook.map f) mid.campaign mid.phaseIdx =
      nextPhase mid.playbook mid.campaign mid.phaseIdx := by
    unfold nextPhase
    rw [show (mid.playbook.map f).phases.length = mid.playbook.phases.length from
      List.length_map _]
  unfold ScenarioEngine.settle
  by_cases hd : mid.Done phase
  · rw [if_pos hd, if_pos (hdone.mpr hd)]
    show ScenarioEngine.mk _ _ _ (nextPhase (mid.playbook.map f) mid.campaign mid.phaseIdx) _ _ = _
    rw [hnext]
    rfl
  · rw [if_neg hd, if_neg fun h => hd (hdone.mp h)]

/-- **The timeline looks neither into events nor into frames.** -/
theorem timeline_map (h : ∀ ev nonce, render' (f ev) nonce = (render ev nonce).map g)
    (eng : ScenarioEngine Event) (nonces : List UInt64) :
    timeline render' (eng.map f) nonces =
      (timeline render eng nonces).map (List.map (Burst.map f g)) := by
  induction nonces generalizing eng with
  | nil => rfl
  | cons nonce nonces ih =>
    have hcurrent : (eng.map f).currentPhase = eng.currentPhase.map (Phase.map f) :=
      List.getElem?_map
    rw [timeline, timeline, hcurrent]
    cases eng.currentPhase with
    | none => rfl
    | some phase =>
      rw [Option.map_some]
      dsimp only
      rw [emitBurst_map h]
      cases eng.emitBurst render phase nonce with
      | none => rfl
      | some out =>
        obtain ⟨frames, mid⟩ := out
        rw [Option.map_some]
        dsimp only
        rw [settle_map, ih, Option.map_map, Option.map_map]
        rfl

end

/-! ## Places

Two events of a playbook may be alike, and their frames may be too, so what was sent of one event
cannot be told by its frames. Here every event carries the place where it stands, and its frames
carry it on. The tagged run without its tags is the plain run, and in one pass the frames of one
place are that event, rendered once.
-/

/-- Where an event stands in a playbook: its phase, and its index there. -/
structure Place where
  phase : Nat
  index : Nat
deriving DecidableEq

section

variable {Event Frame : Type}

/-- The events of phase number `p`, each with its place. -/
def placedEvents (p : Nat) (events : List Event) : List (Place × Event) :=
  events.zipIdx.map fun (ev, i) => (⟨p, i⟩, ev)

/-- The playbook with every event tagged with its place. -/
def Playbook.placed (playbook : Playbook Event) : Playbook (Place × Event) :=
  ⟨playbook.phases.zipIdx.map fun (phase, p) => ⟨phase.dwellRuns, placedEvents p phase.events⟩,
    by simpa [List.zipIdx_eq_nil_iff] using playbook.nonempty⟩

/-- Rendering a tagged event: its frames carry the tag on. -/
def renderPlaced (render : Event → UInt64 → List Frame) (ev : Place × Event) (nonce : UInt64) :
    List (Place × Frame) :=
  (render ev.2 nonce).map (Prod.mk ev.1)

/-- The event at a place. -/
def Playbook.eventAt (playbook : Playbook Event) (place : Place) : Option Event :=
  (playbook.phases[place.phase]?).bind fun phase => phase.events[place.index]?

theorem Playbook.eventAt_map {Event' : Type} (f : Event → Event') (playbook : Playbook Event)
    (place : Place) : (playbook.map f).eventAt place = (playbook.eventAt place).map f := by
  unfold Playbook.eventAt Playbook.map
  dsimp only
  rw [List.getElem?_map]
  cases playbook.phases[place.phase]? with
  | none => rfl
  | some phase => exact List.getElem?_map

/-- Every event of a phase has a place. -/
theorem Playbook.exists_eventAt {playbook : Playbook Event} {phase : Phase Event}
    (hphase : phase ∈ playbook.phases) {ev : Event} (hev : ev ∈ phase.events) :
    ∃ place, playbook.eventAt place = some ev := by
  obtain ⟨p, hp⟩ := List.mem_iff_getElem?.mp hphase
  obtain ⟨i, hi⟩ := List.mem_iff_getElem?.mp hev
  refine ⟨⟨p, i⟩, ?_⟩
  unfold Playbook.eventAt
  rw [hp, Option.bind_some, hi]

/-- Without its tags, the tagged playbook is the playbook. -/
theorem Playbook.placed_map (playbook : Playbook Event) :
    playbook.placed.map Prod.snd = playbook := by
  obtain ⟨phases, hne⟩ := playbook
  unfold Playbook.placed Playbook.map
  congr 1
  rw [List.map_map]
  have hphase : ∀ x : Phase Event × Nat,
      Phase.map Prod.snd ⟨x.1.dwellRuns, placedEvents x.2 x.1.events⟩ = x.1 := by
    intro x
    unfold Phase.map placedEvents
    dsimp only
    rw [List.map_map]
    congr 1
    exact List.zipIdx_map_fst 0 x.1.events
  calc phases.zipIdx.map _ = phases.zipIdx.map Prod.fst := List.map_congr_left fun x _ => hphase x
    _ = phases := List.zipIdx_map_fst 0 phases

/-- **The plain run is the tagged run without its tags.** -/
theorem timeline_placed (render : Event → UInt64 → List Frame) (playbook : Playbook Event)
    (campaign : Campaign) (cap : Nat) (nonces : List UInt64) :
    timeline render (ScenarioEngine.load playbook campaign cap) nonces =
      (timeline (renderPlaced render) (ScenarioEngine.load playbook.placed campaign cap)
        nonces).map (List.map (Burst.map Prod.snd Prod.snd)) := by
  have herase : ∀ (ev : Place × Event) nonce,
      render ev.2 nonce = (renderPlaced render ev nonce).map Prod.snd := by
    intro ev nonce
    rw [renderPlaced, List.map_map]
    exact (List.map_id _).symm
  rw [← timeline_map herase]
  unfold ScenarioEngine.map ScenarioEngine.load
  dsimp only
  rw [playbook.placed_map]

theorem flatMap_eq_of_unique {α β : Type} {l : List α} (hnodup : l.Nodup) {a : α} (ha : a ∈ l)
    {f : α → List β} (hf : ∀ b ∈ l, b ≠ a → f b = []) : l.flatMap f = f a := by
  induction l with
  | nil => exact absurd ha List.not_mem_nil
  | cons b l ih =>
    obtain ⟨hb, hl⟩ := List.nodup_cons.mp hnodup
    rw [List.flatMap_cons]
    rcases List.mem_cons.mp ha with rfl | ha
    · have hrest : l.flatMap f = [] := List.flatMap_eq_nil_iff.mpr fun c hc =>
        hf c (List.mem_cons_of_mem _ hc) fun heq => hb (heq ▸ hc)
      rw [hrest, List.append_nil]
    · rw [hf b List.mem_cons_self fun heq => hb (heq ▸ ha), List.nil_append,
        ih hl ha fun c hc => hf c (List.mem_cons_of_mem _ hc)]

theorem nodup_zipIdx {α : Type} (l : List α) : l.zipIdx.Nodup := by
  refine List.Nodup.of_map Prod.snd ?_
  rw [List.zipIdx_map_snd]
  exact List.nodup_range'

theorem zipIdx_zipIdx {α : Type} (l : List α) (k : Nat) :
    (l.zipIdx k).zipIdx k = (l.zipIdx k).map fun x => (x, x.2) := by
  induction l generalizing k with
  | nil => rfl
  | cons a l ih => rw [List.zipIdx_cons, List.zipIdx_cons, ih, List.map_cons]

/-- The frames of an event carry its place. -/
theorem renderAt_placed (render : Event → UInt64 → List Frame) (events : List Event)
    (starts : Nat → UInt64) (p i : Nat) :
    renderAt (renderPlaced render) (placedEvents p events) starts i =
      (renderAt render events starts i).map (Prod.mk ⟨p, i⟩) := by
  unfold renderAt placedEvents
  rw [List.getElem?_map, List.getElem?_zipIdx]
  cases events[i]? with
  | none => rfl
  | some ev =>
    simp only [Option.map_some, Nat.zero_add]
    rfl

theorem filter_placed (place q : Place) (frames : List Frame) :
    (frames.map (Prod.mk q)).filter (fun m => decide (m.1 = place)) =
      if q = place then frames.map (Prod.mk place) else [] := by
  split
  · next heq =>
    subst heq
    refine List.filter_eq_self.mpr fun m hm => ?_
    obtain ⟨f, -, rfl⟩ := List.mem_map.mp hm
    exact decide_eq_true rfl
  · next hne =>
    refine List.filter_eq_nil_iff.mpr fun m hm => ?_
    obtain ⟨f, -, rfl⟩ := List.mem_map.mp hm
    simpa using hne

/-- The frames of one event among those of a phase. -/
theorem filter_rendered_placed (render : Event → UInt64 → List Frame) (events : List Event)
    (starts : Nat → UInt64) (place : Place) (p : Nat) :
    (rendered (renderPlaced render) (placedEvents p events) starts events.length).filter
        (fun m => decide (m.1 = place)) =
      if p = place.phase then
        (renderAt render events starts place.index).map (Prod.mk place)
      else [] := by
  have hpart : ∀ i, (renderAt (renderPlaced render) (placedEvents p events) starts i).filter
      (fun m => decide (m.1 = place)) =
        if p = place.phase ∧ i = place.index then
          (renderAt render events starts i).map (Prod.mk place)
        else [] := by
    intro i
    rw [renderAt_placed, filter_placed]
    refine if_congr ?_ rfl rfl
    rw [Place.mk.injEq]
  unfold rendered
  rw [List.filter_flatMap]
  simp only [hpart]
  split
  · next hp =>
    -- of the events of a phase only the one at the place has frames with its mark
    by_cases hin : place.index ∈ List.range events.length
    · rw [flatMap_eq_of_unique List.nodup_range hin ?_, if_pos ⟨hp, rfl⟩]
      intro i _ hi
      exact if_neg fun h => hi h.2
    · -- there is no such event
      have hnone : renderAt render events starts place.index = [] := by
        rw [renderAt, List.getElem?_eq_none (by simpa using hin)]
      rw [hnone, List.map_nil]
      refine List.flatMap_eq_nil_iff.mpr fun i hi => ?_
      refine if_neg ?_
      rintro ⟨-, rfl⟩
      exact hin hi
  · next hp =>
    refine List.flatMap_eq_nil_iff.mpr fun i _ => ?_
    exact if_neg fun h => hp h.1

/-- **The frames of one event.** In one pass, the frames with the tag of an event are that
event, rendered whole under some nonce. -/
theorem FullPass.ofPlace {render : Event → UInt64 → List Frame} {playbook : Playbook Event}
    {campaign : Campaign} {cap : Nat} {nonces : List UInt64}
    {log : List (Burst (Place × Event) (Place × Frame))} (hpass : FullPass log)
    (hrun : timeline (renderPlaced render) (ScenarioEngine.load playbook.placed campaign cap)
      nonces = some log) {place : Place} {ev : Event} (hev : playbook.eventAt place = some ev) :
    ∃ nonce, (log.flatMap Burst.frames).filter (fun m => decide (m.1 = place)) =
      (render ev nonce).map (Prod.mk place) := by
  obtain ⟨starts, hsends⟩ := hpass.sends hrun
  obtain ⟨phase, hphase, hindex⟩ := Option.bind_eq_some_iff.mp hev
  refine ⟨starts place.phase place.index, ?_⟩
  have hphases : playbook.placed.phases.zipIdx =
      playbook.phases.zipIdx.map fun x => (⟨x.1.dwellRuns, placedEvents x.2 x.1.events⟩, x.2) := by
    rw [Playbook.placed, List.zipIdx_map, zipIdx_zipIdx, List.map_map]
    rfl
  have hlength : ∀ x : Phase Event × Nat, (placedEvents x.2 x.1.events).length =
      x.1.events.length := fun x => by rw [placedEvents, List.length_map, List.length_zipIdx]
  rw [hsends, List.filter_flatMap, hphases, List.flatMap_map]
  simp only [hlength, filter_rendered_placed]
  rw [flatMap_eq_of_unique (nodup_zipIdx _) (List.mk_mem_zipIdx_iff_getElem?.mpr hphase) ?_,
    if_pos rfl]
  · rw [renderAt, hindex]
  · rintro ⟨other, p⟩ hx hne
    refine if_neg fun hp => hne ?_
    subst hp
    rw [List.mk_mem_zipIdx_iff_getElem?, hphase] at hx
    rw [Option.some.inj hx]

end

end TurboLaser.Scenario
