import TurboLaser.Scenario.Places

/-!
# Two runs in lockstep

Two playbooks of the same shape, whose events render to equally many frames, go through the timeline
in lockstep: they are the two projections of one run over pairs. The timeline looks at how many
frames an event has, and at nothing else of it.

So a comparison of two runs is a comparison of the events they send. It is used to say that
something about a playbook cannot be told from the wire: replace it in all events, keep the lengths,
and the wire is the same. The converse needs more, since events may be sent under nonces that happen
to hide a difference: one pass sends all events, and a difference of one event under each nonce
shows.

- `sentFrames_eq_of_same`: if corresponding events render alike, the runs send the same;
- `exists_same_of_sentFrames_eq`: **if the runs send the same, corresponding events render alike**
  under some nonce, for one pass sends them all.
-/

namespace TurboLaser.Scenario

/-- What `phase_frames` returns over a run, burst by burst. -/
def sentFrames {Event Frame : Type} (render : Event → UInt64 → List Frame)
    (eng : ScenarioEngine Event) (nonces : List UInt64) : Option (List (List Frame)) :=
  (timeline render eng nonces).map (List.map Burst.frames)

section

variable {Twin Left Right Frame : Type} (left : Twin → Left) (right : Twin → Right)
  (renderLeft : Left → UInt64 → List Frame) (renderRight : Right → UInt64 → List Frame)

/-- Both sides of a twin, frame by frame. -/
def renderTwin (t : Twin) (nonce : UInt64) : List (Frame × Frame) :=
  (renderLeft (left t) nonce).zip (renderRight (right t) nonce)

theorem map_fst_eq_map_snd {xs : List (Frame × Frame)} :
    xs.map Prod.fst = xs.map Prod.snd ↔ ∀ x ∈ xs, x.1 = x.2 :=
  List.map_inj_left

theorem eq_of_mem_zip_self {xs : List Frame} {x : Frame × Frame} (h : x ∈ xs.zip xs) :
    x.1 = x.2 := by
  have hmaps : (xs.zip xs).map Prod.fst = (xs.zip xs).map Prod.snd := by
    rw [List.map_fst_zip (Nat.le_refl _), List.map_snd_zip (Nat.le_refl _)]
  exact map_fst_eq_map_snd.mp hmaps x h

/-- The two runs are the projections of the run over pairs. -/
theorem sentFrames_projections
    (hlen : ∀ t nonce, (renderLeft (left t) nonce).length = (renderRight (right t) nonce).length)
    (both : Playbook Twin) (campaign : Campaign) (cap : Nat) {nonces : List UInt64}
    {log : List (Burst Twin (Frame × Frame))}
    (hrun : timeline (renderTwin left right renderLeft renderRight)
      (ScenarioEngine.load both campaign cap) nonces = some log) :
    sentFrames renderLeft (ScenarioEngine.load (both.map left) campaign cap) nonces =
        some (log.map fun b => b.frames.map Prod.fst) ∧
      sentFrames renderRight (ScenarioEngine.load (both.map right) campaign cap) nonces =
        some (log.map fun b => b.frames.map Prod.snd) := by
  have hleft : ∀ t nonce, renderLeft (left t) nonce =
      (renderTwin left right renderLeft renderRight t nonce).map Prod.fst :=
    fun t nonce => (List.map_fst_zip (hlen t nonce).le).symm
  have hright : ∀ t nonce, renderRight (right t) nonce =
      (renderTwin left right renderLeft renderRight t nonce).map Prod.snd :=
    fun t nonce => (List.map_snd_zip (hlen t nonce).ge).symm
  have hl := timeline_map hleft (ScenarioEngine.load both campaign cap) nonces
  have hr := timeline_map hright (ScenarioEngine.load both campaign cap) nonces
  rw [hrun, Option.map_some] at hl hr
  constructor
  · rw [sentFrames, show ScenarioEngine.load (both.map left) campaign cap =
      (ScenarioEngine.load both campaign cap).map left from rfl, hl, Option.map_some, List.map_map]
    rfl
  · rw [sentFrames, show ScenarioEngine.load (both.map right) campaign cap =
      (ScenarioEngine.load both campaign cap).map right from rfl, hr, Option.map_some, List.map_map]
    rfl

/-- The runs send the same exactly when every pair of frames is a pair of equals. -/
theorem sentFrames_eq_iff
    (hlen : ∀ t nonce, (renderLeft (left t) nonce).length = (renderRight (right t) nonce).length)
    (both : Playbook Twin) (campaign : Campaign) (cap : Nat) {nonces : List UInt64}
    {log : List (Burst Twin (Frame × Frame))}
    (hrun : timeline (renderTwin left right renderLeft renderRight)
      (ScenarioEngine.load both campaign cap) nonces = some log) :
    sentFrames renderLeft (ScenarioEngine.load (both.map left) campaign cap) nonces =
        sentFrames renderRight (ScenarioEngine.load (both.map right) campaign cap) nonces ↔
      ∀ b ∈ log, ∀ x ∈ b.frames, x.1 = x.2 := by
  obtain ⟨hl, hr⟩ :=
    sentFrames_projections left right renderLeft renderRight hlen both campaign cap hrun
  rw [hl, hr, Option.some_inj, List.map_inj_left]
  exact forall₂_congr fun b _ => map_fst_eq_map_snd

/-- **Runs whose events render alike send the same.** -/
theorem sentFrames_eq_of_same
    (hlen : ∀ t nonce, (renderLeft (left t) nonce).length = (renderRight (right t) nonce).length)
    (both : Playbook Twin) (campaign : Campaign) (cap : Nat)
    (hsame : ∀ phase ∈ both.phases, ∀ t ∈ phase.events, ∀ nonce,
      renderLeft (left t) nonce = renderRight (right t) nonce) (nonces : List UInt64) :
    sentFrames renderLeft (ScenarioEngine.load (both.map left) campaign cap) nonces =
      sentFrames renderRight (ScenarioEngine.load (both.map right) campaign cap) nonces := by
  obtain ⟨log, hrun, -⟩ := timeline_spec (renderTwin left right renderLeft renderRight) both
    campaign cap nonces
  rw [sentFrames_eq_iff left right renderLeft renderRight hlen both campaign cap hrun]
  intro b hb x hx
  obtain ⟨rest, hsends⟩ := timeline_sends hrun
  have hmem : x ∈ (emissions log).flatMap fun e =>
      renderTwin left right renderLeft renderRight e.event e.nonce := by
    rw [← hsends]
    exact List.mem_append_left _ (List.mem_flatMap.mpr ⟨b, hb, hx⟩)
  obtain ⟨e, he, hxe⟩ := List.mem_flatMap.mp hmem
  obtain ⟨phase, hphase, starts, hvalid⟩ := load_position
    (renderTwin left right renderLeft renderRight) both campaign cap
  obtain ⟨-, -, -, -, -, p, hp, hev⟩ := source_of_mem_emissionsFrom hphase hvalid hrun he
  have halike := hsame p hp e.event (List.mem_of_getElem? hev) e.nonce
  rw [renderTwin, halike] at hxe
  exact eq_of_mem_zip_self hxe

/-- **Runs that send the same render corresponding events alike**, under some nonce. -/
theorem exists_same_of_sentFrames_eq
    (hlen : ∀ t nonce, (renderLeft (left t) nonce).length = (renderRight (right t) nonce).length)
    (both : Playbook Twin) (campaign : Campaign) (cap : Nat)
    (heq : ∀ nonces,
      sentFrames renderLeft (ScenarioEngine.load (both.map left) campaign cap) nonces =
        sentFrames renderRight (ScenarioEngine.load (both.map right) campaign cap) nonces)
    {place : Place} {t : Twin} (ht : both.eventAt place = some t) :
    ∃ nonce, renderLeft (left t) nonce = renderRight (right t) nonce := by
  obtain ⟨n, log, hrun, hpass⟩ := exists_fullPass
    (renderPlaced (renderTwin left right renderLeft renderRight)) both.placed campaign cap
    fun _ => 0
  obtain ⟨nonce, hframes⟩ := hpass.ofPlace hrun ht
  refine ⟨nonce, ?_⟩
  have hplain : timeline (renderTwin left right renderLeft renderRight)
      (ScenarioEngine.load both campaign cap) ((List.range n).map fun _ => 0) =
        some (log.map (Burst.map Prod.snd Prod.snd)) := by
    rw [timeline_placed, hrun, Option.map_some]
  have hpairs := (sentFrames_eq_iff left right renderLeft renderRight hlen both campaign cap
    hplain).mp (heq _)
  have hequal : ∀ x ∈ renderTwin left right renderLeft renderRight t nonce, x.1 = x.2 := by
    intro x hx
    have hmem : (place, x) ∈ log.flatMap Burst.frames := by
      refine List.mem_of_mem_filter (p := fun m => decide (m.1 = place)) ?_
      rw [hframes]
      exact List.mem_map_of_mem hx
    obtain ⟨b, hb, hxb⟩ := List.mem_flatMap.mp hmem
    exact hpairs _ (List.mem_map_of_mem hb) x (List.mem_map_of_mem hxb)
  have hmaps := map_fst_eq_map_snd.mpr hequal
  rwa [renderTwin, List.map_fst_zip (hlen t nonce).le, List.map_snd_zip (hlen t nonce).ge] at hmaps

end

end TurboLaser.Scenario
