import TurboLaser.Run.LoopFacts
import TurboLaser.Scenario.Connections
import TurboLaser.Simulate.Planned

/-!
# The bursts of a run (simulate/engine.rs, run/mod.rs)

A tick may announce the plant: it does so when the cadence is due, and gives the burst the next
nonce. Nothing else in the loop touches what the bursts are made of.

The cadence compares the clock with the time of the last burst, which the engine remembers. The
clock of a turn is an arbitrary number, so it may go back, stand still or jump; the comparison is by
a difference that saturates, and a clock that went back only makes the next burst later. So the
spacing holds in the clock of the machine, between any two bursts and not only between neighbours,
which is what the invariant `Spaced` says of the log and the engine together.

- `LoopTicked`: the ways a tick can go;
- `step_bursts`: a turn ticks at most once, and its burst is that of the tick;
- `bursts_spaced`: **no two bursts go out within the announce interval**, whatever the clock does.
-/

namespace TurboLaser

open Lib Scenario

/-! ## One tick

A burst is made of the plant, the tables and the nonce, and what else an engine has does not matter:
`SameBursts` is equality of the first. The ways a tick can go are listed with the frames that are
written. The assertions come first, and the attack of the scenario behind them.
-/

/-- Nothing of what bursts are made of differs. -/
structure LoopEngine.SameBursts (e e' : LoopEngine) : Prop where
  last : e'.lastAnnounceUnix = e.lastAnnounceUnix
  count : e'.announceCount = e.announceCount
  overlay : e'.overlay = e.overlay
  interval : e'.announceIntervalSecs = e.announceIntervalSecs
  every : e'.identityEvery = e.identityEvery
  config : e'.bursts = e.bursts
  profiles : e'.profiles = e.profiles

theorem LoopEngine.SameBursts.refl (e : LoopEngine) : e.SameBursts e :=
  ⟨rfl, rfl, rfl, rfl, rfl, rfl, rfl⟩

theorem LoopEngine.SameBursts.trans {e e' e'' : LoopEngine} (h : e.SameBursts e')
    (h' : e'.SameBursts e'') : e.SameBursts e'' :=
  ⟨h'.last.trans h.last, h'.count.trans h.count, h'.overlay.trans h.overlay,
    h'.interval.trans h.interval, h'.every.trans h.every, h'.config.trans h.config,
    h'.profiles.trans h.profiles⟩

/-- The renderer of an overlay over a plant. -/
def ScenarioOverlay.renders (o : ScenarioOverlay) (core : SimulatorEngine) (ev : Event)
    (nonce : UInt64) : List Synth.Frame :=
  o.renderer.renderEvent ev (plantLedger core.ledger) core.vuln nonce

/-- The assertions of a burst. -/
def LoopEngine.assertions (e : LoopEngine) (ledger : Session) (run : Nat) : List Synth.Frame :=
  buildAssertions e.bursts ledger e.profiles (UInt64.ofNat run) e.announceCount

/-- The attack of a burst: what the timeline of the overlay makes of its nonce. -/
def Attacks (e e' : LoopEngine) (attack : List Synth.Frame) : Prop :=
  match e.overlay with
  | none => attack = [] ∧ e'.overlay = none
  | some o => ∃ timeline,
    o.timeline.phaseFrames (o.renders e'.core) e.announceCount = some (attack, timeline) ∧
      e'.overlay = some { o with timeline }

/-- **A tick of the loop**: it is quiet, or it announces, and the burst is written or not. -/
inductive LoopTicked (e : LoopEngine) (run : Nat) (now : UInt64) (io : Io) :
    Option Capture → LoopEngine → Prop
  | quiet {e'} (hsame : e.SameBursts e') : LoopTicked e run now io none e'
  | announced {e' attack sent} (hrun : run % e.identityEvery = 0) (hdue : e.cadenceDue now = true)
      (hlast : e'.lastAnnounceUnix = some now) (hcount : e'.announceCount = e.announceCount + 1)
      (hinterval : e'.announceIntervalSecs = e.announceIntervalSecs) (hconfig : e'.bursts = e.bursts)
      (hattack : Attacks e e' attack)
      (hsent : ∀ content, sent = some content →
        content = identityCapture (e.assertions e'.core.ledger run ++ attack) [])
      (hlost : sent = none → io.dirs = false ∨ io.pcap = false ∨ attack = []) :
      LoopTicked e run now io sent e'

/-- What an engine does at a tick depends on its burst fields. -/
theorem LoopTicked.of_same {e e₁ e' : LoopEngine} {run : Nat} {now : UInt64} {io : Io}
    {sent : Option Capture} (hsame : e.SameBursts e₁) (h : LoopTicked e₁ run now io sent e') :
    LoopTicked e run now io sent e' := by
  cases h with
  | quiet hquiet => exact .quiet (hsame.trans hquiet)
  | @announced e' attack sent hrun hdue hlast hcount hinterval hconfig hattack hsent hlost =>
    refine .announced (hsame.every ▸ hrun) ?_ hlast (hsame.count ▸ hcount)
      (hinterval.trans hsame.interval) (hconfig.trans hsame.config) ?_ (fun content hcontent => ?_)
      hlost
    · unfold LoopEngine.cadenceDue at hdue ⊢
      rwa [hsame.last, hsame.interval] at hdue
    · unfold Attacks at hattack ⊢
      rwa [hsame.overlay, hsame.count] at hattack
    · rw [hsent content hcontent, LoopEngine.assertions, hsame.config, hsame.profiles, hsame.count]
      rfl

/-- What `burstFrames` makes of an engine. -/
theorem burstFrames_cases {e e' : LoopEngine} {run : Nat} {now : UInt64}
    {frames : List Synth.Frame} (h : e.burstFrames run now = some (frames, e')) :
    e'.lastAnnounceUnix = some now ∧ e'.announceCount = e.announceCount + 1 ∧
      e'.announceIntervalSecs = e.announceIntervalSecs ∧ e'.bursts = e.bursts ∧ e'.core = e.core ∧
      ∃ attack, frames = e.assertions e.core.ledger run ++ attack ∧ Attacks e e' attack := by
  unfold LoopEngine.burstFrames at h
  dsimp only at h
  split at h
  · next hnone =>
    obtain ⟨rfl, rfl⟩ := Prod.mk.inj (Option.some.inj h)
    refine ⟨rfl, rfl, rfl, rfl, rfl, [], (List.append_nil _).symm, ?_⟩
    unfold Attacks
    rw [hnone]
    exact ⟨rfl, hnone⟩
  · next o hsome =>
    split at h
    · cases h
    · next attack timeline hframes =>
      obtain ⟨rfl, rfl⟩ := Prod.mk.inj (Option.some.inj h)
      refine ⟨rfl, rfl, rfl, rfl, rfl, attack, rfl, ?_⟩
      unfold Attacks
      rw [hsome]
      exact ⟨timeline, hframes, rfl⟩

/-- **The ways a tick can go.** -/
theorem loopTick_cases {e e' : LoopEngine} {run : Nat} {now : UInt64} {io : Io}
    {file file' : LedgerFile} {burst : Option Capture}
    (h : e.redTick run now io file = some (burst, e', file')) :
    LoopTicked e run now io burst e' := by
  unfold LoopEngine.redTick at h
  split at h
  · split at h
    · cases h
    · next grown added simRng hgrow =>
      dsimp only at h
      split at h
      · cases h
      · next frames announced hframes =>
        have hcore := (persistIfDirty_frame announced.toDaemonEngine io file).1
        cases hsaved : announced.persistIfDirty io file with
        | mk saved file₁ =>
          rw [hsaved] at h hcore
          dsimp only at h hcore
          obtain ⟨hburst, hout⟩ := Prod.mk.inj (Option.some.inj h)
          obtain ⟨rfl, -⟩ := Prod.mk.inj hout
          split at hframes
          · next hdue =>
            unfold LoopEngine.announces at hdue
            rw [Bool.and_eq_true, decide_eq_true_eq] at hdue
            obtain ⟨hlast, hcount, hinterval, hconfig, hcore', attack, rfl, hattack⟩ :=
              burstFrames_cases hframes
            have hattack' : Attacks e (announced.withDaemon saved) attack := by
              -- saving leaves the plant alone
              unfold Attacks at hattack ⊢
              cases he : e.overlay with
              | none =>
                rw [show (e.withDaemon (e.ticked run grown added simRng)).overlay = none from he]
                  at hattack
                exact hattack
              | some o =>
                rw [show (e.withDaemon (e.ticked run grown added simRng)).overlay = some o from he]
                  at hattack
                obtain ⟨timeline, hphase, hoverlay⟩ := hattack
                refine ⟨timeline, ?_, hoverlay⟩
                unfold ScenarioOverlay.renders at hphase ⊢
                show o.timeline.phaseFrames (fun ev nonce => o.renderer.renderEvent ev
                  (plantLedger saved.core.ledger) saved.core.vuln nonce) e.announceCount = _
                rw [hcore]
                exact hphase
            refine .announced hdue.1 hdue.2 hlast hcount hinterval hconfig hattack'
              (fun content hcontent => ?_) fun hnone => ?_
            · rw [← hburst] at hcontent
              split at hcontent
              · cases hcontent
              · obtain rfl := Option.some.inj hcontent
                show _ = identityCapture (e.assertions saved.core.ledger run ++ attack) []
                rw [hcore, hcore']
                rfl
            · rw [← hburst] at hnone
              split at hnone
              · next hempty =>
                rcases hempty with hempty | hdirs | hpcap
                · exact .inr (.inr (List.append_eq_nil_iff.mp hempty).2)
                · exact .inl hdirs
                · exact .inr (.inl hpcap)
              · cases hnone
          · obtain ⟨rfl, rfl⟩ := Prod.mk.inj (Option.some.inj hframes)
            rw [← hburst, if_pos (.inl rfl)]
            exact .quiet ⟨rfl, rfl, rfl, rfl, rfl, rfl, rfl⟩
  · obtain ⟨rfl, hout⟩ := Prod.mk.inj (Option.some.inj h)
    obtain ⟨rfl, -⟩ := Prod.mk.inj hout
    exact .quiet (.refl e)

/-! ## One turn

Preparing a capture and sending it fire no burst; only the tick of a turn does, and it comes once.
So the bursts of a log are counted by its ticks. The other entries of a log are passed over one kind
at a time.
-/

section Turns

variable {F : Type} {seedFrom : UInt64 → Rng} {cfg : LoopConfig F} {readF : List Char → Option F}
  {glob : GlobMatcher} {oui : OuiDb} {times : WatchdogTimes} {t : Turn F} {chosen : PcapFile}

/-- The bursts of a log, with their clocks. -/
def bursts (log : List (Output F)) : List (UInt64 × Capture) :=
  log.filterMap fun
    | .burst now content => some (now, content)
    | .heartbeat _ => none
    | .replay _ _ => none

theorem bursts_append (log log' : List (Output F)) :
    bursts (log ++ log') = bursts log ++ bursts log' :=
  List.filterMap_append

@[simp] theorem bursts_nil : bursts ([] : List (Output F)) = [] := rfl

@[simp] theorem bursts_heartbeat (s : Status F) (log : List (Output F)) :
    bursts (.heartbeat s :: log) = bursts log := rfl

@[simp] theorem bursts_shows (st : LoopState F) (s : Status F) (log : List (Output F)) :
    bursts (st.shows s :: log) = bursts log := rfl

@[simp] theorem bursts_output (send : ToSend) (chosen : PcapFile) (engine : Option LoopEngine)
    (log : List (Output F)) : bursts (send.output chosen engine :: log) = bursts log := by
  unfold ToSend.output
  cases send.promoted with
  | some cap => rfl
  | none =>
    cases send.remapped with
    | some key => rfl
    | none => rfl

theorem bursts_burst (now : UInt64) (burst : Option Capture) :
    bursts (burst.map (Output.burst (F := F) now)).toList =
      (burst.map fun content => (now, content)).toList := by
  cases burst with
  | none => rfl
  | some content => rfl

/-- The capture of a turn is prepared without a burst. -/
theorem prepare_same {e : LoopEngine} {engine : Option LoopEngine} {file file' : LedgerFile}
    {p : Prepared} (h : prepare seedFrom cfg t chosen (some e) file = some (p, engine, file')) :
    ∃ e', engine = some e' ∧ e.SameBursts e' := by
  -- both steps change the daemon's half of the engine only
  have hremap : ∀ {r engine file'}, remapTurn seedFrom cfg t chosen (some e) file =
      some (r, engine, file') → ∃ e', engine = some e' ∧ e.SameBursts e' := by
    intro r engine file' hturn
    unfold remapTurn at hturn
    dsimp only at hturn
    split at hturn
    · split at hturn
      · cases hturn
      · cases hturn
        exact ⟨_, rfl, rfl, rfl, rfl, rfl, rfl, rfl, rfl⟩
      · cases hturn
        exact ⟨_, rfl, rfl, rfl, rfl, rfl, rfl, rfl, rfl⟩
    · cases hturn
      exact ⟨e, rfl, .refl e⟩
  have hpromote : ∀ {e₁ : LoopEngine} {content promoted engine} {file file' : LedgerFile},
      promoteTurn t content (some e₁) file = some (promoted, engine, file') →
        ∃ e', engine = some e' ∧ e₁.SameBursts e' := by
    intro e₁ content promoted engine file file' hturn
    unfold promoteTurn at hturn
    dsimp only at hturn
    split at hturn
    · cases hturn
    · cases hturn
      exact ⟨_, rfl, rfl, rfl, rfl, rfl, rfl, rfl, rfl⟩
  unfold prepare at h
  split at h
  · cases h
  · next hturn =>
    obtain ⟨-, h⟩ := Prod.mk.inj (Option.some.inj h)
    obtain ⟨rfl, -⟩ := Prod.mk.inj h
    exact hremap hturn
  · next hturn =>
    obtain ⟨e₁, rfl, hsame⟩ := hremap hturn
    split at h
    · cases h
    · next hturn' =>
      obtain ⟨e₂, rfl, hsame'⟩ := hpromote hturn'
      split at h
      · obtain ⟨-, h⟩ := Prod.mk.inj (Option.some.inj h)
        obtain ⟨rfl, -⟩ := Prod.mk.inj h
        exact ⟨e₂, rfl, hsame.trans hsame'⟩
      · obtain ⟨-, h⟩ := Prod.mk.inj (Option.some.inj h)
        obtain ⟨rfl, -⟩ := Prod.mk.inj h
        exact ⟨e₂, rfl, hsame.trans hsame'⟩

variable [FloatOps F] {st st' : LoopState F}

/-- **One turn ticks at most once**, and its burst is that of the tick. -/
theorem step_bursts (h : Stepped seedFrom cfg readF glob oui times st t st') {e : LoopEngine}
    (he : st.engine = some e) : ∃ e' sent, st'.engine = some e' ∧
      LoopTicked e st.runCounter t.tickNow t.tickIo sent e' ∧
      bursts st'.log = bursts st.log ++ (sent.map fun content => (t.tickNow, content)).toList := by
  cases h with
  | stopped => exact ⟨e, none, he, .quiet (.refl e), (List.append_nil _).symm⟩
  | shutdown => exact ⟨e, none, he, .quiet (.refl e), bursts_append _ _⟩
  | idle => exact ⟨e, none, he, .quiet (.refl e), bursts_append _ _⟩
  | skipped hrunning hchosen hprepare =>
    rw [he] at hprepare
    obtain ⟨e', rfl, hsame⟩ := prepare_same hprepare
    exact ⟨e', none, rfl, .quiet hsame, bursts_append _ _⟩
  | @sent chosen send engine file st' hrunning hchosen hprepare hsend =>
    rw [he] at hprepare
    obtain ⟨e₁, rfl, hsame⟩ := prepare_same hprepare
    obtain ⟨s₀, s₁, s₂, burst, res, hlog, -, -, -, -, -, -, -, hticked, -⟩ := send_log hsend
    -- of what a turn logs only one entry is a burst
    have hbursts : bursts st'.log =
        bursts st.log ++ (burst.map fun content => (t.tickNow, content)).toList := by
      rw [hlog, bursts_append, bursts_append, bursts_append, bursts_burst, bursts_append]
      simp only [bursts_shows, bursts_output, bursts_nil, List.nil_append]
      cases cfg.once with
      | false => simp
      | true => simp
    rcases hticked with ⟨hnone, -, -⟩ | ⟨e₁', e', file', he₁, htick, he'⟩
    · cases hnone
    · obtain rfl := Option.some.inj he₁
      have hticks := (loopTick_cases htick).of_same hsame
      split
      · exact ⟨e', burst, he', hticks, hbursts⟩
      · refine ⟨e', burst, he', hticks, ?_⟩
        rw [← hbursts]
        exact (bursts_append _ _).trans (List.append_nil _)

end Turns

/-! ## The announce interval -/

/-- A burst that is due is an interval behind the last one. -/
theorem cadenceDue_spaced {e : LoopEngine} {now last : UInt64} (hpos : 0 < e.announceIntervalSecs)
    (hlast : e.lastAnnounceUnix = some last) (hdue : e.cadenceDue now = true) :
    last.toNat + e.announceIntervalSecs.toNat ≤ now.toNat := by
  unfold LoopEngine.cadenceDue checkedSub at hdue
  rw [hlast] at hdue
  dsimp only at hdue
  rw [decide_eq_true_eq] at hdue
  rw [UInt64.lt_iff_toNat_lt] at hpos
  split at hdue
  · next hle =>
    have hsub := UInt64.toNat_sub_of_le _ _ hle
    rw [UInt64.le_iff_toNat_le] at hdue hle
    rw [Option.getD_some, hsub] at hdue
    omega
  · -- a clock that went back is never due
    rw [Option.getD_none, UInt64.le_iff_toNat_le] at hdue
    exact absurd (Nat.lt_of_lt_of_le hpos hdue) (Nat.lt_irrefl _)

/-- The bursts of a log lie apart, and none behind the last announcement. -/
structure Spaced (interval : UInt64) (e : LoopEngine) (wire : List (UInt64 × Capture)) : Prop where
  held : e.announceIntervalSecs = interval
  apart : wire.Pairwise fun b b' => b.1.toNat + interval.toNat ≤ b'.1.toNat
  behind : ∀ b ∈ wire, ∃ last, e.lastAnnounceUnix = some last ∧ b.1 ≤ last

theorem Spaced.ticked {interval : UInt64} {e e' : LoopEngine} {wire : List (UInt64 × Capture)}
    {run : Nat} {now : UInt64} {io : Io} {sent : Option Capture} (hpos : 0 < interval)
    (h : Spaced interval e wire) (htick : LoopTicked e run now io sent e') :
    Spaced interval e' (wire ++ (sent.map fun content => (now, content)).toList) := by
  obtain ⟨rfl, hapart, hbehind⟩ := h
  cases htick with
  | quiet hsame =>
    refine ⟨hsame.interval, ?_, fun b hb => ?_⟩
    · rwa [Option.map_none, Option.toList_none, List.append_nil]
    · rw [Option.map_none, Option.toList_none, List.append_nil] at hb
      rw [hsame.last]
      exact hbehind b hb
  | announced hrun hdue hlast hcount hinterval hconfig hattack hsent hlost =>
    -- every burst so far is an interval behind
    have hnow : ∀ b ∈ wire, b.1.toNat + e.announceIntervalSecs.toNat ≤ now.toNat := by
      intro b hb
      obtain ⟨last, hlast, hle⟩ := hbehind b hb
      have hspaced := cadenceDue_spaced hpos hlast hdue
      rw [UInt64.le_iff_toNat_le] at hle
      omega
    refine ⟨hinterval, List.pairwise_append.mpr ⟨hapart, ?_, fun b hb b' hb' => ?_⟩,
      fun b hb => ⟨now, hlast, ?_⟩⟩
    · cases sent with
      | none => exact List.Pairwise.nil
      | some content => exact List.pairwise_singleton _ _
    · obtain ⟨content, -, rfl⟩ := Option.map_eq_some_iff.mp (Option.mem_toList.mp hb')
      exact hnow b hb
    · rcases List.mem_append.mp hb with hb | hb
      · rw [UInt64.le_iff_toNat_le]
        have := hnow b hb
        omega
      · obtain ⟨content, -, rfl⟩ := Option.map_eq_some_iff.mp (Option.mem_toList.mp hb)
        exact UInt64.le_refl _

section Runs

variable {F : Type} [FloatOps F] {seedFrom : UInt64 → Rng} {cfg : LoopConfig F}
  {readF : List Char → Option F} {glob : GlobMatcher} {oui : OuiDb} {times : WatchdogTimes}

/-- **Bursts are spaced.** Over any turns, and whatever the clock does between them, of two bursts
the loop fires the later one is at least the announce interval behind. -/
theorem bursts_spaced (e : LoopEngine) (file : LedgerFile) (turns : List (Turn F))
    (st : LoopState F) (hinterval : 0 < e.announceIntervalSecs)
    (hrun : runLoop seedFrom cfg readF glob oui times (.start cfg (some e) file) turns = some st) :
    (bursts st.log).Pairwise fun b b' =>
      b.1.toNat + e.announceIntervalSecs.toNat ≤ b'.1.toNat := by
  have hend := runAll_preserves
    (P := fun st : LoopState F => ∃ e', st.engine = some e' ∧
      Spaced e.announceIntervalSecs e' (bursts st.log))
    (fun st t st' hst hstep => by
      obtain ⟨e₁, he₁, hspaced⟩ := hst
      obtain ⟨e₂, sent, he₂, hticked, hlog⟩ := step_bursts (step_cases hstep) he₁
      exact ⟨e₂, he₂, hlog ▸ hspaced.ticked hinterval hticked⟩)
    ⟨e, rfl, rfl, List.Pairwise.nil, fun b hb => absurd hb List.not_mem_nil⟩ hrun
  obtain ⟨_, -, hspaced⟩ := hend
  exact hspaced.apart

end Runs

/-- The engine of the bench, with an announcement due at every turn. -/
def announcingEngine : LoopEngine := { benchEngine with announceIntervalSecs := 10 }

/-- Two bursts, ten seconds apart. -/
theorem bursts_spaced_bench : ∃ st,
    benchLoop (.start benchConfig (some announcingEngine) .missing) benchTurns = some st ∧
      (bursts st.log).length = 2 ∧ (bursts st.log).Pairwise fun b b' =>
        b.1.toNat + announcingEngine.announceIntervalSecs.toNat ≤ b'.1.toNat := by
  have hrun : ((benchLoop (.start benchConfig (some announcingEngine) .missing) benchTurns).map
      fun st => (bursts st.log).length) = some 2 := by decide +kernel
  obtain ⟨st, hst, hlength⟩ := Option.map_eq_some_iff.mp hrun
  exact ⟨st, hst, hlength, bursts_spaced announcingEngine .missing benchTurns st (by decide) hst⟩

end TurboLaser
