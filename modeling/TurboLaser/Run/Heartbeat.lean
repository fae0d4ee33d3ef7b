import TurboLaser.Lib.Traces
import TurboLaser.Run.LoopFacts

/-!
# The protocol of the heartbeat (run/mod.rs, run/status.rs)

Whoever reads the heartbeat sees the loop go round: it waits, says that it replays, sends, and waits
again in the gap. Every heartbeat shows the run, the packets of the last run that reported them, and
the rates, of which a reading once shown is only ever replaced by a newer one.

The reader is given a machine of his own. `Beat` is a labelled relation on what has been shown so
far, with the heartbeats and the sends as its labels: what may be written or sent next, by one who
knows nothing of the engine, the disk and the draws. That the loop follows it is a simulation, turn
by turn; what can be said of all logs is then a matter of traces of that machine (`Lib.Traces`), and
the loop does not come in any more.

- `Beat`: the protocol;
- `step_beats`, `runLoop_beats`: **the log of the loop follows the protocol**;
- `history_of_trace`: what every trace of the protocol looks like;
- `heartbeat_history`: **what follows for the whole log**: the runs in order, no reading lost, one
  send a run with its announcement right before it, and nothing behind the stop.
-/

namespace TurboLaser

open Lib

/-! ## The protocol -/

/-- Where the loop is between two entries of its log. -/
inductive LoopPhase where
  | waiting
  | announced
  | sent (fired : Bool)
  | refreshed
  | over
deriving DecidableEq

/-- A send lies behind. -/
def LoopPhase.Behind (p : LoopPhase) : Prop := p = .refreshed ∨ ∃ fired, p = .sent fired

/-- What every heartbeat shows. -/
structure Shown (F : Type) where
  run : Nat
  packets : Option Nat
  rates : PpsState F

section Protocol

variable {F : Type}

/-- The next run. -/
def Shown.next (q : Shown F) : Shown F := { q with run := q.run + 1 }

/-- The heartbeat tells what is known. -/
structure Shown.Tells (q : Shown F) (s : Status F) : Prop where
  run : s.run = q.run
  packets : s.lastRunPackets = q.packets
  pps : s.pps = q.rates.pps
  mbps : s.mbps = q.rates.mbps

/-- **What a send may change**: a reading stays, or a newer one takes its place. -/
structure Shown.Carries [Zero F] [LT F] (q q' : Shown F) : Prop where
  run : q'.run = q.run
  packets : q'.packets = q.packets ∨ q'.packets.isSome = true
  pps : q'.rates.pps = q.rates.pps ∨ ∃ x, 0 < x ∧ q'.rates.pps = some x
  mbps : q'.rates.mbps = q.rates.mbps ∨ ∃ x, 0 < x ∧ q'.rates.mbps = some x

/-- **The protocol**: what may come next in the log. -/
inductive Beat [Zero F] [LT F] : LoopPhase × Shown F → Output F → LoopPhase × Shown F → Prop
  | idle {q s} (htells : q.Tells s) (hstate : s.state = .idleNoPcaps) :
      Beat (.waiting, q) (.heartbeat s) (.waiting, q)
  | skipped {q s} (htells : q.Tells s)
      (hstate : s.state = .skippedRemapFailed ∨ s.state = .skippedPublicSource) :
      Beat (.waiting, q) (.heartbeat s) (.waiting, q.next)
  | announced {q s} (htells : q.Tells s) (hstate : s.state = .replaying) :
      Beat (.waiting, q) (.heartbeat s) (.announced, q)
  | replay {q q' origin content} (hcarries : q.Carries q') :
      Beat (.announced, q) (.replay origin content) (.sent false, q')
  | burst {q now content} : Beat (.sent false, q) (.burst now content) (.sent true, q)
  | refreshed {q s fired} (htells : q.Tells s) (hstate : s.state = .replaying) :
      Beat (.sent fired, q) (.heartbeat s) (.refreshed, q)
  | gap {p q s} (hbehind : p.Behind) (htells : q.Tells s) (hstate : s.state = .gap) :
      Beat (p, q) (.heartbeat s) (.waiting, q.next)
  | stopping {p q s} (hdone : p = .waiting ∨ p.Behind) (htells : q.Tells s)
      (hstate : s.state = .stopping) : Beat (p, q) (.heartbeat s) (.over, q)

/-! ## The loop follows it

The loop is compared with the protocol turn by turn: where it is between two turns is a phase, and
what its heartbeats show is read off its variables. A turn writes a heartbeat or two and ends in a
phase. What is carried over from one send to the next is positive, or it is not there.
-/

/-- Where the loop is between two turns. -/
def LoopState.phase (st : LoopState F) : LoopPhase := if st.running then .waiting else .over

/-- What its heartbeats show. -/
def LoopState.shown (st : LoopState F) : Shown F := ⟨st.runCounter, st.lastPackets, st.rates⟩

/-- A heartbeat that goes out tells what the loop shows. -/
theorem tells_shown {st : LoopState F} {s : Status F} (hrun : s.run = st.runCounter)
    (hpackets : s.lastRunPackets = st.lastPackets) :
    st.shown.Tells { s with pps := st.rates.pps, mbps := st.rates.mbps } :=
  ⟨hrun, hpackets, rfl, rfl⟩

/-- A reading that counts is positive. -/
theorem positive_spec [Zero F] [LT F] [DecidableLT F] {reading : Option F} {x : F}
    (h : positive reading = some x) : 0 < x := by
  unfold positive at h
  exact of_decide_eq_true (Option.filter_eq_some_iff.mp h).2

end Protocol

section Loop

variable {F : Type} {seedFrom : UInt64 → Rng} {cfg : LoopConfig F} {readF : List Char → Option F}
  {glob : GlobMatcher} {oui : OuiDb} {times : WatchdogTimes} [FloatOps F]

/-- A new reading takes the place of the old one, or there is none. -/
theorem or_positive (reading held : Option F) :
    (positive reading).or held = held ∨ ∃ x, 0 < x ∧ (positive reading).or held = some x := by
  cases h : positive reading with
  | none => exact .inl rfl
  | some x => exact .inr ⟨x, positive_spec h, rfl⟩

/-- **What a send brings back is carried.** -/
theorem carries_sentBack (st : LoopState F) (res : Except String (ReplayResult F)) :
    st.shown.Carries (st.sentBack res).shown := by
  have hsame : st.shown.Carries st.shown := ⟨rfl, .inl rfl, .inl rfl, .inl rfl⟩
  unfold LoopState.sentBack
  cases res with
  | error err => exact hsame
  | ok r =>
    dsimp only
    split
    · refine ⟨rfl, ?_, or_positive r.pps st.rates.pps, or_positive r.mbps st.rates.mbps⟩
      show r.packets.or st.lastPackets = st.lastPackets ∨
        (r.packets.or st.lastPackets).isSome = true
      cases r.packets with
      | none => exact .inl rfl
      | some n => exact .inr rfl
    · exact hsame

/-- The send of a turn and what is written behind it, as far as the gap. -/
theorem send_beats {st st' : LoopState F} {t : Turn F} {chosen : PcapFile} {send : ToSend}
    (hrunning : st.running = true) (h : st.send cfg readF oui times t chosen send = some st') :
    ∃ new, st'.log = st.log ++ new ∧ ∃ p, Trace Beat (st.phase, st.shown) new (p, st'.shown) ∧
      (st'.running = true → p = .waiting) ∧ (st'.running = false → p = .waiting ∨ p.Behind) := by
  obtain ⟨s₀, s₁, s₂, burst, res, hlog, hs₀, hs₁, hs₂, hrun, hcounter, hpackets, hrates, -⟩ :=
    send_log h
  refine ⟨_, hlog, ?_⟩
  have hphase : st.phase = .waiting := if_pos hrunning
  -- the heartbeat and the replay
  have hcarries : st.shown.Carries ⟨st.runCounter, st'.lastPackets, st'.rates⟩ := by
    rw [hpackets, hrates]
    have hback := carries_sentBack st res
    exact ⟨rfl, hback.packets, hback.pps, hback.mbps⟩
  have hsent : Trace Beat (st.phase, st.shown) [st.shows s₀, send.output chosen st.engine]
      (.sent false, ⟨st.runCounter, st'.lastPackets, st'.rates⟩) := by
    rw [hphase]
    have hfirst := Trace.single (Beat.announced (tells_shown hs₀.2.1 hs₀.2.2) hs₀.1)
    refine hfirst.snoc ?_
    unfold ToSend.output
    split
    · exact .replay hcarries
    · split <;> exact .replay hcarries
  -- the burst, if there is one
  obtain ⟨fired, hfired⟩ : ∃ fired, Trace Beat
      (.sent false, ⟨st.runCounter, st'.lastPackets, st'.rates⟩)
      (burst.map (Output.burst t.tickNow)).toList
      (.sent fired, ⟨st.runCounter, st'.lastPackets, st'.rates⟩) := by
    cases burst with
    | none => exact ⟨false, .nil⟩
    | some content => exact ⟨true, .single .burst⟩
  -- the heartbeat once the plant has grown
  obtain ⟨p, hbehind, hrefreshed⟩ : ∃ p : LoopPhase, p.Behind ∧ Trace Beat
      (.sent fired, ⟨st.runCounter, st'.lastPackets, st'.rates⟩)
      (if st.engine.isSome then [st'.shows s₁] else [])
      (p, ⟨st.runCounter, st'.lastPackets, st'.rates⟩) := by
    split
    · exact ⟨.refreshed, .inl rfl, .single (.refreshed ⟨hs₁.2.1, hs₁.2.2, rfl, rfl⟩ hs₁.1)⟩
    · exact ⟨.sent fired, .inr ⟨fired, rfl⟩, .nil⟩
  have hall := (hsent.append hfired).append hrefreshed
  rw [List.append_assoc] at hall
  -- the gap
  cases honce : cfg.once with
  | true =>
    rw [honce, if_pos rfl] at hcounter
    rw [honce, Bool.not_true, Bool.and_false] at hrun
    refine ⟨p, ?_, fun hon => absurd (hrun.symm.trans hon) Bool.false_ne_true, fun _ => .inr hbehind⟩
    simp only [if_true, List.append_nil]
    unfold LoopState.shown at hall ⊢
    rw [hcounter]
    simpa only [List.append_assoc] using hall
  | false =>
    rw [honce, if_neg Bool.false_ne_true] at hcounter
    refine ⟨.waiting, ?_, fun _ => rfl, fun _ => .inl rfl⟩
    have hgap := hall.snoc (Beat.gap hbehind (s := { s₂ with
      pps := st'.rates.pps, mbps := st'.rates.mbps }) ⟨hs₂.2.1, hs₂.2.2, rfl, rfl⟩ hs₂.1)
    simp only [Bool.false_eq_true, if_false]
    unfold LoopState.shown at hgap ⊢
    rw [hcounter]
    simpa only [List.append_assoc, Shown.next, LoopState.shows] using hgap

/-- **One turn follows the protocol.** -/
theorem step_beats {st st' : LoopState F} {t : Turn F}
    (h : Stepped seedFrom cfg readF glob oui times st t st') :
    ∃ new, st'.log = st.log ++ new ∧
      Trace Beat (st.phase, st.shown) new (st'.phase, st'.shown) := by
  cases h with
  | stopped => exact ⟨[], (List.append_nil _).symm, .nil⟩
  | shutdown hrunning =>
    refine ⟨_, rfl, .single ?_⟩
    rw [show st.phase = .waiting from if_pos hrunning]
    exact .stopping (.inl rfl) (tells_shown rfl rfl) rfl
  | idle hrunning =>
    refine ⟨_, rfl, .single ?_⟩
    have hphase : st.phase = .waiting := if_pos hrunning
    show Beat (st.phase, st.shown) _ (st.phase, st.shown)
    rw [hphase]
    exact .idle (tells_shown rfl rfl) rfl
  | @skipped chosen why err engine file hrunning hchosen hprepare =>
    refine ⟨_, rfl, .single ?_⟩
    have hphase : st.phase = .waiting := if_pos hrunning
    show Beat (st.phase, st.shown) _ (st.phase, st.shown.next)
    rw [hphase]
    refine .skipped (tells_shown rfl rfl) ?_
    exact prepare_skipped hprepare
  | @sent chosen send engine file st' hrunning hchosen hprepare hsend =>
    have hready : ({ st with engine, file } : LoopState F).running = true := hrunning
    obtain ⟨new, hlog, p, htrace, hon, hoff⟩ := send_beats hready hsend
    split
    -- unless the loop runs once only, a turn that sends ends where the next one begins
    · next hend =>
      refine ⟨new, hlog, ?_⟩
      rw [show st'.phase = .waiting from if_pos hend, ← hon hend]
      exact htrace
    · next hend =>
      refine ⟨new ++ [st'.shows (st'.status cfg .stopping)], ?_, ?_⟩
      · rw [← List.append_assoc, ← hlog]
        rfl
      · exact htrace.snoc (.stopping (hoff (Bool.eq_false_iff.mpr hend)) (tells_shown rfl rfl) rfl)

/-- **The log of the loop follows the protocol**: behind the first heartbeat it is a trace. -/
theorem runLoop_beats (engine : Option LoopEngine) (file : LedgerFile) (turns : List (Turn F))
    (st : LoopState F)
    (hrun : runLoop seedFrom cfg readF glob oui times (.start cfg engine file) turns = some st) :
    ∃ s log, st.log = .heartbeat s :: log ∧ s.state = .starting ∧
      (⟨0, none, .new F⟩ : Shown F).Tells s ∧
      Trace Beat (.waiting, ⟨0, none, .new F⟩) log (st.phase, st.shown) := by
  have hend := runAll_preserves
    (P := fun st' : LoopState F => ∃ new,
      st'.log = (LoopState.start cfg engine file : LoopState F).log ++ new ∧
      Trace Beat (.waiting, ⟨0, none, .new F⟩) new (st'.phase, st'.shown))
    (fun st₁ t st₂ hst₁ hstep => by
      obtain ⟨new, hlog, htrace⟩ := hst₁
      obtain ⟨more, hlog', htrace'⟩ := step_beats (step_cases hstep)
      refine ⟨new ++ more, ?_, htrace.append htrace'⟩
      rw [hlog', hlog, List.append_assoc])
    ⟨[], (List.append_nil _).symm, .nil⟩ hrun
  obtain ⟨log, hlog, htrace⟩ := hend
  exact ⟨_, log, hlog, rfl, ⟨rfl, rfl, rfl, rfl⟩, htrace⟩

end Loop

/-! ## What follows

What a trace of the protocol looks like is said without the protocol: run numbers do not go back,
and what a heartbeat has shown a later one shows as well. The induction is over traces. It carries
what the phase remembers of the heartbeats so far, since a later heartbeat is compared with all the
earlier ones and not with the last alone.
-/

section History

variable {F : Type}

/-- The heartbeats of a log. -/
def beats (log : List (Output F)) : List (Status F) :=
  log.filterMap fun
    | .heartbeat s => some s
    | _ => none

/-- The replays of a log. -/
def replays (log : List (Output F)) : Nat :=
  log.countP fun
    | .replay _ _ => true
    | _ => false

/-- A heartbeat in front of another: the run does not go back, and what was known stays known. -/
structure Status.Before (s s' : Status F) : Prop where
  run : s.run ≤ s'.run
  packets : s.lastRunPackets.isSome = true → s'.lastRunPackets.isSome = true
  pps : s.pps.isSome = true → s'.pps.isSome = true
  mbps : s.mbps.isSome = true → s'.mbps.isSome = true

/-- **What the log of the loop looks like.** -/
structure History [Zero F] [LT F] (run : Nat) (log : List (Output F)) : Prop where
  ordered : (beats log).Pairwise Status.Before
  runs : ∀ s ∈ beats log, s.run ≤ run
  positive : ∀ s ∈ beats log, (∀ x, s.pps = some x → 0 < x) ∧ ∀ x, s.mbps = some x → 0 < x
  replays : replays log ≤ run + 1
  announced : ∀ before origin content behind, log = before ++ .replay origin content :: behind →
    ∃ before' s, before = before' ++ [.heartbeat s] ∧ s.state = .replaying
  last : ∀ before s behind, log = before ++ .heartbeat s :: behind → s.state = .stopping →
    behind = []

/-- What is remembered of a heartbeat. -/
structure Shown.Knows (q : Shown F) (s : Status F) : Prop where
  run : s.run ≤ q.run
  packets : s.lastRunPackets.isSome = true → q.packets.isSome = true
  pps : s.pps.isSome = true → q.rates.pps.isSome = true
  mbps : s.mbps.isSome = true → q.rates.mbps.isSome = true

theorem Shown.Tells.knows {q : Shown F} {s : Status F} (h : q.Tells s) : q.Knows s :=
  ⟨h.run.le, h.packets ▸ id, h.pps ▸ id, h.mbps ▸ id⟩

theorem Shown.Knows.before {q : Shown F} {s s' : Status F} (h : q.Knows s) (h' : q.Tells s') :
    s.Before s' :=
  ⟨h'.run ▸ h.run, h'.packets ▸ h.packets, h'.pps ▸ h.pps, h'.mbps ▸ h.mbps⟩

theorem Shown.Knows.next {q : Shown F} {s : Status F} (h : q.Knows s) : q.next.Knows s :=
  ⟨Nat.le_succ_of_le h.run, h.packets, h.pps, h.mbps⟩

@[simp] theorem replays_heartbeat (s : Status F) : replays [.heartbeat s] = 0 := rfl

@[simp] theorem replays_burst (now : UInt64) (content : Capture) :
    replays [(.burst now content : Output F)] = 0 := rfl

@[simp] theorem replays_replay (origin : Origin) (content : Except String Capture) :
    replays [(.replay origin content : Output F)] = 1 := rfl

variable [Zero F] [LT F]

/-- A carried reading is not lost. -/
theorem Shown.Knows.carries {q q' : Shown F} {s : Status F} (h : q.Knows s) (hq : q.Carries q') :
    q'.Knows s := by
  refine ⟨hq.run ▸ h.run, fun hs => ?_, fun hs => ?_, fun hs => ?_⟩
  · rcases hq.packets with heq | hsome
    · exact heq ▸ h.packets hs
    · exact hsome
  · rcases hq.pps with heq | ⟨x, -, heq⟩
    · exact heq ▸ h.pps hs
    · exact heq ▸ rfl
  · rcases hq.mbps with heq | ⟨x, -, heq⟩
    · exact heq ▸ h.mbps hs
    · exact heq ▸ rfl

/-- What is known of a heartbeat stays known. -/
theorem Shown.Knows.beat {q : LoopPhase × Shown F} {q' : LoopPhase × Shown F} {o : Output F}
    {s : Status F} (h : q.2.Knows s) (hbeat : Beat q o q') : q'.2.Knows s := by
  cases hbeat with
  | skipped => exact h.next
  | gap => exact h.next
  | replay hcarries => exact h.carries hcarries
  | _ => exact h

/-- A heartbeat tells what is known, and it is known from then on. -/
theorem Beat.tells {q q' : LoopPhase × Shown F} {s : Status F} (h : Beat q (.heartbeat s) q') :
    q.2.Tells s := by
  cases h <;> assumption

/-- Nothing follows the end. -/
theorem Beat.not_over {q : Shown F} {q' : LoopPhase × Shown F} {o : Output F} :
    ¬ Beat (.over, q) o q' := by
  intro h
  have hbehind : ¬ LoopPhase.over.Behind := by
    rintro (hover | ⟨fired, hover⟩) <;> cases hover
  cases h with
  | gap h => exact hbehind h
  | stopping h =>
    rcases h with hover | h
    · cases hover
    · exact hbehind h

/-- The rates that are held are positive. -/
def Shown.Positive (q : Shown F) : Prop :=
  (∀ x, q.rates.pps = some x → 0 < x) ∧ ∀ x, q.rates.mbps = some x → 0 < x

theorem Shown.Positive.beat {q q' : LoopPhase × Shown F} {o : Output F} (h : q.2.Positive)
    (hbeat : Beat q o q') : q'.2.Positive := by
  cases hbeat with
  | replay hcarries =>
    refine ⟨fun x hx => ?_, fun x hx => ?_⟩
    · rcases hcarries.pps with heq | ⟨y, hy, heq⟩
      · exact h.1 x (heq ▸ hx)
      · exact Option.some.inj (heq.symm.trans hx) ▸ hy
    · rcases hcarries.mbps with heq | ⟨y, hy, heq⟩
      · exact h.2 x (heq ▸ hx)
      · exact Option.some.inj (heq.symm.trans hx) ▸ hy
  | _ => exact h

/-- The sends of the present run. -/
def LoopPhase.sends : LoopPhase → Nat
  | .waiting => 0
  | .announced => 0
  | _ => 1

theorem LoopPhase.sends_le (p : LoopPhase) : p.sends ≤ 1 := by
  cases p <;> simp [LoopPhase.sends]

theorem LoopPhase.Behind.sends {p : LoopPhase} (h : p.Behind) : p.sends = 1 := by
  rcases h with rfl | ⟨fired, rfl⟩ <;> rfl

/-- Every run sends once at most. -/
theorem replays_le {q q' : LoopPhase × Shown F} {log : List (Output F)}
    (h : Trace Beat q log q') (hstart : q.1.sends = 0) :
    replays log + q.2.run ≤ q'.2.run + q'.1.sends := by
  induction h with
  | nil => simp [replays, hstart]
  | @snoc log o q₁ q₂ h hbeat ih =>
    have hcount : replays (log ++ [o]) = replays log + replays [o] := List.countP_append
    rw [hcount]
    -- only the replay counts on the left; a heartbeat with a new run number takes it over on the
    -- right
    cases hbeat with
    | replay hcarries =>
      have hrun := hcarries.run
      simp only [replays_replay, LoopPhase.sends] at ih ⊢
      omega
    | gap hbehind =>
      have hsends := hbehind.sends
      simp only [replays_heartbeat, Shown.next] at ih ⊢
      rw [show LoopPhase.waiting.sends = 0 from rfl]
      omega
    | @stopping p q s hdone =>
      have hsends := p.sends_le
      simp only [replays_heartbeat] at ih ⊢
      rw [show LoopPhase.over.sends = 1 from rfl]
      omega
    | _ =>
      simp only [replays_heartbeat, replays_burst, Shown.next, LoopPhase.sends] at ih ⊢
      omega

/-- **What every trace of the protocol looks like**, behind its first heartbeat. -/
theorem history_of_trace {p : LoopPhase} {q : Shown F} {s : Status F} {log : List (Output F)}
    (hstarting : s.state = .starting) (htells : (⟨0, none, .new F⟩ : Shown F).Tells s)
    (h : Trace Beat (.waiting, ⟨0, none, .new F⟩) log (p, q)) :
    History q.run (.heartbeat s :: log) := by
  have hknown := Trace.pairwise (Q := fun (o : Output F) (q : LoopPhase × Shown F) =>
      ∀ s, o = .heartbeat s → q.2.Knows s)
    (R := fun o o' => ∀ s s', o = .heartbeat s → o' = .heartbeat s' → s.Before s')
    (fun q₁ o q₂ hbeat s hs => by
      subst hs
      exact hbeat.tells.knows.beat hbeat)
    (fun o q₁ o' q₂ hq hbeat s hs => (hq s hs).beat hbeat)
    (fun o q₁ o' q₂ hq hbeat s s' hs hs' => by
      subst hs'
      exact (hq s hs).before hbeat.tells) h
  have hbeats : ∀ s' ∈ beats log, .heartbeat s' ∈ log := by
    intro s' hs'
    obtain ⟨o, ho, hbeat⟩ := List.mem_filterMap.mp hs'
    cases o with
    | heartbeat s'' =>
      obtain rfl := Option.some.inj hbeat
      exact ho
    | replay => cases hbeat
    | burst => cases hbeat
  -- the first heartbeat knows nothing yet
  have hfirst : ∀ s' : Status F, s.Before s' := by
    intro s'
    refine ⟨htells.run ▸ Nat.zero_le _, fun hs => ?_, fun hs => ?_, fun hs => ?_⟩
    · rw [htells.packets] at hs
      cases hs
    · rw [htells.pps] at hs
      cases hs
    · rw [htells.mbps] at hs
      cases hs
  refine ⟨?_, ?_, ?_, ?_, ?_, ?_⟩
  · refine List.pairwise_cons.mpr ⟨fun s' _ => hfirst s', ?_⟩
    refine hknown.1.filterMap _ fun o o' hrel s₁ hs₁ s₂ hs₂ => ?_
    cases o with
    | heartbeat =>
      cases o' with
      | heartbeat => exact hrel _ _ (congrArg _ (Option.some.inj hs₁)) (congrArg _ (Option.some.inj hs₂))
      | replay => cases hs₂
      | burst => cases hs₂
    | replay => cases hs₁
    | burst => cases hs₁
  · intro s' hs'
    rcases List.mem_cons.mp hs' with rfl | hs'
    · exact htells.run ▸ Nat.zero_le _
    · exact (hknown.2 _ (hbeats s' hs') s' rfl).run
  · intro s' hs'
    rcases List.mem_cons.mp hs' with rfl | hs'
    · refine ⟨fun x hx => ?_, fun x hx => ?_⟩
      · cases htells.pps.symm.trans hx
      · cases htells.mbps.symm.trans hx
    · obtain ⟨before, q₁, q₂, hbefore, hbeat⟩ := h.of_mem (hbeats s' hs')
      have hpositive : q₁.2.Positive := Trace.invariant (P := fun q => q.2.Positive)
        (fun q₁ o q₂ hq hbeat => hq.beat hbeat) ⟨nofun, nofun⟩ hbefore
      refine ⟨fun x hx => hpositive.1 x ?_, fun x hx => hpositive.2 x ?_⟩
      · exact hbeat.tells.pps.symm.trans hx
      · exact hbeat.tells.mbps.symm.trans hx
  · have hle := replays_le h rfl
    have hsends := p.sends_le
    show replays log ≤ q.run + 1
    dsimp only at hle
    omega
  · intro before origin content behind heq
    cases before with
    | nil => cases (List.cons.inj heq).1
    | cons o before =>
      rw [List.cons_append] at heq
      obtain ⟨rfl, hlog⟩ := List.cons.inj heq
      rw [hlog, ← List.singleton_append, ← List.append_assoc] at h
      obtain ⟨q₂, hleft, -⟩ := h.split
      obtain ⟨q₁, hbefore, hbeat⟩ := hleft.last
      -- only a heartbeat that says so leads to a replay
      rcases List.eq_nil_or_concat before with rfl | ⟨before', o', rfl⟩
      · rw [hbefore.eq_of_nil] at hbeat
        cases hbeat
      · rw [List.concat_eq_append] at hbefore ⊢
        obtain ⟨q₀, -, hlast⟩ := hbefore.last
        cases hbeat
        cases hlast with
        | announced htells' hstate => exact ⟨.heartbeat s :: before', _, rfl, hstate⟩
  · intro before s' behind heq hstate
    cases before with
    | nil =>
      obtain ⟨hs, -⟩ := List.cons.inj heq
      obtain rfl := Output.heartbeat.inj hs
      cases hstarting.symm.trans hstate
    | cons o before =>
      rw [List.cons_append] at heq
      obtain ⟨rfl, hlog⟩ := List.cons.inj heq
      rw [hlog, ← List.singleton_append, ← List.append_assoc] at h
      obtain ⟨q₂, hleft, hright⟩ := h.split
      obtain ⟨q₁, hbefore, hbeat⟩ := hleft.last
      -- nothing follows the last heartbeat
      cases hbeat with
      | stopping => exact (hright.eq_nil fun o q => Beat.not_over).1
      | idle htells' hidle => cases hidle.symm.trans hstate
      | skipped htells' hskipped =>
        rcases hskipped with hskipped | hskipped <;> cases hskipped.symm.trans hstate
      | announced htells' hreplaying => cases hreplaying.symm.trans hstate
      | refreshed htells' hreplaying => cases hreplaying.symm.trans hstate
      | gap hbehind htells' hgap => cases hgap.symm.trans hstate

end History

end TurboLaser
