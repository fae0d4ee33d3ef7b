import TurboLaser.Run.Loop
import TurboLaser.Simulate.RemapCache
import TurboLaser.Threat.Floor

/-!
# What the loop does to the engine

Between two turns the engine changes by its three calls only, and a turn makes each of them at most
once: a remap of the capture it chose, a promotion at its clock, and a tick. So a run of the loop is
a run of the daemon's calls, and what every call keeps holds throughout the loop.

This is the refinement on which the results about whole runs of the daemon rest. Invariants of the
ledger, the cache and the scheduler are proved against the calls, in any order; here it is shown
that the loop offers nothing but calls. The log is followed along with the engine: which heartbeat
shows which ledger, which send belongs to which capture, and which burst to which tick.

- `Stepped`: **the ways one turn can go**, as an inversion of `LoopState.step` with everything that
  a later proof may ask; `step_cases` is the only proof that unfolds the turn;
- `CallsMade`: the engine and its file, before and behind some calls; `CallsMade.invariant`, the
  rule to use it with;
- `step_calls`, `runLoop_calls`: **the loop refines the calls.**
-/

namespace TurboLaser

open Lib Scenario

/-! ## The calls -/

section Calls

variable {F : Type} {seedFrom : UInt64 → Rng} {cfg : LoopConfig F}

/-- A turn at a run may make this call. -/
inductive Turn.Makes (cfg : LoopConfig F) (t : Turn F) (run : Nat) : DaemonCall → Prop
  | remap {chosen} (hchosen : chosen ∈ t.files) :
      Turn.Makes cfg t run (.remap cfg.toConfig chosen.toSource t.order t.evicted t.remapIo)
  | promote (content) : Turn.Makes cfg t run (.promote content t.promoteNow t.promoteIo)
  | redTick : Turn.Makes cfg t run (.redTick run t.tickIo)

/-- **The engine and the ledger file, before and behind some calls.** In green laser there is no
engine, and no call. -/
def CallsMade (seedFrom : UInt64 → Rng) (made : DaemonCall → Prop) (e : Option LoopEngine)
    (file : LedgerFile) (e' : Option LoopEngine) (file' : LedgerFile) : Prop :=
  match e, e' with
  | none, none => file' = file
  | some d, some d' => ∃ calls, (∀ c ∈ calls, made c) ∧
      runAll (DaemonCall.apply seedFrom) (d.toDaemonEngine, file) calls =
        some (d'.toDaemonEngine, file')
  | _, _ => False

variable {made made' : DaemonCall → Prop} {e e' e'' : Option LoopEngine}
  {file file' file'' : LedgerFile}

theorem CallsMade.refl (e : Option LoopEngine) (file : LedgerFile) :
    CallsMade seedFrom made e file e file := by
  cases e with
  | none => rfl
  | some e => exact ⟨[], fun c hc => absurd hc List.not_mem_nil, rfl⟩

theorem CallsMade.trans (h : CallsMade seedFrom made e file e' file')
    (h' : CallsMade seedFrom made e' file' e'' file'') :
    CallsMade seedFrom made e file e'' file'' := by
  cases e with
  | none =>
    cases e' with
    | none => exact (show file' = file from h) ▸ h'
    | some d' => exact h.elim
  | some d =>
    cases e' with
    | none => exact h.elim
    | some d' =>
      cases e'' with
      | none => exact h'.elim
      | some d'' =>
        obtain ⟨calls, hmade, hrun⟩ := h
        obtain ⟨calls', hmade', hrun'⟩ := h'
        refine ⟨calls ++ calls', fun c hc => ?_, ?_⟩
        · exact (List.mem_append.mp hc).elim (hmade c) (hmade' c)
        · rw [runAll_append, hrun]
          exact hrun'

theorem CallsMade.mono (himp : ∀ c, made c → made' c) (h : CallsMade seedFrom made e file e' file') :
    CallsMade seedFrom made' e file e' file' := by
  cases e with
  | none =>
    cases e' with
    | none => exact h
    | some d' => exact h.elim
  | some d =>
    cases e' with
    | none => exact h.elim
    | some d' =>
      obtain ⟨calls, hmade, hrun⟩ := h
      exact ⟨calls, fun c hc => himp c (hmade c hc), hrun⟩

/-- One call, whatever it does to the burst fields. -/
theorem CallsMade.one {d d' : LoopEngine} {c : DaemonCall} (hmade : made c)
    (happly : c.apply seedFrom (d.toDaemonEngine, file) = some (d'.toDaemonEngine, file')) :
    CallsMade seedFrom made (some d) file (some d') file' := by
  refine ⟨[c], fun c' hc' => List.mem_singleton.mp hc' ▸ hmade, ?_⟩
  rw [runAll_cons [] happly]
  rfl

/-- **The rule of the calls**: what each of them keeps is kept. -/
theorem CallsMade.invariant {P : DaemonEngine → LedgerFile → Prop}
    (hcall : ∀ d file c d' file', P d file → made c →
      c.apply seedFrom (d, file) = some (d', file') → P d' file')
    {d d' : LoopEngine} (h : CallsMade seedFrom made (some d) file (some d') file')
    (hstart : P d.toDaemonEngine file) : P d'.toDaemonEngine file' := by
  obtain ⟨calls, hmade, hrun⟩ := h
  have hguard : EveryStep (DaemonCall.apply seedFrom) (fun _ c => made c) (d.toDaemonEngine, file)
      calls := everyStep_of_forall (fun _ c hc => hmade c hc) _
  exact runAll_invariant (P := fun st => P st.1 st.2)
    (fun st c st' hst hc happly => hcall st.1 st.2 c st'.1 st'.2 hst hc happly) hstart hguard hrun

end Calls

/-! ## The tick and its burst -/

theorem burstFrames_daemon {e e' : LoopEngine} {run : Nat} {now : UInt64} {frames : List Synth.Frame}
    (h : e.burstFrames run now = some (frames, e')) : e'.toDaemonEngine = e.toDaemonEngine := by
  unfold LoopEngine.burstFrames at h
  dsimp only at h
  split at h
  · obtain ⟨-, rfl⟩ := Prod.mk.inj (Option.some.inj h)
    rfl
  · split at h
    · cases h
    · obtain ⟨-, rfl⟩ := Prod.mk.inj (Option.some.inj h)
      rfl

/-- **The tick of the loop is that of the daemon**, with a burst. -/
theorem LoopEngine.redTick_daemon {e e' : LoopEngine} {run : Nat} {now : UInt64} {io : Io}
    {file file' : LedgerFile} {burst : Option Capture}
    (h : e.redTick run now io file = some (burst, e', file')) :
    e.toDaemonEngine.redTick run io file = some (e'.toDaemonEngine, file') := by
  unfold LoopEngine.redTick at h
  unfold DaemonEngine.redTick
  split at h
  · next hon =>
    rw [if_pos hon]
    generalize e.toDaemonEngine.growPlant = grows at h ⊢
    cases grows with
    | none => cases h
    | some out =>
      obtain ⟨grown, added, simRng⟩ := out
      dsimp only at h ⊢
      split at h
      · cases h
      · next frames announced hframes =>
        -- to render a burst changes nothing that belongs to the daemon
        have hdaemon : announced.toDaemonEngine = e.ticked run grown added simRng := by
          split at hframes
          · exact burstFrames_daemon hframes
          · cases hframes
            rfl
        rw [hdaemon] at h
        cases h
        rfl
  · next hoff =>
    rw [if_neg hoff]
    cases h
    rfl

/-! ## The parts of a turn -/

section Parts

variable {F : Type} {seedFrom : UInt64 → Rng} {cfg : LoopConfig F} {t : Turn F}
  {chosen : PcapFile} {engine engine' : Option LoopEngine} {file file' : LedgerFile}

/-- The remap of a turn is one call, or none. -/
theorem remapTurn_calls (run : Nat) (hchosen : chosen ∈ t.files)
    {r : Except String (Option CacheKey × Option UInt64)}
    (h : remapTurn seedFrom cfg t chosen engine file = some (r, engine', file')) :
    CallsMade seedFrom (t.Makes cfg run) engine file engine' file' := by
  unfold remapTurn at h
  split at h
  · cases h
    exact .refl none _
  · next e =>
    split at h
    · -- whether it succeeded or not, the engine is that of the call
      have hcall : ∀ {r d file'}, e.remapIntoSession seedFrom cfg.toConfig chosen.toSource t.order
          t.evicted t.remapIo file = some (r, d, file') →
          CallsMade seedFrom (t.Makes cfg run) (some e) file (some (e.withDaemon d)) file' := by
        intro r d file' hremap
        refine .one (.remap hchosen) ?_
        rw [DaemonCall.apply, hremap]
        rfl
      split at h
      · cases h
      · next hremap =>
        obtain ⟨-, h⟩ := Prod.mk.inj (Option.some.inj h)
        obtain ⟨rfl, rfl⟩ := Prod.mk.inj h
        exact hcall hremap
      · next hremap =>
        obtain ⟨-, h⟩ := Prod.mk.inj (Option.some.inj h)
        obtain ⟨rfl, rfl⟩ := Prod.mk.inj h
        exact hcall hremap
    · obtain ⟨-, h⟩ := Prod.mk.inj (Option.some.inj h)
      obtain ⟨rfl, rfl⟩ := Prod.mk.inj h
      exact .refl _ _

/-- The promotion of a turn is one call, or none. -/
theorem promoteTurn_calls (run : Nat) {content : Except String Capture} {promoted : Option Capture}
    (h : promoteTurn t content engine file = some (promoted, engine', file')) :
    CallsMade seedFrom (t.Makes cfg run) engine file engine' file' := by
  unfold promoteTurn at h
  split at h
  · cases h
    exact .refl none _
  · next e =>
    split at h
    · cases h
    · next hpromote =>
      obtain ⟨-, h⟩ := Prod.mk.inj (Option.some.inj h)
      obtain ⟨rfl, rfl⟩ := Prod.mk.inj h
      refine .one (.promote content) ?_
      rw [DaemonCall.apply, hpromote]
      rfl

theorem prepare_calls (run : Nat) (hchosen : chosen ∈ t.files) {p : Prepared}
    (h : prepare seedFrom cfg t chosen engine file = some (p, engine', file')) :
    CallsMade seedFrom (t.Makes cfg run) engine file engine' file' := by
  unfold prepare at h
  split at h
  · cases h
  · next hremap =>
    obtain ⟨-, h⟩ := Prod.mk.inj (Option.some.inj h)
    obtain ⟨rfl, rfl⟩ := Prod.mk.inj h
    exact remapTurn_calls run hchosen hremap
  · next hremap =>
    split at h
    · cases h
    · next hpromote =>
      have hboth := (remapTurn_calls run hchosen hremap).trans (promoteTurn_calls run hpromote)
      split at h
      · obtain ⟨-, h⟩ := Prod.mk.inj (Option.some.inj h)
        obtain ⟨rfl, rfl⟩ := Prod.mk.inj h
        exact hboth
      · obtain ⟨-, h⟩ := Prod.mk.inj (Option.some.inj h)
        obtain ⟨rfl, rfl⟩ := Prod.mk.inj h
        exact hboth

/-- A capture is skipped for one of two reasons. -/
theorem prepare_skipped {why : Activity} {err : Option String}
    (h : prepare seedFrom cfg t chosen engine file = some (.skipped why err, engine', file')) :
    why = .skippedRemapFailed ∨ why = .skippedPublicSource := by
  unfold prepare at h
  split at h
  · cases h
  · exact .inl (Prepared.skipped.inj (Prod.mk.inj (Option.some.inj h)).1).1.symm
  · split at h
    · cases h
    · split at h
      · exact .inr (Prepared.skipped.inj (Prod.mk.inj (Option.some.inj h)).1).1.symm
      · exact absurd (Prod.mk.inj (Option.some.inj h)).1 Prepared.noConfusion

end Parts

/-! ## The heartbeats of a turn -/

section Heartbeats

variable {F : Type} (cfg : LoopConfig F) (oui : OuiDb) (times : WatchdogTimes) (t : Turn F)

/-- The end of a turn calls nothing. -/
theorem endTurn_frame (st : LoopState F) (chosen : PcapFile) (s : Status F) :
    (st.endTurn cfg oui times t chosen s).engine = st.engine ∧
      (st.endTurn cfg oui times t chosen s).file = st.file := by
  unfold LoopState.endTurn LoopState.write
  dsimp only
  split <;> split <;> exact ⟨rfl, rfl⟩

/-- The plant is filled into the heartbeat, over nothing a turn decided. -/
theorem applySimStatus_frame (order : HashOrder) (engine : Option LoopEngine) (chosen : PcapFile)
    (s : Status F) :
    (applySimStatus cfg oui order engine chosen s).state = s.state ∧
      (applySimStatus cfg oui order engine chosen s).run = s.run ∧
      (applySimStatus cfg oui order engine chosen s).lastRunPackets = s.lastRunPackets := by
  unfold applySimStatus LoopEngine.fill
  dsimp only
  split
  · split <;> exact ⟨rfl, rfl, rfl⟩
  · split <;> exact ⟨rfl, rfl, rfl⟩

/-- **What a heartbeat shows of a plant.** -/
structure Status.Pictures (s : Status F) (ledger : Session) : Prop where
  devices : s.deviceCount = ledger.devices.length
  hosts : s.captureHostCount = ledger.captureHosts.length
  total : s.totalWireAssets = ledger.totalWireAssets
  zones : s.zones = ledger.subnets.map ledger.statusZone
  zoneCount : s.zoneCount = ledger.subnets.length
  sealed : s.sealed = ledger.sealed
  cycle : s.cycle = ledger.cycle

/-- In red laser the plant is that of the engine. -/
theorem applySimStatus_pictures (hmode : cfg.mode = .redLaser) (order : HashOrder) (e : LoopEngine)
    (chosen : PcapFile) (s : Status F) :
    (applySimStatus cfg oui order (some e) chosen s).Pictures e.core.ledger := by
  unfold applySimStatus
  rw [hmode]
  exact ⟨rfl, rfl, rfl, rfl, rfl, rfl, rfl⟩

/-- A heartbeat with the rates that are held. -/
def LoopState.shows (st : LoopState F) (s : Status F) : Output F :=
  .heartbeat { s with pps := st.rates.pps, mbps := st.rates.mbps }

/-- **The end of a turn**: with an engine the heartbeat is written again, and unless the loop runs
once the gap is. -/
theorem endTurn_log (st : LoopState F) (chosen : PcapFile) (s : Status F) :
    ∃ s₁ s₂ : Status F,
      (st.endTurn cfg oui times t chosen s).log = st.log ++
        ((if st.engine.isSome then [st.shows s₁] else []) ++
          if cfg.once then [] else [st.shows s₂]) ∧
      (s₁.state = s.state ∧ s₁.run = s.run ∧ s₁.lastRunPackets = s.lastRunPackets) ∧
      (s₂.state = .gap ∧ s₂.run = s.run ∧ s₂.lastRunPackets = s.lastRunPackets) ∧
      (cfg.mode = .redLaser → ∀ e, st.engine = some e →
        s₁.Pictures e.core.ledger ∧ s₂.Pictures e.core.ledger) := by
  have hfill := applySimStatus_frame cfg oui t.order st.engine chosen s
  refine ⟨applySimStatus cfg oui t.order st.engine chosen s,
    { if st.engine.isSome then applySimStatus cfg oui t.order st.engine chosen s else s with
      state := .gap, nextGapSecs := some t.gap }, ?_, hfill, ⟨rfl, ?_⟩, fun hmode e he => ?_⟩
  · unfold LoopState.endTurn LoopState.write LoopState.shows
    dsimp only
    split <;> split <;> simp
  · dsimp only
    split
    · exact hfill.2
    · exact ⟨rfl, rfl⟩
  · rw [he, Option.isSome_some, if_pos rfl]
    have hpictures := applySimStatus_pictures cfg oui hmode t.order e chosen s
    exact ⟨hpictures, { hpictures with }⟩

/-- What the end of a turn leaves of the variables. -/
theorem endTurn_variables (st : LoopState F) (chosen : PcapFile) (s : Status F) :
    (st.endTurn cfg oui times t chosen s).running = (st.running && !cfg.once) ∧
      (st.endTurn cfg oui times t chosen s).runCounter =
        (if cfg.once then st.runCounter else st.runCounter + 1) ∧
      (st.endTurn cfg oui times t chosen s).lastPackets = st.lastPackets ∧
      (st.endTurn cfg oui times t chosen s).rates = st.rates := by
  unfold LoopState.endTurn LoopState.write
  dsimp only
  cases cfg.once with
  | false => cases st.engine <;> exact ⟨(Bool.and_true _).symm, rfl, rfl, rfl⟩
  | true => cases st.engine <;> exact ⟨(Bool.and_false _).symm, rfl, rfl, rfl⟩

/-- The heartbeat of a send, before and behind it. -/
theorem replayStatus_frame (st : LoopState F) (chosen : PcapFile) (send : ToSend) :
    (st.replayStatus cfg oui t chosen send).state = .replaying ∧
      (st.replayStatus cfg oui t chosen send).run = st.runCounter ∧
      (st.replayStatus cfg oui t chosen send).lastRunPackets = st.lastPackets :=
  applySimStatus_frame _ _ _ _ _ _

theorem Status.sentBack_frame (s : Status F) (lastPackets : Option Nat)
    (res : Except String (ReplayResult F)) :
    (s.sentBack lastPackets res).state = s.state ∧ (s.sentBack lastPackets res).run = s.run := by
  unfold Status.sentBack
  split
  · split <;> exact ⟨rfl, rfl⟩
  · exact ⟨rfl, rfl⟩

end Heartbeats

/-! ## One turn

A turn ends in one of a few ways: it stops, it skips for want of a file, or it sends. `Stepped`
lists them with what each leaves of the engine, of the ledger file and of the log, and `step_cases`
is the only place where the step is unfolded. Everything later about runs goes by cases on
`Stepped`.
-/

section Turns

variable {F : Type} {seedFrom : UInt64 → Rng} {cfg : LoopConfig F} {readF : List Char → Option F}
  {glob : GlobMatcher} {oui : OuiDb} {times : WatchdogTimes} {st st' : LoopState F} {t : Turn F}

/-- Two states of the loop with some calls between them. -/
def LoopState.CallsTo (seedFrom : UInt64 → Rng) (made : DaemonCall → Prop) (st st' : LoopState F) :
    Prop :=
  CallsMade seedFrom made st.engine st.file st'.engine st'.file

variable [FloatOps F]

/-- A send goes out between two heartbeats, and calls nothing. -/
theorem replayTurn_cases {chosen : PcapFile} {send : ToSend} {s : Status F}
    (h : st.replayTurn cfg readF oui times t chosen send = some (st', s)) :
    ∃ res watchdog, runOnce readF times t.replay st.watchdog = some (res, watchdog) ∧
      st' = ({ st.write (st.replayStatus cfg oui t chosen send) with
        watchdog
        log := (st.write (st.replayStatus cfg oui t chosen send)).log ++
          [send.output chosen st.engine] } : LoopState F).sentBack res ∧
      s = (st.replayStatus cfg oui t chosen send).sentBack st'.lastPackets res := by
  unfold LoopState.replayTurn at h
  dsimp only at h
  split at h
  · cases h
  · next res watchdog hrun =>
    obtain ⟨rfl, rfl⟩ := Prod.mk.inj (Option.some.inj h)
    exact ⟨res, watchdog, hrun, rfl, rfl⟩

/-- What a send brings back is a count and a rate. -/
theorem sentBack_frame (st : LoopState F) (res : Except String (ReplayResult F)) :
    (st.sentBack res).engine = st.engine ∧ (st.sentBack res).file = st.file ∧
      (st.sentBack res).log = st.log ∧ (st.sentBack res).runCounter = st.runCounter ∧
      (st.sentBack res).running = st.running := by
  unfold LoopState.sentBack
  split
  · split <;> exact ⟨rfl, rfl, rfl, rfl, rfl⟩
  · exact ⟨rfl, rfl, rfl, rfl, rfl⟩

/-- **A burst**: a tick, and the burst it made in the log. -/
theorem burstTurn_cases (h : st.burstTurn readF times t = some st') :
    st.engine = none ∧ st' = st ∨
    ∃ e burst e' file watchdog, st.engine = some e ∧
      e.redTick st.runCounter t.tickNow t.tickIo st.file = some (burst, e', file) ∧
      st' = { st with
        engine := some e', file, watchdog
        log := st.log ++ (burst.map (Output.burst t.tickNow)).toList } := by
  unfold LoopState.burstTurn at h
  split at h
  · next hengine => exact .inl ⟨hengine, (Option.some.inj h).symm⟩
  · next e hengine =>
    split at h
    · cases h
    · next e' file htick =>
      refine .inr ⟨e, none, e', file, st.watchdog, hengine, htick, ?_⟩
      rw [← Option.some.inj h]
      simp
    · next burst e' file htick =>
      split at h
      · cases h
      · next watchdog hrun =>
        exact .inr ⟨e, some burst, e', file, watchdog, hengine, htick, (Option.some.inj h).symm⟩

theorem burstTurn_calls (h : st.burstTurn readF times t = some st') :
    st.CallsTo seedFrom (t.Makes cfg st.runCounter) st' := by
  rcases burstTurn_cases h with ⟨hengine, rfl⟩ | ⟨e, burst, e', file, watchdog, hengine, htick, rfl⟩
  · exact .refl _ _
  · unfold LoopState.CallsTo
    rw [hengine]
    exact .one .redTick (LoopEngine.redTick_daemon htick)

theorem send_cases {chosen : PcapFile} {send : ToSend}
    (h : st.send cfg readF oui times t chosen send = some st') :
    ∃ st₁ s st₂, st.replayTurn cfg readF oui times t chosen send = some (st₁, s) ∧
      st₁.burstTurn readF times t = some st₂ ∧ st' = st₂.endTurn cfg oui times t chosen s := by
  unfold LoopState.send at h
  split at h
  · cases h
  · next st₁ s hreplay =>
    obtain ⟨st₂, hburst, rfl⟩ := Option.map_eq_some_iff.mp h
    exact ⟨st₁, s, st₂, hreplay, hburst, rfl⟩

theorem send_calls {chosen : PcapFile} {send : ToSend}
    (h : st.send cfg readF oui times t chosen send = some st') :
    st.CallsTo seedFrom (t.Makes cfg st.runCounter) st' := by
  obtain ⟨st₁, s, st₂, hreplay, hburst, rfl⟩ := send_cases h
  obtain ⟨hengine, hfile⟩ := endTurn_frame cfg oui times t st₂ chosen s
  have hcalls : st₁.CallsTo seedFrom (t.Makes cfg st₁.runCounter) st₂ := burstTurn_calls hburst
  obtain ⟨res, watchdog, -, rfl, -⟩ := replayTurn_cases hreplay
  unfold LoopState.CallsTo at hcalls ⊢
  rw [hengine, hfile]
  obtain ⟨hengine', hfile', -, hrun, -⟩ := sentBack_frame
    ({ st.write (st.replayStatus cfg oui t chosen send) with
      watchdog
      log := (st.write (st.replayStatus cfg oui t chosen send)).log ++
        [send.output chosen st.engine] } : LoopState F) res
  rwa [hengine', hfile', hrun] at hcalls

/-- A heartbeat that was right before a send is right behind it. -/
theorem Status.sentBack_packets {s : Status F} {st : LoopState F}
    (h : s.lastRunPackets = st.lastPackets) (res : Except String (ReplayResult F)) :
    (s.sentBack (st.sentBack res).lastPackets res).lastRunPackets = (st.sentBack res).lastPackets := by
  unfold Status.sentBack LoopState.sentBack
  cases res with
  | error err => exact h
  | ok r =>
    dsimp only
    split
    · rfl
    · exact h

/-- The engine of a turn ticks, if there is one, and this is its burst. -/
def TickedBy (t : Turn F) (st : LoopState F) (burst : Option Capture) (engine : Option LoopEngine) :
    Prop :=
  (st.engine = none ∧ burst = none ∧ engine = none) ∨
    ∃ e e' file, st.engine = some e ∧
      e.redTick st.runCounter t.tickNow t.tickIo st.file = some (burst, e', file) ∧ engine = some e'

/-- **The log of a send**: the heartbeat and the replay, the burst if there is one, and the end of
the turn. -/
theorem send_log {chosen : PcapFile} {send : ToSend}
    (h : st.send cfg readF oui times t chosen send = some st') :
    ∃ (s₀ s₁ s₂ : Status F) (burst : Option Capture) (res : Except String (ReplayResult F)),
      st'.log = st.log ++ ([st.shows s₀, send.output chosen st.engine] ++
        (burst.map (Output.burst t.tickNow)).toList ++
        ((if st.engine.isSome then [st'.shows s₁] else []) ++
          if cfg.once then [] else [st'.shows s₂])) ∧
      (s₀.state = .replaying ∧ s₀.run = st.runCounter ∧ s₀.lastRunPackets = st.lastPackets) ∧
      (s₁.state = .replaying ∧ s₁.run = st.runCounter ∧ s₁.lastRunPackets = st'.lastPackets) ∧
      (s₂.state = .gap ∧ s₂.run = st.runCounter ∧ s₂.lastRunPackets = st'.lastPackets) ∧
      st'.running = (st.running && !cfg.once) ∧
      st'.runCounter = (if cfg.once then st.runCounter else st.runCounter + 1) ∧
      st'.lastPackets = (st.sentBack res).lastPackets ∧ st'.rates = (st.sentBack res).rates ∧
      TickedBy t st burst st'.engine ∧
      (cfg.mode = .redLaser → (∀ e, st.engine = some e → s₀.Pictures e.core.ledger) ∧
        ∀ e, st'.engine = some e → s₁.Pictures e.core.ledger ∧ s₂.Pictures e.core.ledger) := by
  obtain ⟨st₁, s, st₂, hreplay, hburst, rfl⟩ := send_cases h
  obtain ⟨res, watchdog, -, hst₁, hs⟩ := replayTurn_cases hreplay
  -- the burst leaves the variables alone
  have hburst' : st₂.engine.isSome = st₁.engine.isSome ∧ st₂.running = st₁.running ∧
      st₂.runCounter = st₁.runCounter ∧ st₂.lastPackets = st₁.lastPackets ∧
      st₂.rates = st₁.rates ∧
      ∃ burst : Option Capture, TickedBy t st₁ burst st₂.engine ∧
        st₂.log = st₁.log ++ (burst.map (Output.burst t.tickNow)).toList := by
    rcases burstTurn_cases hburst with ⟨hnone, rfl⟩ | ⟨e, burst, e', file, watchdog, he, htick, rfl⟩
    · exact ⟨rfl, rfl, rfl, rfl, rfl, none, .inl ⟨hnone, rfl, hnone⟩, (List.append_nil _).symm⟩
    · exact ⟨by rw [he]; rfl, rfl, rfl, rfl, rfl, burst, .inr ⟨e, e', file, he, htick, rfl⟩, rfl⟩
  obtain ⟨hengine₂, hrunning₂, hrun₂, hpackets₂, hrates₂, burst, hticked, hlog₂⟩ := hburst'
  have hframe := replayStatus_frame cfg oui t st chosen send
  -- so does the send, but for what it brings back
  have hsent : st₁.engine = st.engine ∧ st₁.file = st.file ∧ st₁.running = st.running ∧
      st₁.runCounter = st.runCounter ∧ st₁.lastPackets = (st.sentBack res).lastPackets ∧ st₁.rates = (st.sentBack res).rates ∧
      st₁.log = st.log ++ [st.shows (st.replayStatus cfg oui t chosen send),
        send.output chosen st.engine] := by
    subst hst₁
    obtain ⟨hengine, hfile, hlog, hrun, hrunning⟩ := sentBack_frame
      ({ st.write (st.replayStatus cfg oui t chosen send) with
        watchdog
        log := (st.write (st.replayStatus cfg oui t chosen send)).log ++
          [send.output chosen st.engine] } : LoopState F) res
    rw [hengine, hfile, hlog, hrun, hrunning]
    refine ⟨rfl, rfl, rfl, rfl, ?_, ?_, List.append_assoc _ _ _⟩
    · unfold LoopState.sentBack
      split
      · split <;> rfl
      · rfl
    · unfold LoopState.sentBack
      split
      · split <;> rfl
      · rfl
  obtain ⟨hengine₁, hfile₁, hrunning₁, hrun₁, hpackets₁, hrates₁, hlog₁⟩ := hsent
  have hticked' : TickedBy t st burst st₂.engine := by
    unfold TickedBy at hticked ⊢
    rwa [hengine₁, hfile₁, hrun₁] at hticked
  have hpackets : s.lastRunPackets = st₁.lastPackets := by
    rw [hs, hpackets₁]
    exact Status.sentBack_packets hframe.2.2 res
  have hstate : s.state = .replaying ∧ s.run = st.runCounter := by
    rw [hs, (Status.sentBack_frame _ _ _).1, (Status.sentBack_frame _ _ _).2]
    exact ⟨hframe.1, hframe.2.1⟩
  obtain ⟨s₁, s₂, hlog, hs₁, hs₂, hpictures⟩ := endTurn_log cfg oui times t st₂ chosen s
  obtain ⟨hrunning, hrun, hlast, hrates⟩ := endTurn_variables cfg oui times t st₂ chosen s
  have hshows : (st₂.endTurn cfg oui times t chosen s).shows = st₂.shows := by
    unfold LoopState.shows
    rw [hrates]
  refine ⟨_, s₁, s₂, burst, res, ?_, hframe, ⟨hs₁.1.trans hstate.1, hs₁.2.1.trans hstate.2, ?_⟩,
    ⟨hs₂.1, hs₂.2.1.trans hstate.2, ?_⟩, ?_, ?_, ?_, ?_, ?_, fun hmode => ⟨fun e he => ?_, ?_⟩⟩
  · rw [hlog, hlog₂, hlog₁, hengine₂, hengine₁, hshows]
    simp only [List.append_assoc]
  · rw [hs₁.2.2, hlast, hpackets₂, hpackets]
  · rw [hs₂.2.2, hlast, hpackets₂, hpackets]
  · rw [hrunning, hrunning₂, hrunning₁]
  · rw [hrun, hrun₂, hrun₁]
  · rw [hlast, hpackets₂, hpackets₁]
  · rw [hrates, hrates₂, hrates₁]
  · rw [(endTurn_frame cfg oui times t st₂ chosen s).1]
    exact hticked'
  · unfold LoopState.replayStatus
    rw [he]
    exact applySimStatus_pictures cfg oui hmode t.order e chosen _
  · rw [(endTurn_frame cfg oui times t st₂ chosen s).1]
    exact hpictures hmode

/-- **One turn of the loop.** -/
inductive Stepped (seedFrom : UInt64 → Rng) (cfg : LoopConfig F) (readF : List Char → Option F)
    (glob : GlobMatcher) (oui : OuiDb) (times : WatchdogTimes) (st : LoopState F) (t : Turn F) :
    LoopState F → Prop
  | stopped (hstopped : st.running = false) : Stepped seedFrom cfg readF glob oui times st t st
  | shutdown (hrunning : st.running = true) :
      Stepped seedFrom cfg readF glob oui times st t (st.stop cfg)
  | idle (hrunning : st.running = true) :
      Stepped seedFrom cfg readF glob oui times st t
        { st.write (st.status cfg .idleNoPcaps) with
          watchdog := st.watchdog.pollAll times t.gapReadings }
  | skipped {chosen why err engine file} (hrunning : st.running = true)
      (hchosen : chosen ∈ t.files)
      (hprepare : prepare seedFrom cfg t chosen st.engine st.file =
        some (.skipped why err, engine, file)) :
      Stepped seedFrom cfg readF glob oui times st t
        (({ st with engine, file } : LoopState F).skip cfg times t why err)
  | sent {chosen send engine file st'} (hrunning : st.running = true)
      (hchosen : chosen ∈ t.files)
      (hprepare : prepare seedFrom cfg t chosen st.engine st.file =
        some (.ready send, engine, file))
      (hsend : ({ st with engine, file } : LoopState F).send cfg readF oui times t chosen send =
        some st') :
      Stepped seedFrom cfg readF glob oui times st t (if st'.running then st' else st'.stop cfg)

theorem step_cases (h : st.step seedFrom cfg readF glob oui times t = some st') :
    Stepped seedFrom cfg readF glob oui times st t st' := by
  unfold LoopState.step at h
  split at h
  · next hstopped => exact Option.some.inj h ▸ .stopped hstopped
  · next hrunning =>
    rw [Bool.not_eq_false] at hrunning
    split at h
    · exact Option.some.inj h ▸ .shutdown hrunning
    · split at h
      · exact Option.some.inj h ▸ .idle hrunning
      · next chosen hpick =>
        have hchosen := mem_of_weightedPick hpick
        split at h
        · cases h
        · next hprepare => exact Option.some.inj h ▸ .skipped hrunning hchosen hprepare
        · next hprepare =>
          split at h
          · cases h
          · next hsend => exact Option.some.inj h ▸ .sent hrunning hchosen hprepare hsend

theorem step_calls (h : Stepped seedFrom cfg readF glob oui times st t st') :
    st.CallsTo seedFrom (t.Makes cfg st.runCounter) st' := by
  cases h with
  | stopped => exact .refl _ _
  | shutdown => exact .refl _ _
  | idle => exact .refl _ _
  | skipped hrunning hchosen hprepare => exact prepare_calls _ hchosen hprepare
  | @sent chosen send engine file st' hrunning hchosen hprepare hsend =>
    have hboth := (prepare_calls st.runCounter hchosen hprepare).trans (send_calls hsend)
    split
    · exact hboth
    · exact hboth

/-- **A run of the loop is a run of the daemon's calls**: between its start and its end the engine
and the ledger file change by remaps of captures of the pool, promotions at the clock of a turn,
and ticks, each made by one of the turns. -/
theorem runLoop_calls (st st' : LoopState F) (turns : List (Turn F))
    (hrun : runLoop seedFrom cfg readF glob oui times st turns = some st') :
    st.CallsTo seedFrom (fun c => ∃ t ∈ turns, ∃ run, t.Makes cfg run c) st' := by
  have hguard : EveryStep (LoopState.step seedFrom cfg readF glob oui times) (fun _ t => t ∈ turns)
      st turns := everyStep_of_forall (fun _ t ht => ht) st
  refine runAll_invariant (P := fun s => st.CallsTo seedFrom
    (fun c => ∃ t ∈ turns, ∃ run, t.Makes cfg run c) s) (fun s t s' hs ht hstep => ?_)
    (.refl _ _) hguard hrun
  exact hs.trans ((step_calls (step_cases hstep)).mono fun c hc => ⟨t, ht, _, hc⟩)

end Turns

/-! ## A run -/

/-- Whole numbers for rates and weights. -/
instance : FloatOps Int where

/-- A red laser with a plant of one device. -/
def benchConfig : LoopConfig Int :=
  { cappedConfig (some 1) none with
    guardPublicSources := true
    iface := "eth0"
    rateModel := "pps"
    weights := ⟨1, [], []⟩
    once := false }

/-- Its engine before the first turn, with a promotion due. -/
def benchEngine : LoopEngine :=
  { core := twinEngine
    tail := (StoredSession.new 7 0).tail
    threatsEnabled := true
    externalCidrs := ["203.0.113.0/24"]
    scheduler := .bounds 86400 86400
    simRng := zeroRng
    dirty := false
    profiles := []
    bursts := ⟨true, true, false, 1, 0⟩
    identityEvery := 1
    announceIntervalSecs := 25
    lastAnnounceUnix := none
    announceCount := 0
    overlay := none }

/-- A send that succeeds. -/
def sentReplay : ReplayRun :=
  { spawned := .ok ()
    rounds := [⟨[some 7], .exited (some 0)⟩]
    stdout := "Actual: 2 packets (148 bytes) sent in 0.5 seconds\n".toList
    stderr := [] }

/-- A turn over a pool of one capture. -/
def benchTurn (now : UInt64) : Turn Int :=
  { shutdown := false
    files := [{ twinSource with name := "twin.pcap", path := "/pool/twin.pcap" }]
    draw := fun _ => 0
    order := insertionOrder
    evicted := []
    remapIo := allWrites
    readable := true
    promoteNow := now
    promoteIo := allWrites
    replay := sentReplay
    tickNow := now
    tickIo := allWrites
    burst := sentReplay
    gap := 1
    gapReadings := [some 9] }

/-- Two turns, and the shutdown. -/
def benchTurns : List (Turn Int) :=
  [benchTurn 90000, benchTurn 90010, { benchTurn 90020 with shutdown := true }]

abbrev benchLoop : LoopState Int → List (Turn Int) → Option (LoopState Int) :=
  runLoop remapRng benchConfig (fun _ => some 1) (fun _ => none) ⟨∅, ∅⟩ defaultTimes

theorem benchLoop_isSome :
    (benchLoop (.start benchConfig (some benchEngine) .missing) benchTurns).isSome = true := by
  decide +kernel

theorem runLoop_calls_bench : ∃ st,
    benchLoop (.start benchConfig (some benchEngine) .missing) benchTurns = some st ∧
      (LoopState.start benchConfig (some benchEngine) .missing).CallsTo remapRng
        (fun c => ∃ t ∈ benchTurns, ∃ run, t.Makes benchConfig run c) st := by
  obtain ⟨st, hrun⟩ := Option.isSome_iff_exists.mp benchLoop_isSome
  exact ⟨st, hrun, runLoop_calls _ st benchTurns hrun⟩

end TurboLaser
