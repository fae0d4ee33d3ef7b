import TurboLaser.Simulate.AssetCap
import TurboLaser.Simulate.DaemonFacts

/-!
# The threat floor

Promotions are a day apart, over any mix of ticks, remaps, attempts at a promotion and restarts. The
due time lives in the engine and is lost with it; the time of the last promotion is in the ledger,
and a restart schedules from it.

So across a restart the floor rests on the file. A promotion whose ledger cannot be written is
forgotten by the next start, and nothing in the code prevents that; so the disk has to take the
ledger of a promotion, and the clock of a promotion has to be one to which a day can be added
(`Timely`). Everything else of the world is arbitrary: other writes may fail, calls come in any
order, clocks go back, and restarts happen at any moment under other configurations of the
intervals, with any draws.

- `World`: a daemon that may be down, its ledger file, and the promotions it made;
- `Floored`: **the invariant**: the last promotion is in the file and in the ledger, and the
  scheduler waits since then;
- `step_floored`: every event keeps it, with one lemma for a start and one for each kind of call;
- `threat_floor`: **promotions are at least a day apart**, any two of them, in any life.
-/

namespace TurboLaser

open Lib Scenario

/-- A daemon, if one runs, its ledger file, and the times of its promotions so far. -/
structure World where
  engine : Option DaemonEngine
  file : LedgerFile
  promotions : List UInt64

/-- Before the first start. -/
def World.down (file : LedgerFile) : World := ⟨none, file, []⟩

/-- The daemon is started, in place of one that runs, or it is called. -/
inductive WorldEvent where
  | restart (cfg : DaemonConfig) (boot : Boot) (now : UInt64) (io : Io)
  | redTick (run : Nat) (io : Io)
  | remap (cfg : Config) (src : Source) (order : HashOrder) (evicted : List CacheKey) (io : Io)
  | promote (content : Except String Capture) (now : UInt64) (io : Io)

section Step

variable (dec : Decoders) (seedFrom : UInt64 → Rng)

/-- The world after an event. A daemon that is down is not called, and a promotion that is made
is on record. -/
def World.step (w : World) : WorldEvent → Option World
  | .restart cfg boot now io =>
    match DaemonEngine.red dec seedFrom cfg boot now io w.file with
    | none => none
    | some (started, file) => some { w with engine := started.toOption, file }
  | .redTick run io =>
    match w.engine with
    | none => some w
    | some e => (e.redTick run io w.file).map fun (e, file) => { w with engine := some e, file }
  | .remap cfg src order evicted io =>
    match w.engine with
    | none => some w
    | some e =>
      (e.remapIntoSession seedFrom cfg src order evicted io w.file).map fun (_, e, file) =>
        { w with engine := some e, file }
  | .promote content now io =>
    match w.engine with
    | none => some w
    | some e =>
      (e.maybePromote content now io w.file).map fun (record, e, file) =>
        { engine := some e
          file
          promotions := record.elim w.promotions fun r => w.promotions ++ [r.promotedUnix] }

/-- The world after some events. -/
abbrev runWorld (w : World) (events : List WorldEvent) : Option World :=
  runAll (World.step dec seedFrom) w events

end Step

/-- The clock of a promotion is below its last half, and the disk takes its ledger. -/
def Timely (_ : World) : WorldEvent → Prop
  | .promote _ now io => now.toNat < 2 ^ 63 ∧ io.ledger = true
  | _ => True

instance (w : World) (ev : WorldEvent) : Decidable (Timely w ev) :=
  match ev with
  | .restart _ _ _ _ => .isTrue trivial
  | .redTick _ _ => .isTrue trivial
  | .remap _ _ _ _ _ => .isTrue trivial
  | .promote _ _ _ => inferInstanceAs (Decidable (_ ∧ _))

/-- Two promotions in a row are at least a day apart. -/
def DayApart (t t' : UInt64) : Prop := t.toNat + threatFloorSecs.toNat ≤ t'.toNat

/-! ## The invariant -/

/-- An engine knows of the last promotion and waits since then. -/
structure EngineFloored (e : DaemonEngine) (last : Option UInt64) : Prop where
  schema : e.tail.schema = schemaVersion
  known : ∀ t ∈ last, e.tail.lastThreatUnix = some t
  waits : ∀ t ∈ last, e.scheduler.Waits t

/-- The file holds the last promotion, and loads. -/
def FileFloored (file : LedgerFile) (last : Option UInt64) : Prop :=
  ∀ t ∈ last, ∃ s, loadSession file = .ok (some s) ∧ s.tail.lastThreatUnix = some t

/-- **The invariant.** -/
structure Floored (w : World) : Prop where
  apart : w.promotions.IsChain DayApart
  file : FileFloored w.file w.promotions.getLast?
  engine : ∀ e ∈ w.engine, EngineFloored e w.promotions.getLast?

/-- No promotion is in any file. -/
theorem fileFloored_none (file : LedgerFile) : FileFloored file none := by
  intro t ht
  cases ht

theorem floored_down (file : LedgerFile) : Floored (.down file) where
  apart := .nil
  file := fileFloored_none file
  engine := by
    intro e he
    cases he

/-- A session of the current schema loads as it was saved. -/
theorem loadSession_json {s : StoredSession} (h : s.tail.schema = schemaVersion) :
    loadSession (.json s) = .ok (some s) := by
  rw [loadSession, if_neg (by omega), if_neg (by omega)]

/-- What an engine saves holds the last promotion. -/
theorem EngineFloored.fileFloored {e : DaemonEngine} {last : Option UInt64}
    (h : EngineFloored e last) : FileFloored (.json e.stored) last :=
  fun t ht => ⟨e.stored, loadSession_json h.schema, h.known t ht⟩

/-! ## Starting

A start takes its session from the file or makes one up. In the first case the last promotion is
still in it; in the second there was none, since a file that one was written to can be loaded. The
scheduler is then set from the session, and with it the time before which no promotion is made.
-/

theorem getD_some_of_mem {t : UInt64} {o : Option UInt64} (h : o = some t) (d : UInt64) :
    o.getD d = t := by
  rw [h]
  rfl

/-- A session that loads has the current schema. -/
theorem schema_of_loadSession {file : LedgerFile} {s : StoredSession}
    (h : loadSession file = .ok (some s)) : s.tail.schema = schemaVersion := by
  unfold loadSession at h
  split at h
  · cases h
  · cases h
  · cases h
  · split at h
    · cases h
    · next hnewer =>
      split at h
      · cases h
        rfl
      · next holder =>
        cases h
        omega

section Start

variable {dec : Decoders} {seedFrom : UInt64 → Rng} {cfg : DaemonConfig} {boot : Boot}
  {now : UInt64} {io : Io}

/-- A session that the daemon makes up is of the current schema, and so is what it saves. -/
theorem freshSession_schema {file file' : LedgerFile} {r : Except StartError StoredSession}
    (h : freshSession dec cfg boot now io file = some (r, file')) :
    ∀ s, r = .ok s → s.tail.schema = schemaVersion := by
  intro s hs
  subst hs
  unfold freshSession at h
  dsimp only at h
  split at h
  · split at h
    · cases h
    · cases h
    · cases h
      rfl
  · cases h
    rfl

/-- **A start keeps the last promotion**: its session is the one in the file, if there has been
a promotion. -/
theorem startSession_floored {file file' : LedgerFile} {last : Option UInt64}
    {r : Except StartError StoredSession} (hfile : FileFloored file last)
    (h : startSession dec cfg boot now io file = some (r, file')) :
    FileFloored file' last ∧ ∀ s, r = .ok s → s.tail.schema = schemaVersion ∧
      ∀ t ∈ last, s.tail.lastThreatUnix = some t := by
  unfold startSession at h
  split at h
  · next loaded hload =>
    cases h
    refine ⟨hfile, fun s hs => ?_⟩
    obtain rfl : loaded = s := by
      revert hs
      cases guardLedgerScenario loaded.tail.scenario (cfg.target.map NamedTarget.name) with
      | error err => intro hs; cases hs
      | ok u => exact Except.ok.inj
    refine ⟨schema_of_loadSession hload, fun t ht => ?_⟩
    obtain ⟨s', hs', hknown⟩ := hfile t ht
    obtain rfl := Option.some.inj (Except.ok.inj (hload.symm.trans hs'))
    exact hknown
  · next hnone =>
    -- a promotion would be in the file, and here is none to read
    have hlast : last = none := by
      refine Option.eq_none_iff_forall_not_mem.mpr fun t ht => ?_
      obtain ⟨s', hs', -⟩ := hfile t ht
      cases hnone.symm.trans hs'
    subst hlast
    exact ⟨fileFloored_none _, fun s hs => ⟨freshSession_schema h s hs, nofun⟩⟩
  · next herr =>
    have hlast : last = none := by
      refine Option.eq_none_iff_forall_not_mem.mpr fun t ht => ?_
      obtain ⟨s', hs', -⟩ := hfile t ht
      cases herr.symm.trans hs'
    subst hlast
    exact ⟨fileFloored_none _, fun s hs => ⟨freshSession_schema h s hs, nofun⟩⟩

/-- **A restart schedules from the last promotion.** -/
theorem red_floored {file file' : LedgerFile} {last : Option UInt64}
    {r : Except StartError DaemonEngine} (hfile : FileFloored file last)
    (h : DaemonEngine.red dec seedFrom cfg boot now io file = some (r, file')) :
    FileFloored file' last ∧ ∀ e ∈ r.toOption, EngineFloored e last := by
  unfold DaemonEngine.red at h
  split at h
  · cases h
  · next hstart =>
    cases h
    refine ⟨(startSession_floored hfile hstart).1, fun e he => ?_⟩
    cases he
  · next s file₁ hstart =>
    obtain ⟨hfile₁, hsession⟩ := startSession_floored hfile hstart
    obtain ⟨hschema, hknown⟩ := hsession s rfl
    split at h
    · cases h
      refine ⟨hfile₁, fun e he => ?_⟩
      cases he
    · split at h
      · cases h
      · next scheduler simRng hnew =>
        cases h
        refine ⟨hfile₁, fun e he => ?_⟩
        obtain rfl := Option.some.inj he
        refine ⟨hschema, hknown, fun t ht => ?_⟩
        -- the scheduler is made from the last promotion of the session, if it has one
        have hwaits := ThreatScheduler.waits_of_schedule hnew
        rwa [getD_some_of_mem (hknown t ht)] at hwaits

end Start

/-! ## One event

The floor is kept by two things that are written at once, the time of the last promotion in the
ledger and the time the scheduler waits for. A call that promotes moves both, one that misses moves
the second only, and the others leave both alone. A restart reads the first and computes the second
from it.
-/

/-- A call that leaves the promotions alone keeps the floor. -/
theorem Floored.called {w : World} (h : Floored w) {e e' : DaemonEngine} {file' : LedgerFile}
    (he : w.engine = some e) (htail : e'.tail = e.tail) (hwaits : e'.scheduler = e.scheduler)
    (hfile : file' = .json e'.stored ∨ file' = w.file) :
    Floored { w with engine := some e', file := file' } := by
  have hold := h.engine e he
  have hengine : EngineFloored e' w.promotions.getLast? := by
    refine ⟨?_, ?_, ?_⟩
    · rw [htail]
      exact hold.schema
    · rw [htail]
      exact hold.known
    · rw [hwaits]
      exact hold.waits
  refine ⟨h.apart, ?_, ?_⟩
  · rcases hfile with rfl | rfl
    · exact hengine.fileFloored
    · exact h.file
  · intro e₁ he₁
    obtain rfl := Option.some.inj he₁
    exact hengine

/-- An attempt that came when it was due, and failed, keeps the floor: the scheduler waits
longer. -/
theorem Floored.missed {w : World} (h : Floored w) {e : DaemonEngine} (he : w.engine = some e)
    {now : UInt64} {scheduler : ThreatScheduler} {simRng : Rng} (hclock : now.toNat < 2 ^ 63)
    (hdue : e.scheduler.due now = true) (hwaits : scheduler.Waits now) :
    Floored { w with engine := some { e with scheduler, simRng } } := by
  have hold := h.engine e he
  refine ⟨h.apart, h.file, fun e₁ he₁ => ?_⟩
  obtain rfl := Option.some.inj he₁
  refine ⟨hold.schema, hold.known, fun t ht => hwaits.mono (UInt64.le_iff_toNat_le.mpr ?_)⟩
  exact (Nat.le_add_right _ _).trans ((hold.waits t ht).floor_le_of_due hdue hclock)

/-- **A promotion that is made comes a day after the last**, and is the last from now on. -/
theorem Floored.made {w : World} (h : Floored w) {e : DaemonEngine} (record : PromotedHost)
    (simRng : Rng) (he : w.engine = some e) {now : UInt64} {io : Io} {scheduler : ThreatScheduler}
    (hclock : now.toNat < 2 ^ 63) (hsaved : io.ledger = true)
    (hdue : e.scheduler.due now = true) (hwaits : scheduler.Waits now) :
    let out := (DaemonEngine.recorded { e with scheduler, simRng } record now).persistIfDirty io
      w.file
    Floored { engine := some out.1, file := out.2, promotions := w.promotions ++ [now] } := by
  intro out
  have hold := h.engine e he
  have hengine : EngineFloored out.1 (w.promotions ++ [now]).getLast? := by
    obtain ⟨-, htail, hscheduler⟩ := persistIfDirty_frame
      (DaemonEngine.recorded { e with scheduler, simRng } record now) io w.file
    rw [List.getLast?_concat]
    refine ⟨?_, ?_, ?_⟩
    · rw [htail]
      exact hold.schema
    · intro t ht
      obtain rfl := Option.some.inj ht
      rw [htail]
      rfl
    · intro t ht
      obtain rfl := Option.some.inj ht
      rw [hscheduler]
      exact hwaits
  refine ⟨?_, ?_, ?_⟩
  -- the engine has waited for it since the last one
  · refine List.IsChain.append h.apart (.singleton now) fun t ht t' ht' => ?_
    obtain rfl := Option.some.inj ht'
    exact (hold.waits t ht).floor_le_of_due hdue hclock
  · rcases persistIfDirty_cases (DaemonEngine.recorded { e with scheduler, simRng } record now) io
      w.file with ⟨-, hfile⟩ | ⟨hkeeps, -⟩
    · show FileFloored out.2 _
      rw [hfile]
      exact hengine.fileFloored
    -- the disk takes the ledger of a promotion: this is where `Timely` is needed
    · exact absurd ⟨rfl, hsaved⟩ hkeeps
  · intro e₁ he₁
    obtain rfl := Option.some.inj he₁
    exact hengine

/-- **Every event keeps the floor.** -/
theorem step_floored {dec : Decoders} {seedFrom : UInt64 → Rng} {w w' : World} {ev : WorldEvent}
    (h : Floored w) (htimely : Timely w ev) (hstep : w.step dec seedFrom ev = some w') :
    Floored w' := by
  cases ev with
  | restart cfg boot now io =>
    rw [World.step] at hstep
    split at hstep
    · cases hstep
    · next hred =>
      cases hstep
      obtain ⟨hfile, hengine⟩ := red_floored h.file hred
      exact ⟨h.apart, hfile, hengine⟩
  | redTick run io =>
    rw [World.step] at hstep
    split at hstep
    · cases hstep
      exact h
    · next e he =>
      obtain ⟨⟨e', file'⟩, htick, rfl⟩ := Option.map_eq_some_iff.mp hstep
      obtain ⟨htail, hscheduler⟩ := daemonTick_frame htick
      have happly : DaemonCall.apply seedFrom (e, w.file) (.redTick run io) = some (e', file') :=
        htick
      -- neither a tick nor a remap touches the scheduler or the last promotion
      exact h.called he htail hscheduler ((apply_file happly).imp And.right And.right)
  | remap cfg src order evicted io =>
    rw [World.step] at hstep
    split at hstep
    · cases hstep
      exact h
    · next e he =>
      obtain ⟨⟨r, e', file'⟩, hremap, rfl⟩ := Option.map_eq_some_iff.mp hstep
      obtain ⟨htail, hscheduler⟩ := daemonRemap_frame hremap
      have happly : DaemonCall.apply seedFrom (e, w.file) (.remap cfg src order evicted io) =
          some (e', file') := by
        rw [DaemonCall.apply, hremap]
        rfl
      exact h.called he htail hscheduler ((apply_file happly).imp And.right And.right)
  | promote content now io =>
    obtain ⟨hclock, hsaved⟩ := htimely
    rw [World.step] at hstep
    split at hstep
    · cases hstep
      exact h
    · next e he =>
      obtain ⟨out, hpromote, rfl⟩ := Option.map_eq_some_iff.mp hstep
      cases daemonPromote_cases hpromote with
      | idle hidle =>
        refine ⟨h.apart, h.file, fun e₁ he₁ => ?_⟩
        obtain rfl := Option.some.inj he₁
        exact h.engine e he
      | missed hmiss hdue hwaits => exact h.missed he hclock hdue hwaits
      | @made scheduler simRng record hmade hwaits hrecord =>
        have hkept := h.made record simRng he hclock hsaved hmade.2.1 hwaits
        show Floored ⟨_, _, w.promotions ++ [record.promotedUnix]⟩
        rw [hrecord]
        exact hkept

/-! ## Runs -/

/-- **The threat floor.** Over every run of restarts, ticks, remaps and attempts at a promotion,
from any ledger file and with any intervals, ranges and draws, promotions in a row are at
least a day apart; and the scheduler never overflows. -/
theorem threat_floor (dec : Decoders) (seedFrom : UInt64 → Rng) (file : LedgerFile)
    (events : List WorldEvent) (w : World)
    (htimely : EveryStep (World.step dec seedFrom) Timely (.down file) events)
    (hrun : runWorld dec seedFrom (.down file) events = some w) :
    w.promotions.IsChain DayApart ∧
      (∀ minInterval maxInterval lastThreat now rng,
        (ThreatScheduler.new minInterval maxInterval lastThreat now rng).isSome = true) ∧
      ∀ (s : ThreatScheduler) now rng, (s.reschedule now rng).isSome = true := by
  refine ⟨?_, ?_, ?_⟩
  · exact (runAll_invariant (P := Floored) (fun w ev w' h htimely hstep =>
      step_floored h htimely hstep) (floored_down file) htimely hrun).apart
  · intro minInterval maxInterval lastThreat now rng
    obtain ⟨s', rng', hsome, -⟩ := ThreatScheduler.schedule_spec
      (.bounds minInterval maxInterval) (lastThreat.getD now) rng
    exact Option.isSome_iff_exists.mpr ⟨_, hsome⟩
  · intro s now rng
    obtain ⟨s', rng', hsome, -⟩ := ThreatScheduler.schedule_spec s now rng
    exact Option.isSome_iff_exists.mpr ⟨_, hsome⟩

/-! ## A run -/

/-- Readers that read nothing. -/
def blindDecoders : Decoders where
  Toml := Unit
  toml _ := none
  profileFile _ := none
  plantSpec _ := none
  playbook _ := none

/-- A disk that takes every write. -/
def allWrites : Io := ⟨true, true, true⟩

/-- A generic daemon with promotions, every minute or two. -/
def threatConfig : DaemonConfig :=
  { cappedConfig none none with
    sessionSeed := some 7
    threatsEnabled := true
    minIntervalSecs := 60
    maxIntervalSecs := 120
    externalCidrs := ["203.0.113.0/24"]
    dnsDomains := []
    target := none }

/-- Tables with one core profile. -/
def threatBoot : Boot := ⟨onePlc, ⟨∅, ∅⟩, 0, ∅⟩

/-- A datagram from 192.168.10.5. -/
def internalCapture : Capture :=
  ⟨[⟨0, 42,
    [0xaa, 0xbb, 0xcc, 0, 0, 1, 0x3c, 0x5a, 0xb4, 0, 0, 1, 0x08, 0x00,
      0x45, 0, 0, 28, 0, 0, 0x40, 0, 0x40, 17, 0, 0, 192, 168, 10, 5, 192, 168, 10, 9,
      0x13, 0x88, 0x01, 0xf6, 0, 8, 0, 0]⟩]⟩

/-- Attempts on two days, one of them with a capture that cannot be read, one of them early, and
a restart in between. -/
def twoDays : List WorldEvent :=
  [.restart threatConfig threatBoot 1000 allWrites,
    .promote (.ok internalCapture) 90000 allWrites,
    .restart threatConfig threatBoot 90001 allWrites,
    .promote (.ok internalCapture) 100000 allWrites,
    .promote (.error "truncated") 180000 allWrites,
    .promote (.ok internalCapture) 270000 allWrites]

/-- The two promotions of that run. -/
theorem threat_floor_two_days :
    ∃ w, runWorld blindDecoders (fun _ => zeroRng) (.down .missing) twoDays = some w ∧
      w.promotions = [90000, 270000] ∧ w.promotions.IsChain DayApart := by
  have hrun : (runWorld blindDecoders (fun _ => zeroRng) (.down .missing) twoDays).map
      World.promotions = some [90000, 270000] := by
    decide +kernel
  obtain ⟨w, hw, hpromotions⟩ := Option.map_eq_some_iff.mp hrun
  exact ⟨w, hw, hpromotions, (threat_floor blindDecoders (fun _ => zeroRng) .missing twoDays w
    (by decide +kernel) hw).1⟩

end TurboLaser
