import TurboLaser.Simulate.Durable
import TurboLaser.Simulate.Preview

/-!
# Plan it, then fire (simulate/mod.rs)

The operator previews a plant, commits it, looks at its zones, clears it; the daemon is started on
what the file then holds. Both sides share one file, and the daemon keeps a copy of it.

A life is a list of events of both sides, in any order. The daemon's calls write what the engine
has, so a plan is replayed only if the engine has nothing but the plan and what it added to it:
hosts and promotions. It is the seal that does this: a sealed plant is not grown and its zones are
not renamed. A life leaves the plan as long as nobody clears the file or commits another plan by
force (`LeavesPlan`).

- `planSession`, `cmdPlan`, `cmdZones`, `cmdReset`: the commands of the operator;
- `StoredSession.Replays`: a plan as it was committed, with hosts and promotions added;
- `Committed`: **the invariant**: the file and every engine replay the plan, and are sealed;
- `Committed.step`, `Committed.run`: one event keeps it, and so does a whole life;
- `planSession_again`: with a seed that is set a plan is made alike every time, which is why a
  preview without a commit tells what the commit will write;
- `preview_is_replayed`: **what the preview showed is what every daemon replays.**

A command is given the configuration as it was loaded; that the load succeeds is not modelled.
-/

namespace TurboLaser

open Lib Scenario

/-! ## The commands -/

/-- `EX_CONFIG`. -/
def exConfig : Nat := 78

/-- `Config`, with what the operator's commands read of it besides. -/
structure OperatorConfig extends DaemonConfig where
  dnsEnabled : Bool

/-- `PlanArgs`, without its configuration and how it prints. -/
structure PlanArgs where
  devices : Option Nat
  commit : Bool
  force : Bool

/-- Why there is no plan. -/
inductive PlanError where
  /-- `scenario plan: _` -/
  | pack (err : PackError)
  /-- `no vulnerable-device profiles available` -/
  | noProfiles
deriving DecidableEq

section Commands

variable (dec : Decoders) (seedFrom : UInt64 → Rng)

/-- The session `cmd_plan` renders or commits: the pinned plant of a scenario, or a fabricated one
with its operations zones, its domains and its supporting cast. -/
def planSession (args : PlanArgs) (cfg : OperatorConfig) (boot : Boot) (now : UInt64) :
    Option (Except PlanError StoredSession) :=
  let seed := cfg.sessionSeed.getD boot.randomSeed
  let tail := (StoredSession.new seed now).tail
  let maxAssets := effectiveAssetCap cfg.synthesis.maxAssets
  match cfg.target with
  | some t =>
    match buildValidatedPlant dec cfg.dnsDomains t.toTargetCfg boot.oui seed with
    | none => none
    | some (.error err) => some (.error (.pack err))
    | some (.ok session) =>
      some (.ok
        { session
          tail :=
            { tail with
              targetDevices := session.devices.length, maxAssets, scenario := some t.name } })
  | none =>
    match planFabricate seedFrom cfg.toDaemonConfig boot
        (args.devices.getD cfg.synthesis.targetDevices) with
    | .error _ => some (.error .noProfiles)
    | .ok none => none
    | .ok (some (s, _, rng)) =>
      let s := (createL3Zones s cfg.allocParams rng 3).1
      let s := if cfg.dnsEnabled then assignDomains s cfg.dnsDomains seed else s
      (enrichPlant s boot.vuln boot.oui seed).map fun session =>
        .ok { session, tail := { tail with targetDevices := session.devices.length, maxAssets } }

/-- The session once it is committed. -/
def StoredSession.seal (p : StoredSession) : StoredSession :=
  { p with session := { p.session with sealed := true } }

/-- `cmd_plan`: its exit code, the session it renders, and the ledger file it leaves. A session
that is in the way is only written over by force, and one that does not load not even then. -/
def cmdPlan (args : PlanArgs) (cfg : OperatorConfig) (boot : Boot) (now : UInt64) (io : Io)
    (file : LedgerFile) : Option (Nat × Option StoredSession × LedgerFile) :=
  match planSession dec seedFrom args cfg boot now with
  | none => none
  | some (.error _) => some (1, none, file)
  | some (.ok p) =>
    if args.commit = true then
      match loadSession file with
      | .error _ => some (exConfig, none, file)
      | .ok found =>
        if found.isSome = true ∧ args.force = false then some (2, none, file)
        else
          let (saved, file) := p.seal.saveAtomic io file
          if saved then some (0, some p.seal, file) else some (1, none, file)
    else some (0, some p, file)

/-- `cmd_zones` on the red laser: its exit code, and the session it renders. -/
def cmdZones (cfg : OperatorConfig) (file : LedgerFile) : Nat × Option StoredSession :=
  match loadSession file with
  | .error _ => (exConfig, none)
  | .ok none => (0, none)
  | .ok (some p) =>
    match guardLedgerScenario p.tail.scenario (cfg.target.map NamedTarget.name) with
    | .error _ => (exConfig, none)
    | .ok _ => (0, some p)

/-- `cmd_reset`: its exit code and the file, when `removes` says whether a file can be removed. A
file that is missing is cleared already. -/
def cmdReset (removes : Bool) (file : LedgerFile) : Nat × LedgerFile :=
  if file = .missing ∨ removes = true then (0, .missing) else (1, file)

/-- What happens to a ledger: the daemon is started or called, or the operator plans or resets. -/
inductive LedgerEvent where
  | daemon (ev : WorldEvent)
  | plan (args : PlanArgs) (cfg : OperatorConfig) (boot : Boot) (now : UInt64) (io : Io)
  | reset (removes : Bool)

/-- The world after an event. -/
def ledgerStep (w : World) : LedgerEvent → Option World
  | .daemon ev => w.step dec seedFrom ev
  | .plan args cfg boot now io =>
    (cmdPlan dec seedFrom args cfg boot now io w.file).map fun out => { w with file := out.2.2 }
  | .reset removes => some { w with file := (cmdReset removes w.file).2 }

/-- The world after some events. -/
abbrev runLedger (w : World) (events : List LedgerEvent) : Option World :=
  runAll (ledgerStep dec seedFrom) w events

end Commands

/-- The ledger is neither cleared nor written over by force. -/
def LeavesPlan (_ : World) : LedgerEvent → Prop
  | .daemon _ => True
  | .plan args _ _ _ _ => args.commit = false ∨ args.force = false
  | .reset _ => False

instance (w : World) (ev : LedgerEvent) : Decidable (LeavesPlan w ev) :=
  match ev with
  | .daemon _ => .isTrue trivial
  | .plan _ _ _ _ _ => inferInstanceAs (Decidable (_ ∨ _))
  | .reset _ => .isFalse nofun

/-! ## A plan that is replayed

A daemon adds capture hosts and promotions to a committed plan, each at the end of a list of its
own, and nothing else. `Replays` says so of two sessions, and it is a preorder. A sealed engine may
tick as often as it likes: it neither fabricates nor renames.
-/

/-- The session once the daemon has registered hosts and recorded promotions. -/
def StoredSession.played (p : StoredSession) (hosts : List CaptureHostRecord) (generation : Nat)
    (made : List PromotedHost) (last : Option UInt64) : StoredSession :=
  { session := { p.session with captureHosts := hosts, registryGeneration := generation }
    tail := { p.tail with promoted := made, lastThreatUnix := last } }

/-- **A session that replays a plan**: hosts and promotions are added at the end, and for the rest
it is the plan to the letter. -/
def StoredSession.Replays (p q : StoredSession) : Prop :=
  ∃ hosts generation made last,
    q = p.played (p.session.captureHosts ++ hosts) generation (p.tail.promoted ++ made) last

namespace StoredSession.Replays

variable {p q : StoredSession}

theorem refl (p : StoredSession) : p.Replays p :=
  ⟨[], p.session.registryGeneration, [], p.tail.lastThreatUnix, by
    rw [List.append_nil, List.append_nil]
    rfl⟩

theorem schema (h : p.Replays q) : q.tail.schema = p.tail.schema := by
  obtain ⟨hosts, generation, made, last, rfl⟩ := h
  rfl

theorem sealed (h : p.Replays q) : q.session.sealed = p.session.sealed := by
  obtain ⟨hosts, generation, made, last, rfl⟩ := h
  rfl

theorem scenario (h : p.Replays q) : q.tail.scenario = p.tail.scenario := by
  obtain ⟨hosts, generation, made, last, rfl⟩ := h
  rfl

/-- Hosts are registered. -/
theorem register (h : p.Replays q) (assets : List NewCaptureAsset) (cap : Nat) :
    p.Replays ⟨registerAssets q.session assets cap, q.tail⟩ := by
  induction assets generalizing q with
  | nil => exact h
  | cons a assets ih =>
    refine ih (q := ⟨(q.session.registerCaptureHost a.record cap).getD q.session, q.tail⟩) ?_
    cases hreg : q.session.registerCaptureHost a.record cap with
    | none => exact h
    | some s =>
      obtain ⟨-, -, rfl⟩ := registerCaptureHost_eq_some.mp hreg
      obtain ⟨hosts, generation, made, last, rfl⟩ := h
      refine ⟨hosts ++ [a.record], generation + 1, made, last, ?_⟩
      rw [← List.append_assoc]
      rfl

/-- A promotion is recorded. -/
theorem promote (h : p.Replays q) (record : PromotedHost) (now : UInt64) :
    p.Replays ⟨q.session,
      { q.tail with promoted := q.tail.promoted ++ [record], lastThreatUnix := some now }⟩ := by
  obtain ⟨hosts, generation, made, last, rfl⟩ := h
  refine ⟨hosts, generation, made ++ [record], some now, ?_⟩
  rw [← List.append_assoc]
  rfl

end StoredSession.Replays

/-- The file holds a session that replays the plan. -/
def LedgerFile.Replays (p : StoredSession) (file : LedgerFile) : Prop :=
  ∃ q, file = .json q ∧ p.Replays q

/-- An engine that replays a plan: it is sealed, and so is the session it would write. -/
structure DaemonEngine.Replays (p : StoredSession) (e : DaemonEngine) : Prop where
  sealed : e.core.sealed = true
  stored : p.Replays e.stored

section Calls

variable {p : StoredSession} {seedFrom : UInt64 → Rng} {e : DaemonEngine} {file : LedgerFile}

/-- An engine that replays the plan writes what replays the plan. -/
theorem DaemonEngine.Replays.persist (h : e.Replays p) (hfile : file.Replays p) (io : Io) :
    (e.persistIfDirty io file).1.Replays p ∧ (e.persistIfDirty io file).2.Replays p := by
  obtain ⟨hcore, htail, -⟩ := persistIfDirty_frame e io file
  have hengine : (e.persistIfDirty io file).1.Replays p := by
    refine ⟨hcore ▸ h.sealed, ?_⟩
    unfold DaemonEngine.stored
    rw [hcore, htail]
    exact h.stored
  refine ⟨hengine, ?_⟩
  rcases persistIfDirty_cases e io file with ⟨-, hwritten⟩ | ⟨-, hkept⟩
  · exact ⟨_, hwritten, hengine.stored⟩
  · rw [hkept]
    exact hfile

/-- **A sealed plant does not grow**, nor are its zones renamed. -/
theorem ticked_sealed (hsealed : e.core.sealed = true) (run : Nat) {grown : Session} {added : Nat}
    {simRng : Rng} (h : e.growPlant = some (grown, added, simRng)) :
    (e.ticked run grown added simRng).core = e.core := by
  unfold DaemonEngine.growPlant at h
  rw [if_neg fun hgrows => absurd (hsealed.symm.trans hgrows.2) Bool.noConfusion] at h
  cases h
  have hdue : e.core.renameDue run e.core.ledger 0 = false :=
    decide_eq_false fun hdue => absurd (hsealed.symm.trans hdue.1) Bool.noConfusion
  unfold DaemonEngine.ticked
  rw [hdue]
  rfl

/-- **Every call replays the plan**, in the engine and in the file. -/
theorem apply_replays {call : DaemonCall} {out : DaemonEngine × LedgerFile} (h : e.Replays p)
    (hfile : file.Replays p) (happly : call.apply seedFrom (e, file) = some out) :
    out.1.Replays p ∧ out.2.Replays p := by
  cases call with
  | redTick run io =>
    cases daemonTick_cases happly with
    | off hoff => exact ⟨h, hfile⟩
    | @grew grown added simRng hon hgrow =>
      -- a sealed plant is the same after the tick, and is saved as it was
      have hcore := ticked_sealed h.sealed run hgrow
      have hticked : (e.ticked run grown added simRng).Replays p := by
        refine ⟨hcore ▸ h.sealed, ?_⟩
        unfold DaemonEngine.stored
        rw [hcore]
        exact h.stored
      exact hticked.persist hfile io
  | remap cfg src order evicted io =>
    obtain ⟨⟨r, out'⟩, hremap, rfl⟩ := Option.map_eq_some_iff.mp happly
    cases daemonRemap_cases hremap with
    | stopped hstop => exact ⟨h, hfile⟩
    | @settled cap written assets e' file' r cache hgoes hcontent hunder hsettle =>
      have hregistered : (e.registered cfg assets).Replays p :=
        ⟨h.sealed, h.stored.register assets _⟩
      have hsettled : e'.Replays p ∧ file'.Replays p := by
        unfold DaemonEngine.settle at hsettle
        split at hsettle
        · obtain ⟨rfl, rfl⟩ := Prod.mk.inj hsettle
          exact ⟨hregistered, hfile⟩
        · have hpersisted := hregistered.persist hfile io
          rwa [hsettle] at hpersisted
      exact ⟨⟨hsettled.1.sealed, hsettled.1.stored⟩, hsettled.2⟩
  | promote content now io =>
    obtain ⟨⟨record, out'⟩, hpromote, rfl⟩ := Option.map_eq_some_iff.mp happly
    cases daemonPromote_cases hpromote with
    | idle hidle => exact ⟨h, hfile⟩
    | missed hmiss hdue hwaits => exact ⟨⟨h.sealed, h.stored⟩, hfile⟩
    | @made scheduler simRng made hmade hwaits hrecord =>
      have hrecorded : (DaemonEngine.recorded { e with scheduler, simRng } made now).Replays p :=
        ⟨h.sealed, h.stored.promote made now⟩
      exact hrecorded.persist hfile io

end Calls

/-! ## The life of a committed plan

An operator may look at a plan, commit another over it by force or clear it; the last two are set
aside by the condition on the events. All else leaves a file that replays the plan. A daemon of
another scenario does not come up, and then the file is what it was.
-/

/-- A session of this build's schema loads as it is. -/
theorem loadSession_current {q : StoredSession} (h : q.tail.schema = schemaVersion) :
    loadSession (.json q) = .ok (some q) := by
  unfold loadSession
  dsimp only
  rw [if_neg (Nat.not_lt.mpr h.le), if_neg (Nat.not_lt.mpr h.ge)]

/-- **The invariant of a committed plan**: the file and the engine replay it. -/
structure Committed (p : StoredSession) (w : World) : Prop where
  schema : p.tail.schema = schemaVersion
  sealed : p.session.sealed = true
  file : w.file.Replays p
  engine : ∀ e ∈ w.engine, e.Replays p

/-- What a committed plan's file loads as. -/
theorem Committed.load {p : StoredSession} {w : World} (h : Committed p w) :
    ∃ q, loadSession w.file = .ok (some q) ∧ p.Replays q := by
  obtain ⟨q, hq, hreplays⟩ := h.file
  exact ⟨q, by rw [hq, loadSession_current (hreplays.schema.trans h.schema)], hreplays⟩

section Life

variable {dec : Decoders} {seedFrom : UInt64 → Rng} {p : StoredSession} {w w' : World}

/-- What a daemon starts from. -/
theorem startSession_loaded {cfg : DaemonConfig} {boot : Boot} {now : UInt64} {io : Io}
    {file : LedgerFile} {q : StoredSession} (hload : loadSession file = .ok (some q)) :
    startSession dec cfg boot now io file =
      some ((guardLedgerScenario q.tail.scenario (cfg.target.map NamedTarget.name)).map fun _ => q,
        file) := by
  unfold startSession
  rw [hload]

/-- A daemon that starts on a plan replays it, or does not come up. -/
theorem Committed.start (h : Committed p w) {cfg : DaemonConfig} {boot : Boot} {now : UInt64}
    {io : Io} {r : Except StartError DaemonEngine} {file : LedgerFile}
    (hred : DaemonEngine.red dec seedFrom cfg boot now io w.file = some (r, file)) :
    file = w.file ∧ ∀ e ∈ r.toOption, e.Replays p := by
  obtain ⟨q, hload, hq⟩ := h.load
  unfold DaemonEngine.red at hred
  rw [startSession_loaded hload] at hred
  cases hguard : guardLedgerScenario q.tail.scenario (cfg.target.map NamedTarget.name) with
  | error err =>
    rw [hguard] at hred
    obtain ⟨rfl, rfl⟩ := Prod.mk.inj (Option.some.inj hred)
    exact ⟨rfl, nofun⟩
  | ok u =>
    rw [hguard] at hred
    dsimp only [Except.map] at hred
    split at hred
    · obtain ⟨rfl, rfl⟩ := Prod.mk.inj (Option.some.inj hred)
      exact ⟨rfl, nofun⟩
    · split at hred
      · cases hred
      · obtain ⟨rfl, rfl⟩ := Prod.mk.inj (Option.some.inj hred)
        refine ⟨rfl, fun e he => ?_⟩
        obtain rfl := Option.some.inj he
        exact ⟨hq.sealed.trans h.sealed, hq⟩

/-- Under the scenario of the plan, and with a playbook that loads, it comes up. -/
theorem Committed.comes_up (h : Committed p w) {cfg : DaemonConfig}
    (hscenario : p.tail.scenario = cfg.target.map NamedTarget.name)
    (hplaybook : loadScenario dec cfg = .ok ()) (boot : Boot) (now : UInt64) (io : Io) :
    ∃ e, DaemonEngine.red dec seedFrom cfg boot now io w.file = some (.ok e, w.file) ∧
      e.Replays p := by
  obtain ⟨q, hload, hq⟩ := h.load
  have hguard : guardLedgerScenario q.tail.scenario (cfg.target.map NamedTarget.name) = .ok () :=
    if_pos (hq.scenario.trans hscenario)
  obtain ⟨scheduler, simRng, hnew, -⟩ := ThreatScheduler.schedule_spec
    (.bounds cfg.minIntervalSecs cfg.maxIntervalSecs) (q.tail.lastThreatUnix.getD now)
    (seedFrom q.session.seed)
  obtain ⟨e, hred⟩ : ∃ e, DaemonEngine.red dec seedFrom cfg boot now io w.file =
      some (.ok e, w.file) := by
    unfold DaemonEngine.red
    rw [startSession_loaded hload, hguard]
    dsimp only [Except.map]
    rw [hplaybook]
    dsimp only
    rw [show ThreatScheduler.new cfg.minIntervalSecs cfg.maxIntervalSecs q.tail.lastThreatUnix now
      (seedFrom q.session.seed) = some (scheduler, simRng) from hnew]
    exact ⟨_, rfl⟩
  exact ⟨e, hred, (h.start hred).2 e rfl⟩

/-- The operator's view of it: `zones` shows the plan. -/
theorem Committed.zones (h : Committed p w) {cfg : OperatorConfig}
    (hscenario : p.tail.scenario = cfg.target.map NamedTarget.name) :
    ∃ q, cmdZones cfg w.file = (0, some q) ∧ p.Replays q := by
  obtain ⟨q, hload, hq⟩ := h.load
  refine ⟨q, ?_, hq⟩
  unfold cmdZones
  rw [hload]
  dsimp only
  rw [show guardLedgerScenario q.tail.scenario (cfg.target.map NamedTarget.name) = .ok () from
    if_pos (hq.scenario.trans hscenario)]

/-- A plan is made again, and what is in the way stays. -/
theorem Committed.plan (h : Committed p w) {args : PlanArgs} {cfg : OperatorConfig} {boot : Boot}
    {now : UInt64} {io : Io} {out : Nat × Option StoredSession × LedgerFile}
    (hforce : args.commit = false ∨ args.force = false)
    (hplan : cmdPlan dec seedFrom args cfg boot now io w.file = some out) : out.2.2 = w.file := by
  obtain ⟨q, hload, -⟩ := h.load
  unfold cmdPlan at hplan
  split at hplan
  · cases hplan
  · rw [← Option.some.inj hplan]
  · split at hplan
    · next hcommit =>
      have hforce := hforce.resolve_left fun hno => absurd (hcommit.symm.trans hno) Bool.noConfusion
      rw [hload] at hplan
      dsimp only at hplan
      rw [if_pos ⟨rfl, hforce⟩] at hplan
      rw [← Option.some.inj hplan]
    · rw [← Option.some.inj hplan]

/-- **One event replays the plan.** -/
theorem Committed.step (h : Committed p w) {ev : LedgerEvent} (hleaves : LeavesPlan w ev)
    (hstep : ledgerStep dec seedFrom w ev = some w') : Committed p w' := by
  cases ev with
  | daemon ev =>
    rcases world_cases hstep with ⟨cfg, boot, now, io, r, file, rfl, hred, hengine, hfile⟩ |
      ⟨hengine, hfile⟩ | ⟨e, call, out, he, hcall, hengine, hfile⟩
    · obtain ⟨rfl, hstarted⟩ := h.start hred
      exact ⟨h.schema, h.sealed, hfile ▸ h.file, hengine ▸ hstarted⟩
    · exact ⟨h.schema, h.sealed, hfile ▸ h.file, hengine ▸ h.engine⟩
    · obtain ⟨hreplays, hwritten⟩ := apply_replays (h.engine e he) h.file hcall
      refine ⟨h.schema, h.sealed, hfile ▸ hwritten, fun e' he' => ?_⟩
      obtain rfl := Option.some.inj (hengine.symm.trans he')
      exact hreplays
  | plan args cfg boot now io =>
    obtain ⟨out, hplan, rfl⟩ := Option.map_eq_some_iff.mp hstep
    exact ⟨h.schema, h.sealed, h.plan hleaves hplan ▸ h.file, h.engine⟩
  | reset removes => exact hleaves.elim

/-- **So does a whole life of the ledger.** -/
theorem Committed.run (h : Committed p w) {events : List LedgerEvent}
    (hleaves : EveryStep (ledgerStep dec seedFrom) LeavesPlan w events)
    (hrun : runLedger dec seedFrom w events = some w') : Committed p w' :=
  runAll_invariant (P := Committed p) (fun _ _ _ h hleaves hstep => h.step hleaves hstep) h hleaves
    hrun

/-! ## The preview and the commit

A plan is a function of the configuration, the tables, the seed and the number of devices; the clock
is its date and nothing more. So a plan that was shown and a plan that is committed later are one
plan, as long as these are the same. A daemon that starts on the file then keeps the plan, because a
sealed session is not grown.
-/

/-- A plan, as it is made at another time. -/
def StoredSession.madeAt (p : StoredSession) (now : UInt64) : StoredSession :=
  { p with tail := { p.tail with createdUnix := now } }

section Plan

variable {args args' : PlanArgs} {cfg : OperatorConfig} {boot boot' : Boot} {now now' : UInt64}

/-- A plan has the schema of the build and the scenario of its configuration. -/
theorem planSession_tail (h : planSession dec seedFrom args cfg boot now = some (.ok p)) :
    p.tail.schema = schemaVersion ∧ p.tail.scenario = cfg.target.map NamedTarget.name := by
  unfold planSession at h
  dsimp only at h
  split at h
  · next t htarget =>
    rw [htarget]
    split at h
    · cases h
    · cases Option.some.inj h
    · obtain rfl := Except.ok.inj (Option.some.inj h)
      exact ⟨rfl, rfl⟩
  · next htarget =>
    rw [htarget]
    split at h
    · cases Option.some.inj h
    · cases h
    · obtain ⟨session, -, hp⟩ := Option.map_eq_some_iff.mp h
      obtain rfl := Except.ok.inj hp
      exact ⟨rfl, rfl⟩

/-- **A plan is made alike every time**: with a seed that is set, nothing but the tables, the
configuration and the number of devices goes into it. -/
theorem planSession_again {seed : UInt64} (hseed : cfg.sessionSeed = some seed)
    (hvuln : boot'.vuln = boot.vuln) (houi : boot'.oui = boot.oui)
    (hdevices : args'.devices = args.devices)
    (h : planSession dec seedFrom args cfg boot now = some (.ok p)) :
    planSession dec seedFrom args' cfg boot' now' = some (.ok (p.madeAt now')) := by
  unfold planSession at h ⊢
  dsimp only at h ⊢
  -- with a seed in the configuration the draw of the process is not looked at
  rw [hseed, Option.getD_some] at h ⊢
  rw [houi]
  split at h
  · next t htarget =>
    split at h
    · cases h
    · cases Option.some.inj h
    · next session hbuilt =>
      obtain rfl := Except.ok.inj (Option.some.inj h)
      rfl
  · next htarget =>
    -- without a scenario: the tables, the number of devices and the seed are all that is read
    have hfabricate : planFabricate seedFrom cfg.toDaemonConfig boot'
        (args'.devices.getD cfg.synthesis.targetDevices) =
          planFabricate seedFrom cfg.toDaemonConfig boot
            (args.devices.getD cfg.synthesis.targetDevices) := by
      unfold planFabricate
      rw [hvuln, hdevices, hseed]
      rfl
    rw [hfabricate, hvuln]
    split at h
    · cases Option.some.inj h
    · cases h
    · obtain ⟨session, hsession, hp⟩ := Option.map_eq_some_iff.mp h
      obtain rfl := Except.ok.inj hp
      rw [hsession]
      rfl

/-- What a plan that was only shown is. -/
theorem cmdPlan_preview {io : Io} {file file' : LedgerFile} {shown : Option StoredSession}
    (hcommit : args.commit = false)
    (h : cmdPlan dec seedFrom args cfg boot now io file = some (0, shown, file')) :
    file' = file ∧ ∃ p, shown = some p ∧
      planSession dec seedFrom args cfg boot now = some (.ok p) := by
  unfold cmdPlan at h
  split at h
  · cases h
  · cases Option.some.inj h
  · next p hplan =>
    rw [if_neg (ne_true_of_eq_false hcommit)] at h
    obtain ⟨-, rest⟩ := Prod.mk.inj (Option.some.inj h)
    obtain ⟨rfl, rfl⟩ := Prod.mk.inj rest
    exact ⟨rfl, p, rfl, hplan⟩

/-- A commit that exits with success has sealed its plan and written it. -/
theorem cmdPlan_commit {io : Io} {file file' : LedgerFile} {shown : Option StoredSession}
    (hcommit : args.commit = true)
    (h : cmdPlan dec seedFrom args cfg boot now io file = some (0, shown, file')) :
    ∃ p, shown = some p.seal ∧ file' = .json p.seal ∧
      planSession dec seedFrom args cfg boot now = some (.ok p) := by
  unfold cmdPlan at h
  split at h
  · cases h
  · cases Option.some.inj h
  · next p hplan =>
    rw [if_pos hcommit] at h
    split at h
    · cases Option.some.inj h
    · split at h
      · cases Option.some.inj h
      · unfold StoredSession.saveAtomic at h
        cases hio : io.ledger with
        | true =>
          rw [hio] at h
          obtain ⟨-, rest⟩ := Prod.mk.inj (Option.some.inj h)
          obtain ⟨rfl, rfl⟩ := Prod.mk.inj rest
          exact ⟨p, rfl, rfl, hplan⟩
        | false =>
          rw [hio] at h
          cases Option.some.inj h

end Plan

end Life

/-! ## A run -/

/-- Two controllers are planned. -/
def twoControllers : PlanArgs := ⟨some 2, false, false⟩

/-- The generic daemon, and no domains. -/
def operatorConfig : OperatorConfig := ⟨threatConfig, false⟩

/-- The plan is committed, the daemon starts, ticks and promotes a host; a second commit is
refused. -/
def planThenFire : List LedgerEvent :=
  [.daemon (.restart threatConfig threatBoot 1000 allWrites),
    .daemon (.redTick 1 allWrites),
    .daemon (.promote (.ok internalCapture) 90000 allWrites),
    .plan { twoControllers with commit := true } operatorConfig threatBoot 90001 allWrites,
    .daemon (.restart threatConfig threatBoot 90002 allWrites)]

end TurboLaser
