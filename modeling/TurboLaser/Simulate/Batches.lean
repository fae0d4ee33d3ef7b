import TurboLaser.Simulate.DaemonFacts
import TurboLaser.Simulate.FabricateRuns

/-!
# Fabricating in batches (simulate/engine.rs)

`red_tick` fabricates sixteen devices at a time, from the ledger and the generator the tick before
left, and renames the zones when a tick adds nothing. `OneShot` fabricates towards a target in one
go.

The ledger alone does not determine what a later tick does: the loop has local sets of what is
taken, and the generator has moved. That the sets are rebuilt to the same from the ledger is
`FabRun.resume`; the generator is carried along. So a number of ticks is one run towards the last
target, with one exception: a run that came to its end before its target. From then on a tick adds
nothing, and the zones may be renamed, which is no part of what a preview shows.

- `Batched`: the ledger of the engine is that of one run towards a target, or that run has come to
  its end and only names may differ;
- `Batched.tick`: **a tick goes on where the run towards the last target ended**;
- `batched_of_ticks`: the ticks of a daemon are one run.
-/

namespace TurboLaser

open Lib Relation

variable {vuln : VulnDb} {params : AllocParams} {seed : UInt64} {rng : Rng}

/-- `red_tick`, call after call. -/
abbrev runTicks (st : DaemonEngine × LedgerFile) (ticks : List (Nat × Io)) :
    Option (DaemonEngine × LedgerFile) :=
  runAll (fun st t => st.1.redTick t.1 t.2 st.2) st ticks

/-- One run of the fabrication loop, from a new session. -/
abbrev OneShot (vuln : VulnDb) (params : AllocParams) (seed : UInt64) (rng : Rng) (target : Nat)
    (st : FabState) : Prop :=
  FabRun vuln params target (fabricateInit (Session.new seed) rng) st

/-- The engine fabricates, from a database and within caps. -/
structure Fabricates (vuln : VulnDb) (params : AllocParams) (e : DaemonEngine) : Prop where
  vuln_eq : e.core.vuln = vuln
  params_eq : e.core.params = params
  enabled : e.core.synthEnabled = true
  identity : e.core.deviceIdentity = true
  unsealed : e.core.sealed = false

/-- **The engine is where one run towards the target ends**: with the generator of the run, to
go on; or at the end of everything, where only names may differ. -/
inductive Batched (vuln : VulnDb) (params : AllocParams) (seed : UInt64) (rng : Rng)
    (target : Nat) (e : DaemonEngine) : Prop
  | growing {st} (hrun : OneShot vuln params seed rng target st)
      (hdone : target ≤ st.session.devices.length) (hledger : e.core.ledger = st.session)
      (hrng : e.simRng = st.rng)
  | settled {st} (hrun : OneShot vuln params seed rng target st)
      (hwire : SameWire st.session e.core.ledger)
      (hlast : params.maxDevices ≤ st.session.devices.length ∨ Ended vuln params st.session)

/-! ## One run -/

theorem OneShot.length_le {target : Nat} {st : FabState}
    (h : OneShot vuln params seed rng target st) : st.session.devices.length ≤ target :=
  FabRun.length_le h (Nat.zero_le _)

/-- A run that misses its target has nothing left to do. -/
theorem OneShot.ended {target : Nat} {st : FabState} (htarget : target ≤ maxDevices)
    (h : OneShot vuln params seed rng target st) (hmissed : st.session.devices.length < target) :
    Ended vuln params st.session := by
  by_cases hprotos : protocolsPresent vuln = []
  · -- already the first turn finds no zone
    have hinit : Ended vuln params (Session.new seed) := .noProfile hprotos rfl
    obtain ⟨rng', hend⟩ := hinit.run target rng
    rw [FabRun.deterministic h hend]
    exact hinit
  · exact .exhausted hprotos (FabRun.exhausted hprotos h (fabricating_init _ _)
      (Nat.lt_of_lt_of_le hmissed htarget) hmissed)

/-- One run always comes to an end. -/
theorem OneShot.exists (vuln : VulnDb) (params : AllocParams) (seed : UInt64) (rng : Rng)
    {target : Nat} (htarget : target ≤ maxDevices) :
    ∃ st, OneShot vuln params seed rng target st := by
  by_cases hprotos : protocolsPresent vuln = []
  · obtain ⟨rng', hend⟩ :=
      (@Ended.noProfile vuln params (Session.new seed) hprotos rfl).run target rng
    exact ⟨_, hend⟩
  · exact FabRun.exists hprotos htarget (fabricating_init _ _) rfl

/-- At the end of everything a later target changes nothing. -/
theorem OneShot.settled {target target' : Nat} {st : FabState} (hle : target ≤ target')
    (hcap : target' ≤ params.maxDevices) (h : OneShot vuln params seed rng target st)
    (hlast : params.maxDevices ≤ st.session.devices.length ∨ Ended vuln params st.session) :
    ∃ st', OneShot vuln params seed rng target' st' ∧ st'.session = st.session := by
  by_cases hdone : target ≤ st.session.devices.length
  · rcases hlast with hfull | hended
    · exact ⟨st, FabRun.trans hle h hdone (.reached (hcap.trans hfull)), rfl⟩
    · obtain ⟨rng', hrest⟩ := hended.run target' st.rng
      have hst := FabRun.fabricating h (fabricating_init _ _) hdone
      exact ⟨_, FabRun.trans hle h hdone (FabRun.resume hst hrest), rfl⟩
  · exact ⟨st, FabRun.later hle h (Nat.not_le.mp hdone), rfl⟩

/-! ## Renamed ledgers -/

theorem SameWire.trans {s s' s'' : Session} (h : SameWire s s') (h' : SameWire s' s'') :
    SameWire s s'' :=
  ⟨h'.seed.trans h.seed, h'.devices.trans h.devices, h'.captureHosts.trans h.captureHosts,
    h'.registryGeneration.trans h.registryGeneration, h'.zones.trans h.zones⟩

theorem SameWire.ended {s s' : Session} (h : SameWire s s') (hended : Ended vuln params s) :
    Ended vuln params s' := by
  cases hended with
  | noProfile hprotos hzones =>
    refine .noProfile hprotos (List.eq_nil_of_length_eq_zero ?_)
    rw [h.relabelled.length_subnets, hzones]
    rfl
  | exhausted hprotos hexhausted =>
    have hips : s'.usedIps = s.usedIps := by
      rw [Session.usedIps, Session.usedIps, h.relabelled.assets_eq]
    have hroom : zonesWithRoom s' s'.usedIps = zonesWithRoom s s.usedIps := by
      rw [zonesWithRoom, zonesWithRoom, h.relabelled.cidrs, hips]
    refine .exhausted hprotos ?_
    unfold Exhausted
    rw [hroom, h.relabelled.cidrs]
    exact hexhausted

/-! ## A tick

A tick fabricates up to a batch towards its target. The next tick goes on from there, with the texts
of the ledger read back, which are those that were written. So the ticks of a daemon are pieces of
one run of the loop, apart from the names that a cycle gives to zones.
-/

/-- How many devices a run added. -/
theorem Turned.added_next {st st' : FabState} (h : Turned st (.next st')) :
    st'.session.devices.length + st.added = st.session.devices.length + st'.added := by
  cases h with
  | fullZone hchoice =>
    rw [hchoice.devices_eq.1]
  | @placed net s ip rng mac salt profile hchoice =>
    show (s.devices ++ [profile.record ip mac net]).length + st.added = _ + (st.added + 1)
    rw [List.length_append, List.length_singleton, hchoice.devices_eq.1]
    omega

theorem FabRun.added {target : Nat} {st st' : FabState} (h : FabRun vuln params target st st') :
    st'.session.devices.length + st.added = st.session.devices.length + st'.added := by
  induction h with
  | reached => rfl
  | stopped _ hturn =>
    have hcases := fabricateTurn_cases hturn
    rw [hcases.devices_stop]
    cases hcases <;> rfl
  | next _ hturn _ ih =>
    have := (fabricateTurn_cases hturn).added_next
    omega

/-- What a tick of a fabricating engine does. -/
theorem redTick_of_fabricate {e : DaemonEngine} (he : Fabricates vuln params e) (run : Nat)
    (io : Io) (file : LedgerFile) {grown : Session} {added : Nat} {simRng : Rng}
    (hgrow : fabricate e.core.ledger vuln params
      (min (e.core.ledger.devices.length + fabricateBatch) params.maxDevices) e.simRng =
        some (grown, added, simRng)) :
    ∃ e' file', e.redTick run io file = some (e', file') ∧ Fabricates vuln params e' ∧
      e'.core.ledger = (if e.core.renameDue run grown added then grown.renameZones else grown) ∧
      e'.simRng = simRng := by
  let after := (e.ticked run grown added simRng).persistIfDirty io file
  have hcore : after.1.core = (e.ticked run grown added simRng).core :=
    (persistIfDirty_frame (e.ticked run grown added simRng) io file).1
  have hrng : after.1.simRng = simRng := by
    show ((e.ticked run grown added simRng).persistIfDirty io file).1.simRng = simRng
    unfold DaemonEngine.persistIfDirty
    split <;> rfl
  refine ⟨after.1, after.2, ?_, ?_, by rw [hcore]; rfl, hrng⟩
  · unfold DaemonEngine.redTick DaemonEngine.growPlant
    rw [if_pos he.enabled, if_pos ⟨he.identity, he.unsealed⟩, he.vuln_eq, he.params_eq]
    dsimp only
    rw [hgrow]
  · constructor <;> rw [hcore]
    · exact he.vuln_eq
    · exact he.params_eq
    · exact he.enabled
    · exact he.identity
    · exact he.unsealed

/-- What was fabricated and the ledger of the tick differ by names at most. -/
theorem sameWire_renamed (s : Session) (rename : Bool) :
    SameWire s (if rename then s.renameZones else s) := by
  split
  · exact renameZones_sameWire s
  · exact .refl s

/-- **A tick goes on where the run towards the last target ended.** -/
theorem Batched.tick (hvuln : vuln ≠ []) (hcap : params.maxDevices ≤ maxDevices) {t : Nat}
    {e : DaemonEngine} (he : Fabricates vuln params e)
    (h : Batched vuln params seed rng (min t params.maxDevices) e) (run : Nat) (io : Io)
    (file : LedgerFile) :
    ∃ e' file', e.redTick run io file = some (e', file') ∧ Fabricates vuln params e' ∧
      Batched vuln params seed rng (min (t + fabricateBatch) params.maxDevices) e' := by
  cases h with
  | @growing st hrun hdone hledger hrng =>
    -- the loop picks up the ledger and the generator of the last batch
    have hlen : st.session.devices.length = min t params.maxDevices :=
      Nat.le_antisymm hrun.length_le hdone
    have hle : min t params.maxDevices ≤ min (t + fabricateBatch) params.maxDevices := by omega
    have hhard : min (t + fabricateBatch) params.maxDevices ≤ maxDevices :=
      (Nat.min_le_right _ _).trans hcap
    obtain ⟨st', hnext⟩ := OneShot.exists vuln params seed rng hhard
    have hrest : FabRun vuln params (min (t + fabricateBatch) params.maxDevices) st st' := by
      rcases FabRun.merge hle hrun hnext with ⟨-, hrest⟩ | ⟨hmissed, -⟩
      · exact hrest
      · omega
    obtain ⟨st₁, hbatch, rfl⟩ := hrest.restart (FabRun.fabricating hrun (fabricating_init _ _) hdone)
    have hgrow : fabricate e.core.ledger vuln params
        (min (e.core.ledger.devices.length + fabricateBatch) params.maxDevices) e.simRng =
          some (st₁.session, st₁.added, st₁.rng) := by
      rw [hledger, hrng]
      refine (fabricate_iff hvuln).mpr ⟨st₁, ?_, rfl⟩
      rwa [show min (min (st.session.devices.length + fabricateBatch) params.maxDevices)
        params.maxDevices = min (t + fabricateBatch) params.maxDevices by omega]
    obtain ⟨e', file', htick, he', hledger', hrng'⟩ := redTick_of_fabricate he run io file hgrow
    refine ⟨e', file', htick, he', ?_⟩
    by_cases hreached : min (t + fabricateBatch) params.maxDevices ≤ st₁.session.devices.length
    · by_cases hrename : e.core.renameDue run st₁.session st₁.added = true
      · -- a tick that adds nothing and reaches its target is at the device cap
        have hadded : st₁.added = 0 := (of_decide_eq_true hrename).2.2.2.2.1
        have hcount := hbatch.added
        refine .settled hnext ?_ (.inl ?_)
        · rw [hledger']
          exact sameWire_renamed _ _
        · rw [hadded] at hcount
          have hsame : st₁.session.devices.length = st.session.devices.length := hcount
          have hpos : 0 < fabricateBatch := by decide
          show params.maxDevices ≤ st₁.session.devices.length
          omega
      · exact .growing hnext hreached (hledger'.trans (if_neg hrename)) hrng'
    · refine .settled hnext ?_ (.inr (hnext.ended hhard (Nat.not_le.mp hreached)))
      rw [hledger']
      exact sameWire_renamed _ _
  | @settled st hrun hwire hlast =>
    have hle : min t params.maxDevices ≤ min (t + fabricateBatch) params.maxDevices := by omega
    have hlen : e.core.ledger.devices.length = st.session.devices.length := by rw [hwire.devices]
    have hbatch : ∃ rng', FabRun vuln params
        (min (min (e.core.ledger.devices.length + fabricateBatch) params.maxDevices)
          params.maxDevices) (fabricateInit e.core.ledger e.simRng)
        { fabricateInit e.core.ledger e.simRng with rng := rng' } := by
      rcases hlast with hfull | hended
      · exact ⟨_, .reached (by show _ ≤ e.core.ledger.devices.length; omega)⟩
      · exact (hwire.ended hended).run _ _
    obtain ⟨rng', hbatch⟩ := hbatch
    have hgrow := (fabricate_iff hvuln).mpr ⟨_, hbatch, rfl⟩
    obtain ⟨e', file', htick, he', hledger', -⟩ := redTick_of_fabricate he run io file hgrow
    obtain ⟨st', hrun', hsession⟩ := hrun.settled hle (Nat.min_le_right _ _) hlast
    rw [← hsession] at hwire hlast
    refine ⟨e', file', htick, he', .settled hrun' (hwire.trans ?_) hlast⟩
    rw [hledger']
    exact sameWire_renamed _ _

/-- **The ticks of a daemon are one run.** -/
theorem batched_of_ticks (hvuln : vuln ≠ []) (hcap : params.maxDevices ≤ maxDevices) {t : Nat}
    {e : DaemonEngine} (he : Fabricates vuln params e)
    (h : Batched vuln params seed rng (min t params.maxDevices) e) (file : LedgerFile)
    (ticks : List (Nat × Io)) :
    ∃ e' file', runTicks (e, file) ticks = some (e', file') ∧
      Batched vuln params seed rng (min (t + fabricateBatch * ticks.length) params.maxDevices)
        e' := by
  induction ticks generalizing t e file with
  | nil => exact ⟨e, file, rfl, h⟩
  | cons tick ticks ih =>
    obtain ⟨e₁, file₁, htick, he₁, h₁⟩ := h.tick hvuln hcap he tick.1 tick.2 file
    obtain ⟨e', file', hrun, h'⟩ := ih he₁ h₁ file₁
    refine ⟨e', file', ?_, ?_⟩
    · rw [runTicks, runAll_cons ticks htick]
      exact hrun
    · rwa [List.length_cons, Nat.mul_succ, Nat.add_comm (fabricateBatch * ticks.length),
        ← Nat.add_assoc]

end TurboLaser
