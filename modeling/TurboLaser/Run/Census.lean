import Mathlib.Algebra.BigOperators.Group.Finset.Basic
import TurboLaser.Run.Heartbeat
import TurboLaser.Simulate.Planned

/-!
# The plant in the heartbeat (run/mod.rs, run/status.rs)

While the loop replays, and in the gap, its heartbeat shows the plant: how many devices, capture
hosts and zones there are, and how many of the devices each zone has. The numbers are read off the
ledger at different places, and the ledger grows between two heartbeats.

An operator who watches the numbers wants them to add up and not to go back. They are counted by
different folds: the devices of a zone by the text of its network, the total by the length of a
list, so that every device is in one of the zones is an invariant of the ledger, not of the status.
And a heartbeat may be written with the engine of an earlier moment of the turn; `Pictures` relates
it to a ledger, and the ledgers of a run extend one another.

- `Status.Agrees`: the numbers of one heartbeat add up; `Status.NoLess`: those of two;
- `Census`: the invariant of the log;
- `plant_census`: **in every run the numbers of a heartbeat add up, and none goes back.** Heartbeats
  that show no plant (at the start, or when no capture is there) are excluded by `Filled`.
-/

namespace TurboLaser

open Lib

/-! ## One heartbeat -/

section Heartbeats

variable {F : Type}

/-- The heartbeat shows the plant. -/
def Status.Filled (s : Status F) : Prop := s.state = .replaying ∨ s.state = .gap

/-- **The numbers of a heartbeat add up**: every device is counted in one zone. -/
structure Status.Agrees (s : Status F) : Prop where
  total : s.totalWireAssets = s.deviceCount + s.captureHostCount
  zoneCount : s.zoneCount = s.zones.length
  distinct : (s.zones.map StatusZone.cidr).Nodup
  devices : (s.zones.map StatusZone.devices).sum = s.deviceCount

/-- A heartbeat that shows no less than an earlier one. -/
structure Status.NoLess (s s' : Status F) : Prop where
  zones : s.zones.map StatusZone.cidr <+: s'.zones.map StatusZone.cidr
  devices : s.deviceCount ≤ s'.deviceCount
  hosts : s.captureHostCount ≤ s'.captureHostCount

/-- Every element is counted once, under its key. -/
theorem sum_countP_keys {α κ : Type} [DecidableEq κ] {keys : List κ} (hkeys : keys.Nodup)
    {key : α → κ} {xs : List α} (hall : ∀ x ∈ xs, key x ∈ keys) :
    (keys.map fun k => xs.countP fun x => decide (key x = k)).sum = xs.length := by
  have hcount : ∀ k, xs.countP (fun x => decide (key x = k)) =
      ((xs.map key : List κ) : Multiset κ).count k := by
    intro k
    rw [Multiset.coe_count, List.count, List.countP_map]
    rfl
  have hmem : ∀ k ∈ ((xs.map key : List κ) : Multiset κ), k ∈ keys.toFinset := by
    intro k hk
    obtain ⟨x, hx, rfl⟩ := List.mem_map.mp (Multiset.mem_coe.mp hk)
    exact List.mem_toFinset.mpr (hall x hx)
  have hsum := Multiset.sum_count_eq_card hmem
  rw [List.sum_toFinset _ hkeys, Multiset.coe_card, List.length_map] at hsum
  rw [List.map_congr_left fun k _ => hcount k, hsum]

theorem Status.Pictures.cidrs {s : Status F} {ledger : Session} (h : s.Pictures ledger) :
    s.zones.map StatusZone.cidr = ledger.cidrs := by
  rw [h.zones, List.map_map]
  rfl

/-- **What shows a plant adds up.** -/
theorem Status.Pictures.agrees {s : Status F} {ledger : Session} (h : s.Pictures ledger)
    (hs : Identities ledger) : s.Agrees := by
  refine ⟨?_, ?_, h.cidrs ▸ hs.cidrs, ?_⟩
  · rw [h.total, h.devices, h.hosts]
    rfl
  · rw [h.zoneCount, h.zones, List.length_map]
  · have hzoned : ∀ d ∈ ledger.devices, d.subnetCidr ∈ ledger.cidrs := by
      intro d hd
      exact (hs.inZone d.asset (List.mem_append_left _ (List.mem_map_of_mem hd))).1
    have hsum := sum_countP_keys hs.cidrs hzoned
    rw [Session.cidrs, List.map_map] at hsum
    rw [h.zones, List.map_map, h.devices]
    exact hsum

/-- **What shows a plant shows no less than what showed an earlier one.** -/
theorem Status.Pictures.noLess {s s' : Status F} {ledger ledger' : Session} (h : s.Pictures ledger)
    (h' : s'.Pictures ledger') (hextends : ledger.Extends ledger') : s.NoLess s' := by
  refine ⟨?_, ?_, ?_⟩
  · rw [h.cidrs, h'.cidrs]
    exact hextends.zones
  · have hle := hextends.devices.length_le
    rw [List.length_map, List.length_map] at hle
    rwa [h.devices, h'.devices]
  · rw [h.hosts, h'.hosts]
    exact hextends.captureHosts.length_le

/-! ## The log -/

/-- **What the log of a run has shown of its plant.** -/
structure Census (ledger : Session) (log : List (Output F)) : Prop where
  identities : Identities ledger
  pictured : ∀ s ∈ beats log, s.Filled → ∃ earlier : Session, s.Pictures earlier ∧
    Identities earlier ∧ earlier.Extends ledger
  ordered : (beats log).Pairwise fun s s' => s.Filled → s'.Filled → s.NoLess s'

theorem beats_append (log log' : List (Output F)) : beats (log ++ log') = beats log ++ beats log' :=
  List.filterMap_append

/-- The plant grows. -/
theorem Census.extends {ledger ledger' : Session} {log : List (Output F)} (h : Census ledger log)
    (hs : Identities ledger') (hextends : ledger.Extends ledger') : Census ledger' log := by
  refine ⟨hs, fun s hs hfilled => ?_, h.ordered⟩
  obtain ⟨earlier, hpictures, hidentities, hbefore⟩ := h.pictured s hs hfilled
  exact ⟨earlier, hpictures, hidentities, hbefore.trans hextends⟩

/-- A heartbeat is written. -/
theorem Census.heartbeat {ledger : Session} {log : List (Output F)} {s : Status F}
    (h : Census ledger log) (hs : s.Filled → s.Pictures ledger) :
    Census ledger (log ++ [.heartbeat s]) := by
  have hbeats : beats (log ++ [.heartbeat s]) = beats log ++ [s] := beats_append _ _
  refine ⟨h.identities, fun s' hs' hfilled => ?_, ?_⟩
  · rw [hbeats, List.mem_append, List.mem_singleton] at hs'
    rcases hs' with hs' | rfl
    · exact h.pictured s' hs' hfilled
    · exact ⟨ledger, hs hfilled, h.identities, .refl ledger⟩
  · rw [hbeats]
    refine List.pairwise_append.mpr ⟨h.ordered, List.pairwise_singleton _ _,
      fun s₁ hs₁ s₂ hs₂ hfilled₁ hfilled₂ => ?_⟩
    obtain rfl := List.mem_singleton.mp hs₂
    obtain ⟨earlier, hpictures, -, hbefore⟩ := h.pictured s₁ hs₁ hfilled₁
    exact hpictures.noLess (hs hfilled₂) hbefore

/-- Something else goes out. -/
theorem Census.silent {ledger : Session} {log new : List (Output F)} (h : Census ledger log)
    (hnew : beats new = []) : Census ledger (log ++ new) := by
  have hbeats : beats (log ++ new) = beats log := by
    rw [beats_append, hnew, List.append_nil]
  exact ⟨h.identities, hbeats ▸ h.pictured, hbeats ▸ h.ordered⟩

/-- A send and its burst show no heartbeat. -/
theorem beats_sent (send : ToSend) (chosen : PcapFile) (engine : Option LoopEngine) (now : UInt64)
    (burst : Option Capture) :
    beats ((send.output chosen engine : Output F) :: (burst.map (Output.burst now)).toList) = [] := by
  have hburst : beats ((burst.map (Output.burst now)).toList : List (Output F)) = [] := by
    cases burst with
    | none => rfl
    | some content => rfl
  unfold ToSend.output
  cases send.promoted with
  | some cap => exact hburst
  | none =>
    cases send.remapped with
    | some key => exact hburst
    | none => exact hburst

end Heartbeats

/-! ## Runs

The numbers of a heartbeat are taken from the ledger at one moment, so they add up if the ledger has
its identities apart and every device is in a zone of the list. Calls only add to the ledger.
Between two heartbeats that show the plant, none of its numbers falls.
-/

section Runs

variable {F : Type} {seedFrom : UInt64 → Rng} {cfg : LoopConfig F} {readF : List Char → Option F}
  {glob : GlobMatcher} {oui : OuiDb} {times : WatchdogTimes}

/-- **Calls leave identities apart**, and the ledger with what it had. -/
theorem CallsMade.grown {made : DaemonCall → Prop} {e e' : LoopEngine} {file file' : LedgerFile}
    (h : CallsMade seedFrom made (some e) file (some e') file')
    (hidentities : Identities e.core.ledger) :
    Identities e'.core.ledger ∧ e.core.ledger.Extends e'.core.ledger :=
  h.invariant (P := fun d _ => Identities d.core.ledger ∧ e.core.ledger.Extends d.core.ledger)
    (fun _ _ _ _ _ hd _ happly => ⟨apply_identities hd.1 happly,
      hd.2.trans (apply_extends happly).ledger⟩)
    ⟨hidentities, .refl _⟩

theorem CallsMade.census {made : DaemonCall → Prop} {e e' : LoopEngine} {file file' : LedgerFile}
    {log : List (Output F)} (h : CallsMade seedFrom made (some e) file (some e') file')
    (hcensus : Census e.core.ledger log) : Census e'.core.ledger log := by
  obtain ⟨hs, hextends⟩ := h.grown hcensus.identities
  exact hcensus.extends hs hextends

/-- The census of a state of the loop. -/
def LoopState.Counted (st : LoopState F) : Prop :=
  ∃ e, st.engine = some e ∧ Census e.core.ledger st.log

/-- A heartbeat that does not show the plant. -/
theorem LoopState.Counted.heartbeat {st : LoopState F} {s : Status F} (h : st.Counted)
    (hs : ¬ s.Filled) : ∃ e, st.engine = some e ∧ Census e.core.ledger (st.log ++ [st.shows s]) := by
  obtain ⟨e, he, hcensus⟩ := h
  exact ⟨e, he, hcensus.heartbeat fun hfilled => absurd hfilled hs⟩

variable [FloatOps F]

/-- **One turn keeps the census.** -/
theorem LoopState.Counted.step {st st' : LoopState F} {t : Turn F} (hmode : cfg.mode = .redLaser)
    (h : st.Counted) (hstep : Stepped seedFrom cfg readF glob oui times st t st') : st'.Counted := by
  cases hstep with
  | stopped => exact h
  | shutdown => exact h.heartbeat (by rintro (hs | hs) <;> cases hs)
  | idle => exact h.heartbeat (by rintro (hs | hs) <;> cases hs)
  | @skipped chosen why err engine file hrunning hchosen hprepare =>
    obtain ⟨e, he, hcensus⟩ := h
    have hcalls := prepare_calls st.runCounter hchosen hprepare
    have hwhy := prepare_skipped hprepare
    rw [he] at hcalls
    cases engine with
    | none => exact hcalls.elim
    | some e' =>
      refine ⟨e', rfl, (hcalls.census hcensus).heartbeat fun hfilled => ?_⟩
      rcases hwhy with rfl | rfl
      · rcases hfilled with hs | hs <;> cases hs
      · rcases hfilled with hs | hs <;> cases hs
  | @sent chosen send engine file st' hrunning hchosen hprepare hsend =>
    obtain ⟨e, he, hcensus⟩ := h
    have hcalls := prepare_calls st.runCounter hchosen hprepare
    have hcalls' : LoopState.CallsTo seedFrom _ _ st' := send_calls hsend
    obtain ⟨s₀, s₁, s₂, burst, res, hlog, -, -, -, -, -, -, -, -, hpictures⟩ := send_log hsend
    obtain ⟨hpictures₀, hpictures'⟩ := hpictures hmode
    unfold LoopState.CallsTo at hcalls'
    rw [he] at hcalls
    have hsent : st'.Counted := by
      cases engine with
      | none => exact hcalls.elim
      | some e₁ =>
        cases hend : st'.engine with
        | none =>
          rw [hend] at hcalls'
          exact hcalls'.elim
        | some e' =>
          rw [hend] at hcalls'
          obtain ⟨hs₁, hs₂⟩ := hpictures' e' hend
          refine ⟨e', hend, ?_⟩
          -- the heartbeat and the replay, then what the engine did, and its heartbeats
          have hfirst := (hcalls.census hcensus).heartbeat (s := { s₀ with
            pps := st.rates.pps, mbps := st.rates.mbps })
            fun _ => { hpictures₀ e₁ rfl with }
          have hreplayed := hfirst.silent
            (beats_sent send chosen (some e₁) t.tickNow burst)
          have hgrown := (hcalls'.census hreplayed).heartbeat (s := { s₁ with
            pps := st'.rates.pps, mbps := st'.rates.mbps }) fun _ => { hs₁ with }
          rw [hlog, Option.isSome_some, if_pos rfl]
          cases cfg.once with
          | true => simpa [LoopState.shows] using hgrown
          | false =>
            have hgap := hgrown.heartbeat (s := { s₂ with
              pps := st'.rates.pps, mbps := st'.rates.mbps }) fun _ => { hs₂ with }
            simpa [LoopState.shows] using hgap
    split
    · exact hsent
    · exact hsent.heartbeat (by rintro (hs | hs) <;> cases hs)

/-- **The census of a run.** In red laser, from a ledger whose identities are apart and over any
turns: in every heartbeat that shows the plant the numbers add up, its devices being those of its
zones, and no such heartbeat shows fewer devices, hosts or zones than an earlier one. -/
theorem plant_census (hmode : cfg.mode = .redLaser) (e : LoopEngine) (file : LedgerFile)
    (hidentities : Identities e.core.ledger) (turns : List (Turn F)) (st : LoopState F)
    (hrun : runLoop seedFrom cfg readF glob oui times (.start cfg (some e) file) turns = some st) :
    (∀ s ∈ beats st.log, s.Filled → s.Agrees) ∧
      (beats st.log).Pairwise fun s s' => s.Filled → s'.Filled → s.NoLess s' := by
  have hstart : (LoopState.start cfg (some e) file : LoopState F).Counted := by
    refine ⟨e, rfl, hidentities, fun s hs hfilled => ?_, List.pairwise_singleton _ _⟩
    obtain rfl := List.mem_singleton.mp hs
    rcases hfilled with hs | hs <;> cases hs
  obtain ⟨e', -, hcensus⟩ := runAll_preserves
    (fun _ _ _ hst hstep => LoopState.Counted.step hmode hst (step_cases hstep)) hstart hrun
  refine ⟨fun s hs hfilled => ?_, hcensus.ordered⟩
  obtain ⟨ledger, hpictures, hs', -⟩ := hcensus.pictured s hs hfilled
  exact hpictures.agrees hs'

end Runs

theorem plant_census_bench : ∃ st,
    benchLoop (.start benchConfig (some benchEngine) .missing) benchTurns = some st ∧
      (∀ s ∈ beats st.log, s.Filled → s.Agrees) ∧
        (beats st.log).Pairwise fun s s' => s.Filled → s'.Filled → s.NoLess s' := by
  obtain ⟨st, hrun⟩ := Option.isSome_iff_exists.mp benchLoop_isSome
  exact ⟨st, hrun, plant_census rfl benchEngine .missing (identities_new 7) benchTurns st hrun⟩

end TurboLaser
