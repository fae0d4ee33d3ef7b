import TurboLaser.Lib.Runs
import TurboLaser.Proto.Reconcile

/-!
# The host loop as a run

The two nested loops of `reconcileCaptureIntoZones` visit a list of jobs one after the other
(`placeAll`), so every fact about them is a fact about one turn carried along a run. The nesting
matters only for the ranking of zones, which is computed once for a group and read by its hosts; so
a job carries the ranking with the host, and the nested loops are one fold over the jobs of all
groups.

- `choosePlacement_cases`: what one turn can do, and why. It is the inversion of the turn: each
  outcome comes with the tests that led to it, so no later proof unfolds the function;
- `placeAll_induct`: the run rule of `Lib.Runs` for turns that meet a guard (`EveryJob`), stated by
  placements, so that an invariant is proved by cases on `Chosen`;
- `reconcile_run`: what the source returns is the end of that run, rewritten and filtered;
  `reconcile_assets` is the part of it that goes to the ledger;
- `hosts_jobs`, `nodup_jobs`: the jobs are the hosts of the groups, each once, where the groups have
  each host once.
-/

namespace TurboLaser

open Lib

/-! ## The jobs -/

/-- The jobs of one group: none when there is no zone. -/
def jobsOf (ctx : ReconcileCtx) (g : CaptureGroup) : List Job :=
  match rankZones g ctx.zones ctx.affinity ctx.seed with
  | [] => []
  | (zone, zi) :: _ => groupJobs g zone zi

/-- Every job, in the order the loops take them. -/
def jobs (ctx : ReconcileCtx) (groups : List CaptureGroup) : List Job :=
  (sortGroups groups).flatMap (jobsOf ctx)

/-- One turn of the host loop. -/
def placeOne (ctx : ReconcileCtx) (st : PlaceState) (j : Job) : Option PlaceState :=
  (choosePlacement ctx st j).map (st.record j)

/-- The loops without the summary. -/
abbrev placeAll (ctx : ReconcileCtx) (js : List Job) (st : PlaceState) : Option PlaceState :=
  runAll (placeOne ctx) st js

theorem placeHosts_fst (ctx : ReconcileCtx) (js : List Job) (st : PlaceState) :
    (placeHosts ctx js st).map Prod.fst = placeAll ctx js st := by
  induction js generalizing st with
  | nil => rfl
  | cons j js ih =>
    rw [placeHosts, placeAll, runAll, placeOne]
    cases choosePlacement ctx st j with
    | none => rfl
    | some pl =>
      show _ = placeAll ctx js (st.record j pl)
      rw [← ih]
      dsimp only
      cases placeHosts ctx js (st.record j pl) <;> rfl

theorem placeGroups_fst (ctx : ReconcileCtx) (gs : List CaptureGroup) (st : PlaceState) :
    (placeGroups ctx gs st).map Prod.fst = placeAll ctx (gs.flatMap (jobsOf ctx)) st := by
  induction gs generalizing st with
  | nil => rfl
  | cons g gs ih =>
    rw [placeGroups, List.flatMap_cons, placeAll, runAll_append, jobsOf]
    cases rankZones g ctx.zones ctx.affinity ctx.seed with
    | nil => exact ih st
    | cons best _ =>
      have hhosts : (placeHosts ctx (groupJobs g best.1 best.2) st).map Prod.fst =
          runAll (placeOne ctx) st (groupJobs g best.1 best.2) :=
        placeHosts_fst ctx (groupJobs g best.1 best.2) st
      dsimp only
      rw [← hhosts]
      cases placeHosts ctx (groupJobs g best.1 best.2) st with
      | none => rfl
      | some out =>
        show _ = placeAll ctx (gs.flatMap (jobsOf ctx)) out.1
        rw [← ih]
        dsimp only
        cases placeGroups ctx gs out.1 <;> rfl

/-- **What a reconcile with zones returns**: the capture rewritten through the map at
the end of the run, and the assets placed on the way. -/
theorem reconcile_run {cap cap' : Capture} {groups : List CaptureGroup} {ctx : ReconcileCtx}
    {summary : RemapSummary} {assets : List NewCaptureAsset} (hzones : ctx.zones ≠ [])
    (h : reconcileCaptureIntoZones cap groups ctx = some (cap', summary, assets)) :
    ∃ st, placeAll ctx (jobs ctx groups) (initState ctx) = some st ∧ assets = st.newAssets ∧
      cap' = rewriteAndFilter cap st.map (st.resolved ∪ ctx.deviceMacs) ctx.seed ctx.remapMac := by
  rw [reconcileCaptureIntoZones, if_neg hzones] at h
  split at h
  · cases h
  · next st subnets hplace =>
    cases h
    refine ⟨st, ?_, rfl, rfl⟩
    rw [jobs, ← placeGroups_fst, hplace]
    rfl

/-- A run that ends makes the reconcile return. -/
theorem reconcile_of_run {cap : Capture} {groups : List CaptureGroup} {ctx : ReconcileCtx}
    {st : PlaceState} (hzones : ctx.zones ≠ [])
    (h : placeAll ctx (jobs ctx groups) (initState ctx) = some st) :
    ∃ summary, reconcileCaptureIntoZones cap groups ctx =
      some (rewriteAndFilter cap st.map (st.resolved ∪ ctx.deviceMacs) ctx.seed ctx.remapMac,
        summary, st.newAssets) := by
  rw [jobs, ← placeGroups_fst] at h
  obtain ⟨⟨st', subnets⟩, hplace, rfl⟩ := Option.map_eq_some_iff.mp h
  refine ⟨⟨st'.map.keys.length, subnets⟩, ?_⟩
  rw [reconcileCaptureIntoZones, if_neg hzones, hplace]

/-! ## Runs -/

/-- Every turn of the run meets the guard, which sees the job and the state before it. -/
abbrev EveryJob (ctx : ReconcileCtx) (guard : PlaceState → Job → Prop) (js : List Job)
    (st : PlaceState) : Prop :=
  EveryStep (placeOne ctx) guard st js

/-- **The run rule, by placements.** What every guarded turn preserves holds at the end
of the run; the invariant sees the jobs done so far. -/
theorem placeAll_induct {ctx : ReconcileCtx} {guard : PlaceState → Job → Prop}
    {P : List Job → PlaceState → Prop}
    (hstep : ∀ done st j pl, P done st → guard st j → choosePlacement ctx st j = some pl →
      P (done ++ [j]) (st.record j pl))
    {js : List Job} {st st' : PlaceState} {done : List Job} (hinit : P done st)
    (hguard : EveryJob ctx guard js st) (hrun : placeAll ctx js st = some st') :
    P (done ++ js) st' := by
  refine runAll_induct (fun done st j st' h hg hone => ?_) hinit hguard hrun
  obtain ⟨pl, hpl, rfl⟩ := Option.map_eq_some_iff.mp hone
  exact hstep done st j pl h hg hpl

/-- The run rule for an invariant of the state alone. -/
theorem placeAll_invariant {ctx : ReconcileCtx} {guard : PlaceState → Job → Prop}
    {P : PlaceState → Prop}
    (hstep : ∀ st j pl, P st → guard st j → choosePlacement ctx st j = some pl →
      P (st.record j pl))
    {js : List Job} {st st' : PlaceState} (hinit : P st) (hguard : EveryJob ctx guard js st)
    (hrun : placeAll ctx js st = some st') : P st' :=
  @placeAll_induct ctx guard (fun _ => P) (fun _ st j pl => hstep st j pl) js st st' [] hinit
    hguard hrun

/-! ## Zones and their addresses

A reconcile works on a list of jobs, one for each host of each group. The facts here are about that
list and about the choice of an address: it lies in its zone, it is taken by nobody, and a zone that
is full stays full when more is taken.
-/

theorem mem_allReserved {zones : List ZoneTarget} {ip : Ipv4Addr} :
    ip ∈ allReserved zones ↔ ∃ z ∈ zones, ip ∈ z.reserved := by
  unfold allReserved
  induction zones with
  | nil => simp
  | cons z zones ih => rw [List.foldr_cons, Finset.mem_union, ih, List.exists_mem_cons_iff]

theorem mem_of_lowest {s : Finset Ipv4Addr} {ip : Ipv4Addr} (h : lowest s = some ip) : ip ∈ s := by
  unfold lowest at h
  split at h
  · next n hn =>
    cases h
    obtain ⟨a, ha, rfl⟩ := Finset.mem_image.mp (Finset.mem_of_min hn)
    rwa [UInt32.ofNat_toNat]
  · cases h

/-- A force-map target is a device of some zone. -/
theorem mem_of_forceMapTarget {zones : List ZoneTarget} {prefer : Nat} {ip : Ipv4Addr}
    (h : forceMapTarget zones prefer = some ip) : ip ∈ allReserved zones := by
  unfold forceMapTarget at h
  rcases Option.or_eq_some_iff.mp h with hpref | ⟨-, hany⟩
  · obtain ⟨z, hz, hlow⟩ := Option.bind_eq_some_iff.mp hpref
    exact mem_allReserved.mpr ⟨z, List.mem_of_getElem? hz, mem_of_lowest hlow⟩
  · exact mem_of_lowest hany

/-- The job's zone is one of the zones. -/
theorem zone_mem_of_mem_jobs {ctx : ReconcileCtx} {groups : List CaptureGroup} {j : Job}
    (h : j ∈ jobs ctx groups) : j.zone ∈ ctx.zones := by
  obtain ⟨g, -, hj⟩ := List.mem_flatMap.mp h
  unfold jobsOf at hj
  split at hj
  · cases hj
  · next zone zi _ hrank =>
    obtain ⟨host, -, rfl⟩ := List.mem_map.mp hj
    have hmem : (zone, zi) ∈ rankZones g ctx.zones ctx.affinity ctx.seed := by
      rw [hrank]
      exact List.mem_cons_self
    rw [rankZones, List.mem_insertionSort] at hmem
    exact List.fst_mem_of_mem_zipIdx hmem

/-- Every host of every group has a job, when there is a zone at all. -/
theorem exists_job {ctx : ReconcileCtx} (hzones : ctx.zones ≠ []) {groups : List CaptureGroup}
    {g : CaptureGroup} (hg : g ∈ groups) {host : Ipv4Addr} (hhost : host ∈ g.hosts) :
    ∃ j ∈ jobs ctx groups, j.host = host := by
  cases hrank : rankZones g ctx.zones ctx.affinity ctx.seed with
  | nil =>
    have hlen : (rankZones g ctx.zones ctx.affinity ctx.seed).length = ctx.zones.length := by
      rw [rankZones, List.length_insertionSort, List.length_zipIdx]
    rw [hrank] at hlen
    exact absurd (List.length_eq_zero_iff.mp hlen.symm) hzones
  | cons best _ =>
    refine ⟨⟨best.1, best.2, host⟩, List.mem_flatMap.mpr ⟨g, ?_, ?_⟩, rfl⟩
    · rwa [sortGroups, List.mem_insertionSort]
    · rw [jobsOf, hrank]
      exact List.mem_map.mpr ⟨host, (List.mem_insertionSort _).mpr hhost, rfl⟩

/-- The hosts of the jobs are those of the groups, or none when there is no zone. -/
theorem hosts_jobs (ctx : ReconcileCtx) (groups : List CaptureGroup) :
    ((jobs ctx groups).map Job.host).Perm
      (if ctx.zones = [] then [] else groups.flatMap CaptureGroup.hosts) := by
  -- a group goes to the zone that ranks best for it, so there is a job for each host if there is a
  -- zone
  have hgroup : ∀ g, ((jobsOf ctx g).map Job.host).Perm
      (if ctx.zones = [] then [] else g.hosts) := by
    intro g
    have hlen : (rankZones g ctx.zones ctx.affinity ctx.seed).length = ctx.zones.length := by
      rw [rankZones, List.length_insertionSort, List.length_zipIdx]
    unfold jobsOf
    cases hrank : rankZones g ctx.zones ctx.affinity ctx.seed with
    | nil =>
      rw [hrank] at hlen
      rw [if_pos (List.length_eq_zero_iff.mp hlen.symm)]
      exact .nil
    | cons best _ =>
      have hne : ctx.zones ≠ [] := by
        rintro hnil
        rw [hrank, hnil] at hlen
        cases hlen
      rw [if_neg hne]
      dsimp only
      rw [groupJobs, List.map_map]
      show ((g.hosts.insertionSort _).map id).Perm g.hosts
      rw [List.map_id]
      exact List.perm_insertionSort _ _
  rw [jobs, List.map_flatMap]
  refine ((List.perm_insertionSort _ groups).flatMap fun g _ => hgroup g).trans ?_
  split
  · rw [List.flatMap_eq_nil_iff.mpr fun _ _ => rfl]
  · exact .refl _

/-- With no host in two groups, no host has two turns. -/
theorem nodup_jobs {ctx : ReconcileCtx} {groups : List CaptureGroup}
    (h : (groups.flatMap CaptureGroup.hosts).Nodup) : ((jobs ctx groups).map Job.host).Nodup := by
  rw [(hosts_jobs ctx groups).nodup_iff]
  split
  · exact List.nodup_nil
  · exact h

/-- Without zones there are no jobs. -/
theorem jobs_eq_nil {ctx : ReconcileCtx} (hzones : ctx.zones = []) (groups : List CaptureGroup) :
    jobs ctx groups = [] := by
  have hperm := hosts_jobs ctx groups
  rw [if_pos hzones] at hperm
  exact List.map_eq_nil_iff.mp hperm.eq_nil

/-- **The assets a reconcile returns** are those of its run, with zones or without. -/
theorem reconcile_assets {cap cap' : Capture} {groups : List CaptureGroup} {ctx : ReconcileCtx}
    {summary : RemapSummary} {assets : List NewCaptureAsset}
    (h : reconcileCaptureIntoZones cap groups ctx = some (cap', summary, assets)) :
    ∃ st, placeAll ctx (jobs ctx groups) (initState ctx) = some st ∧ assets = st.newAssets := by
  by_cases hzones : ctx.zones = []
  · rw [reconcileCaptureIntoZones, if_pos hzones] at h
    cases h
    exact ⟨initState ctx, by rw [jobs_eq_nil hzones]; rfl, rfl⟩
  · obtain ⟨st, hrun, hassets, -⟩ := reconcile_run hzones h
    exact ⟨st, hrun, hassets⟩

/-- What `place_in_zone` returns is new and lies in the zone. -/
theorem placeInZone_spec {net : Ipv4Net} {taken : Finset Ipv4Addr} {off ip : Ipv4Addr}
    (h : placeInZone net taken off = some ip) : ip ∉ taken ∧ net.contains ip = true := by
  unfold placeInZone at h
  dsimp only at h
  split at h
  · next hwant =>
    cases h
    have husable := hwant.1
    unfold isUsableHost at husable
    rw [Bool.and_eq_true, Bool.and_eq_true] at husable
    exact ⟨hwant.2, husable.1.1⟩
  · have hnew := List.find?_some h
    rw [decide_eq_true_iff] at hnew
    exact ⟨hnew, Ipv4Net.contains_of_mem_hosts (List.mem_of_find?_eq_some h)⟩

/-- A zone that is full stays full. -/
theorem placeInZone_eq_none_mono {net : Ipv4Net} {taken taken' : Finset Ipv4Addr}
    {off : Ipv4Addr} (hsub : taken ⊆ taken') (h : placeInZone net taken off = none) :
    placeInZone net taken' off = none := by
  unfold placeInZone at h ⊢
  dsimp only at h ⊢
  split at h
  · cases h
  · next hwant =>
    rw [if_neg fun hw => hwant ⟨hw.1, fun hin => hw.2 (hsub hin)⟩, List.find?_eq_none]
    intro ip hip hnew
    rw [decide_eq_true_iff] at hnew
    exact List.find?_eq_none.mp h ip hip (decide_eq_true fun hin => hnew (hsub hin))

/-! ## One turn -/

/-- A host is placed when the budget is not spent and its zone has an address. -/
def openSlot (st : PlaceState) (j : Job) : Option Ipv4Addr :=
  if 0 < st.budget then placeInZone j.zone.net st.taken j.host else none

/-- **One turn of the host loop**: which way was taken, and that no earlier one was open. -/
inductive Chosen (ctx : ReconcileCtx) (st : PlaceState) (j : Job) : Placement → Prop
  | reuse {ip} (hreg : ctx.registered.lookup j.host = some ip) : Chosen ctx st j (.reuse ip)
  | fresh {ip mac salt} (hreg : ctx.registered.lookup j.host = none)
      (hslot : openSlot st j = some ip)
      (hmac : freshMac (hostMacSalted ctx.seed ip) st.usedMacs = some (mac, salt)) :
      Chosen ctx st j (.fresh ip mac salt)
  | ride {ip} (hreg : ctx.registered.lookup j.host = none) (hslot : openSlot st j = none)
      (htarget : forceMapTarget ctx.zones j.zi = some ip) : Chosen ctx st j (.ride ip)
  | unmapped (hreg : ctx.registered.lookup j.host = none) (hslot : openSlot st j = none)
      (htarget : forceMapTarget ctx.zones j.zi = none) : Chosen ctx st j .unmapped

theorem choosePlacement_cases {ctx : ReconcileCtx} {st : PlaceState} {j : Job} {pl : Placement}
    (h : choosePlacement ctx st j = some pl) : Chosen ctx st j pl := by
  unfold choosePlacement at h
  split at h
  · next ip hreg =>
    cases h
    exact .reuse hreg
  · next hreg =>
    split at h
    · next ip hslot =>
      split at h
      · next mac salt hmac =>
        cases h
        exact .fresh hreg hslot hmac
      · cases h
    · next hslot =>
      split at h
      · next t htarget =>
        cases h
        exact .ride hreg hslot htarget
      · next htarget =>
        cases h
        exact .unmapped hreg hslot htarget

/-- A fresh address is new, and lies in the zone of the job. -/
theorem openSlot_spec {st : PlaceState} {j : Job} {ip : Ipv4Addr} (h : openSlot st j = some ip) :
    0 < st.budget ∧ ip ∉ st.taken ∧ j.zone.net.contains ip = true := by
  unfold openSlot at h
  split at h
  · next hb => exact ⟨hb, placeInZone_spec h⟩
  · cases h

/-- A closed slot stays closed. -/
theorem openSlot_eq_none_mono {st st' : PlaceState} {j : Job} (hbudget : st'.budget ≤ st.budget)
    (htaken : st.taken ⊆ st'.taken) (h : openSlot st j = none) : openSlot st' j = none := by
  unfold openSlot at h ⊢
  split at h
  · split
    · exact placeInZone_eq_none_mono htaken h
    · rfl
  · rw [if_neg (by omega)]

/-- The map after a turn: the host gets the placement's address, the others keep theirs. -/
theorem lookup_record (st : PlaceState) (j : Job) (pl : Placement) (a : Ipv4Addr) :
    (st.record j pl).map.lookup a =
      if a = j.host then pl.ip?.or (st.map.lookup a) else st.map.lookup a := by
  have hinsert : ∀ ip, (st.map.insert j.host ip).lookup a =
      if a = j.host then some ip else st.map.lookup a := by
    intro ip
    by_cases ha : a = j.host
    · rw [if_pos ha, ha, AList.lookup_insert]
    · rw [if_neg ha, AList.lookup_insert_ne ha]
  cases pl with
  | reuse ip => exact hinsert ip
  | fresh ip mac salt => exact hinsert ip
  | ride ip => exact hinsert ip
  | unmapped =>
    show st.map.lookup a = if a = j.host then none.or _ else _
    rw [Option.none_or, ite_self]

/-- Turns only spend budget and take addresses. -/
theorem record_mono (st : PlaceState) (j : Job) (pl : Placement) :
    (st.record j pl).budget ≤ st.budget ∧ st.taken ⊆ (st.record j pl).taken := by
  cases pl with
  | fresh ip mac salt => exact ⟨Nat.sub_le _ _, Finset.subset_insert _ _⟩
  | _ => exact ⟨Nat.le_refl _, Finset.Subset.refl _⟩

end TurboLaser
