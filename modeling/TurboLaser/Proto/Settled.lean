import TurboLaser.Proto.OutputSafety

/-!
# Reconciling the same capture again

Once the assets of a reconcile are registered, the hosts they stand for come back through another
branch of the host loop: the registry. `placeAll_again` shows that the second run maps every host
where the first did, and places none: the state a host was settled in (`Settled`) does not change
any more.

The two runs do not go in lockstep. In the first one a host may be registered already, be placed, or
ride a device, and its turn changes the state; in the second all of that is decided from the start.
So the invariant of the first run says of every host that has had its turn how it will be found
later (`HostSettled`), and the second run is proved against the end of the first one, host by host,
whatever its order. What the zones or the budget are like by then does not matter to a registered
host; a host that rode a device has to find every way to a place still closed, which it does because
places are only taken.

The MACs agree too when each new asset got its natural MAC (`reconcile_again_frames`). A MAC
perturbed off a collision goes to the ledger, but the override map of the second run is built from
devices only, so the second run computes the natural MAC again. That such a run exists is shown
where stable identities are; here is what holds in its absence.
-/

namespace TurboLaser

open Lib

/-! ## The registry after a run -/

/-- The registry with new assets entered. -/
def enterAssets (registered : HostMap) (assets : List NewCaptureAsset) : HostMap :=
  assets.foldl (fun map a => map.insert a.origin a.ip) registered

/-- What the next reconcile is told once the assets are registered: the overrides are
those of the devices, as before. -/
def ReconcileCtx.afterRegistering (ctx : ReconcileCtx) (assets : List NewCaptureAsset) :
    ReconcileCtx :=
  { ctx with
    registered := enterAssets ctx.registered assets
    reservedMacs := ctx.reservedMacs ∪ (assets.map NewCaptureAsset.mac).toFinset
    budget := ctx.budget - assets.length }

@[simp] theorem ReconcileCtx.afterRegistering_zones (ctx : ReconcileCtx)
    (assets : List NewCaptureAsset) : (ctx.afterRegistering assets).zones = ctx.zones := rfl

theorem enterAssets_snoc (registered : HostMap) (assets : List NewCaptureAsset)
    (a : NewCaptureAsset) :
    enterAssets registered (assets ++ [a]) =
      (enterAssets registered assets).insert a.origin a.ip :=
  List.foldl_append

/-! ## Settled hosts

The loop over the hosts changes the registry, the budget, the slots in use and the map at once, and
the four are tied together: the budget is what the new assets have left of it, and the slots in use
are those of the registry. `Settled` says all of it for the hosts that had their turn. A turn either
enters an asset or does not, and there is one lemma for each of the two.
-/

/-- The map that sends some hosts where `f` sends them. -/
def mapHosts (f : Ipv4Addr → Option Ipv4Addr) (map : HostMap) (hosts : List Ipv4Addr) : HostMap :=
  hosts.foldl (fun map a => (f a).elim map fun ip => map.insert a ip) map

/-- No two hosts have one address, and none has that of a device. -/
structure RegistryApart (zones : List ZoneTarget) (registered : HostMap) : Prop where
  injective : ∀ a b ip, registered.lookup a = some ip → registered.lookup b = some ip → a = b
  offDevices : ∀ ip ∈ registered.values, ip ∉ allReserved zones

/-- How a host was settled: it is registered by now, or it was turned away and took what
rides were left. -/
inductive HostSettled (ctx : ReconcileCtx) (st : PlaceState) (j : Job) : Prop
  | registered {ip} (hreg : (enterAssets ctx.registered st.newAssets).lookup j.host = some ip)
      (hmap : st.map.lookup j.host = some ip)
  | surplus (hreg : (enterAssets ctx.registered st.newAssets).lookup j.host = none)
      (hslot : openSlot st j = none) (hmap : st.map.lookup j.host = forceMapTarget ctx.zones j.zi)

/-- **What the host loop keeps.** -/
structure Settled (ctx : ReconcileCtx) (done : List Job) (st : PlaceState) : Prop where
  budget : st.budget = ctx.budget - st.newAssets.length
  taken : st.taken = allReserved ctx.zones ∪ (enterAssets ctx.registered st.newAssets).values
  keys : ∀ a ∈ enterAssets ctx.registered st.newAssets,
    a ∈ ctx.registered ∨ ∃ j ∈ done, j.host = a
  kept : ∀ a ip, ctx.registered.lookup a = some ip →
    (enterAssets ctx.registered st.newAssets).lookup a = some ip
  entered : ∀ a ∈ st.newAssets,
    (enterAssets ctx.registered st.newAssets).lookup a.origin = some a.ip
  free : ∀ a ∈ st.newAssets, a.ip ∉ allReserved ctx.zones
  apart : RegistryApart ctx.zones ctx.registered →
    RegistryApart ctx.zones (enterAssets ctx.registered st.newAssets)
  hosts : ∀ j ∈ done, HostSettled ctx st j
  mapKeys : ∀ a ∈ st.map, ∃ j ∈ done, j.host = a
  map : ∀ f, (∀ j ∈ done, f j.host = st.map.lookup j.host) → st.map = mapHosts f ∅ (done.map Job.host)

theorem values_insert_of_notMem {map : HostMap} {a b : Ipv4Addr} (h : a ∉ map) :
    HostMap.values (map.insert a b) = insert b map.values := by
  unfold HostMap.values
  rw [AList.entries_insert_of_notMem h, List.map_cons, List.toFinset_cons]

/-- A new host at a new address keeps a registry apart. -/
theorem RegistryApart.insert {zones : List ZoneTarget} {registered : HostMap} {a ip : Ipv4Addr}
    (h : RegistryApart zones registered) (ha : a ∉ registered) (hip : ip ∉ registered.values)
    (hdevice : ip ∉ allReserved zones) : RegistryApart zones (registered.insert a ip) := by
  have hother : ∀ b, registered.lookup b ≠ some ip := fun b hb =>
    hip (mem_values_of_lookup hb)
  refine ⟨fun b c v hb hc => ?_, fun v hv => ?_⟩
  · by_cases hba : b = a <;> by_cases hca : c = a
    · rw [hba, hca]
    · rw [hba, AList.lookup_insert, Option.some_inj] at hb
      rw [AList.lookup_insert_ne hca, ← hb] at hc
      exact absurd hc (hother c)
    · rw [hca, AList.lookup_insert, Option.some_inj] at hc
      rw [AList.lookup_insert_ne hba, ← hc] at hb
      exact absurd hb (hother b)
    · rw [AList.lookup_insert_ne hba] at hb
      rw [AList.lookup_insert_ne hca] at hc
      exact h.injective b c v hb hc
  · rw [values_insert_of_notMem ha, Finset.mem_insert] at hv
    obtain rfl | hold := hv
    · exact hdevice
    · exact h.offDevices v hold

/-- A settled host stays settled through the turn of another. -/
theorem HostSettled.record {ctx : ReconcileCtx} {st : PlaceState} {j j' : Job} {pl : Placement}
    (hne : j.host ≠ j'.host) (hchosen : Chosen ctx st j' pl) (h : HostSettled ctx st j) :
    HostSettled ctx (st.record j' pl) j := by
  have hmapped : (st.record j' pl).map.lookup j.host = st.map.lookup j.host := by
    rw [lookup_record, if_neg hne]
  have hentered : (enterAssets ctx.registered (st.record j' pl).newAssets).lookup j.host =
      (enterAssets ctx.registered st.newAssets).lookup j.host := by
    cases hchosen with
    | @fresh ip mac salt =>
      show (enterAssets ctx.registered (st.newAssets ++ [j'.asset ip mac])).lookup j.host = _
      rw [enterAssets_snoc]
      exact AList.lookup_insert_ne hne
    | _ => rfl
  obtain ⟨hbudget, htaken⟩ := record_mono st j' pl
  cases h with
  | registered hreg hmap => exact .registered (hentered.trans hreg) (hmapped.trans hmap)
  | surplus hreg hslot hmap =>
    exact .surplus (hentered.trans hreg) (openSlot_eq_none_mono hbudget htaken hslot)
      (hmapped.trans hmap)

section Step

variable {ctx : ReconcileCtx} {done : List Job} {st : PlaceState} {j : Job} {pl : Placement}
  (h : Settled ctx done st)

include h

/-- The keys of the map stay the hosts that had their turn. -/
theorem Settled.mapKeys_record :
    ∀ a ∈ (st.record j pl).map, ∃ j' ∈ done ++ [j], j'.host = a := by
  intro a ha
  by_cases haj : a = j.host
  · exact ⟨j, List.mem_append_right _ (List.mem_singleton_self _), haj.symm⟩
  · rw [← AList.lookup_isSome, lookup_record, if_neg haj, AList.lookup_isSome] at ha
    obtain ⟨j', hj', heq⟩ := h.mapKeys a ha
    exact ⟨j', List.mem_append_left _ hj', heq⟩

/-- And so do the hosts that were entered. -/
theorem Settled.keys_append :
    ∀ a ∈ enterAssets ctx.registered st.newAssets,
      a ∈ ctx.registered ∨ ∃ j' ∈ done ++ [j], j'.host = a := by
  intro a ha
  refine (h.keys a ha).imp_right ?_
  rintro ⟨j', hj', heq⟩
  exact ⟨j', List.mem_append_left _ hj', heq⟩

variable (hnew : j.host ∉ done.map Job.host)

include hnew

/-- A host is mapped by its own turn only. -/
theorem Settled.lookup_record_self : (st.record j pl).map.lookup j.host = pl.ip? := by
  have hunmapped : st.map.lookup j.host = none := by
    rw [AList.lookup_eq_none]
    intro hin
    obtain ⟨j', hj', heq⟩ := h.mapKeys _ hin
    exact hnew (List.mem_map.mpr ⟨j', hj', heq⟩)
  rw [lookup_record, if_pos rfl, hunmapped, Option.or_none]

/-- An unregistered host has not been entered by an earlier turn. -/
theorem Settled.notMem_enterAssets (hreg : ctx.registered.lookup j.host = none) :
    j.host ∉ enterAssets ctx.registered st.newAssets := by
  intro hin
  obtain hin | ⟨j', hj', heq⟩ := h.keys _ hin
  · exact AList.lookup_eq_none.mp hreg hin
  · exact hnew (List.mem_map.mpr ⟨j', hj', heq⟩)

/-- The map stays the one that is built of its own lookups. -/
theorem Settled.map_record (f : Ipv4Addr → Option Ipv4Addr)
    (hf : ∀ j' ∈ done ++ [j], f j'.host = (st.record j pl).map.lookup j'.host) :
    (st.record j pl).map = mapHosts f ∅ ((done ++ [j]).map Job.host) := by
  have hprev : st.map = mapHosts f ∅ (done.map Job.host) := by
    refine h.map f fun j' hj' => ?_
    rw [hf j' (List.mem_append_left _ hj'), lookup_record,
      if_neg fun heq => hnew (List.mem_map.mpr ⟨j', hj', heq⟩)]
  have hlast := hf j (List.mem_append_right _ (List.mem_singleton_self _))
  rw [h.lookup_record_self hnew] at hlast
  rw [mapHosts, List.map_append, List.foldl_append, List.map_singleton, List.foldl_cons,
    List.foldl_nil, hlast]
  show _ = pl.ip?.elim (mapHosts f ∅ (done.map Job.host)) fun ip =>
    (mapHosts f ∅ (done.map Job.host)).insert j.host ip
  rw [← hprev]
  cases pl <;> rfl

/-- Every host is settled when one more is. -/
theorem Settled.hosts_append (hchosen : Chosen ctx st j pl)
    (hlast : HostSettled ctx (st.record j pl) j) :
    ∀ j' ∈ done ++ [j], HostSettled ctx (st.record j pl) j' := by
  intro j' hj'
  obtain hin | hin := List.mem_append.mp hj'
  · exact (h.hosts j' hin).record (fun heq => hnew (List.mem_map.mpr ⟨j', hin, heq⟩)) hchosen
  · rw [List.mem_singleton.mp hin]
    exact hlast

/-- A turn that enters no asset. -/
theorem Settled.step_same (hchosen : Chosen ctx st j pl)
    (hlast : HostSettled ctx (st.record j pl) j)
    (hassets : (st.record j pl).newAssets = st.newAssets)
    (hbudget : (st.record j pl).budget = st.budget) (htaken : (st.record j pl).taken = st.taken) :
    Settled ctx (done ++ [j]) (st.record j pl) := by
  refine ⟨?_, ?_, ?_, ?_, ?_, ?_, ?_, h.hosts_append hnew hchosen hlast, h.mapKeys_record,
    h.map_record hnew⟩
  · rw [hassets, hbudget, h.budget]
  · rw [hassets, htaken, h.taken]
  · rw [hassets]
    exact h.keys_append
  · rw [hassets]
    exact h.kept
  · rw [hassets]
    exact h.entered
  · rw [hassets]
    exact h.free
  · rw [hassets]
    exact h.apart

/-- A turn that enters one: it is the last of the assets, at an address that nobody has. -/
theorem Settled.step_fresh {ip : Ipv4Addr} {mac : Mac} {salt : UInt64}
    (hreg : ctx.registered.lookup j.host = none) (hslot : openSlot st j = some ip)
    (hchosen : Chosen ctx st j (.fresh ip mac salt)) :
    Settled ctx (done ++ [j]) (st.record j (.fresh ip mac salt)) := by
  have hnotEntered := h.notMem_enterAssets hnew hreg
  have hentered : enterAssets ctx.registered (st.record j (.fresh ip mac salt)).newAssets =
      (enterAssets ctx.registered st.newAssets).insert j.host ip :=
    enterAssets_snoc _ _ _
  have hlast : HostSettled ctx (st.record j (.fresh ip mac salt)) j := by
    refine .registered ?_ (h.lookup_record_self hnew)
    rw [hentered]
    exact AList.lookup_insert _
  -- what is taken is what was reserved and what was entered since, so an open slot is in neither
  have hfree : ip ∉ allReserved ctx.zones ∧
      ip ∉ (enterAssets ctx.registered st.newAssets).values := by
    rw [← not_or, ← Finset.mem_union, ← h.taken]
    exact (openSlot_spec hslot).2.1
  refine ⟨?_, ?_, ?_, ?_, ?_, ?_, fun hctx => ?_, h.hosts_append hnew hchosen hlast,
    h.mapKeys_record, h.map_record hnew⟩
  · show st.budget - 1 = ctx.budget - (st.newAssets ++ [j.asset ip mac]).length
    rw [List.length_append, h.budget]
    exact Nat.sub_sub _ _ _
  · rw [hentered, values_insert_of_notMem hnotEntered]
    show insert ip st.taken = _
    rw [h.taken, Finset.union_insert]
  · intro a ha
    rw [hentered, AList.mem_insert] at ha
    obtain rfl | hin := ha
    · exact Or.inr ⟨j, List.mem_append_right _ (List.mem_singleton_self _), rfl⟩
    · exact h.keys_append a hin
  · intro a ip' hreg'
    have hne : a ≠ j.host := by
      rintro rfl
      rw [hreg] at hreg'
      cases hreg'
    rw [hentered, AList.lookup_insert_ne hne]
    exact h.kept a ip' hreg'
  · intro a ha
    rw [hentered]
    obtain hold | hlast := List.mem_append.mp ha
    · have hin := h.entered a hold
      have hne : a.origin ≠ j.host := by
        intro heq
        rw [heq, AList.lookup_eq_none.mpr hnotEntered] at hin
        cases hin
      rw [AList.lookup_insert_ne hne]
      exact hin
    · rw [List.mem_singleton.mp hlast]
      exact AList.lookup_insert _
  · intro a ha
    obtain hold | hlast := List.mem_append.mp ha
    · exact h.free a hold
    · rw [List.mem_singleton.mp hlast]
      exact hfree.1
  · rw [hentered]
    exact (h.apart hctx).insert hnotEntered hfree.2 hfree.1

/-- **One turn keeps what the loop keeps.** -/
theorem Settled.step (hchosen : Chosen ctx st j pl) :
    Settled ctx (done ++ [j]) (st.record j pl) := by
  cases hchosen with
  | @reuse ip hreg =>
    have hlast : HostSettled ctx (st.record j (.reuse ip)) j :=
      .registered (h.kept _ ip hreg) (h.lookup_record_self hnew)
    exact h.step_same hnew (.reuse hreg) hlast rfl rfl rfl
  | @fresh ip mac salt hreg hslot hmac =>
    exact h.step_fresh hnew hreg hslot (.fresh hreg hslot hmac)
  | @ride ip hreg hslot htarget =>
    have hlast : HostSettled ctx (st.record j (.ride ip)) j :=
      .surplus (AList.lookup_eq_none.mpr (h.notMem_enterAssets hnew hreg)) hslot
        ((h.lookup_record_self hnew).trans htarget.symm)
    exact h.step_same hnew (.ride hreg hslot htarget) hlast rfl rfl rfl
  | unmapped hreg hslot htarget =>
    have hlast : HostSettled ctx (st.record j .unmapped) j :=
      .surplus (AList.lookup_eq_none.mpr (h.notMem_enterAssets hnew hreg)) hslot
        ((h.lookup_record_self hnew).trans htarget.symm)
    exact h.step_same hnew (.unmapped hreg hslot htarget) hlast rfl rfl rfl

end Step

/-- **Every host is settled at the end of a run.** -/
theorem settled_of_run {ctx : ReconcileCtx} {js : List Job} {st : PlaceState}
    (hnodup : (js.map Job.host).Nodup) (hrun : placeAll ctx js (initState ctx) = some st) :
    Settled ctx js st := by
  have hinit : Settled ctx [] (initState ctx) :=
    ⟨rfl, rfl, fun a ha => Or.inl ha, fun _ _ h => h, nofun, nofun, id, nofun,
      fun a ha => absurd ha (AList.notMem_empty a), fun _ _ => rfl⟩
  have hend := placeAll_induct
    (P := fun done st => (done.map Job.host).Nodup → Settled ctx done st)
    (fun done st j pl h _ hpl hnodup => by
      rw [List.map_append, List.nodup_append'] at hnodup
      exact (h hnodup.1).step (List.disjoint_singleton.mp hnodup.2.2) (choosePlacement_cases hpl))
    (fun _ => hinit)
    (show EveryJob ctx (fun _ _ => True) js (initState ctx) from
      everyStep_of_forall (fun _ _ _ => trivial) _) hrun
  rw [List.nil_append] at hend
  exact hend hnodup

/-- A settled host goes where it went, and is not placed again. -/
theorem choosePlacement_settled {ctx : ReconcileCtx} {st st₂ : PlaceState} {j : Job}
    (h : HostSettled ctx st j) (hbudget : st₂.budget = st.budget) (htaken : st₂.taken = st.taken) :
    ∃ pl, choosePlacement (ctx.afterRegistering st.newAssets) st₂ j = some pl ∧
      st₂.record j pl = { st₂ with
        map := (st.map.lookup j.host).elim st₂.map fun ip => st₂.map.insert j.host ip } := by
  cases h with
  | @registered ip hreg hmap =>
    refine ⟨.reuse ip, ?_, ?_⟩
    · rw [choosePlacement, show (ctx.afterRegistering st.newAssets).registered.lookup j.host =
        some ip from hreg]
    · rw [hmap]
      rfl
  | surplus hreg hslot hmap =>
    have hclosed : (if 0 < st₂.budget then placeInZone j.zone.net st₂.taken j.host else none) =
        none := by
      rw [hbudget, htaken]
      exact hslot
    rw [choosePlacement, show (ctx.afterRegistering st.newAssets).registered.lookup j.host =
      none from hreg, hmap, ReconcileCtx.afterRegistering_zones]
    dsimp only
    rw [hclosed]
    cases forceMapTarget ctx.zones j.zi with
    | some t => exact ⟨.ride t, rfl, rfl⟩
    | none => exact ⟨.unmapped, rfl, rfl⟩

/-- Settled hosts one after the other. -/
theorem placeAll_settled {ctx : ReconcileCtx} {st : PlaceState} {js : List Job}
    (h : ∀ j ∈ js, HostSettled ctx st j) {st₂ : PlaceState} (hbudget : st₂.budget = st.budget)
    (htaken : st₂.taken = st.taken) :
    placeAll (ctx.afterRegistering st.newAssets) js st₂ =
      some { st₂ with map := mapHosts st.map.lookup st₂.map (js.map Job.host) } := by
  induction js generalizing st₂ with
  | nil => rfl
  | cons j js ih =>
    obtain ⟨pl, hpl, hrecord⟩ :=
      choosePlacement_settled (h j List.mem_cons_self) hbudget htaken
    rw [placeAll, runAll, placeOne, hpl]
    show placeAll (ctx.afterRegistering st.newAssets) js (st₂.record j pl) = _
    rw [hrecord, ih (fun j' hj' => h j' (List.mem_cons_of_mem _ hj'))]
    · rfl
    · exact hbudget
    · exact htaken

/-- **The second run ends in the map of the first**, with nothing placed. -/
theorem placeAll_again {ctx : ReconcileCtx} {js : List Job} {st : PlaceState}
    (hnodup : (js.map Job.host).Nodup) (hrun : placeAll ctx js (initState ctx) = some st) :
    placeAll (ctx.afterRegistering st.newAssets) js
        (initState (ctx.afterRegistering st.newAssets)) =
      some { initState (ctx.afterRegistering st.newAssets) with map := st.map } := by
  have h := settled_of_run hnodup hrun
  have hagain := placeAll_settled h.hosts
    (show (initState (ctx.afterRegistering st.newAssets)).budget = st.budget from h.budget.symm)
    (show (initState (ctx.afterRegistering st.newAssets)).taken = st.taken from h.taken.symm)
  have hmap : mapHosts (fun a => st.map.lookup a)
      (initState (ctx.afterRegistering st.newAssets)).map (js.map Job.host) = st.map :=
    (h.map (fun a => st.map.lookup a) fun _ _ => rfl).symm
  rw [hagain, hmap]

/-! ## Registered hosts -/

/-- Hosts that are all registered keep their assets, and nothing else happens. -/
theorem placeAll_registered {ctx : ReconcileCtx} {js : List Job}
    (h : ∀ j ∈ js, j.host ∈ ctx.registered) (st : PlaceState) :
    placeAll ctx js st = some { st with
      map := mapHosts (fun a => ctx.registered.lookup a) st.map (js.map Job.host) } := by
  induction js generalizing st with
  | nil => rfl
  | cons j js ih =>
    obtain ⟨ip, hip⟩ :=
      Option.isSome_iff_exists.mp (AList.lookup_isSome.mpr (h j List.mem_cons_self))
    have hreuse : choosePlacement ctx st j = some (.reuse ip) := by
      rw [choosePlacement, hip]
    rw [placeAll, runAll, placeOne, hreuse]
    show placeAll ctx js (st.record j (.reuse ip)) = _
    rw [ih (fun j' hj' => h j' (List.mem_cons_of_mem _ hj')), List.map_cons, mapHosts, mapHosts,
      List.foldl_cons, hip]
    rfl

/-- The values of such a map are values of `f`. -/
theorem values_mapHosts {f : Ipv4Addr → Option Ipv4Addr} {hosts : List Ipv4Addr} {map : HostMap}
    {v : Ipv4Addr} (h : v ∈ (mapHosts f map hosts).values) :
    v ∈ map.values ∨ ∃ a, f a = some v := by
  induction hosts generalizing map with
  | nil => exact Or.inl h
  | cons a hosts ih =>
    rw [mapHosts, List.foldl_cons] at h
    obtain hold | hnew := ih h
    · cases ha : f a with
      | none =>
        rw [ha] at hold
        exact Or.inl hold
      | some ip =>
        rw [ha] at hold
        exact (mem_values_insert hold).elim (fun hv => Or.inr ⟨a, by rw [ha, hv]⟩) Or.inl
    · exact Or.inr hnew

/-- The hosts of the groups in the order the loops take them. -/
def hostOrder (groups : List CaptureGroup) : List Ipv4Addr :=
  (sortGroups groups).flatMap fun g => g.hosts.insertionSort fun a b => a.toNat ≤ b.toNat

theorem map_host_jobs {ctx : ReconcileCtx} (hzones : ctx.zones ≠ [])
    (groups : List CaptureGroup) : (jobs ctx groups).map Job.host = hostOrder groups := by
  rw [jobs, hostOrder, List.map_flatMap]
  congr 1
  funext g
  have hlen : (rankZones g ctx.zones ctx.affinity ctx.seed).length = ctx.zones.length := by
    rw [rankZones, List.length_insertionSort, List.length_zipIdx]
  unfold jobsOf
  cases hrank : rankZones g ctx.zones ctx.affinity ctx.seed with
  | nil =>
    rw [hrank] at hlen
    exact absurd (List.length_eq_zero_iff.mp hlen.symm) hzones
  | cons best _ =>
    dsimp only
    rw [groupJobs, List.map_map]
    exact List.map_id _

/-- **A capture whose hosts are all registered** is rewritten by the registry, and no asset
is placed. -/
theorem reconcile_registered {cap : Capture} {groups : List CaptureGroup} {ctx : ReconcileCtx}
    (hzones : ctx.zones ≠ []) (h : ∀ g ∈ groups, ∀ a ∈ g.hosts, a ∈ ctx.registered) :
    ∃ summary, reconcileCaptureIntoZones cap groups ctx =
      some (rewriteAndFilter cap
        (mapHosts (fun a => ctx.registered.lookup a) ∅ (hostOrder groups)) ctx.deviceMacs ctx.seed
        ctx.remapMac, summary, []) := by
  have hjobs : ∀ j ∈ jobs ctx groups, j.host ∈ ctx.registered := by
    intro j hj
    have hin := (hosts_jobs ctx groups).subset (List.mem_map_of_mem hj)
    rw [if_neg hzones] at hin
    obtain ⟨g, hg, hhost⟩ := List.mem_flatMap.mp hin
    exact h g hg _ hhost
  obtain ⟨summary, hrec⟩ := reconcile_of_run hzones (placeAll_registered hjobs (initState ctx))
  refine ⟨summary, hrec.trans ?_⟩
  rw [map_host_jobs hzones]
  show some (rewriteAndFilter cap _ (∅ ∪ ctx.deviceMacs) _ _, _, _) = _
  rw [AList.empty_union]
  rfl

/-! ## Natural MACs -/

/-- The MAC a host would get unperturbed is free when the host is placed. -/
def NaturalMac (ctx : ReconcileCtx) (st : PlaceState) (j : Job) : Prop :=
  ctx.registered.lookup j.host = none →
    ∀ ip ∈ openSlot st j, hostMac ctx.seed ip ∉ st.usedMacs

instance (ctx : ReconcileCtx) (st : PlaceState) (j : Job) : Decidable (NaturalMac ctx st j) :=
  inferInstanceAs (Decidable (_ → _))

/-- No MAC was perturbed. -/
structure Unsalted (ctx : ReconcileCtx) (st : PlaceState) : Prop where
  resolved : st.resolved = ∅
  assets : ∀ a ∈ st.newAssets, a.mac = hostMac ctx.seed a.ip

theorem Unsalted.step {ctx : ReconcileCtx} {st : PlaceState} {j : Job} {pl : Placement}
    (hguard : NaturalMac ctx st j) (h : Unsalted ctx st) (hchosen : Chosen ctx st j pl) :
    Unsalted ctx (st.record j pl) := by
  cases hchosen with
  | @fresh ip mac salt hreg hslot hmac =>
    have hnatural : freshMac (hostMacSalted ctx.seed ip) st.usedMacs =
        some (hostMac ctx.seed ip, 0) :=
      freshMac_of_free (hguard hreg ip hslot)
    rw [hnatural] at hmac
    cases hmac
    refine ⟨?_, fun a ha => ?_⟩
    · show (if (0 : UInt64) ≠ 0 then st.resolved.insert ip (hostMac ctx.seed ip)
        else st.resolved) = ∅
      rw [if_neg (not_not_intro rfl), h.resolved]
    · obtain hold | hlast := List.mem_append.mp ha
      · exact h.assets a hold
      · rw [List.mem_singleton.mp hlast]
        rfl
  | _ => exact ⟨h.resolved, h.assets⟩

theorem unsalted_of_run {ctx : ReconcileCtx} {js : List Job} {st : PlaceState}
    (hguard : EveryJob ctx (NaturalMac ctx) js (initState ctx))
    (hrun : placeAll ctx js (initState ctx) = some st) : Unsalted ctx st :=
  placeAll_invariant (P := Unsalted ctx)
    (fun _ _ _ h hg hpl => h.step hg (choosePlacement_cases hpl))
    ⟨rfl, fun _ ha => absurd ha List.not_mem_nil⟩ hguard hrun

/-- Turns only add assets. -/
theorem newAssets_subset_of_run {ctx : ReconcileCtx} {js : List Job} {st st' : PlaceState}
    (hrun : placeAll ctx js st = some st') : st.newAssets ⊆ st'.newAssets := by
  refine @placeAll_invariant ctx (fun _ _ => True) (fun st₁ => st.newAssets ⊆ st₁.newAssets) ?_
    js st st' (List.Subset.refl _) (everyStep_of_forall (fun _ _ _ => trivial) _) hrun
  intro st₁ j pl hsub _ _
  cases pl with
  | fresh ip mac salt => exact List.Subset.trans hsub (List.subset_append_left _ _)
  | _ => exact hsub

/-- **Natural MACs in the end were natural at every turn**: a MAC that is in use when its
host is placed is perturbed, and stays so in the asset. -/
theorem everyJob_natural_of_assets {ctx : ReconcileCtx} {js : List Job} {st st' : PlaceState}
    (hrun : placeAll ctx js st = some st')
    (h : ∀ a ∈ st'.newAssets, a.mac = hostMac ctx.seed a.ip) :
    EveryJob ctx (NaturalMac ctx) js st := by
  induction js generalizing st with
  | nil => exact trivial
  | cons j js ih =>
    rw [placeAll, runAll] at hrun
    split at hrun
    · cases hrun
    · next st₁ hone =>
      refine ⟨?_, fun s' hs' => ?_⟩
      · intro hreg ip hslot hused
        obtain ⟨pl, hpl, rfl⟩ := Option.map_eq_some_iff.mp hone
        cases choosePlacement_cases hpl with
        | reuse hreg' => rw [hreg] at hreg'; cases hreg'
        -- the asset of this turn is among the last ones; were the MAC in use, it would have been
        -- salted
        | @fresh ip' mac salt _ hslot' hmac =>
          obtain rfl : ip = ip' := Option.some.inj (hslot.symm.trans hslot')
          have hin := newAssets_subset_of_run hrun
            (List.mem_append_right st.newAssets (List.mem_singleton_self (j.asset ip mac)))
          have hnatural : mac = hostMac ctx.seed ip := h _ hin
          rw [hnatural] at hmac
          exact (freshMac_spec hmac).1 hused
        | ride _ hslot' _ => rw [hslot] at hslot'; cases hslot'
        | unmapped _ hslot' _ => rw [hslot] at hslot'; cases hslot'
      · obtain rfl : st₁ = s' := Option.some.inj (hone.symm.trans hs')
        exact ih hrun

/-! ## Hosts that find no place -/

/-- Every host is registered, or finds no place from the start: the budget is spent, or the
zone its group ranks first is full. -/
def NothingToPlace (ctx : ReconcileCtx) (js : List Job) : Prop :=
  ∀ j ∈ js, ctx.registered.lookup j.host = none → openSlot (initState ctx) j = none

instance (ctx : ReconcileCtx) (js : List Job) : Decidable (NothingToPlace ctx js) :=
  inferInstanceAs (Decidable (∀ j ∈ js, _ → _))

/-- **A run places an asset exactly when some host finds a place at its start**: as long as
no host is placed, neither the budget nor the addresses taken change. -/
theorem newAssets_eq_nil_iff {ctx : ReconcileCtx} {js : List Job} {st : PlaceState}
    (hrun : placeAll ctx js (initState ctx) = some st) :
    st.newAssets = [] ↔ NothingToPlace ctx js := by
  have hgen : ∀ st₁, st₁.newAssets = [] → (∀ j, openSlot st₁ j = openSlot (initState ctx) j) →
      placeAll ctx js st₁ = some st → (st.newAssets = [] ↔ NothingToPlace ctx js) := by
    clear hrun
    induction js with
    | nil =>
      intro st₁ hnone _ hrun
      cases hrun
      exact iff_of_true hnone nofun
    | cons j js ih =>
      intro st₁ hnone hopen hrun
      rw [placeAll, runAll] at hrun
      split at hrun
      · cases hrun
      · next st₂ hone =>
        obtain ⟨pl, hpl, rfl⟩ := Option.map_eq_some_iff.mp hone
        -- a turn that places nothing leaves the rest of the run to decide
        have hrest : (ctx.registered.lookup j.host = none → openSlot (initState ctx) j = none) →
            (st.newAssets = [] ↔ NothingToPlace ctx js) →
            (st.newAssets = [] ↔ NothingToPlace ctx (j :: js)) := by
          intro hj hjs
          rw [hjs, NothingToPlace, NothingToPlace, List.forall_mem_cons]
          exact (and_iff_right hj).symm
        cases choosePlacement_cases hpl with
        | @reuse ip hreg =>
          refine hrest (fun hunreg => ?_) (ih (st₁.record j (.reuse ip)) hnone hopen hrun)
          rw [hreg] at hunreg
          cases hunreg
        | @fresh ip mac salt hreg hslot hmac =>
          refine iff_of_false (fun hnil => ?_) fun hnothing => ?_
          · have hin := newAssets_subset_of_run hrun
              (List.mem_append_right st₁.newAssets (List.mem_singleton_self (j.asset ip mac)))
            rw [hnil] at hin
            exact List.not_mem_nil hin
          · have hclosed := hnothing j List.mem_cons_self hreg
            rw [← hopen, hslot] at hclosed
            cases hclosed
        | @ride ip hreg hslot htarget =>
          exact hrest (fun _ => (hopen j).symm.trans hslot)
            (ih (st₁.record j (.ride ip)) hnone hopen hrun)
        | unmapped hreg hslot htarget =>
          exact hrest (fun _ => (hopen j).symm.trans hslot)
            (ih (st₁.record j .unmapped) hnone hopen hrun)
  exact hgen _ rfl (fun _ => rfl) hrun

/-! ## Overrides that do not matter -/

/-- Two override maps that agree where a frame is sent rewrite it alike. -/
theorem setMacFor_congr {macMap macMap' : MacMap} {newIp : Option Ipv4Addr}
    (h : ∀ ip, newIp = some ip → macMap.lookup ip = macMap'.lookup ip) (seed : UInt64)
    (buf : List UInt8) (off : Nat) :
    setMacFor macMap seed buf off newIp = setMacFor macMap' seed buf off newIp := by
  cases newIp with
  | none => rfl
  | some ip => rw [setMacFor, setMacFor, macFor, macFor, h ip rfl]

/-- **Overrides matter only for addresses the map hands out**, and only when MACs are
rewritten. -/
theorem rewriteAndFilter_congr {map : HostMap} {macMap macMap' : MacMap} {remapMac : Bool}
    (h : remapMac = true → ∀ ip ∈ map.values, macMap.lookup ip = macMap'.lookup ip)
    (cap : Capture) (seed : UInt64) :
    rewriteAndFilter cap map macMap seed remapMac =
      rewriteAndFilter cap map macMap' seed remapMac := by
  have hframe : applyHostMapFrame map macMap seed remapMac =
      applyHostMapFrame map macMap' seed remapMac := by
    funext buf
    unfold applyHostMapFrame
    cases remapMac with
    | false =>
      cases parseLayout buf with
      | none => rfl
      | some l =>
        dsimp only
        cases l.l3Kind <;> rfl
    | true =>
      -- a MAC is only ever set for an address that the map has just given
      have hset : ∀ (a : Ipv4Addr) (buf : List UInt8) (off : Nat),
          setMacFor macMap seed buf off (map.lookup a) =
            setMacFor macMap' seed buf off (map.lookup a) := fun a =>
        setMacFor_congr (fun ip hip => h rfl ip (mem_values_of_lookup hip)) seed
      cases parseLayout buf with
      | none => rfl
      | some l =>
        dsimp only
        cases l.l3Kind with
        | ipv4 => simp only [rewriteIpv4, hset]
        | other =>
          dsimp only
          rw [remapArpAddrs, remapArpAddrs]
          dsimp only
          rw [if_pos (rfl : true = true), if_pos (rfl : true = true)]
          rw [hset, hset, hset, hset]
  rw [rewriteAndFilter, rewriteAndFilter, applyHostMap, applyHostMap, hframe]

/-- **The second reconcile uses the same map and places no host**, whatever the MACs. -/
theorem reconcile_again {cap out : Capture} {groups : List CaptureGroup} {ctx : ReconcileCtx}
    {summary : RemapSummary} {assets : List NewCaptureAsset}
    (hgroups : (groups.flatMap CaptureGroup.hosts).Nodup)
    (h : reconcileCaptureIntoZones cap groups ctx = some (out, summary, assets)) :
    reconcileMap (ctx.afterRegistering assets) groups = reconcileMap ctx groups ∧
      ∃ out' summary', reconcileCaptureIntoZones cap groups (ctx.afterRegistering assets) =
        some (out', summary', []) := by
  obtain ⟨st, hrun, rfl⟩ := reconcile_assets h
  have hagain := placeAll_again (nodup_jobs hgroups) hrun
  constructor
  · rw [reconcileMap, reconcileMap, hrun]
    show (placeAll _ (jobs ctx groups) _).map PlaceState.map = _
    rw [hagain]
    rfl
  · by_cases hzones : ctx.zones = []
    · exact ⟨cap, ⟨0, []⟩, if_pos hzones⟩
    · obtain ⟨summary', hrec⟩ := reconcile_of_run
        (by rwa [ReconcileCtx.afterRegistering_zones]) hagain
      exact ⟨_, summary', hrec⟩

/-- **With no MAC perturbed, it also returns the same frames.** -/
theorem reconcile_again_frames {cap out : Capture} {groups : List CaptureGroup}
    {ctx : ReconcileCtx} {summary : RemapSummary} {assets : List NewCaptureAsset}
    (hgroups : (groups.flatMap CaptureGroup.hosts).Nodup)
    (hmacs : ctx.remapMac = false ∨ EveryJob ctx (NaturalMac ctx) (jobs ctx groups) (initState ctx))
    (h : reconcileCaptureIntoZones cap groups ctx = some (out, summary, assets)) :
    ∃ summary', reconcileCaptureIntoZones cap groups (ctx.afterRegistering assets) =
      some (out, summary', []) := by
  by_cases hzones : ctx.zones = []
  · rw [reconcileCaptureIntoZones, if_pos hzones] at h
    cases h
    exact ⟨⟨0, []⟩, if_pos hzones⟩
  · obtain ⟨st, hrun, rfl, rfl⟩ := reconcile_run hzones h
    obtain ⟨summary', hrec⟩ := reconcile_of_run
      (by rwa [ReconcileCtx.afterRegistering_zones])
      (placeAll_again (nodup_jobs hgroups) hrun)
    refine ⟨summary', hrec.trans ?_⟩
    show some (rewriteAndFilter cap st.map (∅ ∪ ctx.deviceMacs) ctx.seed ctx.remapMac, summary',
      []) = _
    obtain hoff | hnatural := hmacs
    · rw [hoff, rewriteAndFilter_congr (fun hon => absurd hon Bool.false_ne_true)]
    · rw [(unsalted_of_run hnatural hrun).resolved]

end TurboLaser
