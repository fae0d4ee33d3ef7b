import TurboLaser.Simulate.Identity

/-!
# The reserved slots of a zone

`next_free_in` skips the gateway and the engineering station of a zone; `place_in_zone`, which finds
a place for a capture host, skips neither. So fabrication and the bill of materials leave the slots
alone in every run, and a reconcile does when no host it places wants a reserved slot or is scanned
onto one.

A host wants the address with its own offset in the zone, and gets it if it is usable and free.
Otherwise the zone is scanned from below, so the gateway, the first host of all, is met at once if
it is free, and the station if everything below it is taken. Both are conditions on the addresses
taken at that moment.

- `KeepsSlots`: the condition, for one placement; `keepsSlots_iff`: **it is exact**;
- `SlotsFree`: no asset but a firewall is on a reserved slot of its zone;
- `slots_stay_free`: **in every run whose reconciles keep the slots, they stay free**;
- `reserved_slot_taken`: a capture host on a station.
-/

namespace TurboLaser

open Lib Relation

/-! ## One placement

A host asks for its own offset in the zone, and when that is taken it gets the lowest free host. Of
the two reserved slots the gateway is the lowest host of all, and the station stands higher up. So
it is told from the addresses taken before whether the scan hands out one of them.
-/

/-- **When `place_in_zone` leaves the slots alone**, from the addresses taken before: the
address wanted is no slot, or, where it is not to be had, the gateway is gone and the
scan has a host to offer below the station, or the station is gone too. -/
def KeepsSlots (net : Ipv4Net) (taken : Finset Ipv4Addr) (desiredOff : Ipv4Addr) : Prop :=
  if isUsableHost net (wantedAddr net desiredOff) ∧ wantedAddr net desiredOff ∉ taken then
    ¬ IsReservedSlot net (wantedAddr net desiredOff)
  else
    firewallAddr net ∈ taken ∧
      (stationAddrNet net ∈ taken ∨ ∃ ip ∈ net.hosts, ip < stationAddrNet net ∧ ip ∉ taken)

instance (net : Ipv4Net) (taken : Finset Ipv4Addr) (desiredOff : Ipv4Addr) :
    Decidable (KeepsSlots net taken desiredOff) :=
  if h : isUsableHost net (wantedAddr net desiredOff) ∧ wantedAddr net desiredOff ∉ taken then
    decidable_of_iff (¬ IsReservedSlot net (wantedAddr net desiredOff))
      (by rw [KeepsSlots, if_pos h])
  else
    decidable_of_iff (firewallAddr net ∈ taken ∧ (stationAddrNet net ∈ taken ∨
        ∃ ip ∈ net.hosts, ip < stationAddrNet net ∧ ip ∉ taken))
      (by rw [KeepsSlots, if_neg h])

/-- The first free host of a list in address order is below every other free one. -/
theorem find_free_le {hosts : List Ipv4Addr} {taken : Finset Ipv4Addr} {ip ip' : Ipv4Addr}
    (hsorted : hosts.Pairwise (· < ·))
    (h : hosts.find? (fun a => decide (a ∉ taken)) = some ip) (hmem : ip' ∈ hosts)
    (hfree : ip' ∉ taken) : ip ≤ ip' := by
  obtain ⟨-, before, after, rfl, hbefore⟩ := List.find?_eq_some_iff_append.mp h
  rw [List.pairwise_append, List.pairwise_cons] at hsorted
  obtain hin | hin := List.mem_append.mp hmem
  · have := hbefore ip' hin
    rw [Bool.not_eq_true', decide_eq_false_iff_not, not_not] at this
    exact absurd this hfree
  · obtain rfl | hafter := List.mem_cons.mp hin
    · exact UInt32.le_refl _
    · exact UInt32.le_of_lt (hsorted.2.1.1 ip' hafter)

/-- The reserved slots of a zone with hosts are two of its hosts, the gateway first. -/
theorem mem_hosts_slots {net : Ipv4Net} (hlo : 1 ≤ net.prefixLen) (hhi : net.prefixLen ≤ 30) :
    firewallAddr net ∈ net.hosts ∧ stationAddrNet net ∈ net.hosts ∧
      ∀ ip ∈ net.hosts, firewallAddr net ≤ ip := by
  have hsize : 4 ≤ net.size := by
    unfold Ipv4Net.size
    calc 4 = 2 ^ 2 := rfl
      _ ≤ 2 ^ (32 - net.prefixLen) := Nat.pow_le_pow_right (by decide) (by omega)
  have hgateway := @toNat_firewallAddr net (by omega)
  have hstation := toNat_stationAddrNet hlo (hhi.trans (by decide))
  refine ⟨?_, ?_, fun ip hip => ?_⟩
  · rw [Ipv4Net.mem_hosts hhi, hgateway]
    omega
  · rw [Ipv4Net.mem_hosts hhi, hstation]
    omega
  · rw [Ipv4Net.mem_hosts hhi] at hip
    rw [UInt32.le_iff_toNat_le, hgateway]
    omega

/-- A placement that keeps the slots is off them. -/
theorem KeepsSlots.off {net : Ipv4Net} {taken : Finset Ipv4Addr} {desiredOff ip : Ipv4Addr}
    (h : KeepsSlots net taken desiredOff) (hplace : placeInZone net taken desiredOff = some ip) :
    ¬ IsReservedSlot net ip := by
  have hnew := (placeInZone_spec hplace).1
  unfold KeepsSlots at h
  unfold placeInZone at hplace
  dsimp only at hplace
  split at hplace
  · next hwant =>
    cases hplace
    rwa [if_pos hwant] at h
  · next hwant =>
    rw [if_neg hwant] at h
    obtain ⟨hgateway, hstation⟩ := h
    rintro (rfl | rfl)
    · exact hnew hgateway
    · obtain htaken | ⟨ip', hmem, hbelow, hfree⟩ := hstation
      · exact hnew htaken
      · exact absurd (find_free_le net.hosts_sorted hplace hmem hfree) (UInt32.not_le.mpr hbelow)

/-- **The condition is exact**: any other placement with a result is on a reserved slot. -/
theorem keepsSlots_iff {net : Ipv4Net} (hlo : 1 ≤ net.prefixLen) (hhi : net.prefixLen ≤ 30)
    (taken : Finset Ipv4Addr) (desiredOff : Ipv4Addr) :
    KeepsSlots net taken desiredOff ↔
      ∀ ip, placeInZone net taken desiredOff = some ip → ¬ IsReservedSlot net ip := by
  refine ⟨fun h ip => h.off, fun h => ?_⟩
  obtain ⟨hgateway, hstation, hleast⟩ := mem_hosts_slots hlo hhi
  unfold placeInZone at h
  unfold KeepsSlots
  dsimp only at h
  split
  · next hwant =>
    rw [if_pos hwant] at h
    exact h _ rfl
  · next hwant =>
    rw [if_neg hwant] at h
    -- the scan ends at or below every free host
    have hscan : ∀ a ∈ net.hosts, a ∉ taken →
        ∃ ip, net.hosts.find? (fun a => decide (a ∉ taken)) = some ip ∧ ip ≤ a := by
      intro a ha hfree
      have hsome : (net.hosts.find? fun a => decide (a ∉ taken)).isSome :=
        List.find?_isSome.mpr ⟨a, ha, decide_eq_true hfree⟩
      obtain ⟨ip, hip⟩ := Option.isSome_iff_exists.mp hsome
      exact ⟨ip, hip, find_free_le net.hosts_sorted hip ha hfree⟩
    constructor
    · by_contra hfree
      obtain ⟨ip, hip, hle⟩ := hscan _ hgateway hfree
      have hsame := UInt32.le_antisymm hle (hleast ip (List.mem_of_find?_eq_some hip))
      exact h ip hip (Or.inl hsame)
    · by_contra hnone
      rw [not_or, not_exists] at hnone
      obtain ⟨hfree, habove⟩ := hnone
      obtain ⟨ip, hip, hle⟩ := hscan _ hstation hfree
      have hipFree := List.find?_some hip
      rw [decide_eq_true_iff] at hipFree
      have hsame : ip = stationAddrNet net := by
        by_contra hne
        exact habove ip ⟨List.mem_of_find?_eq_some hip,
          UInt32.lt_of_le_of_ne hle hne, hipFree⟩
      exact h ip hip (Or.inr hsame)

/-! ## Runs -/

/-- A capture host off the slots of its zone. -/
def HostOff (r : CaptureHostRecord) : Prop := ¬ IsReservedSlot r.subnetCidr r.ip

/-- **No asset but a firewall is on a reserved slot of its zone.** -/
structure SlotsFree (s : Session) : Prop where
  devices : ∀ d ∈ s.devices, OffSlots d
  captureHosts : ∀ r ∈ s.captureHosts, HostOff r

/-- Growth off the slots leaves them free. -/
theorem SlotsFree.grows {s s' : Session} (hs : SlotsFree s) (h : Grows OffSlots HostOff s s') :
    SlotsFree s' := by
  induction h with
  | refl => exact hs
  | tail _ hstep ih =>
    cases hstep with
    | relabel h =>
      refine ⟨fun d hd => ?_, fun r hr => ih.captureHosts r (by rwa [← h.captureHosts])⟩
      -- a new name moves nothing
      have hin := List.mem_map_of_mem (f := DeviceRecord.unnamed) hd
      rw [h.devices] at hin
      obtain ⟨d', hd', heq⟩ := List.mem_map.mp hin
      have hoff : OffSlots d'.unnamed := ih.devices d' hd'
      rw [heq] at hoff
      exact hoff
    | zone => exact ⟨ih.devices, ih.captureHosts⟩
    | @device rec hroom hzone hin hip hmac hput =>
      refine ⟨fun d hd => ?_, ih.captureHosts⟩
      obtain hold | hnew := List.mem_append.mp hd
      · exact ih.devices d hold
      · rw [List.mem_singleton.mp hnew]
        exact hput
    | @captureHost rec hzone hin hip hmac horigin hput =>
      refine ⟨ih.devices, fun r hr => ?_⟩
      obtain hold | hnew := List.mem_append.mp hr
      · exact ih.captureHosts r hold
      · rw [List.mem_singleton.mp hnew]
        exact hput

/-- Every host a reconcile places keeps the slots of its zone. -/
def SlotSafe (s : Session) : PlantOp → Prop
  | .reconcile cap hints oui order affinity remapMac maxAssets =>
    EveryJob (s.reconcileCtx affinity remapMac (effectiveAssetCap maxAssets))
      (fun st j => 0 < st.budget → s.registeredOrigins.lookup j.host = none →
        KeepsSlots j.zone.net st.taken j.host)
      (jobs (s.reconcileCtx affinity remapMac (effectiveAssetCap maxAssets))
        (captureGroups cap hints oui order))
      (initState (s.reconcileCtx affinity remapMac (effectiveAssetCap maxAssets)))
  | _ => True

instance (s : Session) (op : PlantOp) : Decidable (SlotSafe s op) :=
  match op with
  | .reconcile .. => inferInstanceAs (Decidable (EveryStep _ _ _ _))
  | .fabricate .. => .isTrue trivial
  | .createL3Zones .. => .isTrue trivial
  | .enrichPlant .. => .isTrue trivial

theorem SlotSafe.puts {s : Session} {op : PlantOp} (h : SlotSafe s op) : op.Puts HostOff s := by
  cases op with
  | reconcile cap hints oui order affinity remapMac maxAssets =>
    refine EveryStep.imp (fun st j hkeeps hreg ip mac hslot => ?_) h
    have hbudget := (openSlot_spec hslot).1
    rw [openSlot, if_pos hbudget] at hslot
    exact (hkeeps hbudget hreg).off hslot
  | _ => exact trivial

/-- **In every run whose reconciles keep the slots, they stay free.** Fabrication, the operations
zones and the bill of materials need no condition, since they skip the slots or put a firewall where
it belongs. -/
theorem slots_stay_free (seed : UInt64) (ops : List PlantOp) (s : Session)
    (hguard : EveryStep PlantOp.apply SlotSafe (Session.new seed) ops)
    (h : runPlant (Session.new seed) ops = some s) : SlotsFree s := by
  have hstep : ∀ s op s', Identities s ∧ SlotsFree s → SlotSafe s op → op.apply s = some s' →
      Identities s' ∧ SlotsFree s' := by
    intro s op s' hs hsafe hop
    have hgrows := op.grows hs.1 hsafe.puts hop
    exact ⟨hgrows.identities hs.1, hs.2.grows hgrows⟩
  exact (runAll_invariant (P := fun s => Identities s ∧ SlotsFree s) hstep
    ⟨identities_new seed, nofun, nofun⟩ hguard h).2

theorem smallPlant_slots_free :
    ∃ s, runPlant (Session.new 7) smallPlant = some s ∧ SlotsFree s := by
  have hsome : (runPlant (Session.new 7) smallPlant).isSome := by
    decide +kernel
  obtain ⟨s, hs⟩ := Option.isSome_iff_exists.mp hsome
  exact ⟨s, hs, slots_stay_free 7 smallPlant s (by decide +kernel) hs⟩

/-- One frame from 1.1.1.250, the offset of a station in a /24. -/
def stationOffsetCapture : Capture := ⟨[⟨1, 34, bareFrame (ipv4 1 1 1 250) (ipv4 1 1 1 5)⟩]⟩

/-- A capture host keeps its offset, and is put on the station of its zone. -/
theorem reserved_slot_taken :
    ¬ ∀ (seed : UInt64) (ops : List PlantOp) (s : Session),
      runPlant (Session.new seed) ops = some s → SlotsFree s := by
  intro h
  have hrun : (runPlant (Session.new 7)
      [.createL3Zones ⟨16, 2000, 24⟩ 1 ⟨fun _ => 0, 0⟩,
        .reconcile stationOffsetCapture [] ⟨∅, ∅⟩ insertionOrder .both true none]).map
      (fun s => s.captureHosts.any fun r => decide (IsReservedSlot r.subnetCidr r.ip)) =
        some true := by
    decide +kernel
  obtain ⟨s, hs, hany⟩ := Option.map_eq_some_iff.mp hrun
  obtain ⟨r, hr, hslot⟩ := List.any_eq_true.mp hany
  exact (h 7 _ s hs).captureHosts r hr (of_decide_eq_true hslot)

end TurboLaser
