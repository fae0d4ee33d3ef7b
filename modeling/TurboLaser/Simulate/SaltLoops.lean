import TurboLaser.Simulate.FabricateRuns

/-!
# The salt loops

`fabricate`, `enrich_plant` and `reconcile_capture_into_zones` each perturb a MAC by a salt until it
is new. The salt is added to the seed, and the hash of the seed is a permutation of the words, so
the salts reach every value of the three low bytes.

A loop without a bound ends if something it tries is free. What it tries has one vendor prefix, and
below a prefix there are `2 ^ 24` MACs; so it is enough that fewer than that are in use with the
prefix. No plant comes near that number, but a ledger is a file. Where a profile has no prefix that
parses, the MAC is the bare hash, and all MACs in use count.

`salt_loops_end`: **each of the three loops ends with a MAC that is not in use, as long as fewer
than `2 ^ 24` MACs in use have the prefix it tries.** The loops of the model are given as many turns
as there are salts; that one of these is the first fresh one is shown, and not built in.
-/

namespace TurboLaser

/-- The MACs in use that a loop can meet: those with its prefix, or all where it has none. -/
def usedWith (oui : Option Oui) (used : Finset Mac) : Finset Mac :=
  match oui with
  | some oui => used.filter (Mac.HasOui oui)
  | none => used

/-- The loop over `derive` ends with a MAC that is not in use. -/
def EndsFresh (derive : UInt64 → Mac) (used : Finset Mac) : Prop :=
  ∃ mac salt, freshMac derive used = some (mac, salt) ∧ mac = derive salt ∧ mac ∉ used

theorem endsFresh_of_isSome {derive : UInt64 → Mac} {used : Finset Mac}
    (h : ∃ r, freshMac derive used = some r) : EndsFresh derive used := by
  obtain ⟨⟨mac, salt⟩, hfresh⟩ := h
  obtain ⟨hnew, hmac⟩ := freshMac_spec hfresh
  exact ⟨mac, salt, hfresh, hmac, hnew⟩

/-- The loop of `fabricate`, with or without a vendor prefix. -/
theorem makeMac_endsFresh (profile : DeviceProfile) (seed : UInt64) (ip : Ipv4Addr)
    {used : Finset Mac} (hcard : (usedWith profile.ouiPrefix used).card < 2 ^ 24) :
    EndsFresh (makeMac profile seed ip) used := by
  refine endsFresh_of_isSome ?_
  cases houi : profile.ouiPrefix with
  | some oui =>
    rw [houi] at hcard
    unfold makeMac
    rw [houi]
    exact freshMac_isSome_of_oui oui seed ip hcard
  | none =>
    rw [houi] at hcard
    exact makeMac_isSome profile seed ip hcard

/-- The loop of `enrich_plant`. -/
theorem bomMacSalted_endsFresh (oui : OuiDb) (vendor : String) (seed : UInt64) (ip : Ipv4Addr)
    {used : Finset Mac}
    (hcard : (usedWith (some ((oui.ouiForVendor vendor ip.toNat).getD (itPoolOui ip.toNat)))
      used).card < 2 ^ 24) :
    EndsFresh (bomMacSalted oui vendor seed ip) used :=
  endsFresh_of_isSome (freshMac_isSome_of_oui _ seed ip hcard)

/-- The loop of `reconcile_capture_into_zones`. -/
theorem hostMacSalted_endsFresh (seed : UInt64) (ip : Ipv4Addr) {used : Finset Mac}
    (hcard : (usedWith (some (itPoolOui ip.toNat)) used).card < 2 ^ 24) :
    EndsFresh (hostMacSalted seed ip) used :=
  endsFresh_of_isSome (freshMac_isSome_of_oui _ seed ip hcard)

/-- **Each salt loop ends with a fresh MAC**, because the salts reach all low parts under any
prefix, the hash being a permutation. Nothing is assumed but that fewer than `2 ^ 24` of the MACs in
use have the prefix. -/
theorem salt_loops_end (seed : UInt64) (ip : Ipv4Addr) (used : Finset Mac) :
    (∀ profile : DeviceProfile, (usedWith profile.ouiPrefix used).card < 2 ^ 24 →
        EndsFresh (makeMac profile seed ip) used) ∧
      (∀ (oui : OuiDb) (vendor : String),
        (usedWith (some ((oui.ouiForVendor vendor ip.toNat).getD (itPoolOui ip.toNat)))
            used).card < 2 ^ 24 →
          EndsFresh (bomMacSalted oui vendor seed ip) used) ∧
      ((usedWith (some (itPoolOui ip.toNat)) used).card < 2 ^ 24 →
        EndsFresh (hostMacSalted seed ip) used) ∧
      (∀ (oui : Oui) (n : Nat), n < 2 ^ 24 →
        ∃ salt, withOui oui (stableMac (seed + salt) ip) = macOfLow oui n) ∧
      Function.Bijective splitmix64 :=
  ⟨fun profile => makeMac_endsFresh profile seed ip,
    fun oui vendor => bomMacSalted_endsFresh oui vendor seed ip,
    hostMacSalted_endsFresh seed ip, fun oui _ hn => exists_salt oui seed ip hn,
    splitmix64_injective, splitmix64_surjective⟩

/-- The natural MAC of a host is taken: the loop goes on and ends with another one. -/
theorem salt_loops_end_taken :
    ∃ mac salt, freshMac (hostMacSalted 355 0x0a140ab4) {hostMac 355 0x0a140a05} =
      some (mac, salt) ∧ mac ∉ ({hostMac 355 0x0a140a05} : Finset Mac) := by
  obtain ⟨mac, salt, hfresh, -, hnew⟩ :=
    (salt_loops_end 355 0x0a140ab4 {hostMac 355 0x0a140a05}).2.2.1
      (Nat.lt_of_le_of_lt (Finset.card_filter_le _ _) (by
        rw [Finset.card_singleton]
        norm_num))
  exact ⟨mac, salt, hfresh, hnew⟩

end TurboLaser
