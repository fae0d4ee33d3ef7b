import Mathlib.Data.Finset.Card
import Mathlib.Data.Fintype.EquivFin
import TurboLaser.Lib.Mixing
import TurboLaser.Proto.Mac

/-!
# The salt loop ends

A salted MAC keeps its vendor prefix, and its three low bytes are a hash of the salt. The hash is a
permutation of the words (`splitmix64_surjective`), so the salts reach all `2 ^ 24` low parts: a
plant with fewer assets than that always has a free one, and `freshMac` finds it.

The source has no bound on its loop and trusts that a hash will do. It is a matter of counting: if
every salt met a MAC that is taken, then all low parts under the prefix would be taken, and there
are more of them than the caps let there be assets. That needs surjectivity of the hash on the part
that is kept, which follows from its injectivity on the words, which is a fact about xor-shifts and
multiplications by odd constants (`Lib.Mixing`).

`freshMac_isSome_of_oui`: **the salt loop ends, as long as fewer than `2 ^ 24` MACs of its prefix
are taken.** Callers have far fewer: at most 2000 devices and as many capture hosts.
-/

namespace TurboLaser

open Lib

/-- The finalizer is a permutation of the words. -/
theorem splitmix64_injective : Function.Injective splitmix64 := by
  have h1 := xorShift_injective (k := 30) (by decide) (by decide)
  have h2 := mul_injective (c := 0xBF58476D1CE4E5B9) (d := 0x96DE1B173F119089) (by decide)
  have h3 := xorShift_injective (k := 27) (by decide) (by decide)
  have h4 := mul_injective (c := 0x94D049BB133111EB) (d := 0x319642B2D24D8EC3) (by decide)
  have h5 := xorShift_injective (k := 31) (by decide) (by decide)
  exact h5.comp (h4.comp (h3.comp (h2.comp h1)))

theorem splitmix64_surjective : Function.Surjective splitmix64 := by
  have : Finite UInt64 := Finite.of_injective UInt64.toFin fun _ _ => UInt64.toFin_inj.mp
  exact Finite.surjective_of_injective splitmix64_injective

/-- The MAC with a prefix and a number for its three low bytes. -/
def macOfLow (oui : Oui) (n : Nat) : Mac :=
  ⟨oui.o0, oui.o1, oui.o2, UInt8.ofNat (n / 65536), UInt8.ofNat (n / 256), UInt8.ofNat n⟩

theorem macOfLow_injOn (oui : Oui) : Set.InjOn (macOfLow oui) (Finset.range (2 ^ 24)) := by
  intro m hm n hn h
  simp only [Finset.coe_range, Set.mem_Iio] at hm hn
  simp only [macOfLow, Mac.mk.injEq, ← UInt8.toNat_inj, UInt8.toNat_ofNat'] at h
  omega

/-- Every low part is reached by some salt. -/
theorem exists_salt (oui : Oui) (seed : UInt64) (ip : Ipv4Addr) {n : Nat} (hn : n < 2 ^ 24) :
    ∃ salt, withOui oui (stableMac (seed + salt) ip) = macOfLow oui n := by
  obtain ⟨x, hx⟩ := splitmix64_surjective (UInt64.ofNat (n * 65536))
  let key : UInt64 := UInt64.ofNat ip.toNat * 0x9E3779B97F4A7C15
  refine ⟨(x ^^^ key) - seed, ?_⟩
  have harg : (seed + ((x ^^^ key) - seed)) ^^^ key = x := by
    rw [UInt64.add_comm, UInt64.sub_add_cancel, UInt64.xor_assoc, UInt64.xor_self, UInt64.xor_zero]
  have hhash : (UInt64.ofNat (n * 65536)).toNat = n * 65536 := by
    rw [UInt64.toNat_ofNat', Nat.mod_eq_of_lt (by omega)]
  unfold withOui stableMac macOfLow
  rw [harg, hx]
  simp only [beByte, hhash, Mac.mk.injEq, ← UInt8.toNat_inj, UInt8.toNat_ofNat', true_and]
  omega

/-- A salt that is not reached yet is reached later. -/
theorem freshMacFrom_isSome {derive : UInt64 → Mac} {used : Finset Mac} {fuel : Nat} {s : UInt64}
    (h : ∃ k < fuel, derive (s + UInt64.ofNat k) ∉ used) :
    ∃ r, freshMacFrom derive used fuel s = some r := by
  induction fuel generalizing s with
  | zero => exact absurd h (by rintro ⟨k, hk, -⟩; omega)
  | succ fuel ih =>
    rw [freshMacFrom]
    by_cases hs : derive s ∈ used
    · obtain ⟨k, hk, hnew⟩ := h
      rw [if_pos hs]
      refine ih ?_
      cases k with
      | zero => exact absurd (by simpa using hs) hnew
      | succ k =>
        refine ⟨k, by omega, ?_⟩
        rwa [UInt64.add_assoc, ← UInt64.ofNat_one, ← UInt64.ofNat_add, Nat.add_comm 1 k]
    · exact ⟨_, if_neg hs⟩

/-- A salt loop ends when some salt derives a free MAC. -/
theorem freshMac_isSome_of_salt {derive : UInt64 → Mac} {used : Finset Mac}
    (h : ∃ salt, derive salt ∉ used) : ∃ r, freshMac derive used = some r := by
  obtain ⟨salt, hnew⟩ := h
  refine freshMacFrom_isSome ⟨salt.toNat, salt.toNat_lt, ?_⟩
  rwa [UInt64.zero_add, UInt64.ofNat_toNat]

/-- The MAC has the vendor prefix. -/
def Mac.HasOui (oui : Oui) (m : Mac) : Prop := m.m0 = oui.o0 ∧ m.m1 = oui.o1 ∧ m.m2 = oui.o2

instance (oui : Oui) : DecidablePred (Mac.HasOui oui) :=
  fun _ => inferInstanceAs (Decidable (_ ∧ _))

/-- **The salt loop ends, as long as fewer than `2 ^ 24` MACs of its prefix are taken.** -/
theorem freshMac_isSome_of_oui (oui : Oui) (seed : UInt64) (ip : Ipv4Addr) {used : Finset Mac}
    (hcard : (used.filter (Mac.HasOui oui)).card < 2 ^ 24) :
    ∃ r, freshMac (fun salt => withOui oui (stableMac (seed + salt) ip)) used = some r := by
  refine freshMac_isSome_of_salt ?_
  by_contra hall
  simp only [not_exists, not_not] at hall
  have hmaps : Set.MapsTo (macOfLow oui) (Finset.range (2 ^ 24))
      (used.filter (Mac.HasOui oui)) := by
    intro n hn
    obtain ⟨salt, hsalt⟩ := exists_salt oui seed ip (by simpa using hn)
    exact Finset.mem_filter.mpr ⟨hsalt ▸ hall salt, rfl, rfl, rfl⟩
  have hle := Finset.card_le_card_of_injOn _ hmaps (macOfLow_injOn oui)
  rw [Finset.card_range] at hle
  omega

/-- So it does as long as fewer than `2 ^ 24` MACs are taken at all. -/
theorem freshMac_isSome (oui : Oui) (seed : UInt64) (ip : Ipv4Addr) {used : Finset Mac}
    (hcard : used.card < 2 ^ 24) :
    ∃ r, freshMac (fun salt => withOui oui (stableMac (seed + salt) ip)) used = some r :=
  freshMac_isSome_of_oui oui seed ip
    (Nat.lt_of_le_of_lt (Finset.card_filter_le used (Mac.HasOui oui)) hcard)

end TurboLaser
