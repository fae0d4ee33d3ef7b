import TurboLaser.Net
import Mathlib.Data.Finset.Insert

/-!
# MAC derivation (proto/l3.rs, oui/mod.rs)

A generic host's MAC is a real IT-vendor prefix with three bytes hashed from the session seed and
the host's address (`hostMacSalted`); a salt perturbs the hash when the natural address (salt 0) is
already taken. Nothing is stored for a host that has its natural MAC: the same seed and address give
the same MAC again, in another run or another capture. That is what the source relies on for
stability, and where a host was salted it is where it goes wrong.

`freshMac` is the loop the allocators share: try salts in order until the address is new. It is
bounded by the `2 ^ 64` values a salt takes: when all of them are taken the loop of the source never
ends, and the model returns `none`. A statement that some function returns is thus a statement about
`some`, and never holds for want of an answer.

The hash is the one of the source, on 64-bit words with wrapping arithmetic, so collisions that the
theorems exhibit are collisions of the program.
-/

namespace TurboLaser

/-- `[u8; 6]`. -/
structure Mac where
  m0 : UInt8
  m1 : UInt8
  m2 : UInt8
  m3 : UInt8
  m4 : UInt8
  m5 : UInt8
deriving DecidableEq

/-- A three-byte vendor prefix, `[u8; 3]`. -/
structure Oui where
  o0 : UInt8
  o1 : UInt8
  o2 : UInt8
deriving DecidableEq

/-- The six bytes of a MAC. -/
def Mac.bytes (m : Mac) : List UInt8 := [m.m0, m.m1, m.m2, m.m3, m.m4, m.m5]

@[simp] theorem Mac.length_bytes (m : Mac) : m.bytes.length = 6 := rfl

/-- `splitmix64`: the finalizer with the published mixing constants. -/
def splitmix64 (x : UInt64) : UInt64 :=
  let x := (x ^^^ (x >>> 30)) * 0xBF58476D1CE4E5B9
  let x := (x ^^^ (x >>> 27)) * 0x94D049BB133111EB
  x ^^^ (x >>> 31)

/-- Byte `i` (0 is the most significant) of a 64-bit word. -/
def beByte (h : UInt64) (i : Nat) : UInt8 := UInt8.ofNat (h.toNat / 256 ^ (7 - i) % 256)

/-- `stable_mac`: globally administered, unicast, from the seed and the address. -/
def stableMac (seed : UInt64) (ip : Ipv4Addr) : Mac :=
  let h := splitmix64 (seed ^^^ (UInt64.ofNat ip.toNat * 0x9E3779B97F4A7C15))
  ⟨beByte h 0 &&& 0xFC, beByte h 1, beByte h 2, beByte h 3, beByte h 4, beByte h 5⟩

/-- `IT_POOL`: the IT-vendor prefixes generic hosts are stamped with. -/
def itPool : List Oui :=
  [⟨0x00, 0x14, 0x22⟩, ⟨0x00, 0x1F, 0x29⟩, ⟨0x00, 0x1B, 0x21⟩, ⟨0x00, 0x50, 0x56⟩,
    ⟨0x00, 0xD0, 0xC9⟩, ⟨0x00, 0x25, 0x90⟩, ⟨0x00, 0x21, 0xCC⟩]

/-- `it_pool_oui`. -/
def itPoolOui (salt : Nat) : Oui := itPool.getD (salt % itPool.length) ⟨0, 0, 0⟩

/-- A vendor prefix with the three low bytes of a stable MAC. -/
def withOui (oui : Oui) (low : Mac) : Mac := ⟨oui.o0, oui.o1, oui.o2, low.m3, low.m4, low.m5⟩

/-- `host_mac_salted`. -/
def hostMacSalted (seed : UInt64) (ip : Ipv4Addr) (salt : UInt64) : Mac :=
  withOui (itPoolOui ip.toNat) (stableMac (seed + salt) ip)

/-- `host_mac`: the natural MAC of a generic host. -/
def hostMac (seed : UInt64) (ip : Ipv4Addr) : Mac := hostMacSalted seed ip 0

/-! ## The salt loop -/

/-- Try `derive salt`, `derive (salt + 1)`, … until a MAC is not in `used`. -/
def freshMacFrom (derive : UInt64 → Mac) (used : Finset Mac) : Nat → UInt64 → Option (Mac × UInt64)
  | 0, _ => none
  | fuel + 1, salt =>
    let mac := derive salt
    if mac ∈ used then freshMacFrom derive used fuel (salt + 1) else some (mac, salt)

/-- The salt loop of `fabricate`, `enrich_plant` and `reconcile_capture_into_zones`:
the first MAC not in `used`, with its salt. -/
def freshMac (derive : UInt64 → Mac) (used : Finset Mac) : Option (Mac × UInt64) :=
  freshMacFrom derive used (2 ^ 64) 0

theorem freshMacFrom_spec {derive : UInt64 → Mac} {used : Finset Mac} {fuel : Nat}
    {s salt : UInt64} {mac : Mac} (h : freshMacFrom derive used fuel s = some (mac, salt)) :
    mac ∉ used ∧ mac = derive salt := by
  induction fuel generalizing s with
  | zero => cases h
  | succ fuel ih =>
    rw [freshMacFrom] at h
    split at h
    · exact ih h
    · next hnew =>
      cases h
      exact ⟨hnew, rfl⟩

/-- The MAC a salt loop returns is new, and is the one its salt derives. -/
theorem freshMac_spec {derive : UInt64 → Mac} {used : Finset Mac} {salt : UInt64} {mac : Mac}
    (h : freshMac derive used = some (mac, salt)) : mac ∉ used ∧ mac = derive salt :=
  freshMacFrom_spec h

/-- The loop stops at salt 0 exactly when the natural MAC is free. -/
theorem freshMac_of_free {derive : UInt64 → Mac} {used : Finset Mac} (h : derive 0 ∉ used) :
    freshMac derive used = some (derive 0, 0) := by
  unfold freshMac
  rw [show (2 ^ 64 : Nat) = 18446744073709551615 + 1 from rfl, freshMacFrom]
  exact if_neg h

end TurboLaser
