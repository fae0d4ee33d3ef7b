import TurboLaser.Net

/-!
# Reserved slots of a zone (simulate/roles.rs)

Two addresses of a zone are spoken for: the gateway behind the network address, which the zone-edge
firewall takes, and the engineering station, which every OT action of the zone is sourced from.

Both are computed from the network and stand in no table, so every part of the program that has to
avoid or to use one computes it again. The station is clamped to the last usable host of a small
zone. In a zone of prefix 30 the two slots are the only two hosts; in one of prefix 31 or 32 they
are not hosts at all, and no such zone is ever fabricated.
-/

namespace TurboLaser

open Lib

/-- `saturating_add(1)` on an address. -/
def nextAddr (a : Ipv4Addr) : Ipv4Addr := if a = 0xFFFFFFFF then a else a + 1

/-- `firewall_addr`: the gateway slot, network + 1. -/
def firewallAddr (net : Ipv4Net) : Ipv4Addr := nextAddr net.network

/-- `station_addr_net`: network + 250, clamped to the last usable host. -/
def stationAddrNet (net : Ipv4Net) : Ipv4Addr :=
  let hostBits := 32 - net.prefixLen
  let lastUsable :=
    if 1 ≤ hostBits then ((1 : UInt32) <<< UInt32.ofNat hostBits).toNat - 2 else 0
  net.network + UInt32.ofNat (min 250 lastUsable)

/-- The address is one of the two slots no asset is placed on by itself. -/
def IsReservedSlot (net : Ipv4Net) (ip : Ipv4Addr) : Prop :=
  ip = firewallAddr net ∨ ip = stationAddrNet net

instance (net : Ipv4Net) (ip : Ipv4Addr) : Decidable (IsReservedSlot net ip) :=
  inferInstanceAs (Decidable (_ ∨ _))

/-! ## As numbers -/

theorem toNat_firewallAddr {net : Ipv4Net} (hp : net.prefixLen ≤ 31) :
    (firewallAddr net).toNat = net.network.toNat + 1 := by
  have htop := net.network_add_size_le
  have hsize : 2 ≤ net.size := by
    unfold Ipv4Net.size
    calc 2 = 2 ^ 1 := rfl
      _ ≤ 2 ^ (32 - net.prefixLen) := Nat.pow_le_pow_right (by decide) (by omega)
  have hlt : net.network ≠ 0xFFFFFFFF := by
    intro h
    rw [h] at htop
    change 4294967295 + net.size ≤ 4294967296 at htop
    omega
  rw [firewallAddr, nextAddr, if_neg hlt, UInt32.toNat_add]
  change (net.network.toNat + 1) % 2 ^ 32 = _
  exact Nat.mod_eq_of_lt (by omega)

theorem toNat_stationAddrNet {net : Ipv4Net} (hlo : 1 ≤ net.prefixLen) (hhi : net.prefixLen ≤ 31) :
    (stationAddrNet net).toNat = net.network.toNat + min 250 (net.size - 2) := by
  have htop := net.network_add_size_le
  have hpos := net.size_pos
  have hshift : ((1 : UInt32) <<< UInt32.ofNat (32 - net.prefixLen)).toNat = net.size := by
    have hpow : net.size < 2 ^ 32 := Nat.pow_lt_pow_right (by decide) (by omega)
    have hcount : (UInt32.ofNat (32 - net.prefixLen)).toNat % 32 = 32 - net.prefixLen := by
      rw [UInt32.toNat_ofNat', Nat.mod_eq_of_lt (by omega), Nat.mod_eq_of_lt (by omega)]
    rw [UInt32.toNat_shiftLeft, hcount, Nat.shiftLeft_eq]
    change 1 * net.size % 2 ^ 32 = net.size
    rw [Nat.one_mul, Nat.mod_eq_of_lt hpow]
  rw [stationAddrNet, if_pos (by omega), hshift, UInt32.toNat_add, UInt32.toNat_ofNat',
    Nat.mod_eq_of_lt (by omega), Nat.mod_eq_of_lt (by omega)]

/-- The gateway of a zone with two addresses or more lies in the zone. -/
theorem contains_firewallAddr {net : Ipv4Net} (hp : net.prefixLen ≤ 31) :
    net.contains (firewallAddr net) = true := by
  have hsize : 2 ≤ net.size := by
    unfold Ipv4Net.size
    calc 2 = 2 ^ 1 := rfl
      _ ≤ 2 ^ (32 - net.prefixLen) := Nat.pow_le_pow_right (by decide) (by omega)
  rw [Ipv4Net.contains_iff, toNat_firewallAddr hp]
  omega

end TurboLaser
