import TurboLaser.Lib.Masks

/-!
# IPv4 addresses and networks

The address arithmetic the appliance borrows from the standard library and
`ipnet`: an address is its 32-bit word, a network is an address with a prefix
length (host bits are kept, as `Ipv4Net::new` keeps them). `is_remappable`
(proto/l3.rs) is the one predicate of the repository itself.

`ipnet` is not part of the repository. What stands here for it is its
documented behaviour, and results about networks rest on it through the
following facts, each a theorem about the definitions:

- `toNat_broadcast`, `size_dvd_network`: `network` and `broadcast` are the
  first and the last address of the block of the prefix;
- `contains_iff`: `contains` holds between the two, ends included;
- `mem_hosts`, `contains_of_mem_hosts`, `hosts_sorted`: `hosts` lists the
  addresses in increasing order, without these two, except where a prefix of
  31 or 32 leaves no others;
- `DecidableEq`: two networks are equal when address and length are, so a
  network read with host bits differs from the one with them cleared.
-/

namespace TurboLaser

open Lib

/-- `std::net::Ipv4Addr`, by its 32-bit word. -/
abbrev Ipv4Addr := UInt32

/-- Quantifiers over listed addresses are decided along the list, and not over all 2^32 of them. -/
instance (priority := 2000) (l : List Ipv4Addr) (p : Ipv4Addr → Prop) [DecidablePred p] :
    Decidable (∀ a ∈ l, p a) := List.decidableBAll p l

instance (priority := 2000) (l : List Ipv4Addr) (p : Ipv4Addr → Prop) [DecidablePred p] :
    Decidable (∃ a ∈ l, p a) := List.decidableBEx p l

instance (priority := 2000) (o : Option Ipv4Addr) (p : Ipv4Addr → Prop) [DecidablePred p] :
    Decidable (∀ a ∈ o, p a) := Option.decidableForallMem o

/-- The address `a.b.c.d`. -/
def ipv4 (a b c d : Nat) : Ipv4Addr :=
  UInt32.ofNat (a * 16777216 + b * 65536 + c * 256 + d)

/-- `ipnet::Ipv4Net`: a prefix length beyond 32 is an error of `Ipv4Net::new`, so none is held. -/
structure Ipv4Net where
  addr : Ipv4Addr
  prefixLen : Nat
  prefixLen_le : prefixLen ≤ 32
deriving DecidableEq

namespace Ipv4Net

/-- The network of prefix 24 around an address. -/
def slash24 (addr : Ipv4Addr) : Ipv4Net := ⟨addr, 24, Nat.le_of_ble_eq_true rfl⟩

/-- The network address: the host bits cleared. -/
def network (n : Ipv4Net) : Ipv4Addr := n.addr &&& maskFor n.prefixLen

/-- The broadcast address: the host bits set. -/
def broadcast (n : Ipv4Net) : Ipv4Addr := n.network ||| ~~~ maskFor n.prefixLen

/-- `Ipv4Net::contains` for an address. -/
def contains (n : Ipv4Net) (ip : Ipv4Addr) : Bool :=
  decide (n.network ≤ ip) && decide (ip ≤ n.broadcast)

/-- The number of addresses of the network. -/
def size (n : Ipv4Net) : Nat := 2 ^ (32 - n.prefixLen)

/-- `Ipv4Net::hosts`: without the network and broadcast addresses, except in a
network of prefix 31 or 32, which has only hosts. -/
def hosts (n : Ipv4Net) : List Ipv4Addr :=
  (if n.prefixLen < 31 then List.range' 1 (n.size - 2) else List.range' 0 n.size).map
    fun i => UInt32.ofNat (n.network.toNat + i)

theorem size_pos (n : Ipv4Net) : 0 < n.size := Nat.pow_pos (by decide)

/-- The network address is a multiple of the size: blocks are aligned. -/
theorem size_dvd_network (n : Ipv4Net) : n.size ∣ n.network.toNat :=
  dvd_and_maskFor n.addr n.prefixLen_le

/-- A network does not wrap past the end of the address space. -/
theorem network_add_size_le (n : Ipv4Net) : n.network.toNat + n.size ≤ 2 ^ 32 := by
  obtain ⟨c, hc⟩ := n.size_dvd_network
  have hlt : n.network.toNat < 2 ^ 32 := n.network.toNat_lt
  have hsplit : 2 ^ 32 = n.size * 2 ^ n.prefixLen := by
    rw [size, ← Nat.pow_add, Nat.sub_add_cancel n.prefixLen_le]
  rw [hc] at hlt ⊢
  rw [hsplit] at hlt ⊢
  rw [← Nat.mul_succ]
  exact Nat.mul_le_mul_left _ (lt_of_mul_lt_mul_left hlt (Nat.zero_le _))

/-- The broadcast address is the last one of the block. -/
theorem toNat_broadcast (n : Ipv4Net) :
    n.broadcast.toNat = n.network.toNat + (n.size - 1) := by
  have hpos := n.size_pos
  have hmask : (~~~ maskFor n.prefixLen).toNat = n.size - 1 := toNat_not_maskFor n.prefixLen_le
  rw [broadcast, toNat_or_offset (k := 32 - n.prefixLen) n.size_dvd_network, hmask]
  rw [hmask]
  show n.size - 1 < n.size
  omega

/-- Containment is a range of numbers. -/
theorem contains_iff {n : Ipv4Net} {ip : Ipv4Addr} :
    n.contains ip = true ↔
      n.network.toNat ≤ ip.toNat ∧ ip.toNat < n.network.toNat + n.size := by
  have hpos := n.size_pos
  rw [contains, Bool.and_eq_true, decide_eq_true_iff, decide_eq_true_iff,
    UInt32.le_iff_toNat_le, UInt32.le_iff_toNat_le, toNat_broadcast]
  omega

/-- The hosts of a network of prefix at most 30 lie strictly between its network
and broadcast addresses. -/
theorem mem_hosts {n : Ipv4Net} (hp : n.prefixLen ≤ 30) {ip : Ipv4Addr} :
    ip ∈ n.hosts ↔
      n.network.toNat < ip.toNat ∧ ip.toNat + 1 < n.network.toNat + n.size := by
  have htop := n.network_add_size_le
  rw [hosts, if_pos (by omega), List.mem_map]
  constructor
  · rintro ⟨i, hi, rfl⟩
    rw [List.mem_range'_1] at hi
    rw [UInt32.toNat_ofNat', Nat.mod_eq_of_lt (by omega)]
    omega
  · rintro ⟨hlo, hhi⟩
    refine ⟨ip.toNat - n.network.toNat, ?_, ?_⟩
    · rw [List.mem_range'_1]
      omega
    · rw [Nat.add_sub_cancel' (by omega), UInt32.ofNat_toNat]

/-- The hosts are listed in address order. -/
theorem hosts_sorted (n : Ipv4Net) : n.hosts.Pairwise (· < ·) := by
  have htop := n.network_add_size_le
  have hpos := n.size_pos
  have hrange : ∀ start len, start + len ≤ n.size →
      ((List.range' start len).map fun i => UInt32.ofNat (n.network.toNat + i)).Pairwise
        (· < ·) := by
    intro start len hlen
    rw [List.pairwise_map]
    refine List.Pairwise.imp_of_mem ?_ List.pairwise_lt_range'
    intro i j hi hj hij
    rw [List.mem_range'_1] at hi hj
    rw [UInt32.lt_iff_toNat_lt, UInt32.toNat_ofNat', UInt32.toNat_ofNat',
      Nat.mod_eq_of_lt (by omega), Nat.mod_eq_of_lt (by omega)]
    omega
  rw [hosts]
  split
  · exact hrange 1 (n.size - 2) (by omega)
  · exact hrange 0 n.size (by omega)

/-- A host of a network is an address of it, whatever its prefix. -/
theorem contains_of_mem_hosts {n : Ipv4Net} {ip : Ipv4Addr} (h : ip ∈ n.hosts) :
    n.contains ip = true := by
  have htop := n.network_add_size_le
  have hpos := n.size_pos
  rw [hosts, List.mem_map] at h
  obtain ⟨i, hi, rfl⟩ := h
  have hlt : i < n.size := by
    split at hi
    · rw [List.mem_range'_1] at hi
      omega
    · rw [List.mem_range'_1] at hi
      omega
  rw [contains_iff, UInt32.toNat_ofNat', Nat.mod_eq_of_lt (by omega)]
  omega

end Ipv4Net

/-! ## Addresses the remap relocates -/

/-- Unicast, non-loopback, non-reserved: the addresses the remap relocates. -/
def isRemappable (addr : Ipv4Addr) : Bool :=
  let o0 := addr >>> 24
  o0 != 0 && o0 != 127 && decide (o0 < 224)

/-- Being in 10.0.0.0/8 is a range of numbers. -/
theorem shiftRight_eq_ten_iff {addr : Ipv4Addr} :
    addr >>> 24 = 10 ↔ 167772160 ≤ addr.toNat ∧ addr.toNat < 167772160 + 16777216 := by
  have hshift : (addr >>> 24).toNat = addr.toNat / 16777216 := by
    rw [UInt32.toNat_shiftRight]
    show addr.toNat >>> 24 = _
    rw [Nat.shiftRight_eq_div_pow]
  rw [← UInt32.toNat_inj, hshift]
  show addr.toNat / 16777216 = 10 ↔ _
  omega

end TurboLaser
