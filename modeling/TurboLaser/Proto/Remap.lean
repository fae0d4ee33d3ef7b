import Mathlib.Data.List.Dedup
import Mathlib.Data.List.Sort
import TurboLaser.Proto.Rewrite

/-!
# The per-run remap (proto/l3.rs)

`remapCapture` moves every host of a capture to a fresh network in 10.0.0.0/8. Hosts are grouped by
the first hint that contains them, or else by their /24; each group is given a network by
`pickNewNet`, and a host keeps its offset in its group. A group is an `Ipv4Net`: the pair `(prefix,
network)` of the source.

Random draws come from an arbitrary stream of numbers, so a statement about every `Rng` is a
statement about every outcome of the generator. A draw from a range takes the next number of the
stream into the range; that is not how the library computes it, and nothing is said of the
distribution: only that the result is in the range, and that the generator moves on.

The groups are kept in a map keyed by network, and are taken out sorted: the shortest prefix first,
then by address. The order decides which networks are left for the small groups, and it is the
reason why the allocation never fails for lack of an aligned gap.
-/

namespace TurboLaser

open Lib

/-! ## Random draws -/

/-- A random number generator: the results it will deliver, and how many it has. -/
structure Rng where
  draw : Nat → Nat
  pos : Nat

/-- The generator after one more draw. -/
def Rng.advance (rng : Rng) : Rng := { rng with pos := rng.pos + 1 }

/-- `gen_range(0..n)`, for `n > 0`. -/
def Rng.genRange (rng : Rng) (n : Nat) : Nat × Rng := (rng.draw rng.pos % n, rng.advance)

/-- `gen_bool`. -/
def Rng.genBool (rng : Rng) : Bool × Rng := (rng.draw rng.pos % 2 = 1, rng.advance)

/-- A random element of a slice; an empty slice panics. -/
def Rng.pick {α : Type} (rng : Rng) (xs : List α) : Option (α × Rng) :=
  (xs[(rng.genRange xs.length).1]?).map fun x => (x, rng.advance)

theorem Rng.mem_of_pick {α : Type} {rng rng' : Rng} {xs : List α} {x : α}
    (h : rng.pick xs = some (x, rng')) : x ∈ xs := by
  obtain ⟨y, hy, heq⟩ := Option.map_eq_some_iff.mp h
  cases heq
  exact List.mem_of_getElem? hy

/-! ## Groups -/

/-- `RFC1918_10_BASE`: 10.0.0.0. -/
def rfc1918Base : Ipv4Addr := 0x0A000000

/-- `group_of`: a matching hint if any, otherwise the /24. -/
def groupOf (addr : Ipv4Addr) (hints : List Ipv4Net) : Ipv4Net :=
  match hints.find? fun h => decide (8 ≤ h.prefixLen) && h.contains addr with
  | some h => ⟨addr &&& maskFor h.prefixLen, h.prefixLen, h.prefixLen_le⟩
  | none => ⟨addr &&& maskFor 24, 24, by decide⟩

/-- The offsets of the two addresses of a frame: IPv4, or ARP for IPv4. -/
def addrOffsets (buf : List UInt8) : List Nat :=
  match parseLayout buf with
  | none => []
  | some l =>
    if l.l3Kind = .ipv4 then [l.l3 + 12, l.l3 + 16]
    else if isArpIpv4 buf l.l3 then [l.l3 + 14, l.l3 + 24]
    else []

/-- The remappable addresses a frame carries, source first. -/
def frameHosts (buf : List UInt8) : List Ipv4Addr :=
  ((addrOffsets buf).filter fun off => decide (off + 4 ≤ buf.length)).map (be32 buf)
    |>.filter isRemappable

/-- Record the group of a host, once. -/
def noteHost (hints : List Ipv4Net) (byHost : AList fun _ : Ipv4Addr => Ipv4Net)
    (addr : Ipv4Addr) : AList fun _ : Ipv4Addr => Ipv4Net :=
  if addr ∈ byHost then byHost else byHost.insert addr (groupOf addr hints)

/-- The remappable addresses of a capture, in the order of its frames. -/
def captureHosts (cap : Capture) : List Ipv4Addr := cap.packets.flatMap fun p => frameHosts p.data

/-- `group_by_host`: every distinct remappable host of the capture with its group. -/
def groupByHost (cap : Capture) (hints : List Ipv4Net) : AList fun _ : Ipv4Addr => Ipv4Net :=
  (captureHosts cap).foldl (noteHost hints) ∅

/-- The order of `(prefix, network)` pairs. -/
def groupLe (g g' : Ipv4Net) : Prop :=
  g.prefixLen < g'.prefixLen ∨ (g.prefixLen = g'.prefixLen ∧ g.addr.toNat ≤ g'.addr.toNat)

instance : DecidableRel groupLe := fun _ _ =>
  inferInstanceAs (Decidable (_ ∨ _))

/-- The distinct groups, sorted. -/
def sortedGroups (byHost : AList fun _ : Ipv4Addr => Ipv4Net) : List Ipv4Net :=
  (byHost.entries.map Sigma.snd).dedup.insertionSort groupLe

/-! ## Allocation -/

/-- `overlaps`: the block of the given prefix at `net` meets an assigned block. -/
def overlaps (net : Ipv4Addr) (prefixLen : Nat) (assigned : List Ipv4Net) : Bool :=
  assigned.any fun n2 =>
    decide (net.toNat < n2.addr.toNat + n2.size) &&
      decide (n2.addr.toNat < net.toNat + 2 ^ (32 - prefixLen))

/-- The candidate network number `idx` within 10/8. -/
def candidateNet (prefixLen idx : Nat) : Ipv4Addr :=
  rfc1918Base ||| (UInt32.ofNat idx <<< UInt32.ofNat (32 - prefixLen))

/-- Up to `tries` random candidates; the first that is free. -/
def drawNet (prefixLen : Nat) (assigned : List Ipv4Net) : Nat → Rng → Option Ipv4Addr × Rng
  | 0, rng => (none, rng)
  | tries + 1, rng =>
    let (idx, rng) := rng.genRange (2 ^ (prefixLen - 8))
    let net := candidateNet prefixLen idx
    if overlaps net prefixLen assigned then drawNet prefixLen assigned tries rng
    else (some net, rng)

/-- The first free candidate, in order. -/
def scanNet (prefixLen : Nat) (assigned : List Ipv4Net) : Option Ipv4Addr :=
  ((List.range' 0 (2 ^ (prefixLen - 8))).find? fun idx =>
    !overlaps (candidateNet prefixLen idx) prefixLen assigned).map (candidateNet prefixLen)

/-- A prefix length clamped to 8..=30. -/
def clampPrefix (prefixLen : Nat) : Nat := max 8 (min prefixLen 30)

/-- `pick_new_net`: 256 random tries, then a scan, then 10.0.0.0. -/
def pickNewNet (prefixLen : Nat) (rng : Rng) (assigned : List Ipv4Net) : Ipv4Addr × Rng :=
  let p := clampPrefix prefixLen
  match drawNet p assigned 256 rng with
  | (some net, rng) => (net, rng)
  | (none, rng) => ((scanNet p assigned).getD rfc1918Base, rng)

/-- `fresh_subnet`: a fresh network that overlaps none in `existing`. -/
def freshSubnet (prefixLen : Nat) (existing : List Ipv4Net) (rng : Rng) : Ipv4Net × Rng :=
  let assigned := existing.map fun n => { n with addr := n.network }
  let p := clampPrefix prefixLen
  let (net, rng) := pickNewNet p rng assigned
  (⟨net, p, by unfold p clampPrefix; omega⟩, rng)

/-- `new_net_of`: give each group a network, in order. The third argument is `assigned`. -/
def assignNets : List Ipv4Net → Rng → List Ipv4Net → List (Ipv4Net × Ipv4Net)
  | [], _, _ => []
  | g :: groups, rng, assigned =>
    let (net, rng) := pickNewNet g.prefixLen rng assigned
    let newNet := { g with addr := net }
    (g, newNet) :: assignNets groups rng (assigned ++ [newNet])

/-- A host's new address: its offset in the new network of its group. -/
def relocate (nets : List (Ipv4Net × Ipv4Net)) (host : Ipv4Addr) (g : Ipv4Net) : Ipv4Addr :=
  match nets.lookup g with
  | some newNet => newNet.addr ||| (host &&& ~~~ maskFor g.prefixLen)
  | none => host

/-- Steps 1 to 3 of `remap_capture`: the host bijection. -/
def remapMap (cap : Capture) (hints : List Ipv4Net) (rng : Rng) : HostMap :=
  let byHost := groupByHost cap hints
  let nets := assignNets (sortedGroups byHost) rng []
  (byHost.entries.map fun e => (⟨e.1, relocate nets e.1 e.2⟩ : Sigma fun _ : Ipv4Addr => Ipv4Addr))
    |>.toAList

/-- `RemapSummary`. -/
structure RemapSummary where
  hostCount : Nat
  subnets : List (Ipv4Net × Ipv4Net)
deriving DecidableEq

/-- `remap_capture`; `seedFrom` is the generator's seeding function. -/
def remapCapture (seedFrom : UInt64 → Rng) (cap : Capture) (hints : List Ipv4Net) (seed : UInt64)
    (remapMac : Bool) : Capture × RemapSummary :=
  let rng := seedFrom seed
  let map := remapMap cap hints rng
  (rewriteAndFilter cap map ∅ seed remapMac,
    ⟨map.keys.length, assignNets (sortedGroups (groupByHost cap hints)) rng []⟩)

end TurboLaser
