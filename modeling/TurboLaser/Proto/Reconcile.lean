import Mathlib.Data.Finset.Card
import Mathlib.Data.Finset.Max
import TurboLaser.Proto.Remap

/-!
# Reconciling a capture into the plan (proto/l3.rs)

`reconcileCaptureIntoZones` maps the hosts of a capture into the fabricated zones. Groups are served
in the order of their networks, the hosts of a group in address order; each host takes the first of
three ways that is open:

1. it is registered, and keeps the address it has; 2. the asset budget is not spent and its zone has
a free address: it is placed there as a new asset, with a MAC no other asset has; 3. some zone holds
a fabricated device: it rides that device's address.

`choosePlacement` makes the choice, `PlaceState.record` carries it out. A host for which no way is
open stays unmapped. `none` stands for a salt loop that never ends.

The source has two nested loops with half a dozen mutable collections. Here the collections are the
fields of `PlaceState`, and a turn of the inner loop is one function of that state and a host
(`placeHosts`); what the loops read and never write is in `ReconcileCtx`. The zones of a group are
ranked by affinity, room and a tiebreak from the seed, in the source's order of comparison. Maps and
sets of the source are functional ones here, and nothing depends on the order of their iteration:
where the source iterates over one it takes a minimum or sorts.
-/

namespace TurboLaser

open Lib

/-- `ZoneTarget`: a fabricated zone; `reserved` holds the addresses of its devices. -/
structure ZoneTarget where
  net : Ipv4Net
  vendor : Option String
  purdueLevel : Nat
  protocol : Option String
  reserved : Finset Ipv4Addr
deriving DecidableEq

/-- `CaptureGroup`: the hosts of one subnet of the capture. -/
structure CaptureGroup where
  net : Ipv4Net
  purdueLevel : Nat
  vendor : Option String
  protocol : Option String
  hosts : List Ipv4Addr
deriving DecidableEq

/-- `NewCaptureAsset`. -/
structure NewCaptureAsset where
  origin : Ipv4Addr
  ip : Ipv4Addr
  mac : Mac
  vendor : Option String
  protocol : Option String
  purdueLevel : Nat
  subnetCidr : Ipv4Net
deriving DecidableEq

/-- `ZoneAffinity`. -/
inductive ZoneAffinity where
  | both
  | vendor
  | protocol
  | off
deriving DecidableEq

/-- `ReconcileCtx`. -/
structure ReconcileCtx where
  zones : List ZoneTarget
  affinity : ZoneAffinity
  seed : UInt64
  remapMac : Bool
  registered : HostMap
  deviceMacs : MacMap
  reservedMacs : Finset Mac
  budget : Nat

/-! ## Ranking zones -/

/-- Both sides are known and equal. -/
def knownMatch (a b : Option String) : Bool := a.isSome && decide (a = b)

/-- `affinity_score`. -/
def affinityScore (g : CaptureGroup) (z : ZoneTarget) (affinity : ZoneAffinity) : Nat :=
  match affinity with
  | .off => 0
  | .vendor => (knownMatch g.vendor z.vendor).toNat * 3
  | .protocol => (knownMatch g.protocol z.protocol).toNat * 2
  | .both =>
    (knownMatch g.vendor z.vendor).toNat * 4 + (knownMatch g.protocol z.protocol).toNat * 2 +
      (decide (g.purdueLevel = z.purdueLevel)).toNat

/-- `zone_room`: usable addresses minus reserved ones. -/
def zoneRoom (z : ZoneTarget) : Nat :=
  (if 31 ≤ z.net.prefixLen then 0 else z.net.size - 2) - z.reserved.card

/-- `tiebreak`. -/
def tiebreak (seed : UInt64) (group zone : Ipv4Net) : UInt64 :=
  splitmix64 (seed ^^^ (UInt64.ofNat group.network.toNat * 0x9E3779B97F4A7C15) ^^^
    UInt64.ofNat zone.network.toNat)

/-- The comparison `rank_zones` sorts by: higher score, more room, smaller tiebreak. -/
def zoneOrder (g : CaptureGroup) (affinity : ZoneAffinity) (seed : UInt64) (za zb : ZoneTarget) :
    Ordering :=
  ((compare (affinityScore g zb affinity) (affinityScore g za affinity)).then
    (compare (zoneRoom zb) (zoneRoom za))).then
    (compare (tiebreak seed g.net za.net).toNat (tiebreak seed g.net zb.net).toNat)

/-- `rank_zones`: the zones best first, each with its index. -/
def rankZones (g : CaptureGroup) (zones : List ZoneTarget) (affinity : ZoneAffinity)
    (seed : UInt64) : List (ZoneTarget × Nat) :=
  zones.zipIdx.insertionSort fun a b => zoneOrder g affinity seed a.1 b.1 ≠ .gt

/-! ## Placing one host -/

/-- `is_usable_host`. -/
def isUsableHost (net : Ipv4Net) (ip : Ipv4Addr) : Bool :=
  net.contains ip && decide (ip ≠ net.network) && decide (ip ≠ net.broadcast)

/-- The address a host would like: its own offset in the zone. -/
def wantedAddr (net : Ipv4Net) (desiredOff : Ipv4Addr) : Ipv4Addr :=
  net.network ||| (desiredOff &&& ~~~ maskFor net.prefixLen)

/-- `place_in_zone`: the wanted address, else the next free host. -/
def placeInZone (net : Ipv4Net) (taken : Finset Ipv4Addr) (desiredOff : Ipv4Addr) :
    Option Ipv4Addr :=
  let want := wantedAddr net desiredOff
  if isUsableHost net want ∧ want ∉ taken then some want
  else net.hosts.find? fun ip => decide (ip ∉ taken)

/-- The lowest address of a set. -/
def lowest (s : Finset Ipv4Addr) : Option Ipv4Addr :=
  match (s.image UInt32.toNat).min with
  | some n => some (UInt32.ofNat n)
  | none => none

/-- The device addresses of all zones. -/
def allReserved (zones : List ZoneTarget) : Finset Ipv4Addr :=
  zones.foldr (fun z s => z.reserved ∪ s) ∅

/-- `force_map_target`: the lowest device of the preferred zone, else of any zone. -/
def forceMapTarget (zones : List ZoneTarget) (prefer : Nat) : Option Ipv4Addr :=
  ((zones[prefer]?).bind fun z => lowest z.reserved).or (lowest (allReserved zones))

/-- What becomes of a host: it keeps its asset, becomes one, rides a device, or is left. -/
inductive Placement where
  | reuse (ip : Ipv4Addr)
  | fresh (ip : Ipv4Addr) (mac : Mac) (salt : UInt64)
  | ride (ip : Ipv4Addr)
  | unmapped
deriving DecidableEq

/-- The address a placement maps a host to. -/
def Placement.ip? : Placement → Option Ipv4Addr
  | reuse ip => some ip
  | fresh ip _ _ => some ip
  | ride ip => some ip
  | unmapped => none

/-- The local variables of the host loop. -/
structure PlaceState where
  budget : Nat
  taken : Finset Ipv4Addr
  usedMacs : Finset Mac
  resolved : MacMap
  map : HostMap
  newAssets : List NewCaptureAsset

/-- One turn of the host loop: the group's best zone with its index, and the host. -/
structure Job where
  zone : ZoneTarget
  zi : Nat
  host : Ipv4Addr

/-- The choice among the three ways, for one host. -/
def choosePlacement (ctx : ReconcileCtx) (st : PlaceState) (j : Job) : Option Placement :=
  match ctx.registered.lookup j.host with
  | some nv => some (.reuse nv)
  | none =>
    match if 0 < st.budget then placeInZone j.zone.net st.taken j.host else none with
    | some newIp =>
      match freshMac (hostMacSalted ctx.seed newIp) st.usedMacs with
      | some (mac, salt) => some (.fresh newIp mac salt)
      | none => none
    | none =>
      match forceMapTarget ctx.zones j.zi with
      | some t => some (.ride t)
      | none => some .unmapped

/-- The asset a freshly placed host becomes. -/
def Job.asset (j : Job) (ip : Ipv4Addr) (mac : Mac) : NewCaptureAsset :=
  { origin := j.host, ip, mac, vendor := j.zone.vendor, protocol := j.zone.protocol,
    purdueLevel := j.zone.purdueLevel, subnetCidr := j.zone.net }

/-- Carry out a placement. -/
def PlaceState.record (st : PlaceState) (j : Job) : Placement → PlaceState
  | .reuse ip => { st with map := st.map.insert j.host ip }
  | .fresh ip mac salt =>
    { budget := st.budget - 1
      taken := insert ip st.taken
      usedMacs := insert mac st.usedMacs
      resolved := if salt ≠ 0 then st.resolved.insert ip mac else st.resolved
      map := st.map.insert j.host ip
      newAssets := st.newAssets ++ [j.asset ip mac] }
  | .ride ip => { st with map := st.map.insert j.host ip }
  | .unmapped => st

/-! ## The loops -/

/-- The hosts of a group in address order, each with the group's zone. -/
def groupJobs (g : CaptureGroup) (zone : ZoneTarget) (zi : Nat) : List Job :=
  (g.hosts.insertionSort fun a b => a.toNat ≤ b.toNat).map (⟨zone, zi, ·⟩)

/-- The host loop of one group. The flag is `placed_zone`: some host was mapped. -/
def placeHosts (ctx : ReconcileCtx) : List Job → PlaceState → Option (PlaceState × Bool)
  | [], st => some (st, false)
  | j :: js, st =>
    match choosePlacement ctx st j with
    | none => none
    | some pl =>
      match placeHosts ctx js (st.record j pl) with
      | none => none
      | some (st', placed) => some (st', pl.ip?.isSome || placed)

/-- The group loop, with the summary's subnet pairs. -/
def placeGroups (ctx : ReconcileCtx) :
    List CaptureGroup → PlaceState → Option (PlaceState × List (Ipv4Net × Ipv4Net))
  | [], st => some (st, [])
  | g :: gs, st =>
    match rankZones g ctx.zones ctx.affinity ctx.seed with
    | [] => placeGroups ctx gs st
    | (zone, zi) :: _ =>
      match placeHosts ctx (groupJobs g zone zi) st with
      | none => none
      | some (st', placed) =>
        match placeGroups ctx gs st' with
        | none => none
        | some (st'', subnets) =>
          some (st'', if placed then (g.net, zone.net) :: subnets else subnets)

/-- The groups in the order of their networks. -/
def sortGroups (groups : List CaptureGroup) : List CaptureGroup :=
  groups.insertionSort fun a b => a.net.network.toNat ≤ b.net.network.toNat

/-- The state the loops start from. -/
def initState (ctx : ReconcileCtx) : PlaceState :=
  { budget := ctx.budget
    taken := allReserved ctx.zones ∪ ctx.registered.values
    usedMacs := ctx.reservedMacs
    resolved := ∅
    map := ∅
    newAssets := [] }

/-- `reconcile_capture_into_zones`. -/
def reconcileCaptureIntoZones (cap : Capture) (groups : List CaptureGroup) (ctx : ReconcileCtx) :
    Option (Capture × RemapSummary × List NewCaptureAsset) :=
  if ctx.zones = [] then some (cap, ⟨0, []⟩, [])
  else
    match placeGroups ctx (sortGroups groups) (initState ctx) with
    | none => none
    | some (st, subnets) =>
      -- the perturbed MACs are laid over the caller's overrides
      some (rewriteAndFilter cap st.map (st.resolved ∪ ctx.deviceMacs) ctx.seed ctx.remapMac,
        ⟨st.map.keys.length, subnets⟩, st.newAssets)

end TurboLaser
