import TurboLaser.Proto.Reconcile
import TurboLaser.Proto.RewriteFacts
import TurboLaser.Simulate.Bom
import TurboLaser.Simulate.Profiles

/-!
# Zones of a capture (simulate/zones.rs)

`deriveZones` groups the hosts of a capture by subnet; the vendor of a group is the one most of its
hosts' source MACs belong to. `captureGroups` adds the OT protocol most of the group's frames carry
(`dominant_protocol_by_group` of simulate/engine.rs).

Votes are counted in hash maps, whose iteration order decides between equal counts and between
groups of equal network. `HashOrder` is that order, as an arbitrary rearrangement.

- `mem_captureGroups`, `nodup_captureGroups`: **the groups hold exactly the hosts of the capture**,
  each once; this is all that the remaps ask of them;
- `TieFree`: in no group do two entries share the highest count, and no two groups have one network
  address;
- `captureGroups_order`: **without ties the groups do not depend on hash orders.**
-/

namespace TurboLaser

open Lib

/-! ## Names and levels -/

/-- `purdue_label`. -/
def purdueLabel (level : Nat) : String :=
  match level with
  | 0 => "Field I/O"
  | 1 => "Basic Control"
  | 2 => "Supervisory"
  | 3 => "Operations"
  | 4 => "Enterprise"
  | _ => "Network"

/-- `infer_level`: switch vendors 2, controller vendors 1, the rest 3. -/
def inferLevel (vendor : Option String) : Nat :=
  match vendor with
  | none => 3
  | some v =>
    if ["Cisco", "Hirschmann", "Moxa", "Belden", "Westermo"].any (textContains v) then 2
    else if ["Siemens", "Rockwell", "Schneider", "GE", "ABB", "Beckhoff", "WAGO",
        "Phoenix"].any (textContains v) then 1
    else 3

/-- `char::is_whitespace`. -/
def isWhiteSpace (c : Char) : Bool :=
  let n := c.toNat
  decide (9 ≤ n ∧ n ≤ 13) || n == 0x20 || n == 0x85 || n == 0xA0 || n == 0x1680 ||
    decide (0x2000 ≤ n ∧ n ≤ 0x200A) || n == 0x2028 || n == 0x2029 || n == 0x202F ||
    n == 0x205F || n == 0x3000

/-- `family_of`: the first word of a model. -/
def familyOf (model : String) : String :=
  String.ofList ((model.toList.dropWhile isWhiteSpace).takeWhile fun c => !isWhiteSpace c)

/-- `name_zone`. -/
def nameZone (vendor family : Option String) (level idx : Nat) : String :=
  let parts := [vendor.getD "ICS"] ++ (family.toList.filter fun f => f ≠ "") ++ [purdueLabel level]
  " ".intercalate parts ++ " Area " ++ toString (idx + 1)

/-! ## Votes -/

/-- The iteration orders of the hash maps `captureGroups` counts votes in: of the
groups, and for each group of its vendor and of its protocol votes. -/
structure HashOrder where
  nets : List Ipv4Net → List Ipv4Net
  vendor : Ipv4Net → List (String × Nat) → List (String × Nat)
  protocol : Ipv4Net → List (String × Nat) → List (String × Nat)
  nets_perm : ∀ l, (nets l).Perm l
  vendor_perm : ∀ net l, (vendor net l).Perm l
  protocol_perm : ∀ net l, (protocol net l).Perm l

/-- How often each name occurs. -/
def tally (votes : List String) : List (String × Nat) := votes.dedup.map fun v => (v, votes.count v)

/-- `max_by_key`: the last entry with the highest count. -/
def maxByCount (entries : List (String × Nat)) : Option String :=
  (entries.foldl (fun best e =>
    match best with
    | none => some e
    | some b => if b.2 ≤ e.2 then some e else some b) none).map Prod.fst

/-! ## Grouping -/

/-- The sender a frame binds to a hardware address: the IPv4 source to the Ethernet
source, or the ARP sender. -/
def senderMac (buf : List UInt8) : Option (Ipv4Addr × Mac) :=
  match parseLayout buf with
  | none => none
  | some l =>
    if l.l3Kind = .ipv4 ∧ l.l3 + 20 ≤ buf.length then
      if isRemappable (be32 buf (l.l3 + 12)) ∧ 12 ≤ buf.length
        then some (be32 buf (l.l3 + 12), macAt buf 6)
        else none
    else if isArpIpv4 buf l.l3 ∧ isRemappable (be32 buf (l.l3 + 14))
      then some (be32 buf (l.l3 + 14), macAt buf (l.l3 + 8))
      else none

/-- `host_mac`: the first hardware address each host was seen to send with. -/
def hostMacs (cap : Capture) : MacMap :=
  (cap.packets.filterMap fun p => senderMac p.data).foldl
    (fun macs e => if e.1 ∈ macs then macs else macs.insert e.1 e.2) ∅

/-- The distinct hosts, in the order they are first seen. -/
def distinctHosts (cap : Capture) : List Ipv4Addr :=
  (captureHosts cap).foldl (fun hosts h => if h ∈ hosts then hosts else hosts ++ [h]) []

/-- `Zone`. -/
structure Zone where
  cidr : Ipv4Net
  name : String
  purdueLevel : Nat
  vendor : Option String
  deviceIps : List Ipv4Addr

/-- The hosts of one subnet, in address order. -/
def subnetHosts (cap : Capture) (hints : List Ipv4Net) (net : Ipv4Net) : List Ipv4Addr :=
  ((distinctHosts cap).filter fun h => decide (groupOf h hints = net)).insertionSort
    fun a b => a.toNat ≤ b.toNat

/-- The vendor of a group: the majority of its hosts' source MACs. -/
def dominantVendor (oui : OuiDb) (order : HashOrder) (macs : MacMap) (net : Ipv4Net)
    (ips : List Ipv4Addr) : Option String :=
  maxByCount (order.vendor net (tally (ips.filterMap fun ip => (macs.lookup ip).bind oui.vendor)))

/-- The subnets of the capture, by network address. -/
def subnetsOf (cap : Capture) (hints : List Ipv4Net) (order : HashOrder) : List Ipv4Net :=
  (order.nets ((distinctHosts cap).map (groupOf · hints)).dedup).insertionSort
    fun a b => a.network.toNat ≤ b.network.toNat

/-- `derive_zones`. -/
def deriveZones (cap : Capture) (hints : List Ipv4Net) (oui : OuiDb) (order : HashOrder) :
    List Zone :=
  let macs := hostMacs cap
  (subnetsOf cap hints order).mapIdx fun idx net =>
    let ips := subnetHosts cap hints net
    let vendor := dominantVendor oui order macs net ips
    let level := inferLevel vendor
    { cidr := net, name := nameZone vendor none level idx, purdueLevel := level, vendor,
      deviceIps := ips }

/-- `ot_protocol_for_port`. -/
def otProtocolForPort (port : Nat) : Option String :=
  if port = 502 then some "modbus"
  else if port = 2222 ∨ port = 44818 then some "enip"
  else if port = 102 then some "s7"
  else if port = 161 ∨ port = 162 then some "switch_snmp"
  else if port = 20000 then some "dnp3"
  else none

/-- The protocol votes of a frame: one for the group of each end. -/
def protocolVotes (hints : List Ipv4Net) (buf : List UInt8) : List (Ipv4Net × String) :=
  match parseLayout buf with
  | none => []
  | some l =>
    if l.l3Kind ≠ .ipv4 ∨ l.l4Kind = .other ∨ buf.length < l.l4 + 4 ∨ buf.length < l.l3 + 20
    then []
    else
      match (otProtocolForPort (be16 buf (l.l4 + 2))).or (otProtocolForPort (be16 buf l.l4)) with
      | none => []
      | some proto =>
        [be32 buf (l.l3 + 12), be32 buf (l.l3 + 16)].map fun h => (groupOf h hints, proto)

/-- `dominant_protocol_by_group`, looked up at one group. -/
def dominantProtocol (cap : Capture) (hints : List Ipv4Net) (order : HashOrder) (net : Ipv4Net) :
    Option String :=
  let votes := cap.packets.flatMap fun p => protocolVotes hints p.data
  maxByCount (order.protocol net (tally ((votes.filter fun v => v.1 = net).map Prod.snd)))

/-- `capture_groups`. -/
def captureGroups (cap : Capture) (hints : List Ipv4Net) (oui : OuiDb) (order : HashOrder) :
    List CaptureGroup :=
  (deriveZones cap hints oui order).map fun z =>
    { net := z.cidr, purdueLevel := z.purdueLevel, vendor := z.vendor,
      protocol := dominantProtocol cap hints order z.cidr, hosts := z.deviceIps }

/-! ## The hosts of the groups -/

theorem foldl_distinct (l hosts : List Ipv4Addr) (hnodup : hosts.Nodup) :
    (l.foldl (fun hosts h => if h ∈ hosts then hosts else hosts ++ [h]) hosts).Nodup ∧
      ∀ a, a ∈ l.foldl (fun hosts h => if h ∈ hosts then hosts else hosts ++ [h]) hosts ↔
        a ∈ hosts ∨ a ∈ l := by
  induction l generalizing hosts with
  | nil => exact ⟨hnodup, fun a => by simp⟩
  | cons h l ih =>
    rw [List.foldl_cons]
    by_cases hin : h ∈ hosts
    · rw [if_pos hin]
      refine ⟨(ih hosts hnodup).1, fun a => ?_⟩
      rw [(ih hosts hnodup).2 a, List.mem_cons]
      constructor
      · exact Or.imp_right Or.inr
      · rintro (ha | rfl | ha)
        · exact Or.inl ha
        · exact Or.inl hin
        · exact Or.inr ha
    · rw [if_neg hin]
      have hnew : (hosts ++ [h]).Nodup :=
        List.Nodup.append hnodup (List.nodup_singleton h)
          (List.disjoint_singleton.mpr hin)
      refine ⟨(ih _ hnew).1, fun a => ?_⟩
      rw [(ih _ hnew).2 a, List.mem_append, List.mem_singleton, List.mem_cons, or_assoc]

theorem nodup_distinctHosts (cap : Capture) : (distinctHosts cap).Nodup :=
  (foldl_distinct (captureHosts cap) [] List.nodup_nil).1

theorem mem_distinctHosts {cap : Capture} {a : Ipv4Addr} :
    a ∈ distinctHosts cap ↔ a ∈ captureHosts cap := by
  rw [distinctHosts, (foldl_distinct (captureHosts cap) [] List.nodup_nil).2 a]
  exact or_iff_right (List.not_mem_nil)

theorem mem_subnetHosts {cap : Capture} {hints : List Ipv4Net} {net : Ipv4Net} {a : Ipv4Addr} :
    a ∈ subnetHosts cap hints net ↔ a ∈ captureHosts cap ∧ groupOf a hints = net := by
  rw [subnetHosts, List.mem_insertionSort, List.mem_filter, mem_distinctHosts, decide_eq_true_iff]

theorem mem_subnetsOf {cap : Capture} {hints : List Ipv4Net} {order : HashOrder} {net : Ipv4Net} :
    net ∈ subnetsOf cap hints order ↔ ∃ a ∈ captureHosts cap, groupOf a hints = net := by
  rw [subnetsOf, List.mem_insertionSort, (order.nets_perm _).mem_iff, List.mem_dedup, List.mem_map]
  simp only [mem_distinctHosts]

theorem nodup_subnetsOf (cap : Capture) (hints : List Ipv4Net) (order : HashOrder) :
    (subnetsOf cap hints order).Nodup :=
  ((List.perm_insertionSort _ _).trans (order.nets_perm _)).nodup_iff.mpr (List.nodup_dedup _)

/-- The host lists of the groups, subnet by subnet. -/
theorem map_hosts_captureGroups (cap : Capture) (hints : List Ipv4Net) (oui : OuiDb)
    (order : HashOrder) :
    (captureGroups cap hints oui order).map CaptureGroup.hosts =
      (subnetsOf cap hints order).map (subnetHosts cap hints) := by
  rw [captureGroups, deriveZones, List.map_map]
  apply List.ext_getElem
  · simp
  · intro i h₁ h₂
    simp

/-- **The groups hold exactly the hosts of the capture.** -/
theorem mem_captureGroups {cap : Capture} {hints : List Ipv4Net} {oui : OuiDb}
    {order : HashOrder} {a : Ipv4Addr} :
    (∃ g ∈ captureGroups cap hints oui order, a ∈ g.hosts) ↔ a ∈ captureHosts cap := by
  have hlists : (∃ g ∈ captureGroups cap hints oui order, a ∈ g.hosts) ↔
      ∃ l ∈ (captureGroups cap hints oui order).map CaptureGroup.hosts, a ∈ l := by
    simp
  rw [hlists, map_hosts_captureGroups]
  constructor
  · rintro ⟨l, hl, ha⟩
    obtain ⟨net, -, rfl⟩ := List.mem_map.mp hl
    exact (mem_subnetHosts.mp ha).1
  · intro ha
    exact ⟨_, List.mem_map_of_mem (mem_subnetsOf.mpr ⟨a, ha, rfl⟩), mem_subnetHosts.mpr ⟨ha, rfl⟩⟩

/-- **No host is in two groups, or twice in one.** -/
theorem nodup_captureGroups (cap : Capture) (hints : List Ipv4Net) (oui : OuiDb)
    (order : HashOrder) :
    ((captureGroups cap hints oui order).flatMap CaptureGroup.hosts).Nodup := by
  rw [List.flatMap, map_hosts_captureGroups, List.nodup_flatten]
  constructor
  · intro l hl
    obtain ⟨net, -, rfl⟩ := List.mem_map.mp hl
    exact (List.perm_insertionSort _ _).nodup_iff.mpr ((nodup_distinctHosts cap).filter _)
  · rw [List.pairwise_map]
    refine (nodup_subnetsOf cap hints order).imp ?_
    intro net net' hne a ha ha'
    exact hne ((mem_subnetHosts.mp ha).2.symm.trans (mem_subnetHosts.mp ha').2)

/-! ## Hash orders

The source counts votes in hash maps and takes the entry with the highest count, so a tie is won by
the order of iteration. The order is an argument here. Where one entry has the highest count, every
order gives it, and then the groups are the same in every order that lists the subnets alike.
-/

/-- No two entries share the highest count. -/
def UniqueTop (entries : List (String × Nat)) : Prop :=
  ∀ e ∈ entries, ∀ e' ∈ entries, (∀ x ∈ entries, x.2 ≤ e.2) → (∀ x ∈ entries, x.2 ≤ e'.2) → e = e'

instance (entries : List (String × Nat)) : Decidable (UniqueTop entries) :=
  inferInstanceAs (Decidable (∀ e ∈ entries, ∀ e' ∈ entries, (∀ x ∈ entries, x.2 ≤ e.2) →
    (∀ x ∈ entries, x.2 ≤ e'.2) → e = e'))

/-- The fold of `maxByCount` ends in an entry with the highest count. -/
theorem foldl_maxByCount (entries : List (String × Nat)) (b : String × Nat) :
    ∃ e ∈ b :: entries, (∀ x ∈ b :: entries, x.2 ≤ e.2) ∧
      entries.foldl (fun best e =>
        match best with
        | none => some e
        | some b => if b.2 ≤ e.2 then some e else some b) (some b) = some e := by
  induction entries generalizing b with
  | nil => exact ⟨b, List.mem_singleton_self b, fun x hx => by rw [List.mem_singleton.mp hx], rfl⟩
  | cons a entries ih =>
    rw [List.foldl_cons]
    dsimp only
    split
    -- an entry that is level with the best so far replaces it
    · next hle =>
      obtain ⟨e, he, htop, hfold⟩ := ih a
      refine ⟨e, List.mem_cons_of_mem _ he, fun x hx => ?_, hfold⟩
      obtain rfl | hx := List.mem_cons.mp hx
      · exact hle.trans (htop a List.mem_cons_self)
      · exact htop x hx
    · next hlt =>
      obtain ⟨e, he, htop, hfold⟩ := ih b
      have hb := htop b List.mem_cons_self
      refine ⟨e, ?_, fun x hx => ?_, hfold⟩
      · obtain rfl | he := List.mem_cons.mp he
        · exact List.mem_cons_self
        · exact List.mem_cons_of_mem _ (List.mem_cons_of_mem _ he)
      · obtain rfl | hx := List.mem_cons.mp hx
        · exact hb
        · obtain rfl | hx := List.mem_cons.mp hx
          · omega
          · exact htop x (List.mem_cons_of_mem _ hx)

/-- The winner of a vote does not depend on the order of the entries, when it is the only
one with its count. -/
theorem maxByCount_order {entries entries₁ entries₂ : List (String × Nat)}
    (hperm₁ : entries₁.Perm entries) (hperm₂ : entries₂.Perm entries) (htop : UniqueTop entries) :
    maxByCount entries₁ = maxByCount entries₂ := by
  have hperm := hperm₁.trans hperm₂.symm
  cases entries₁ with
  | nil => rw [hperm.symm.eq_nil]
  | cons b₁ rest₁ =>
    cases entries₂ with
    | nil => exact absurd hperm.eq_nil (List.cons_ne_nil _ _)
    | cons b₂ rest₂ =>
      obtain ⟨e₁, he₁, hmax₁, hfold₁⟩ := foldl_maxByCount rest₁ b₁
      obtain ⟨e₂, he₂, hmax₂, hfold₂⟩ := foldl_maxByCount rest₂ b₂
      have heq : e₁ = e₂ := htop e₁ (hperm₁.mem_iff.mp he₁) e₂ (hperm₂.mem_iff.mp he₂)
        (fun x hx => hmax₁ x (hperm₁.mem_iff.mpr hx)) fun x hx => hmax₂ x (hperm₂.mem_iff.mpr hx)
      rw [maxByCount, maxByCount, List.foldl_cons, List.foldl_cons]
      dsimp only
      rw [hfold₁, hfold₂, heq]

/-- What a group votes for: the vendors of its hosts' MACs. -/
def vendorVotes (cap : Capture) (hints : List Ipv4Net) (oui : OuiDb) (net : Ipv4Net) :
    List String :=
  (subnetHosts cap hints net).filterMap fun ip => ((hostMacs cap).lookup ip).bind oui.vendor

/-- What a group votes for: the protocols of its frames. -/
def groupProtocols (cap : Capture) (hints : List Ipv4Net) (net : Ipv4Net) : List String :=
  ((cap.packets.flatMap fun p => protocolVotes hints p.data).filter fun v => v.1 = net).map Prod.snd

/-- No vote of the capture is tied, and no two of its subnets start at one address. -/
structure TieFree (cap : Capture) (hints : List Ipv4Net) (oui : OuiDb) : Prop where
  networks : ∀ a ∈ captureHosts cap, ∀ b ∈ captureHosts cap,
    (groupOf a hints).network = (groupOf b hints).network → groupOf a hints = groupOf b hints
  vendors : ∀ a ∈ captureHosts cap, UniqueTop (tally (vendorVotes cap hints oui (groupOf a hints)))
  protocols : ∀ a ∈ captureHosts cap,
    UniqueTop (tally (groupProtocols cap hints (groupOf a hints)))

theorem subnetsOf_order {cap : Capture} {hints : List Ipv4Net} {oui : OuiDb}
    (h : TieFree cap hints oui) (order order' : HashOrder) :
    subnetsOf cap hints order = subnetsOf cap hints order' := by
  have hsorted : ∀ order, (subnetsOf cap hints order).Pairwise
      fun a b => a.network.toNat ≤ b.network.toNat := fun order =>
    List.pairwise_insertionSort _ _
  have hperm : (subnetsOf cap hints order).Perm (subnetsOf cap hints order') :=
    ((List.perm_insertionSort _ _).trans (order.nets_perm _)).trans
      ((List.perm_insertionSort _ _).trans (order'.nets_perm _)).symm
  refine hperm.eq_of_pairwise (fun n n' hn hn' hle hge => ?_) (hsorted order) (hsorted order')
  obtain ⟨a, ha, rfl⟩ := mem_subnetsOf.mp hn
  obtain ⟨b, hb, rfl⟩ := mem_subnetsOf.mp hn'
  exact h.networks a ha b hb (UInt32.toNat_inj.mp (Nat.le_antisymm hle hge))

/-- Two orders that list the same subnets, where every vote has one winner, make the same
groups. -/
theorem captureGroups_congr {cap : Capture} {hints : List Ipv4Net} {oui : OuiDb}
    {order order' : HashOrder}
    (hsubnets : subnetsOf cap hints order = subnetsOf cap hints order')
    (hvendors : ∀ a ∈ captureHosts cap,
      UniqueTop (tally (vendorVotes cap hints oui (groupOf a hints))))
    (hprotocols : ∀ a ∈ captureHosts cap,
      UniqueTop (tally (groupProtocols cap hints (groupOf a hints)))) :
    captureGroups cap hints oui order = captureGroups cap hints oui order' := by
  have hvendor : ∀ net ∈ subnetsOf cap hints order',
      dominantVendor oui order (hostMacs cap) net (subnetHosts cap hints net) =
        dominantVendor oui order' (hostMacs cap) net (subnetHosts cap hints net) := by
    intro net hnet
    obtain ⟨a, ha, rfl⟩ := mem_subnetsOf.mp hnet
    exact maxByCount_order (order.vendor_perm _ _) (order'.vendor_perm _ _) (hvendors a ha)
  have hprotocol : ∀ net ∈ subnetsOf cap hints order',
      dominantProtocol cap hints order net = dominantProtocol cap hints order' net := by
    intro net hnet
    obtain ⟨a, ha, rfl⟩ := mem_subnetsOf.mp hnet
    exact maxByCount_order (order.protocol_perm _ _) (order'.protocol_perm _ _) (hprotocols a ha)
  rw [captureGroups, captureGroups, deriveZones, deriveZones, hsubnets]
  refine List.ext_getElem (by simp) fun i hi hi' => ?_
  simp only [List.getElem_map, List.getElem_mapIdx]
  have hnet := List.getElem_mem (l := subnetsOf cap hints order') (n := i) (by simpa using hi')
  rw [hvendor _ hnet, hprotocol _ hnet]

/-- **Without ties the groups do not depend on hash orders.** -/
theorem captureGroups_order {cap : Capture} {hints : List Ipv4Net} {oui : OuiDb}
    (h : TieFree cap hints oui) (order order' : HashOrder) :
    captureGroups cap hints oui order = captureGroups cap hints oui order' :=
  captureGroups_congr (subnetsOf_order h order order') h.vendors h.protocols

end TurboLaser
