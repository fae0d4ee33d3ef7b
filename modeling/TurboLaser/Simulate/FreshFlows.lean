import TurboLaser.Lib.Mixing
import TurboLaser.Simulate.ArpOwners
import TurboLaser.Simulate.Assertions
import TurboLaser.Simulate.ZonesApart

/-!
# Every burst opens fresh connections (simulate/engine.rs)

A sensor folds a connection that is opened again into the one it knows. So every burst opens
connections that are new: the client's port is a 14-bit mix of the burst counter with the address of
the device, and the mix of one address is a permutation of the low 14 bits of the counter.

Between two devices ports may coincide, and nothing prevents it; flows differ there by the address
of the device. Within one burst a device may be asked more than once, at different ports of its own
or by different clients. So three things tell two exchanges apart: the device, the service port, and
the client, and `burst_nodup` goes through the pairs of kinds an exchange can be of.

- `ephemeralPort_inj`: **one device has a port of its own in each of 16384 bursts**;
- `flow_port`: the port of an exchange is that of the device it is about;
- `burst_nodup`: **no burst has two exchanges of one flow**: a device is asked by the station of its
  own zone and by stations of other zones, and zones that are apart have different stations;
- `bursts_fresh`: **no two exchanges of 16384 bursts in a row share a flow.**
-/

namespace TurboLaser

open Lib Synth

/-- The four addresses of a connection. -/
structure Flow where
  clientIp : Ipv4Addr
  clientPort : UInt16
  serverIp : Ipv4Addr
  serverPort : UInt16
deriving DecidableEq

/-- The flow of an exchange. -/
def Synth.Exchange.flow (x : Exchange) : Flow :=
  ⟨x.ends.clientIp, x.ends.clientPort, x.ends.serverIp, x.serverPort⟩

/-- The device an exchange is about: a lookup is made by it, anything else is answered by it. -/
def Flow.assetIp (f : Flow) : Ipv4Addr := if f.serverPort = dnsPort then f.clientIp else f.serverIp

/-- The devices have addresses of their own, and the zones are apart. -/
structure SeparateZones (ledger : Session) : Prop where
  ips : (ledger.devices.map DeviceRecord.ip).Nodup
  zones : ledger.cidrs.Pairwise ZonesApart
  prefixes : ∀ zone ∈ ledger.cidrs, 8 ≤ zone.prefixLen ∧ zone.prefixLen ≤ 30

/-- The flows of a window of bursts: burst `k` is made at run `run k`, with the counter `k` steps
from its start. -/
def windowFlows (cfg : BurstConfig) (ledger : Session) (vuln : List WireProfile)
    (run : Nat → UInt64) (start : UInt64) : List Flow :=
  (List.range 16384).flatMap fun k =>
    (burstExchanges cfg ledger vuln (run k) (start + UInt64.ofNat k)).map Exchange.flow

/-! ## Ports -/

theorem toNat_ephemeralPort (nonce : UInt64) (devIp : Ipv4Addr) :
    (ephemeralPort nonce devIp).toNat =
      49152 + (nonce * 0x9E3779B97F4A7C15 ^^^ devIp.toUInt64 * 0x2545F4914F6CDD1D).toNat % 16384 := by
  unfold ephemeralPort
  dsimp only
  rw [UInt16.toNat_add, UInt16.toNat_ofNat']
  show (49152 + _) % 65536 = _
  omega

/-- The ports are those of the dynamic range. -/
theorem ephemeralPort_range (nonce : UInt64) (devIp : Ipv4Addr) :
    49152 ≤ (ephemeralPort nonce devIp).toNat ∧ (ephemeralPort nonce devIp).toNat ≤ 65535 := by
  rw [toNat_ephemeralPort]
  omega

/-- **One device has a port of its own in each of 16384 bursts.** -/
theorem ephemeralPort_inj {nonce nonce' : UInt64} {devIp : Ipv4Addr}
    (h : ephemeralPort nonce devIp = ephemeralPort nonce' devIp) :
    nonce.toNat % 16384 = nonce'.toNat % 16384 := by
  have hnat := congrArg UInt16.toNat h
  rw [toNat_ephemeralPort, toNat_ephemeralPort, UInt64.toNat_xor, UInt64.toNat_xor] at hnat
  -- the device's half of the mix is the same, and drops out of the low bits
  have hlow : ∀ a b : Nat, (a ^^^ b) % 16384 = a % 16384 ^^^ b % 16384 := fun a b =>
    Nat.xor_mod_two_pow (n := 14)
  have hmix := Nat.add_left_cancel hnat
  rw [hlow, hlow] at hmix
  have hproduct := congrArg (· ^^^ (devIp.toUInt64 * 0x2545F4914F6CDD1D).toNat % 16384) hmix
  rw [Nat.xor_xor_cancel_right, Nat.xor_xor_cancel_right] at hproduct
  rw [UInt64.toNat_mul, UInt64.toNat_mul, Nat.mod_mod_of_dvd _ (by decide),
    Nat.mod_mod_of_dvd _ (by decide)] at hproduct
  -- the constant is odd
  exact mul_mod_injective (show 0x9E3779B97F4A7C15 * 13117 % 16384 = 1 % 16384 from rfl) hproduct

/-- Burst counters that differ by less than 16384 have different low bits. -/
theorem window_low {start : UInt64} {k k' : Nat} (hk : k < 16384) (hk' : k' < 16384)
    (h : (start + UInt64.ofNat k).toNat % 16384 = (start + UInt64.ofNat k').toNat % 16384) :
    k = k' := by
  rw [UInt64.toNat_add, UInt64.toNat_add, UInt64.toNat_ofNat', UInt64.toNat_ofNat'] at h
  omega

/-! ## Who talks to whom -/

section

variable {cfg : BurstConfig} {ledger : Session} {vuln : List WireProfile} {run nonce : UInt64}

theorem servicePort_ne_dns (proto : ProfileProto) : servicePort proto ≠ dnsPort := by
  cases proto with
  | enip => decide
  | modbus => decide
  | s7 => decide
  | switchSnmp => decide

/-- An identity session is between a device and the station of its zone. -/
theorem mem_identitySessions {switchBeacons : Bool} {a : Asserted}
    (h : a ∈ identitySessions ledger vuln switchBeacons nonce) :
    ∃ dev ∈ ledger.devices, ∃ proto,
      a.session.flow = ⟨stationAddrNet dev.subnetCidr, ephemeralPort nonce dev.ip, dev.ip,
        servicePort proto⟩ := by
  obtain ⟨dev, hdev, hsome⟩ := List.mem_filterMap.mp h
  split at hsome
  · cases hsome
  · cases hsome
    obtain ⟨hends, hport⟩ := assertIdentity_session dev.mac dev.ip (stationAddrNet dev.subnetCidr)
      (stableMac ledger.seed (stationAddrNet dev.subnetCidr)) (announcedProfile vuln dev)
      switchBeacons nonce
    refine ⟨dev, hdev, (announcedProfile vuln dev).protocol, ?_⟩
    rw [Exchange.flow, hends, hport]

/-- A lookup is between a device and a resolver. -/
theorem mem_dnsLookups {x : Exchange} (h : x ∈ dnsLookups ledger nonce) :
    ∃ dev ∈ ledger.devices, ∃ rip,
      x.flow = ⟨dev.ip, ephemeralPort nonce dev.ip, rip, dnsPort⟩ := by
  obtain ⟨dev, hdev, hsome⟩ := List.mem_filterMap.mp h
  split at hsome
  · next hostname rip rmac _ _ =>
    split at hsome
    · cases hsome
    · cases hsome
      exact ⟨dev, hdev, rip, rfl⟩
  · cases hsome

/-- A poll is between the two ends of a crossing. -/
theorem mem_northSouthPolls {a : Asserted}
    (h : a ∈ northSouthPolls cfg ledger vuln run nonce) :
    ∃ c ∈ northSouthCrossings ledger ledger.seed cfg.nsMaxPerPair, ∃ proto,
      a.session.flow = ⟨c.northIp, ephemeralPort nonce c.southIp, c.southIp, servicePort proto⟩ := by
  unfold northSouthPolls at h
  split at h
  · obtain ⟨c, hc, hsome⟩ := List.mem_filterMap.mp h
    obtain ⟨dev, -, rfl⟩ := Option.map_eq_some_iff.mp hsome
    obtain ⟨hends, hport⟩ := assertIdentity_session c.southMac c.southIp c.northIp c.conduitMac
      (announcedProfile vuln dev) false nonce
    refine ⟨c, hc, (announcedProfile vuln dev).protocol, ?_⟩
    rw [Exchange.flow, hends, hport]
  · cases h

/-- **The port of an exchange** is that of the device it is about. -/
theorem flow_port {x : Exchange} (h : x ∈ burstExchanges cfg ledger vuln run nonce) :
    x.flow.clientPort = ephemeralPort nonce x.flow.assetIp := by
  unfold burstExchanges at h
  split at h
  · cases h
  · rcases List.mem_append.mp h with hfirst | hpoll
    · rcases List.mem_append.mp hfirst with hidentity | hlookup
      · obtain ⟨a, ha, rfl⟩ := List.mem_map.mp hidentity
        obtain ⟨dev, -, proto, hflow⟩ := mem_identitySessions ha
        rw [hflow, Flow.assetIp, if_neg (servicePort_ne_dns proto)]
      · obtain ⟨dev, -, rip, hflow⟩ := mem_dnsLookups hlookup
        rw [hflow, Flow.assetIp, if_pos rfl]
    · obtain ⟨a, ha, rfl⟩ := List.mem_map.mp hpoll
      obtain ⟨c, -, proto, hflow⟩ := mem_northSouthPolls ha
      rw [hflow, Flow.assetIp, if_neg (servicePort_ne_dns proto)]

end

/-! ## One burst

Within a burst the exchanges are of three kinds: a device asked by the station of its own zone, by a
station of the zone above, and a name that is looked up. Exchanges of one kind differ by device or
by zone, and those of two kinds by the service port or the client.
-/

/-- What is selected from a list with distinct keys, and keeps its key, is distinct. -/
theorem nodup_filterMap_of_key {α β κ : Type} {xs : List α} {g : α → Option β} {key : α → κ}
    {f : β → κ} (h : (xs.map key).Nodup) (hkey : ∀ x y, g x = some y → f y = key x) :
    ((xs.filterMap g).map f).Nodup := by
  induction xs with
  | nil => exact List.nodup_nil
  | cons x xs ih =>
    rw [List.map_cons, List.nodup_cons] at h
    cases hx : g x with
    | none =>
      rw [List.filterMap_cons_none hx]
      exact ih h.2
    | some y =>
      rw [List.filterMap_cons_some hx, List.map_cons, List.nodup_cons]
      refine ⟨fun hmem => h.1 ?_, ih h.2⟩
      obtain ⟨z, hz, hsame⟩ := List.mem_map.mp hmem
      obtain ⟨w, hw, hwz⟩ := List.mem_filterMap.mp hz
      rw [← hkey x y hx, ← hsame, hkey w z hwz]
      exact List.mem_map_of_mem hw

section

variable {ledger : Session} (h : SeparateZones ledger)

include h

/-- Zones with one station are one zone. -/
theorem SeparateZones.station_inj {a b : SubnetRecord} (ha : a ∈ ledger.subnets)
    (hb : b ∈ ledger.subnets) (heq : stationAddrNet a.cidr = stationAddrNet b.cidr) : a = b := by
  by_contra hne
  have hzones := List.pairwise_map.mp h.zones
  have : Std.Symm fun a b : SubnetRecord => ZonesApart a.cidr b.cidr :=
    ⟨fun _ _ hapart => hapart.symm⟩
  have hapart : ZonesApart a.cidr b.cidr := hzones.forall ha hb hne
  have hin : ∀ s ∈ ledger.subnets, s.cidr.contains (stationAddrNet s.cidr) = true := by
    intro s hs
    obtain ⟨hlo, hhi⟩ := h.prefixes s.cidr (List.mem_map_of_mem hs)
    exact (contains_station (by omega) hhi).1
  have hout := hapart _ (hin a ha)
  rw [heq, hin b hb] at hout
  cases hout

/-- No zone is listed twice. -/
theorem SeparateZones.subnets : ledger.subnets.Nodup := by
  refine (List.pairwise_map.mp h.zones).imp_of_mem fun ha hb hapart heq => ?_
  obtain ⟨hlo, hhi⟩ := h.prefixes _ (List.mem_map_of_mem ha)
  have hin := (contains_station (by omega) hhi).1
  have hout := hapart _ hin
  rw [← heq, hin] at hout
  cases hout

/-- No two crossings have the same ends. -/
theorem SeparateZones.nodup_crossings (seed : UInt64) (maxPerPair : Nat) :
    ((northSouthCrossings ledger seed maxPerPair).map fun c => (c.northIp, c.southIp)).Nodup := by
  rw [northSouthCrossings_eq, List.map_flatMap, List.nodup_flatMap]
  constructor
  · -- one zone polls each server once
    intro north _
    refine List.Nodup.of_map Prod.snd ?_
    rw [List.map_map]
    cases hsouth : southOf ledger seed north.purdueLevel north with
    | none =>
      have hnil : crossingsFrom ledger seed maxPerPair north = [] := by
        rw [crossingsFrom, hsouth]
      rw [hnil]
      exact List.nodup_nil
    | some south =>
      rw [crossingsFrom_of_south hsouth, crossingsOf, List.map_map]
      exact (List.Sublist.map Prod.fst (List.take_sublist _ _)).nodup (nodup_serversOf h.ips _)
  · -- and zones poll from different stations
    refine (nodup_norths h.subnets).imp_of_mem fun ha hb hne => ?_
    rw [Function.onFun, List.disjoint_left]
    intro ends hends hends'
    obtain ⟨c, hc, rfl⟩ := List.mem_map.mp hends
    obtain ⟨c', hc', hsame⟩ := List.mem_map.mp hends'
    obtain ⟨_, -, hc⟩ := mem_crossingsFrom.mp hc
    obtain ⟨_, -, hc'⟩ := mem_crossingsFrom.mp hc'
    refine hne (h.station_inj (mem_norths.mp ha) (mem_norths.mp hb) ?_)
    rw [← (mem_crossingsOf.mp hc).2.1, ← (mem_crossingsOf.mp hc').2.1]
    exact (congrArg Prod.fst hsame).symm

/-- **No burst has two exchanges of one flow.** -/
theorem burst_nodup (cfg : BurstConfig) (vuln : List WireProfile) (run nonce : UInt64) :
    ((burstExchanges cfg ledger vuln run nonce).map Exchange.flow).Nodup := by
  unfold burstExchanges
  split
  · exact List.nodup_nil
  · rw [List.map_append, List.map_append, List.map_map, List.map_map]
    refine List.nodup_append.mpr ⟨List.nodup_append.mpr ⟨?_, ?_, ?_⟩, ?_, ?_⟩
    · -- sessions: each device answers once
      refine List.Nodup.of_map Flow.serverIp ?_
      rw [List.map_map]
      refine nodup_filterMap_of_key h.ips fun dev a hsome => ?_
      split at hsome
      · cases hsome
      · cases hsome
        show (Asserted.session _).ends.serverIp = _
        rw [(assertIdentity_session _ _ _ _ _ _ _).1]
    · -- lookups: each device asks once
      refine List.Nodup.of_map Flow.clientIp ?_
      rw [List.map_map]
      refine nodup_filterMap_of_key h.ips fun dev x hsome => ?_
      split at hsome
      · split at hsome
        · cases hsome
        · cases hsome
          rfl
      · cases hsome
    · -- a resolver answers at a port of its own
      intro f hf f' hf' heq
      obtain ⟨a, ha, rfl⟩ := List.mem_map.mp hf
      obtain ⟨x, hx, rfl⟩ := List.mem_map.mp hf'
      obtain ⟨dev, -, proto, hflow⟩ := mem_identitySessions ha
      obtain ⟨dev', -, rip, hflow'⟩ := mem_dnsLookups hx
      rw [Function.comp_apply, hflow, hflow'] at heq
      exact servicePort_ne_dns proto (congrArg Flow.serverPort heq)
    · -- polls: each crossing is polled once
      refine List.Nodup.of_map (fun f => (f.clientIp, f.serverIp)) ?_
      rw [List.map_map]
      unfold northSouthPolls
      split
      · refine nodup_filterMap_of_key (h.nodup_crossings ledger.seed cfg.nsMaxPerPair)
          fun c a hsome => ?_
        obtain ⟨dev, -, rfl⟩ := Option.map_eq_some_iff.mp hsome
        show ((Asserted.session _).ends.clientIp, (Asserted.session _).ends.serverIp) = _
        rw [(assertIdentity_session _ _ _ _ _ _ _).1]
      · exact List.nodup_nil
    · -- a poll comes from another zone than the device's own
      intro f hf f' hf' heq
      obtain ⟨a', ha', rfl⟩ := List.mem_map.mp hf'
      obtain ⟨c, hc, proto', hflow'⟩ := mem_northSouthPolls ha'
      rcases List.mem_append.mp hf with hf | hf
      · obtain ⟨a, ha, rfl⟩ := List.mem_map.mp hf
        obtain ⟨dev, hdev, proto, hflow⟩ := mem_identitySessions ha
        rw [Function.comp_apply, Function.comp_apply, hflow, hflow'] at heq
        obtain ⟨north, hnorth, south, hsouth, d, hd, hlevel, hip, hzone, -, -, -, hsouthIp, -⟩ :=
          adjacent_northSouthCrossings c hc
        have hsame : d = dev := by
          refine List.inj_on_of_nodup_map h.ips hd hdev ?_
          rw [← hsouthIp]
          exact (congrArg Flow.serverIp heq).symm
        subst hsame
        have hstation : stationAddrNet south.cidr = stationAddrNet north.cidr := by
          rw [← hzone, ← hip]
          exact congrArg Flow.clientIp heq
        rw [h.station_inj hsouth hnorth hstation] at hlevel
        omega
      · obtain ⟨x, hx, rfl⟩ := List.mem_map.mp hf
        obtain ⟨dev, -, rip, hflow⟩ := mem_dnsLookups hx
        rw [Function.comp_apply, hflow, hflow'] at heq
        exact servicePort_ne_dns proto' (congrArg Flow.serverPort heq).symm

/-! ## A window of bursts -/

/-- **No two exchanges of 16384 bursts in a row share a flow**, and every client port is of the
dynamic range. A device that is polled takes a new port in each burst, and the range has as many. -/
theorem bursts_fresh (cfg : BurstConfig) (vuln : List WireProfile) (run : Nat → UInt64)
    (start : UInt64) :
    (windowFlows cfg ledger vuln run start).Nodup ∧
      ∀ f ∈ windowFlows cfg ledger vuln run start,
        49152 ≤ f.clientPort.toNat ∧ f.clientPort.toNat ≤ 65535 := by
  constructor
  · unfold windowFlows
    rw [List.nodup_flatMap]
    refine ⟨fun k _ => burst_nodup h cfg vuln (run k) _, ?_⟩
    refine List.nodup_range.imp_of_mem fun hk hk' hne => ?_
    rw [Function.onFun, List.disjoint_left]
    intro f hf hf'
    obtain ⟨x, hx, rfl⟩ := List.mem_map.mp hf
    obtain ⟨x', hx', hsame⟩ := List.mem_map.mp hf'
    -- a flow tells the device, and the device's port tells the burst
    have hport := flow_port hx'
    rw [hsame, flow_port hx] at hport
    exact hne (window_low (List.mem_range.mp hk) (List.mem_range.mp hk') (ephemeralPort_inj hport))
  · intro f hf
    obtain ⟨k, -, hf⟩ := List.mem_flatMap.mp hf
    obtain ⟨x, hx, rfl⟩ := List.mem_map.mp hf
    rw [flow_port hx]
    exact ephemeralPort_range _ _

end

/-- The bursts of a plant with a switch and a controller. -/
theorem bursts_fresh_plant :
    (windowFlows ⟨true, true, true, 1, 2⟩ (twoLevelPlant
        [controlDevice 0x0A000102 ⟨0, 0x90, 0xE8, 1, 2, 3⟩ [] "Switch",
          controlDevice 0x0A000103 ⟨0, 0x1D, 0x9C, 1, 2, 4⟩ ["CVE-2022-1161"] "PLC"]) []
        (fun k => UInt64.ofNat k) 7).Nodup :=
  (bursts_fresh ⟨by decide, by decide, by decide⟩ _ _ _ _).1

end TurboLaser
