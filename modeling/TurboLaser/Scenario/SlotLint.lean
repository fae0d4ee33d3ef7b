import TurboLaser.Scenario.Coherent
import TurboLaser.Scenario.Render

/-!
# The slot lint (scenario/plant.rs)

Two addresses of a zone are spoken for: the engineering station, and under `enrich` the gateway.
`build_sealed_session` only logs that a device was pinned onto one; `targets --validate` reads the
same off the spec, where only declared addresses can be seen. That is enough: an address that is
assigned is on neither.

A build may fail half way, and then its log ends there. So the log of a build is a front part of the
lint in any case, and all of it when the devices are pinned.

- `pinLog_isPrefix`: what a build logs is in the lint, and all of it if the devices are pinned;
- `pinDevices_linted`: the lint judges each pinned device;
- `Cast`: what the supporting cast is put on. A firewall of the cast is on the gateway of its zone,
  where it belongs, so it is no finding;
- `slot_lint_exact`: **the lint is the log of the build, and a clean one means free slots.**
-/

namespace TurboLaser.Scenario

open Lib

/-! ## The lint -/

/-- What is said of a device on a slot that is spoken for. -/
inductive SlotWarning where
  | station (ip : Ipv4Addr)
  | gateway (ip : Ipv4Addr)
deriving DecidableEq

/-- Its text. -/
def SlotWarning.text : SlotWarning → String
  | .station ip => "device at " ++ showIpv4Addr ip ++ " occupies the engineering-station slot " ++
      "(network+250) the engine sources every OT action from; the sensor would see two MACs on " ++
      "one IP. Move it to another host."
  | .gateway ip => "device at " ++ showIpv4Addr ip ++ " occupies the zone gateway slot " ++
      "(network+1) that enrich reserves for the firewall/DNS resolver; move it or set enrich: false"

/-- `reserved_slot_warning`: the station comes first, where both are one address. -/
def reservedSlotWarning (ip : Ipv4Addr) (zone : String) (enrich : Bool) : Option SlotWarning :=
  if ip = stationAddr zone then some (.station ip)
  else if enrich = true ∧ ip = gatewayAddr zone then some (.gateway ip)
  else none

/-- What the lint says of one device. -/
def DeviceSpec.slotLint (d : DeviceSpec) (enrich : Bool) : Option SlotWarning :=
  (d.ip.bind parseIpv4Addr).bind fun ip => reservedSlotWarning ip d.zone enrich

/-- `reserved_slot_lint`. -/
def reservedSlotLint (spec : PlantSpec) : List SlotWarning :=
  spec.devices.filterMap fun d => d.slotLint spec.enrich

/-! ## The log

The build warns while it pins the devices, and stops at the first that collides. The lint goes over
the whole spec and never stops. So what is logged is a beginning of what the lint finds, up to the
device that fails; each single warning is computed from the zone and the address alone, and is the
same on both sides.
-/

/-- What pinning the devices logs: the warning comes behind the check for a collision, and before
the device is added. -/
def pinLog (vuln : VulnDb) (oui : OuiDb) (seed : UInt64) (table : ZoneTable) (enrich : Bool) :
    List DeviceSpec → Session → List SlotWarning
  | [], _ => []
  | d :: ds, s =>
    match table.lookup d.zone with
    | none => []
    | some net =>
      match pinAddress d net s.usedIps with
      | .error _ => []
      | .ok ip =>
        if ip ∈ s.usedIps then []
        else
          (reservedSlotWarning ip d.zone enrich).toList ++
            match pinDevice vuln oui seed table d s with
            | .error _ => []
            | .ok s => pinLog vuln oui seed table enrich ds s

/-- What `build_sealed_session` logs. -/
def buildLog (spec : PlantSpec) (vuln : VulnDb) (oui : OuiDb) (seed : UInt64) : List SlotWarning :=
  match addZones spec.zones [] (Session.new seed) with
  | .error _ => []
  | .ok (table, s) => pinLog vuln oui seed table spec.enrich spec.devices s

section Pin

variable {enrich : Bool}

/-- Where the zone text was read, a warning is about its network. -/
theorem reservedSlotWarning_eq_none {ip : Ipv4Addr} {zone : String} {net : Ipv4Net}
    (hnet : parseIpv4Net zone = some net) :
    reservedSlotWarning ip zone enrich = none ↔
      ip ≠ stationAddrNet net ∧ (enrich = true → ip ≠ firewallAddr net) := by
  unfold reservedSlotWarning stationAddr gatewayAddr
  rw [hnet]
  simp only [Option.map_some, Option.getD_some]
  split
  · next hstation => simp [hstation]
  · next hstation =>
    split
    · next hgateway => simp [hgateway]
    · next hgateway =>
      rw [not_and] at hgateway
      exact iff_of_true rfl ⟨hstation, hgateway⟩

/-- **An address is warned about as the spec lets one see.** -/
theorem pinAddress_warning (enrich : Bool) {d : DeviceSpec} {net : Ipv4Net} {used : Finset Ipv4Addr}
    {ip : Ipv4Addr} (hnet : parseIpv4Net d.zone = some net) (h : pinAddress d net used = .ok ip) :
    reservedSlotWarning ip d.zone enrich = d.slotLint enrich := by
  unfold pinAddress at h
  unfold DeviceSpec.slotLint
  split at h
  · next text htext =>
    split at h
    · next a ha =>
      cases h
      rw [htext, Option.bind_some, ha, Option.bind_some]
    · cases h
  · next hnone =>
    split at h
    · next a ha =>
      cases h
      obtain ⟨-, -, hfree⟩ := nextFreeIn_spec ha
      rw [hnone]
      exact (reservedSlotWarning_eq_none hnet).mpr
        ⟨fun hstation => hfree (.inr hstation), fun _ hgateway => hfree (.inl hgateway)⟩
    · cases h

variable (vuln : VulnDb) (oui : OuiDb) (seed : UInt64) (enrich) {table : ZoneTable}
  (htable : ∀ text net, table.lookup text = some net → parseIpv4Net text = some net)

include htable

/-- **What is logged is in the lint**, as far as the devices are pinned. -/
theorem pinLog_isPrefix (ds : List DeviceSpec) (s : Session) :
    pinLog vuln oui seed table enrich ds s <+: ds.filterMap (fun d => d.slotLint enrich) ∧
      ∀ s', pinDevices vuln oui seed table ds s = .ok s' →
        pinLog vuln oui seed table enrich ds s = ds.filterMap fun d => d.slotLint enrich := by
  induction ds generalizing s with
  | nil => exact ⟨List.prefix_rfl, fun _ _ => rfl⟩
  | cons d ds ih =>
    have hlint : (d :: ds).filterMap (fun d => d.slotLint enrich) =
        (d.slotLint enrich).toList ++ ds.filterMap fun d => d.slotLint enrich := by
      rw [List.filterMap_cons]
      cases d.slotLint enrich with
      | none => rfl
      | some w => rfl
    rw [hlint, pinLog, pinDevices, pinDevice]
    cases hlookup : table.lookup d.zone with
    | none => exact ⟨List.nil_prefix, fun s' h => by cases h⟩
    | some net =>
      dsimp only
      cases hip : pinAddress d net s.usedIps with
      | error e => exact ⟨List.nil_prefix, fun s' h => by cases h⟩
      | ok ip =>
        dsimp only
        -- an address that was assigned warns of nothing, and the lint of such a device is empty
        have hwarning := pinAddress_warning enrich (htable _ _ hlookup) hip
        split
        · exact ⟨List.nil_prefix, fun s' h => by cases h⟩
        · rw [hwarning]
          cases hadd : s.addDevice (d.record vuln oui seed net ip) with
          | none =>
            refine ⟨?_, fun s' h => by cases h⟩
            rw [List.append_nil]
            exact List.prefix_append _ _
          | some s₁ =>
            dsimp only
            obtain ⟨hlog, hpinned⟩ := ih s₁
            exact ⟨(List.prefix_append_right_inj _).mpr hlog, fun s' h => by rw [hpinned s' h]⟩

/-- **The lint judges each pinned device.** -/
theorem pinDevices_linted {ds : List DeviceSpec} {s s' : Session}
    (h : pinDevices vuln oui seed table ds s = .ok s') :
    ∃ recs, s'.devices = s.devices ++ recs ∧ s'.captureHosts = s.captureHosts ∧
      List.Forall₂ (fun d (rec : DeviceRecord) => d.slotLint enrich = none ↔
        rec.ip ≠ stationAddrNet rec.subnetCidr ∧
          (enrich = true → rec.ip ≠ firewallAddr rec.subnetCidr)) ds recs := by
  induction ds generalizing s with
  | nil =>
    cases h
    exact ⟨[], (List.append_nil _).symm, rfl, .nil⟩
  | cons d ds ih =>
    rw [pinDevices, pinDevice] at h
    cases hlookup : table.lookup d.zone with
    | none =>
      rw [hlookup] at h
      cases h
    | some net =>
      rw [hlookup] at h
      dsimp only at h
      have hnet := htable _ _ hlookup
      cases hip : pinAddress d net s.usedIps with
      | error e =>
        rw [hip] at h
        cases h
      | ok ip =>
        rw [hip] at h
        dsimp only at h
        split at h
        · cases h
        · next s₁ hpinned =>
          split at hpinned
          · cases hpinned
          · split at hpinned
            · cases hpinned
            · next hadd =>
              cases hpinned
              obtain ⟨-, rfl⟩ := addDevice_eq_some.mp hadd
              -- the device passed every check, so it was pushed; the rest goes on behind it
              obtain ⟨recs, hdevices, hhosts, hlinted⟩ := ih h
              refine ⟨d.record vuln oui seed net ip :: recs, ?_, hhosts, .cons ?_ hlinted⟩
              · rw [hdevices]
                exact List.append_assoc _ [_] _
              · rw [← pinAddress_warning enrich hnet hip]
                exact reservedSlotWarning_eq_none hnet

end Pin

/-! ## The supporting cast -/

/-- An asset of the cast is off the slots, or the firewall on its gateway. -/
def CastSite (d : DeviceRecord) : Prop :=
  IsReservedSlot d.subnetCidr d.ip →
    d.assetType = some (AssetType.label .firewall) ∧ d.ip = firewallAddr d.subnetCidr

/-- The devices of a ledger, and a cast behind them. -/
def Cast (ds : List DeviceRecord) (s : Session) : Prop :=
  ∃ cast, s.devices = ds ++ cast ∧ ∀ d ∈ cast, CastSite d

section Bom

variable {vuln : VulnDb} {oui : OuiDb} {seed : UInt64} {z : SubnetRecord × Nat}
  {ds : List DeviceRecord}

/-- One class of a zone is put on the gateway or off the slots. -/
theorem Cast.addBomClass {atype : AssetType} {count n : Nat} {st st' : BomState}
    (h : Cast ds st.session)
    (hadd : TurboLaser.addBomClass vuln oui seed z atype count n st = some st') :
    Cast ds st'.session := by
  induction count generalizing n st with
  | zero =>
    cases hadd
    exact h
  | succ count ih =>
    rw [TurboLaser.addBomClass] at hadd
    split at hadd
    · cases hadd
      exact h
    · next ip hip =>
      split at hadd
      · cases hadd
      · next st₁ hasset =>
        refine ih ?_ hadd
        unfold addBomAsset at hasset
        split at hasset
        · cases hasset
          exact h
        · split at hasset
          · cases hasset
          · next mac salt hmac =>
            split at hasset
            · cases hasset
              exact h
            · next hpush =>
              cases hasset
              obtain ⟨-, rfl⟩ := addDevice_eq_some.mp hpush
              -- an asset that was left out changes no device; one that was put is at the end of the
              -- cast
              obtain ⟨cast, hdevices, hcast⟩ := h
              refine ⟨cast ++ [bomRecord vuln seed z atype n ip mac], ?_, fun d hd => ?_⟩
              · rw [← List.append_assoc, ← hdevices]
                rfl
              · rcases List.mem_append.mp hd with hd | hd
                · exact hcast d hd
                · obtain rfl := List.mem_singleton.mp hd
                  intro hslot
                  unfold bomAddr at hip
                  split at hip
                  · next hfirewall =>
                    cases hip
                    exact ⟨by rw [← hfirewall]; rfl, rfl⟩
                  · exact absurd hslot (nextFreeIn_spec hip).2.2

theorem Cast.addBomZone {classes : List (AssetType × Nat)} {st st' : BomState}
    (h : Cast ds st.session)
    (hadd : TurboLaser.addBomZone vuln oui seed z classes st = some st') :
    Cast ds st'.session := by
  induction classes generalizing st with
  | nil =>
    cases hadd
    exact h
  | cons c classes ih =>
    rw [TurboLaser.addBomZone] at hadd
    split at hadd
    · cases hadd
    · next hclass => exact ih (h.addBomClass hclass) hadd

theorem Cast.addBom {zones : List (SubnetRecord × Nat)} {st st' : BomState}
    (h : Cast ds st.session) (hadd : TurboLaser.addBom vuln oui seed zones st = some st') :
    Cast ds st'.session := by
  induction zones generalizing st with
  | nil =>
    cases hadd
    exact h
  | cons z zones ih =>
    rw [TurboLaser.addBom] at hadd
    split at hadd
    · cases hadd
    · next hzone => exact ih (h.addBomZone hzone) hadd

end Bom

/-! ## Names -/

theorem unnamed_modifyAt (ip : Ipv4Addr) {f : DeviceRecord → DeviceRecord}
    (hf : ∀ d, (f d).unnamed = d.unnamed) (ds : List DeviceRecord) :
    (modifyAt ip f ds).map DeviceRecord.unnamed = ds.map DeviceRecord.unnamed := by
  induction ds with
  | nil => rfl
  | cons d ds ih =>
    rw [modifyAt]
    split
    · rw [List.map_cons, List.map_cons, hf]
    · rw [List.map_cons, List.map_cons, ih]

/-- Re-asserted names change nothing but names. -/
theorem unnamed_reassertNames (s : Session) (names : List (Ipv4Addr × String)) :
    (reassertNames s names).devices.map DeviceRecord.unnamed =
      s.devices.map DeviceRecord.unnamed := by
  unfold reassertNames
  dsimp only
  generalize s.devices = ds
  induction names generalizing ds with
  | nil => rfl
  | cons e names ih =>
    rw [List.foldl_cons, ih]
    exact unnamed_modifyAt e.1 (f := sealedName s e.2) (fun _ => rfl) ds

/-- **Sealing keeps the pinned devices**, but for their names, and puts the cast behind them. -/
theorem sealPlant_cast {spec : PlantSpec} {vuln : VulnDb} {oui : OuiDb} {seed : UInt64}
    {domains : List String} {pinned s : Session}
    (h : sealPlant spec vuln oui seed domains pinned = some s) :
    ∃ cast : List DeviceRecord, s.devices.map DeviceRecord.unnamed =
      pinned.devices.map DeviceRecord.unnamed ++ cast.map DeviceRecord.unnamed ∧
        ∀ d ∈ cast, CastSite d := by
  unfold sealPlant at h
  dsimp only at h
  generalize (if spec.domains = [] then domains else spec.domains) = names at h
  have hdev := (assignDomains_devices pinned names seed).1
  generalize assignDomains pinned names seed = s₁ at h hdev
  obtain ⟨s₂, hcast, rfl⟩ := Option.map_eq_some_iff.mp h
  dsimp only
  rw [unnamed_reassertNames, ← hdev]
  split at hcast
  · obtain ⟨st, hadd, rfl⟩ := Option.map_eq_some_iff.mp hcast
    obtain ⟨cast, hdevices, hsites⟩ := Cast.addBom ⟨[], (List.append_nil _).symm, nofun⟩ hadd
    refine ⟨cast, ?_, hsites⟩
    rw [hdevices, List.map_append, unnamed_namePlant]
  · cases hcast
    exact ⟨[], (List.append_nil _).symm, nofun⟩

/-- What is said of each pair is said of the whole lists. -/
theorem forall_mem_of_forall₂ {α β : Type} {p : α → Prop} {q : β → Prop} {xs : List α} {ys : List β}
    (h : List.Forall₂ (fun x y => p x ↔ q y) xs ys) : (∀ x ∈ xs, p x) ↔ ∀ y ∈ ys, q y := by
  induction h with
  | nil => exact iff_of_true nofun nofun
  | cons hone _ ih => rw [List.forall_mem_cons, List.forall_mem_cons, hone, ih]

/-- What does not read the names holds of named devices as of others. -/
theorem forall_unnamed_iff {P : DeviceRecord → Prop} (hP : ∀ d : DeviceRecord, P d.unnamed ↔ P d)
    {ds ds' : List DeviceRecord}
    (h : ds.map DeviceRecord.unnamed = ds'.map DeviceRecord.unnamed) :
    (∀ d ∈ ds, P d) ↔ ∀ d ∈ ds', P d := by
  have hone : ∀ ds : List DeviceRecord,
      (∀ d ∈ ds, P d) ↔ ∀ d ∈ ds.map DeviceRecord.unnamed, P d := by
    intro ds
    rw [List.forall_mem_map]
    exact forall₂_congr fun d _ => (hP d).symm
  rw [hone ds, h, ← hone ds']

/-! ## The plant -/

/-- **The lint is the log of the build.** Whatever becomes of a spec, what its build logs is what
the lint said, up to where the build stops. Of a plant that is built nothing is missing; its lint
is clean exactly if no pinned device is on the station of its zone, nor, under `enrich`, on the
gateway; and of the supporting cast only firewalls are on a slot, on the gateway of their zone. -/
theorem slot_lint_exact (spec : PlantSpec) (vuln : VulnDb) (oui : OuiDb) (seed : UInt64)
    (domains : List String) :
    buildLog spec vuln oui seed <+: reservedSlotLint spec ∧
      ∀ s, buildSealedSession spec vuln oui seed domains = some (.ok s) →
        buildLog spec vuln oui seed = reservedSlotLint spec ∧
        (reservedSlotLint spec = [] ↔ ∀ d ∈ s.devices.take spec.devices.length,
          d.ip ≠ stationAddrNet d.subnetCidr ∧
            (spec.enrich = true → d.ip ≠ firewallAddr d.subnetCidr)) ∧
        ∀ d ∈ s.devices.drop spec.devices.length, IsReservedSlot d.subnetCidr d.ip →
          d.assetType = some (AssetType.label .firewall) ∧ d.ip = firewallAddr d.subnetCidr := by
  unfold buildLog buildSealedSession reservedSlotLint
  cases hadd : addZones spec.zones [] (Session.new seed) with
  | error e => exact ⟨List.nil_prefix, fun s h => by cases h⟩
  | ok r =>
    obtain ⟨table, s₀⟩ := r
    have htable := (addZones_zones hadd nofun).1
    have hnone : s₀.devices = [] := (addZones_spec (Nat.zero_le _) hadd).1
    obtain ⟨hlog, hpinned⟩ :=
      pinLog_isPrefix spec.enrich vuln oui seed htable spec.devices s₀
    refine ⟨hlog, fun s h => ?_⟩
    dsimp only at h
    split at h
    · cases h
    · next s₁ hpin =>
      obtain ⟨s₂, hseal, hs⟩ := Option.map_eq_some_iff.mp h
      cases hs
      refine ⟨hpinned s₁ hpin, ?_⟩
      obtain ⟨recs, hrecs, -, hlinted⟩ :=
        pinDevices_linted spec.enrich vuln oui seed htable hpin
      rw [hnone, List.nil_append] at hrecs
      obtain ⟨cast, hdevices, hsites⟩ := sealPlant_cast hseal
      rw [hrecs] at hdevices
      -- the pinned devices come first, one for each of the spec, and the cast behind them
      have hcount : spec.devices.length = (recs.map DeviceRecord.unnamed).length := by
        rw [hlinted.length_eq, List.length_map]
      have hpinned : (s.devices.take spec.devices.length).map DeviceRecord.unnamed =
          recs.map DeviceRecord.unnamed := by
        rw [List.map_take, hdevices, hcount, List.take_left]
      have hcast : (s.devices.drop spec.devices.length).map DeviceRecord.unnamed =
          cast.map DeviceRecord.unnamed := by
        rw [List.map_drop, hdevices, hcount, List.drop_left]
      constructor
      · rw [List.filterMap_eq_nil_iff, forall_mem_of_forall₂ hlinted]
        exact (forall_unnamed_iff (P := fun d => d.ip ≠ stationAddrNet d.subnetCidr ∧
          (spec.enrich = true → d.ip ≠ firewallAddr d.subnetCidr)) (fun _ => Iff.rfl) hpinned).symm
      · exact (forall_unnamed_iff (P := CastSite) (fun _ => Iff.rfl) hcast).mpr hsites

/-- A device pinned onto the station, beside one that is not. -/
def stationPlant : PlantSpec where
  zones := [⟨"10.20.10.0/24", "Z", 1, none⟩]
  devices := [{ zone := "10.20.10.0/24", ip := some "10.20.10.250" },
    { zone := "10.20.10.0/24", ip := some "10.20.10.50" }]
  enrich := false

example : reservedSlotLint stationPlant = [.station (ipv4 10 20 10 250)] := by decide

end TurboLaser.Scenario
