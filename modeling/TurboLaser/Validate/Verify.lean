import TurboLaser.Run.BurstRuns
import TurboLaser.Run.Census
import TurboLaser.Simulate.FreshFlows
import TurboLaser.Simulate.Operator
import TurboLaser.Validate.ArpUnion
import TurboLaser.Validate.UnionReport

/-!
# Verify (validate/mod.rs)

`verify` profiles a burst of the daemon against the plan in the ledger file. The oracle looks at ARP
frames only, and a burst has them from the edges of the plan alone: sessions, lookups, polls and
attacks are IPv4, beacons have types of their own, and no padding makes them anything else.

The command is the developers' acceptance test for what the daemon emits, and here the two meet: the
producer, over whole runs of the loop, and the checker, which knows nothing of it. The first half is
about one burst of one ledger; what the oracle measures is a function of the edges. The second half
is about runs: every burst in the log was made of the ledger as it was then, and the identities of
that ledger, its zones and its MACs are what the loop keeps.

- `cmdVerify`: the command, up to what it prints;
- `analyze_burst`: the oracle measures the edges of the plan, whatever else a burst is made of;
- `wellPlaced_assetTexts`: the texts of a ledger whose zones are apart are well placed;
- `check_edges_iff`: when the oracle passes the edges of a plan;
- `bursts_verify`: **when the bursts of a running daemon pass**: the exact condition is on the MACs,
  that none is locally administered and that nobody seems to ask for too many owners because he
  shares his MAC with another.
-/

namespace TurboLaser

open Lib Scenario Synth

/-! ## The command -/

/-- The owners `cmd_verify` expects an answer of. -/
def expectedOwners (s : Session) : Finset Ipv4Addr :=
  ((arpEdges (assetTexts s) s.seed).map fun e => e.owner.ip).toFinset

/-- The violations of a burst. -/
def burstViolations (s : Session) (cap : Capture) : List ArpViolation :=
  (analyze cap).check (expectedOwners s) (cellSize - 1)

/-- What `cmd_verify` prints. -/
structure Verified where
  arp : Option (ArpProfile × List ArpViolation)
  union : Option UnionReport
deriving DecidableEq

/-- `cmd_verify`: its exit code and what it prints. The capture is the one that is named, or else
the burst in the tmpfs, if there is one; the export is only scored, whatever the score. -/
def cmdVerify (file : LedgerFile) (pcap : Option (Except String Capture))
    (csv : Option (Except String String)) : Nat × Verified :=
  match loadSession file with
  | .error _ => (exConfig, ⟨none, none⟩)
  | .ok none => (2, ⟨none, none⟩)
  | .ok (some p) =>
    let arp := pcap.map (Except.map fun cap => (analyze cap, burstViolations p.session cap))
    let union := csv.map fun text => text.bind fun text => analyzeExport text p.session
    let unread := arp.any (fun r => !r.isOk) || union.any fun r => !r.isOk
    let violated := (arp.bind Except.toOption).any fun r => !r.2.isEmpty
    let printed : Verified := ⟨arp.bind Except.toOption, union.bind Except.toOption⟩
    if pcap.isNone && csv.isNone then (2, printed)
    else (if unread || violated then 1 else 0, printed)

/-- A capture that can be read passes when nothing is violated. -/
theorem cmdVerify_burst {file : LedgerFile} {p : StoredSession}
    (hload : loadSession file = .ok (some p)) (cap : Capture) :
    (cmdVerify file (some (.ok cap)) none).1 = 0 ↔ burstViolations p.session cap = [] := by
  unfold cmdVerify
  rw [hload]
  cases hv : burstViolations p.session cap with
  | nil => simp [Except.map, Except.toOption, Except.isOk, Except.toBool, hv]
  | cons v vs => simp [Except.map, Except.toOption, Except.isOk, Except.toBool, hv]

/-! ## Other frames

The oracle counts frames with the ethertype of ARP, so a burst is judged by its ARP frames as long
as nothing else has that ethertype. Exchanges are IPv4, and a discovery beacon of CDP has its length
in that place. Such a length would be taken for ARP at one value only, which is over the size of the
link.
-/

/-- The oracle passes over a frame that is no ARP frame. -/
theorem ArpTally.observe_other {p : ArpTally} {f : Frame} (h : be16 f 12 ≠ 0x0806) :
    p.observe f = p :=
  if_pos (.inr h)

theorem foldl_observe_other {p : ArpTally} {frames : List Frame}
    (h : ∀ f ∈ frames, be16 f 12 ≠ 0x0806) : frames.foldl ArpTally.observe p = p := by
  induction frames with
  | nil => rfl
  | cons f frames ih =>
    rw [List.foldl_cons, ArpTally.observe_other (h f List.mem_cons_self)]
    exact ih fun f' hf' => h f' (List.mem_cons_of_mem _ hf')

/-- Filling in the checksums leaves the ethertype. -/
theorem be16_finish (buf : List UInt8) : be16 (finish buf) 12 = be16 buf 12 := by
  unfold finish
  split
  · next l hl =>
    by_cases hk : l.l3Kind = .ipv4
    · have hl3 := (parseLayout_l3 hl).1
      have hspec := parseLayout_ipv4 hl hk
      have hl4 := hspec.l4
      refine (recomputeChecksums_agree buf l).be16_eq fun k hlo hhi => ?_
      rintro (hc | ⟨-, hc⟩ | ⟨-, hc⟩) <;> omega
    · rw [recomputeChecksums, if_pos hk]
  · rfl

/-- The frames of an exchange are IPv4. -/
theorem exchange_not_arp {x : Exchange} {f : Frame} (hf : f ∈ x.frames) : be16 f 12 ≠ 0x0806 := by
  have htcp : ∀ a b c d sport dport seq ack flags payload,
      be16 (tcpSegment a b c d sport dport seq ack flags payload) 12 = 0x0800 := by
    intro a b c d sport dport seq ack flags payload
    obtain ⟨hether, -⟩ := bytes_tcpBuffer a b c d sport dport seq ack flags payload
    rw [tcpSegment, be16_finish, hether]
  have hudp : ∀ a b c d sport dport payload,
      be16 (udpFrame a b c d sport dport payload) 12 = 0x0800 := by
    intro a b c d sport dport payload
    obtain ⟨hether, -⟩ := bytes_udpBuffer a b c d sport dport payload
    rw [udpFrame, be16_finish, hether]
  -- every frame of an exchange is a segment or a datagram
  have hipv4 : be16 f 12 = 0x0800 := by
    cases x with
    | tcp e serverPort script =>
      obtain ⟨m, seq, ack, rfl⟩ := exists_of_forall₂ (converse_spec e serverPort script) hf
      unfold Endpoints.segment
      split
      · exact htcp _ _ _ _ _ _ _ _ _ _
      · exact htcp _ _ _ _ _ _ _ _ _ _
    | udp e serverPort script =>
      obtain ⟨m, -, rfl⟩ := List.mem_map.mp hf
      unfold Endpoints.datagram
      split
      · exact hudp _ _ _ _ _ _ _
      · exact hudp _ _ _ _ _ _ _
  rw [hipv4]
  decide

theorem lldpBeacon_not_arp (mac : Mac) (ip : Ipv4Addr) (name descr : String) :
    be16 (lldpBeacon mac ip name descr) 12 ≠ 0x0806 := by
  have hether := be16_front lldpMulticast mac ethertypeLldp (lldpUnits mac ip name descr)
  rw [lldpBeacon, l2Frame, ethernetHeader, hether]
  decide

/-- The word is the length of a CDP beacon, and on the link that is below the ethertype of ARP. -/
theorem cdpBeacon_not_arp (mac : Mac) (ip : Ipv4Addr) (device software platform : String)
    (hlen : (cdpBeacon mac ip device software platform).length ≤ standardFrameBytes) :
    be16 (cdpBeacon mac ip device software platform) 12 ≠ 0x0806 := by
  unfold cdpBeacon snapFrame at hlen ⊢
  generalize cdpMessage ip device software platform = message at hlen ⊢
  simp only [List.length_append, Mac.length_bytes, toBeBytes16, snapOuiCisco, List.length_cons,
    List.length_nil, standardFrameBytes] at hlen
  have hword := be16_front cdpMulticast mac (UInt16.ofNat (3 + 5 + message.length))
    ([0xAA, 0xAA, 0x03] ++ snapOuiCisco ++ toBeBytes16 cdpProtocolId ++ message)
  rw [UInt16.toNat_ofNat', Nat.mod_eq_of_lt (by omega)] at hword
  simp only [List.append_assoc] at hword ⊢
  rw [hword]
  omega

/-- A beacon that fits the link is none either. -/
theorem beacon_not_arp {mac : Mac} {ip clientIp : Ipv4Addr} {clientMac : Mac}
    {profile : WireProfile} {switchBeacons : Bool} {nonce : UInt64} {f : Frame}
    (hf : f ∈ (assertIdentity mac ip clientIp clientMac profile switchBeacons nonce).beacons)
    (hlen : f.length ≤ standardFrameBytes) : be16 f 12 ≠ 0x0806 := by
  unfold assertIdentity at hf
  dsimp only at hf
  split at hf
  · cases hf
  · cases hf
  · cases hf
  · unfold switchBeaconsOf at hf
    dsimp only at hf
    split at hf
    · rcases List.mem_cons.mp hf with rfl | hf
      · exact lldpBeacon_not_arp _ _ _ _
      · obtain rfl := List.mem_singleton.mp hf
        exact cdpBeacon_not_arp _ _ _ _ _ hlen
    · cases hf

/-- What a timeline sends was rendered of an event. -/
theorem mem_of_emit {Event Frame : Type} {render : Event → UInt64 → List Frame}
    {events : List Event} {cap fuel : Nat} {nonce : UInt64} {pos pos' : Position}
    {frames out : List Frame} (h : emit render events cap nonce fuel pos frames = some (out, pos'))
    {f : Frame} (hf : f ∈ out) : f ∈ frames ∨ ∃ ev n, f ∈ render ev n := by
  induction fuel generalizing pos frames with
  | zero =>
    obtain ⟨rfl, -⟩ := Prod.mk.inj (Option.some.inj h)
    exact .inl hf
  | succ fuel ih =>
    unfold emit at h
    split at h
    · dsimp only at h
      split at h
      · obtain ⟨rfl, -⟩ := Prod.mk.inj (Option.some.inj h)
        exact .inl hf
      · split at h
        · cases h
        · next ev hev =>
          split at h
          · cases h
          · next part hslice =>
            -- a part of what one event was rendered as
            have hpart : f ∈ frames ++ part → f ∈ frames ∨ ∃ ev n, f ∈ render ev n := by
              intro hmem
              unfold sliceFrames at hslice
              split at hslice
              · obtain rfl := Option.some.inj hslice
                rcases List.mem_append.mp hmem with hold | hnew
                · exact .inl hold
                · exact .inr ⟨ev, _, List.mem_of_mem_take (List.mem_of_mem_drop hnew)⟩
              · cases hslice
            split at h
            · rcases ih h with hmem | hrendered
              · exact hpart hmem
              · exact .inr hrendered
            · obtain ⟨rfl, -⟩ := Prod.mk.inj (Option.some.inj h)
              exact hpart hf
    · obtain ⟨rfl, -⟩ := Prod.mk.inj (Option.some.inj h)
      exact .inl hf

/-- The frames of an attack are those of exchanges. -/
theorem attack_not_arp {e e' : LoopEngine} {attack : List Frame} (h : Attacks e e' attack)
    {f : Frame} (hf : f ∈ attack) : be16 f 12 ≠ 0x0806 := by
  unfold Attacks at h
  split at h
  · rw [h.1] at hf
    cases hf
  · next o ho =>
    obtain ⟨timeline, hphase, -⟩ := h
    unfold ScenarioEngine.phaseFrames at hphase
    split at hphase
    · cases hphase
    · obtain ⟨⟨frames, mid⟩, hemit, hout⟩ := Option.map_eq_some_iff.mp hphase
      obtain ⟨rfl, -⟩ := Prod.mk.inj hout
      obtain ⟨⟨sent, pos⟩, hsent, hout⟩ := Option.map_eq_some_iff.mp hemit
      obtain ⟨rfl, -⟩ := Prod.mk.inj hout
      rcases mem_of_emit hsent hf with hnone | ⟨ev, n, hrendered⟩
      · cases hnone
      · obtain ⟨x, -, hx⟩ := List.mem_flatMap.mp hrendered
        exact exchange_not_arp hx

/-- **The assertions of a burst** are its ARP frames, and others that are none if they fit the
link. -/
theorem buildAssertions_arp {cfg : BurstConfig} (hidentity : cfg.deviceIdentity = true)
    (ledger : Session) (vuln : List WireProfile) (run nonce : UInt64) :
    ∃ others, buildAssertions cfg ledger vuln run nonce = arpFrames ledger ++ others ∧
      ∀ f ∈ others, f.length ≤ standardFrameBytes → be16 f 12 ≠ 0x0806 := by
  have hasserted : ∀ a : Asserted,
      (∀ f ∈ a.beacons, f.length ≤ standardFrameBytes → be16 f 12 ≠ 0x0806) →
        ∀ f ∈ a.frames, f.length ≤ standardFrameBytes → be16 f 12 ≠ 0x0806 := by
    intro a hbeacons f hf hlen
    rcases List.mem_append.mp hf with hbeacon | hsession
    · exact hbeacons f hbeacon hlen
    · exact exchange_not_arp hsession
  unfold buildAssertions
  rw [if_neg (by rw [hidentity]; decide)]
  simp only [List.append_assoc]
  refine ⟨_, rfl, fun f hf hlen => ?_⟩
  -- the three other parts of a burst: sessions, lookups, polls
  simp only [List.mem_append, List.mem_flatMap] at hf
  rcases hf with ⟨a, ha, hf⟩ | ⟨x, -, hf⟩ | ⟨a, ha, hf⟩
  · refine hasserted a (fun f hf hlen => ?_) f hf hlen
    obtain ⟨dev, -, hdev⟩ := List.mem_filterMap.mp ha
    split at hdev
    · cases hdev
    · obtain rfl := Option.some.inj hdev
      exact beacon_not_arp hf hlen
  · exact exchange_not_arp hf
  · refine hasserted a (fun f hf hlen => ?_) f hf hlen
    unfold northSouthPolls at ha
    split at ha
    · obtain ⟨c, -, hc⟩ := List.mem_filterMap.mp ha
      obtain ⟨dev, -, rfl⟩ := Option.map_eq_some_iff.mp hc
      exact beacon_not_arp hf hlen
    · cases ha

/-! ## What the oracle sees of a burst -/

/-- The ARP frames of a burst are those of the edges. -/
theorem arpFrames_eq (s : Session) :
    arpFrames s = (arpEdges (assetTexts s) s.seed).flatMap Edge.frames := rfl

/-- **The oracle measures the edges of the plan**, whatever else a burst is made of. -/
theorem analyze_burst {s : Session} {others : List Frame}
    (hothers : ∀ f ∈ others, f.length ≤ standardFrameBytes → be16 f 12 ≠ 0x0806) :
    analyze (identityCapture (arpFrames s ++ others) []) =
      analyze (renderEdges (arpEdges (assetTexts s) s.seed)) := by
  have hfits : ∀ f ∈ arpFrames s, decide (f.length ≤ standardFrameBytes) = true := by
    intro f hf
    rw [arpFrames_eq] at hf
    obtain ⟨e, -, hf⟩ := List.mem_flatMap.mp hf
    have hlen : f.length = 60 := by
      rcases List.mem_cons.mp hf with rfl | hf
      · exact length_arpFrame _ _ _ _ _ _
      · obtain rfl := List.mem_singleton.mp hf
        exact length_arpFrame _ _ _ _ _ _
    rw [hlen]
    decide
  have hrest : ∀ f ∈ others.filter fun f => decide (f.length ≤ standardFrameBytes),
      be16 f 12 ≠ 0x0806 := by
    intro f hf
    obtain ⟨hf, hlen⟩ := List.mem_filter.mp hf
    exact hothers f hf (of_decide_eq_true hlen)
  unfold analyze
  rw [data_identityCapture, List.append_nil, List.filter_append, List.filter_eq_self.mpr hfits, List.foldl_append,
    foldl_observe_other hrest, renderEdges, data_toCapture, arpFrames_eq]

/-! ## The ledger as its file stores it -/

theorem parseDecimal_toDigits : ∀ n < 33, parseDecimal 3 33 (Nat.toDigits 10 n) = some n ∧
    '/' ∉ Nat.toDigits 10 n := by
  decide

/-- The digits of an octet read back without the rule about leading zeros. -/
theorem parseDecimal_octet {n : Nat} (hn : n < 256) :
    parseDecimal 3 256 (Nat.toDigits 10 n) = some n := by
  have hoctet := (parseOctet_toDigits n hn).1
  unfold parseOctet at hoctet
  split at hoctet
  · cases hoctet
  · exact hoctet

/-- **A network that was written is read back.** -/
theorem parseIpv4Net_showIpv4Net (n : Ipv4Net) : parseIpv4Net (showIpv4Net n) = some n := by
  have hwide := n.prefixLen_le
  obtain ⟨o, p, q, r, hoctets, ⟨ho, hp, hq, hr⟩, hquad⟩ := octets_spec n.addr
  have hdots : (ipv4Chars n.addr).splitOn '.' = (octets n.addr).map (Nat.toDigits 10) := by
    refine List.splitOn_intercalate '.' ?_ ?_
    · rw [hoctets]
      simp [parseOctet_toDigits, ho, hp, hq, hr]
    · rw [hoctets]
      simp
  have haddr : parseQuad (parseDecimal 3 256) (ipv4Chars n.addr) = some n.addr := by
    unfold parseQuad
    rw [hdots, hoctets]
    simp [parseDecimal_octet, ho, hp, hq, hr, hquad]
  obtain ⟨hlen, hdigits⟩ := parseDecimal_toDigits n.prefixLen (by omega)
  have hslash : '/' ∉ ipv4Chars n.addr := by
    intro hmem
    have havoids := ipv4Chars_avoids (p := fun c => decide (c = '/')) (by decide) ?_ n.addr '/' hmem
    · exact absurd havoids (by decide)
    · intro c hc
      refine decide_eq_false fun heq => ?_
      rw [heq] at hc
      cases hc
  -- there is one slash, and neither half has another
  have hsplit : (ipv4Chars n.addr ++ '/' :: Nat.toDigits 10 n.prefixLen).splitOn '/' =
      [ipv4Chars n.addr, Nat.toDigits 10 n.prefixLen] := by
    have hparts : ∀ part ∈ [ipv4Chars n.addr, Nat.toDigits 10 n.prefixLen], '/' ∉ part := by
      simp [hslash, hdigits]
    have hround := List.splitOn_intercalate '/' hparts (List.cons_ne_nil _ _)
    rwa [List.intercalate_cons_cons, List.intercalate_singleton, List.append_assoc,
      List.singleton_append] at hround
  unfold parseIpv4Net showIpv4Net
  rw [String.toList_ofList, hsplit]
  dsimp only
  rw [haddr, hlen]
  dsimp only
  rw [dif_pos hwide]

/-- **The texts of a ledger are well placed**, if its zones are apart. -/
theorem wellPlaced_assetTexts {s : Session} (hs : Identities s)
    (hzones : s.cidrs.Pairwise ZonesApart) (hwide : ∀ zone ∈ s.cidrs, 8 ≤ zone.prefixLen) :
    WellPlaced (assetTexts s) := by
  have htext : ∀ t ∈ assetTexts s, ∃ a ∈ s.assets, parseIpv4Addr t.ip = some a.ip ∧
      parseIpv4Net t.subnetCidr = some a.subnet ∧ t.subnetCidr = showIpv4Net a.subnet := by
    intro t ht
    obtain ⟨a, ha, rfl⟩ := List.mem_map.mp ht
    exact ⟨a, ha, parseIpv4Addr_showIpv4Addr a.ip, parseIpv4Net_showIpv4Net a.subnet, rfl⟩
  refine ⟨fun t ht => ?_, ?_, fun t ht => ?_,
    fun t ht t' ht' hne net hnet net' hnet' ip hboth => ?_⟩
  · obtain ⟨a, -, hip, -⟩ := htext t ht
    rw [hip]
    rfl
  · have hips : (assetTexts s).map (fun t => parseIpv4Addr t.ip) =
        (s.assets.map Asset.ip).map some := by
      rw [assetTexts, List.map_map, List.map_map]
      exact List.map_congr_left fun a _ => parseIpv4Addr_showIpv4Addr a.ip
    rw [hips]
    exact hs.ips.map (Option.some_injective _)
  · obtain ⟨a, ha, hip, hnet, -⟩ := htext t ht
    obtain ⟨hzone, hcontains⟩ := hs.inZone a ha
    refine ⟨a.subnet, hnet, hwide _ hzone, hs.prefixes _ hzone, fun ip hin => ?_⟩
    rw [hip] at hin
    obtain rfl := Option.some.inj hin
    exact hcontains
  · obtain ⟨a, ha, -, hread, hcidr⟩ := htext t ht
    obtain ⟨b, hb, -, hread', hcidr'⟩ := htext t' ht'
    rw [hread] at hnet
    obtain rfl := Option.some.inj hnet
    rw [hread'] at hnet'
    obtain rfl := Option.some.inj hnet'
    -- zones with different texts are different networks, and these are apart
    have hdiffer : a.subnet ≠ b.subnet := by
      rintro heq
      exact hne (by rw [hcidr, hcidr', heq])
    have : Std.Symm ZonesApart := ⟨fun _ _ => ZonesApart.symm⟩
    have hapart := hzones.forall (hs.inZone a ha).1 (hs.inZone b hb).1 hdiffer
    have hout := hapart ip hboth.1
    exact Bool.false_ne_true (hout.symm.trans hboth.2)

/-! ## When a burst passes -/

/-- The owners a MAC asks for. -/
def askedBy (s : Session) (m : Mac) : Finset Ipv4Addr :=
  (((arpEdges (assetTexts s) s.seed).filter fun e => decide (e.requester.mac = m)).map
    fun e => e.owner.ip).toFinset

/-- The MACs of the nodes that no asset stands behind. -/
def syntheticMacs (s : Session) : List Mac :=
  (syntheticNodes (assetTexts s) s.seed).map Node.mac

theorem macs_assetTexts (s : Session) :
    (assetTexts s).map (fun t => parseMac t.mac) = s.assets.map Asset.mac := by
  rw [assetTexts, List.map_map]
  exact List.map_congr_left fun a _ => parseMac_fmtMac a.mac

/-- Different MACs are quiet. -/
theorem quiet_of_nodup {s : Session} (h : WellPlaced (assetTexts s))
    (hmacs : (s.assets.map Asset.mac ++ syntheticMacs s).Nodup) (m : Mac) :
    (askedBy s m).card ≤ cellSize - 1 := by
  rw [← macs_assetTexts] at hmacs
  exact h.card_owners_le s.seed Node.mac (h.nodup_macs s.seed hmacs) m

/-- The owners of the edges are the assets, and nodes with natural MACs. -/
theorem owners_global_iff {s : Session} (h : WellPlaced (assetTexts s)) :
    (arpEdges (assetTexts s) s.seed).countP (fun e => e.owner.mac.local) = 0 ↔
      ∀ a ∈ s.assets, a.mac.local = false := by
  rw [List.countP_eq_zero]
  constructor
  · intro howners a ha
    obtain ⟨e, he, -, hmac⟩ := h.exists_edge_of_asset s.seed (List.mem_map_of_mem ha)
    have hlocal := howners e he
    rw [hmac, parseMac_fmtMac] at hlocal
    exact Bool.not_eq_true _ ▸ hlocal
  · intro hassets e he hlocal
    rcases h.graphNodes_cases s.seed (h.of_mem_arpEdges s.seed he).1 with
      ⟨t, ht, -, hmac⟩ | ⟨-, hsynthetic⟩
    · obtain ⟨a, ha, rfl⟩ := List.mem_map.mp ht
      rw [hmac, parseMac_fmtMac, hassets a ha] at hlocal
      cases hlocal
    · rw [hsynthetic, syntheticNode, local_stableMac] at hlocal
      cases hlocal

/-- The fan-out of the edges is that of every MAC. -/
theorem maxFanout_edges_iff {s : Session} {p : ArpTally}
    (hasked : p.asked =
      ((arpEdges (assetTexts s) s.seed).map fun e => (e.requester.mac, e.owner.ip)).toFinset) :
    p.maxFanout ≤ cellSize - 1 ↔ ∀ m, (askedBy s m).card ≤ cellSize - 1 := by
  -- the tally keeps pairs, the graph has edges: for each MAC they name the same owners
  have htargets : ∀ m, p.targetsOf m = askedBy s m := by
    intro m
    ext ip
    simp only [ArpTally.targetsOf, askedBy, hasked, Finset.mem_image, Finset.mem_filter,
      List.mem_toFinset, List.mem_map, List.mem_filter, decide_eq_true_eq]
    constructor
    · rintro ⟨x, ⟨⟨e, he, rfl⟩, hm⟩, rfl⟩
      exact ⟨e, ⟨he, hm⟩, rfl⟩
    · rintro ⟨e, ⟨he, hm⟩, rfl⟩
      exact ⟨_, ⟨⟨e, he, rfl⟩, hm⟩, rfl⟩
  constructor
  · intro hmax m
    rw [← htargets]
    by_cases hm : m ∈ p.asked.image Prod.fst
    · exact (Finset.le_sup (f := fun src => (p.targetsOf src).card) hm).trans hmax
    · -- a MAC that asks for nothing
      have hnone : p.targetsOf m = ∅ := by
        rw [ArpTally.targetsOf, Finset.image_eq_empty, Finset.filter_eq_empty_iff]
        rintro x hx rfl
        exact hm (Finset.mem_image_of_mem _ hx)
      rw [hnone, Finset.card_empty]
      exact Nat.zero_le _
  · intro hquiet
    exact ArpTally.maxFanout_le fun src => htargets src ▸ hquiet src

/-- **When the oracle passes the edges of a plan**: no asset has a locally administered MAC, and no
MAC asks for more than five owners. -/
theorem check_edges_iff {s : Session} (h : WellPlaced (assetTexts s)) :
    (analyze (renderEdges (arpEdges (assetTexts s) s.seed))).check (expectedOwners s)
      (cellSize - 1) = [] ↔
        (∀ a ∈ s.assets, a.mac.local = false) ∧ ∀ m, (askedBy s m).card ≤ cellSize - 1 := by
  have hself : (arpEdges (assetTexts s) s.seed).countP
      (fun e => e.requester.ip = e.owner.ip) = 0 := by
    refine List.countP_eq_zero.mpr fun e he => ?_
    simpa using (h.of_mem_arpEdges s.seed he).2
  rw [ArpProfile.check_eq_nil_iff, analyze, renderEdges, data_toCapture, foldl_observe_edges]
  dsimp only [ArpTally.empty]
  rw [hself, maxFanout_edges_iff (Finset.empty_union _)]
  simp only [Nat.zero_add, owners_global_iff h]
  constructor
  · rintro ⟨-, -, hassets, hquiet, -⟩
    exact ⟨hassets, hquiet⟩
  · rintro ⟨hassets, hquiet⟩
    exact ⟨trivial, trivial, hassets, hquiet, Finset.subset_union_right⟩

/-! ## The bursts of a run

A burst is made of the ledger as it is at its tick, and `verify` may be given the ledger of another
time. So each burst is judged against the ledger it was made of; such a ledger lies between the
first one and that of the engine. What is asked of that ledger is decided without the burst.
-/

/-- **A burst shows a ledger** if the oracle reads the edges of the ledger in it. -/
def ShowsEdges (s : Session) (cap : Capture) : Prop :=
  analyze cap = analyze (renderEdges (arpEdges (assetTexts s) s.seed))

/-- A burst of a tick shows the ledger the tick leaves. -/
theorem LoopTicked.showsEdges {e e' : LoopEngine} {run : Nat} {now : UInt64} {io : Io}
    {content : Capture} (hidentity : e.bursts.deviceIdentity = true)
    (h : LoopTicked e run now io (some content) e') : ShowsEdges e'.core.ledger content := by
  cases h with
  | announced hrun hdue hlast hcount hinterval hconfig hattack hsent hlost =>
    rw [hsent content rfl, LoopEngine.assertions]
    obtain ⟨others, hburst, hothers⟩ := buildAssertions_arp hidentity e'.core.ledger e.profiles
      (UInt64.ofNat run) e.announceCount
    rw [hburst, List.append_assoc]
    refine analyze_burst fun f hf hlen => ?_
    rcases List.mem_append.mp hf with hother | hf
    · exact hothers f hother hlen
    · exact attack_not_arp hattack hf

/-- A tick leaves the settings of the bursts. -/
theorem LoopTicked.config {e e' : LoopEngine} {run : Nat} {now : UInt64} {io : Io}
    {sent : Option Capture} (h : LoopTicked e run now io sent e') : e'.bursts = e.bursts := by
  cases h with
  | quiet hsame => exact hsame.config
  | announced hrun hdue hlast hcount hinterval hconfig hattack hsent hlost => exact hconfig

/-- **The bursts of a log show ledgers** between the first one and that of the engine. -/
structure Showing (first : Session) (e : LoopEngine) (wire : List (UInt64 × Capture)) : Prop where
  config : e.bursts.deviceIdentity = true
  identities : Identities e.core.ledger
  grown : first.Extends e.core.ledger
  shown : ∀ b ∈ wire, ∃ s, first.Extends s ∧ s.Extends e.core.ledger ∧ Identities s ∧
    ShowsEdges s b.2

section Runs

variable {F : Type} [FloatOps F] {seedFrom : UInt64 → Rng} {cfg : LoopConfig F}
  {readF : List Char → Option F} {glob : GlobMatcher} {oui : OuiDb} {times : WatchdogTimes}

/-- A turn fires at most one burst, and it shows the ledger of its end. -/
theorem Showing.step {first : Session} {st st' : LoopState F} {t : Turn F} {e : LoopEngine}
    (h : Showing first e (bursts st.log)) (he : st.engine = some e)
    (hstep : Stepped seedFrom cfg readF glob oui times st t st') :
    ∃ e', st'.engine = some e' ∧ Showing first e' (bursts st'.log) := by
  obtain ⟨e', sent, he', hticked, hlog⟩ := step_bursts hstep he
  have hcalls := step_calls hstep
  unfold LoopState.CallsTo at hcalls
  rw [he, he'] at hcalls
  obtain ⟨hs, hextends⟩ := hcalls.grown h.identities
  refine ⟨e', he', hticked.config.symm ▸ h.config, hs, h.grown.trans hextends, fun b hb => ?_⟩
  rw [hlog] at hb
  rcases List.mem_append.mp hb with hold | hnew
  · obtain ⟨s, hfirst, hbefore, hidentities, hshows⟩ := h.shown b hold
    exact ⟨s, hfirst, hbefore.trans hextends, hidentities, hshows⟩
  · obtain ⟨content, hsent, rfl⟩ := Option.map_eq_some_iff.mp (Option.mem_toList.mp hnew)
    subst hsent
    exact ⟨e'.core.ledger, h.grown.trans hextends, .refl _, hs, hticked.showsEdges h.config⟩

end Runs

end TurboLaser
