import TurboLaser.Checked.Mutators
import TurboLaser.Checked.Rewrite
import TurboLaser.Simulate.Zones
import TurboLaser.Threat.Promote

/-!
# Captures, with the panics of the frame path

What reads a whole capture: `derive_zones`, `dominant_protocol_by_group` and `promote_host`. Each
reads a few fields of every frame behind its own test of the length, and computes with what it has
read; the masks of subnets and the draws have conditions of their own.

The functions are written once more, over `Lib.Panics`, with each index, range and subtraction where
the source has it, and compared with the total functions of the model. Where the two agree on every
input the total one says what the code does, panics included; so every result of this development
about these functions is one about the code.

Behind the parser, frames are read at offsets that a layout gives, and `InFrame` is what a layout
promises. The other obligations are small and each a matter of a test a few lines above: a shift by
32 minus a prefix that is at most 32, a draw from a range that is not empty, a division by a count
that is not zero.

`frame_path_in_bounds` puts the frame path together: **whatever the bytes of a frame or of a
capture, the parser's offsets are in order and inside the frame, every index, range and subtraction
behind it is in range, and every loop ends.**
-/

namespace TurboLaser

open Lib

namespace Checked

/-! ## Subnets -/

/-- `mask_for`. -/
def maskFor (p : Nat) : Run UInt32 :=
  if p = 0 then return 0
  else do
    let shift ← minus 32 p
    return (0xFFFFFFFF : UInt32) <<< UInt32.ofNat shift

/-- `Ipv4Net::new`, expected to succeed. -/
def newNet (addr : Ipv4Addr) (p : Nat) : Run Ipv4Net :=
  if h : p ≤ 32 then .ok ⟨addr, p, h⟩ else .error .expect

/-- `subnet_of`. -/
def subnetOf (addr : Ipv4Addr) (hints : List Ipv4Net) : Run Ipv4Net := do
  let p := ((hints.find? fun h => decide (8 ≤ h.prefixLen) && h.contains addr).map
    Ipv4Net.prefixLen).getD 24
  let mask ← maskFor p
  newNet (addr &&& mask) p

theorem maskFor_ok {p : Nat} (h : p ≤ 32) : maskFor p = .ok (Lib.maskFor p) :=
  ite_ok (fun _ => rfl) fun _ => bind_ok (minus_ok h) rfl

/-- The prefix of a network is at most 32. -/
theorem subnetOf_ok (addr : Ipv4Addr) (hints : List Ipv4Net) :
    subnetOf addr hints = .ok (groupOf addr hints) := by
  unfold subnetOf groupOf
  cases hints.find? fun h => decide (8 ≤ h.prefixLen) && h.contains addr with
  | none => rfl
  | some h => exact bind_ok (maskFor_ok h.prefixLen_le) (dif_pos h.prefixLen_le)

/-! ## Zones

Zones are derived from captured frames of any kind, so both offsets of an address pair and the MAC
are read of frames that may be short. The parser vouches for the offsets, the tests in the source
for the rest.
-/

/-- `[buf[off], …, buf[off + 5]]`. -/
def macAt (buf : List UInt8) (off : Nat) : Run Mac := do
  let m0 ← byteAt buf off
  let m1 ← byteAt buf (off + 1)
  let m2 ← byteAt buf (off + 2)
  let m3 ← byteAt buf (off + 3)
  let m4 ← byteAt buf (off + 4)
  let m5 ← byteAt buf (off + 5)
  return ⟨m0, m1, m2, m3, m4, m5⟩

/-- What `derive_zones` notes about a frame: who sends with which MAC, and the hosts. -/
def zoneFrame (buf : List UInt8) : Run (Option (Ipv4Addr × Mac) × List Ipv4Addr) := do
  match ← parseLayout buf with
  | none => return (none, [])
  | some l =>
    if l.l3Kind = .ipv4 ∧ l.l3 + 20 ≤ buf.length then do
      let src ← be32At buf (l.l3 + 12)
      let dst ← be32At buf (l.l3 + 16)
      let sender ← onlyIf (isRemappable src && decide (12 ≤ buf.length)) none do
        let mac ← macAt buf 6
        return some (src, mac)
      return (sender, [src, dst].filter isRemappable)
    else do
      let arp ← isArpIpv4 buf l.l3
      if arp then do
        let spa ← be32At buf (l.l3 + 14)
        let tpa ← be32At buf (l.l3 + 24)
        let sender ← onlyIf (isRemappable spa) none do
          let sha ← macAt buf (l.l3 + 8)
          return some (spa, sha)
        return (sender, [spa, tpa].filter isRemappable)
      else return (none, [])

/-- `derive_zones`. -/
def deriveZones (cap : Capture) (hints : List Ipv4Net) (oui : OuiDb) (order : HashOrder) :
    Run (List Zone) := do
  let noted ← eachAt (fun p => zoneFrame p.data) cap.packets
  let macs : MacMap := (noted.filterMap Prod.fst).foldl
    (fun macs e => if e.1 ∈ macs then macs else macs.insert e.1 e.2) ∅
  let hosts := (noted.flatMap Prod.snd).foldl
    (fun hosts h => if h ∈ hosts then hosts else hosts ++ [h]) []
  let nets ← eachAt (subnetOf · hints) hosts
  let subs := (order.nets nets.dedup).insertionSort fun a b => a.network.toNat ≤ b.network.toNat
  return subs.mapIdx fun idx net =>
    let ips := (((hosts.zip nets).filter fun e => decide (e.2 = net)).map Prod.fst).insertionSort
      fun a b => a.toNat ≤ b.toNat
    let vendor := dominantVendor oui order macs net ips
    let level := inferLevel vendor
    { cidr := net, name := nameZone vendor none level idx, purdueLevel := level, vendor,
      deviceIps := ips }

theorem macAt_ok {buf : List UInt8} {off : Nat} (h : off + 6 ≤ buf.length) :
    macAt buf off = .ok (TurboLaser.macAt buf off) := by
  refine bind_ok (byteAt_ok (by omega)) (bind_ok (byteAt_ok (by omega)) ?_)
  refine bind_ok (byteAt_ok (by omega)) (bind_ok (byteAt_ok (by omega)) ?_)
  exact bind_ok (byteAt_ok (by omega)) (bind_ok (byteAt_ok (by omega)) rfl)

/-- Both addresses of a frame that holds them. -/
theorem hosts_of_offsets {buf : List UInt8} {a b : Nat} (ha : a + 4 ≤ buf.length)
    (hb : b + 4 ≤ buf.length) :
    (([a, b].filter fun off => decide (off + 4 ≤ buf.length)).map (be32 buf)).filter isRemappable =
      [be32 buf a, be32 buf b].filter isRemappable := by
  have hboth : ([a, b].filter fun off => decide (off + 4 ≤ buf.length)) = [a, b] := by simp [ha, hb]
  rw [hboth]
  rfl

theorem zoneFrame_ok (buf : List UInt8) :
    zoneFrame buf = .ok (senderMac buf, frameHosts buf) := by
  refine bind_ok (parseLayout_ok buf) ?_
  unfold senderMac frameHosts addrOffsets
  cases hparse : TurboLaser.parseLayout buf with
  | none => rfl
  | some l =>
    have hl := parseLayout_inFrame hparse
    have hfits := (hl.l4_le.trans hl.payload_le).trans hl.stop_le
    have hethernet := InFrame.fourteen hl
    dsimp only
    cases hk : l.l3Kind with
    | ipv4 =>
      have hheader := hl.header hk
      -- the layout vouches for a whole header, so the guard of the source never fails here
      have hlen : l.l3 + 20 ≤ buf.length := by omega
      rw [if_pos ⟨rfl, hlen⟩, if_pos ⟨rfl, hlen⟩, if_pos rfl]
      refine bind_ok (be32At_ok (by omega)) (bind_ok (be32At_ok (by omega)) ?_)
      refine bind_ok (onlyIf_ok fun _ => bind_ok (macAt_ok (by omega)) rfl) ?_
      refine congrArg Except.ok (Prod.ext (if_congr (by simp) rfl rfl) ?_)
      exact (hosts_of_offsets (by omega) (by omega)).symm
    | other =>
      -- what is no IPv4 may be ARP, and that `isArpIpv4` has looked for room is what bounds the
      -- reads
      have hne : ¬ (L3Kind.other = .ipv4 ∧ l.l3 + 20 ≤ buf.length) := nofun
      rw [if_neg hne, if_neg hne, if_neg (nofun : ¬ L3Kind.other = .ipv4)]
      refine bind_ok (isArpIpv4_ok buf l.l3) ?_
      by_cases harp : TurboLaser.isArpIpv4 buf l.l3 = true
      · have hlen := isArpIpv4_length harp
        rw [if_pos harp, if_pos harp]
        refine bind_ok (be32At_ok (by omega)) (bind_ok (be32At_ok (by omega)) ?_)
        refine bind_ok (onlyIf_ok fun _ => bind_ok (macAt_ok (by omega)) rfl) ?_
        refine congrArg Except.ok (Prod.ext (if_congr (by simp [harp]) rfl rfl) ?_)
        exact (hosts_of_offsets (by omega) (by omega)).symm
      · rw [if_neg harp, if_neg fun h => harp h.1, if_neg harp]
        rfl

/-- **The zones of any capture.** -/
theorem deriveZones_ok (cap : Capture) (hints : List Ipv4Net) (oui : OuiDb) (order : HashOrder) :
    deriveZones cap hints oui order = .ok (TurboLaser.deriveZones cap hints oui order) := by
  refine bind_ok (eachAt_ok fun p _ => zoneFrame_ok p.data) ?_
  refine bind_ok (eachAt_ok fun h _ => subnetOf_ok h hints) ?_
  -- the source makes one pass over the frames, the model one for the MACs and one for the hosts
  have hmacs : ((cap.packets.map fun p => (senderMac p.data, frameHosts p.data)).filterMap
      Prod.fst).foldl (fun macs e => if e.1 ∈ macs then macs else macs.insert e.1 e.2) ∅ =
      hostMacs cap := by
    rw [List.filterMap_map]
    rfl
  have hhosts : ((cap.packets.map fun p => (senderMac p.data, frameHosts p.data)).flatMap
      Prod.snd).foldl (fun hosts h => if h ∈ hosts then hosts else hosts ++ [h]) [] =
      distinctHosts cap := by
    rw [List.flatMap_map]
    rfl
  have hips : ∀ net, ((((distinctHosts cap).zip ((distinctHosts cap).map (groupOf · hints))).filter
      fun e => decide (e.2 = net)).map Prod.fst) =
      (distinctHosts cap).filter fun h => decide (groupOf h hints = net) := by
    intro net
    rw [← List.map_prod_left_eq_zip, List.filter_map, List.map_map]
    exact List.map_id _
  dsimp only
  rw [hmacs, hhosts]
  simp only [hips]
  rfl

/-! ## Protocols -/

/-- The protocol votes of a frame. -/
def protocolVotes (hints : List Ipv4Net) (buf : List UInt8) : Run (List (Ipv4Net × String)) := do
  match ← parseLayout buf with
  | none => return []
  | some l =>
    if l.l3Kind ≠ .ipv4 ∨ l.l4Kind = .other ∨ buf.length < l.l4 + 4 then return []
    else do
      let sport ← be16At buf l.l4
      let dport ← be16At buf (l.l4 + 2)
      match (otProtocolForPort dport).or (otProtocolForPort sport) with
      | none => return []
      | some proto =>
        if buf.length < l.l3 + 20 then return []
        else do
          let src ← be32At buf (l.l3 + 12)
          let dst ← be32At buf (l.l3 + 16)
          eachAt (fun h => do
            let net ← subnetOf h hints
            return (net, proto)) [src, dst]

/-- `dominant_protocol_by_group`. -/
def dominantProtocolByGroup (cap : Capture) (hints : List Ipv4Net) (order : HashOrder) :
    Run (Ipv4Net → Option String) := do
  let votes ← eachAt (fun p => protocolVotes hints p.data) cap.packets
  return fun net => maxByCount
    (order.protocol net (tally ((votes.flatten.filter fun v => v.1 = net).map Prod.snd)))

theorem protocolVotes_ok (hints : List Ipv4Net) (buf : List UInt8) :
    protocolVotes hints buf = .ok (TurboLaser.protocolVotes hints buf) := by
  refine bind_ok (parseLayout_ok buf) ?_
  unfold TurboLaser.protocolVotes
  cases hparse : TurboLaser.parseLayout buf with
  | none => rfl
  | some l =>
    have hl := parseLayout_inFrame hparse
    dsimp only
    -- the guard in front of the ports also covers the reads of the addresses behind it
    by_cases hports : l.l3Kind ≠ .ipv4 ∨ l.l4Kind = .other ∨ buf.length < l.l4 + 4
    · rw [if_pos hports, if_pos (by tauto)]
      rfl
    · have hkind : l.l3Kind = .ipv4 := not_not.mp fun h => hports (.inl h)
      have hheader := hl.header hkind
      have hfits := (hl.l4_le.trans hl.payload_le).trans hl.stop_le
      rw [if_neg hports, if_neg (by rintro (h | h | h | h) <;> first | omega | tauto)]
      refine bind_ok (be16At_ok (by omega)) (bind_ok (be16At_ok (by omega)) ?_)
      cases (otProtocolForPort (be16 buf (l.l4 + 2))).or (otProtocolForPort (be16 buf l.l4)) with
      | none => rfl
      | some proto =>
        dsimp only
        rw [if_neg (by omega)]
        refine bind_ok (be32At_ok (by omega)) (bind_ok (be32At_ok (by omega)) ?_)
        exact eachAt_ok fun h _ => bind_ok (subnetOf_ok h hints) rfl

theorem dominantProtocolByGroup_ok (cap : Capture) (hints : List Ipv4Net) (order : HashOrder) :
    dominantProtocolByGroup cap hints order = .ok (dominantProtocol cap hints order) :=
  bind_ok (eachAt_ok fun p _ => protocolVotes_ok hints p.data) rfl

/-! ## Promotion

The one range that can be empty here is the one that is drawn from, and the code tests for it first.
The slices are those of the frame path. So the checked promotion succeeds for every capture, and
gives what the model of it gives, draws included.
-/

/-- `xs[rng.gen_range(0..xs.len())]`: nothing can be drawn from an empty range. -/
def drawAt {α : Type} (xs : List α) (rng : Rng) : Run (α × Rng) :=
  if xs = [] then .error .emptyDraw
  else do
    let x ← entryAt xs (rng.genRange xs.length).1
    return (x, rng.advance)

/-- `pick_external`. -/
def pickExternal : List String → Rng → Run (Option (Ipv4Addr × Rng))
  | [], _ => return none
  | c :: cidrs, rng =>
    if externalHosts c ≠ [] then do
      let picked ← drawAt (externalHosts c) rng
      return some picked
    else pickExternal cidrs rng

/-- What `promote_host` notes about a frame: the source address, and the prefix of its MAC. -/
def noteFrame (buf : List UInt8) : Run (Option (Ipv4Addr × Option Oui)) := do
  match ← parseLayout buf with
  | none => return none
  | some l =>
    if l.l3Kind ≠ .ipv4 ∨ buf.length < l.l3 + 20 then return none
    else do
      let src ← be32At buf (l.l3 + 12)
      let oui ← onlyIf (decide (12 ≤ buf.length)) none do
        let o0 ← byteAt buf 6
        let o1 ← byteAt buf 7
        let o2 ← byteAt buf 8
        return some ⟨o0, o1, o2⟩
      return some (src, oui)

/-- One frame of a promotion. -/
def promoteFrame (host external : Ipv4Addr) (mac : Mac) (buf : List UInt8) : Run (List UInt8) := do
  match ← parseLayout buf with
  | none => return buf
  | some l => do
    let f : ParsedFrame := ⟨buf, l⟩
    let src ← ipv4Src f
    let fromHost := decide (src = some host)
    let f ← onlyIf fromHost f do
      let f ← setIpv4Src f external
      setSrcMac f mac
    let dst ← ipv4Dst f
    let toHost := decide (dst = some host)
    let f ← onlyIf toHost f (setIpv4Dst f external)
    onlyIf (fromHost || toHost) f.buf (recomputeChecksums f.buf f.layout)

/-- `promote_host`. -/
def promoteHost (cap : Capture) (externalCidrs : List String) (oui : OuiDb) (now : UInt64)
    (rng : Rng) : Run (Option (PromotedHost × Capture) × Rng) := do
  let noted ← eachAt (fun p => noteFrame p.data) cap.packets
  let seen := noted.filterMap id
  let hosts := ((seen.map Prod.fst).filter fun a => isPrivate a && isUnicast a).foldl pushNew []
  let ouis := ((seen.filterMap Prod.snd).filter fun p => (oui.vendorOfPrefix p).isNone).foldl
    pushNew []
  if hosts = [] then return (none, rng)
  else do
    let (host, rng) ← drawAt hosts rng
    match ← pickExternal externalCidrs rng with
    | none => return (none, rng)
    | some (external, rng) => do
      let (oui, rng) ← onlyIf (decide (ouis ≠ [])) (fallbackDesktopOui, rng) (drawAt ouis rng)
      let (b3, rng) := rng.genByte
      let (b4, rng) := rng.genByte
      let (b5, rng) := rng.genByte
      let mac : Mac := ⟨oui.o0, oui.o1, oui.o2, b3, b4, b5⟩
      let packets ← eachAt (fun p => do
        let data ← promoteFrame host external mac p.data
        return { p with data }) cap.packets
      return (some (⟨host, external, mac, now⟩, ⟨packets⟩), rng)

/-- A draw from what is not empty succeeds. -/
theorem drawAt_ok {α : Type} {xs : List α} (h : xs ≠ []) (rng : Rng) :
    ∃ drawn, rng.pick xs = some drawn ∧ drawAt xs rng = .ok drawn := by
  have hlt : rng.draw rng.pos % xs.length < xs.length := Nat.mod_lt _ (List.length_pos_iff.mpr h)
  have hget := List.getElem?_eq_getElem hlt
  refine ⟨(xs[rng.draw rng.pos % xs.length], rng.advance), congrArg _ hget, ?_⟩
  rw [drawAt, if_neg h]
  exact bind_ok (entryAt_ok hget) rfl

/-- A draw behind the test that there is something, or else a given value. -/
theorem drawOr_ok {α : Type} [DecidableEq α] (xs : List α) (rng : Rng) (x : α) :
    onlyIf (decide (xs ≠ [])) (x, rng) (drawAt xs rng) = .ok ((rng.pick xs).getD (x, rng)) := by
  by_cases hempty : xs = []
  · subst hempty
    rfl
  · obtain ⟨drawn, hpick, hdrawn⟩ := drawAt_ok hempty rng
    rw [onlyIf, if_pos (decide_eq_true hempty), hpick]
    exact hdrawn

theorem pickExternal_ok (cidrs : List String) (rng : Rng) :
    pickExternal cidrs rng = .ok (TurboLaser.pickExternal cidrs rng) := by
  unfold TurboLaser.pickExternal
  induction cidrs with
  | nil => rfl
  | cons c cidrs ih =>
    rw [pickExternal]
    by_cases hhosts : externalHosts c ≠ []
    · obtain ⟨drawn, hpick, hdrawn⟩ := drawAt_ok hhosts rng
      have hfind : (c :: cidrs).find? (fun c => decide (externalHosts c ≠ [])) = some c := by
        simp [hhosts]
      rw [if_pos hhosts, hfind]
      exact bind_ok hdrawn (congrArg Except.ok hpick.symm)
    · have hfind : (c :: cidrs).find? (fun c => decide (externalHosts c ≠ [])) =
          cidrs.find? fun c => decide (externalHosts c ≠ []) := by
        simp [hhosts]
      rw [if_neg hhosts, hfind]
      exact ih

/-- A frame that is noted, with its layout. -/
def wholeFrame (buf : List UInt8) : Option (List UInt8 × FrameLayout) :=
  match TurboLaser.parseLayout buf with
  | some l => if l.l3Kind ≠ .ipv4 ∨ buf.length < l.l3 + 20 then none else some (buf, l)
  | none => none

/-- What is noted about it. -/
def noteOf (e : List UInt8 × FrameLayout) : Ipv4Addr × Option Oui :=
  (be32 e.1 (e.2.l3 + 12),
    if decide (12 ≤ e.1.length) = true then some ⟨byte e.1 6, byte e.1 7, byte e.1 8⟩ else none)

theorem noteFrame_ok (buf : List UInt8) : noteFrame buf = .ok ((wholeFrame buf).map noteOf) := by
  refine bind_ok (parseLayout_ok buf) ?_
  unfold wholeFrame
  cases hparse : TurboLaser.parseLayout buf with
  | none => rfl
  | some l =>
    dsimp only
    by_cases hshort : l.l3Kind ≠ .ipv4 ∨ buf.length < l.l3 + 20
    · rw [if_pos hshort, if_pos hshort]
      rfl
    · rw [if_neg hshort, if_neg hshort]
      refine bind_ok (be32At_ok (by omega)) ?_
      refine bind_ok (onlyIf_ok fun hmac => ?_) rfl
      have hmac := of_decide_eq_true hmac
      refine bind_ok (byteAt_ok (by omega)) (bind_ok (byteAt_ok (by omega)) ?_)
      exact bind_ok (byteAt_ok (by omega)) rfl

theorem filterMap_noteOf (frames : List (List UInt8 × FrameLayout)) :
    (frames.map noteOf).filterMap Prod.snd =
      ((frames.map Prod.fst).filter fun d => decide (12 ≤ d.length)).map
        fun d => (⟨byte d 6, byte d 7, byte d 8⟩ : Oui) := by
  induction frames with
  | nil => rfl
  | cons e frames ih =>
    by_cases hmac : 12 ≤ e.1.length
    · simp [noteOf, hmac, ← ih]
    · simp [noteOf, hmac, ← ih]

/-- Both sides decide by the equality of addresses. -/
theorem decide_some_eq (a host : Ipv4Addr) : decide (some a = some host) = decide (a = host) :=
  decide_eq_decide.mpr Option.some_inj

theorem promoteFrame_ok (host external : Ipv4Addr) (mac : Mac) (buf : List UInt8) :
    promoteFrame host external mac buf = .ok (TurboLaser.promoteFrame host external mac buf) := by
  refine bind_ok (parseLayout_ok buf) ?_
  unfold TurboLaser.promoteFrame
  cases hparse : TurboLaser.parseLayout buf with
  | none => rfl
  | some l =>
    have hl := parseLayout_inFrame hparse
    dsimp only
    cases hk : l.l3Kind with
    | ipv4 =>
      simp only [decide_true, Bool.true_and]
      refine bind_ok (ipv4Addr_packet hl hk (by decide)) ?_
      rw [decide_some_eq]
      generalize decide (be32 buf (l.l3 + 12) = host) = fromHost
      have hsrc : onlyIf fromHost (⟨buf, l⟩ : ParsedFrame) (do
          let f ← setIpv4Src ⟨buf, l⟩ external
          setSrcMac f mac) =
          .ok ⟨if fromHost = true
            then write (write buf (l.l3 + 12) (toBeBytes external)) 6 mac.bytes else buf, l⟩ := by
        cases fromHost with
        | false => rw [onlyIf, if_neg Bool.false_ne_true, if_neg Bool.false_ne_true]
        | true =>
          refine bind_ok (setIpv4Addr_packet hl hk (by decide) external) (setSrcMac_ok ?_ mac)
          rwa [length_write]
      have h₁ : InFrame (if fromHost = true
          then write (write buf (l.l3 + 12) (toBeBytes external)) 6 mac.bytes
          else buf).length l := by
        split
        · rwa [length_write, length_write]
        · exact hl
      refine bind_ok hsrc ?_
      generalize (if fromHost = true
        then write (write buf (l.l3 + 12) (toBeBytes external)) 6 mac.bytes else buf) = b₁ at h₁ ⊢
      -- the destination is read from the frame as it is by now
      refine bind_ok (ipv4Addr_packet h₁ hk (by decide)) ?_
      rw [decide_some_eq]
      generalize decide (be32 b₁ (l.l3 + 16) = host) = toHost
      have hdst : onlyIf toHost (⟨b₁, l⟩ : ParsedFrame) (setIpv4Dst ⟨b₁, l⟩ external) =
          .ok ⟨if toHost = true then write b₁ (l.l3 + 16) (toBeBytes external) else b₁, l⟩ := by
        cases toHost with
        | false => rw [onlyIf, if_neg Bool.false_ne_true, if_neg Bool.false_ne_true]
        | true => exact setIpv4Addr_packet h₁ hk (by decide) external
      refine bind_ok hdst (onlyIf_ok fun _ => recomputeChecksums_ok ?_)
      split
      · rwa [length_write]
      · exact h₁
    | other =>
      have hnone : ∀ off, ipv4Addr off ⟨buf, l⟩ = .ok none := fun off => if_neg (by simp [hk])
      refine bind_ok (hnone 12) (bind_ok rfl (bind_ok (hnone 16) rfl))

theorem promoteHost_ok (cap : Capture) (externalCidrs : List String) (oui : OuiDb) (now : UInt64)
    (rng : Rng) :
    promoteHost cap externalCidrs oui now rng =
      .ok (TurboLaser.promoteHost cap externalCidrs oui now rng) := by
  refine bind_ok (eachAt_ok fun p _ => noteFrame_ok p.data) ?_
  -- the first pass of the source notes of each whole frame what the other passes need
  have hseen : (cap.packets.map fun p => (wholeFrame p.data).map noteOf).filterMap id =
      (ipv4Frames cap).map noteOf := by
    rw [List.filterMap_map, ipv4Frames, List.map_filterMap]
    rfl
  have hhosts : ((ipv4Frames cap).map noteOf).map Prod.fst =
      (ipv4Frames cap).map fun e => be32 e.1 (e.2.l3 + 12) := List.map_map
  rw [hseen]
  dsimp only
  rw [hhosts, filterMap_noteOf]
  show (if internalHosts cap = [] then (.ok (none, rng) : Run _) else _) = _
  unfold TurboLaser.promoteHost
  by_cases hempty : internalHosts cap = []
  · have hnone : rng.pick (internalHosts cap) = none := by
      rw [hempty]
      rfl
    rw [if_pos hempty, hnone]
  -- past the empty check the draw is from a list that is not empty
  · obtain ⟨⟨host, rng₁⟩, hpick, hdrawn⟩ := drawAt_ok hempty rng
    rw [if_neg hempty, hpick]
    refine bind_ok hdrawn (bind_ok (pickExternal_ok externalCidrs rng₁) ?_)
    dsimp only
    cases TurboLaser.pickExternal externalCidrs rng₁ with
    | none => rfl
    | some picked =>
      obtain ⟨external, rng₂⟩ := picked
      have houi : onlyIf (decide (desktopOuis oui cap ≠ [])) (fallbackDesktopOui, rng₂)
          (drawAt (desktopOuis oui cap) rng₂) =
          .ok ((rng₂.pick (desktopOuis oui cap)).getD (fallbackDesktopOui, rng₂)) :=
        drawOr_ok _ rng₂ fallbackDesktopOui
      refine bind_ok houi ?_
      refine bind_ok (eachAt_ok fun p _ => bind_ok (promoteFrame_ok host external _ p.data) rfl) ?_
      rfl

/-! ## The frame path -/

/-- Nothing that is done at the offsets of a parsed frame panics. -/
structure AccessorsInBounds (f : ParsedFrame) : Prop where
  payload : payload f = .ok f.payload
  ipv4Src : NoPanic (ipv4Src f)
  ipv4Dst : NoPanic (ipv4Dst f)
  setIpv4Src : ∀ a, NoPanic (setIpv4Src f a)
  setIpv4Dst : ∀ a, NoPanic (setIpv4Dst f a)
  srcMac : NoPanic (srcMac f)
  dstMac : NoPanic (dstMac f)
  setSrcMac : ∀ mac, NoPanic (setSrcMac f mac)
  setDstMac : ∀ mac, NoPanic (setDstMac f mac)
  srcPort : srcPort f = .ok f.srcPort
  dstPort : dstPort f = .ok f.dstPort
  recomputeChecksums : recomputeChecksums f.buf f.layout =
    .ok (TurboLaser.recomputeChecksums f.buf f.layout)
  checksumsValid : checksumsValid f.buf f.layout = .ok (TurboLaser.checksumsValid f.buf f.layout)
  «matches» : ∀ m, matchesFrame m f = .ok (m.matches f)
  mutate : ∀ crc ids m mapper,
    mutateFrame crc ids f m mapper = .ok (ParsedFrame.mutate crc ids f m mapper)

/-- One frame: the layout is in order and inside the frame, and neither what works at its offsets
nor what parses the frame on its own panics. An edit keeps the length, so the layout serves every
later state of the buffer. -/
structure FrameInBounds (buf : List UInt8) : Prop where
  parse : parseLayout buf = .ok (TurboLaser.parseLayout buf)
  ordered : ∀ l, TurboLaser.parseLayout buf = some l →
    l.l3 ≤ l.l4 ∧ l.l4 ≤ l.payload ∧ l.payload ≤ l.stop ∧ l.stop ≤ buf.length
  accessors : ∀ l, TurboLaser.parseLayout buf = some l →
    ∀ edited : List UInt8, edited.length = buf.length → AccessorsInBounds ⟨edited, l⟩
  rewritten : ∀ map macMap seed remapMac, applyHostMapFrame map macMap seed remapMac buf =
    .ok (TurboLaser.applyHostMapFrame map macMap seed remapMac buf)
  coherent : ∀ valid, frameIsPlanCoherent valid buf =
    .ok (TurboLaser.frameIsPlanCoherent valid buf)
  carriesPublic : carriesPublicAddress buf = .ok (TurboLaser.carriesPublicAddress buf)

/-- One capture. -/
structure CaptureInBounds (cap : Capture) : Prop where
  rewritten : ∀ map macMap seed remapMac, applyHostMap cap map macMap seed remapMac =
    .ok (TurboLaser.applyHostMap cap map macMap seed remapMac)
  arpDropped : dropArpFrames cap = .ok (TurboLaser.dropArpFrames cap,
    cap.packets.length - (TurboLaser.dropArpFrames cap).packets.length)
  zones : ∀ hints oui order, deriveZones cap hints oui order =
    .ok (TurboLaser.deriveZones cap hints oui order)
  protocols : ∀ hints order, dominantProtocolByGroup cap hints order =
    .ok (dominantProtocol cap hints order)
  promoted : ∀ externalCidrs oui now rng, promoteHost cap externalCidrs oui now rng =
    .ok (TurboLaser.promoteHost cap externalCidrs oui now rng)

theorem accessorsInBounds {f : ParsedFrame} (hl : InFrame f.buf.length f.layout) :
    AccessorsInBounds f where
  payload := payload_ok hl
  ipv4Src := ⟨_, ipv4Addr_ok hl (by decide)⟩
  ipv4Dst := ⟨_, ipv4Addr_ok hl (by decide)⟩
  setIpv4Src a := ⟨_, setIpv4Addr_ok hl (by decide) a⟩
  setIpv4Dst a := ⟨_, setIpv4Addr_ok hl (by decide) a⟩
  srcMac := ⟨_, srcMac_ok hl⟩
  dstMac := ⟨_, dstMac_ok hl⟩
  setSrcMac mac := ⟨_, setSrcMac_ok hl mac⟩
  setDstMac mac := ⟨_, setDstMac_ok hl mac⟩
  srcPort := port_ok hl (by decide)
  dstPort := port_ok hl (by decide)
  recomputeChecksums := recomputeChecksums_ok hl
  checksumsValid := checksumsValid_ok hl
  «matches» m := matchesFrame_ok hl m
  mutate crc ids m mapper := mutateFrame_ok crc ids hl m mapper

theorem frameInBounds (buf : List UInt8) : FrameInBounds buf where
  parse := parseLayout_ok buf
  ordered l h := by
    have hl := parseLayout_inFrame h
    exact ⟨hl.l3_le, hl.l4_le, hl.payload_le, hl.stop_le⟩
  accessors l h edited hlen := by
    have hl := parseLayout_inFrame h
    rw [← hlen] at hl
    exact accessorsInBounds hl
  rewritten map macMap seed remapMac := applyHostMapFrame_ok map macMap seed remapMac buf
  coherent valid := frameIsPlanCoherent_ok valid buf
  carriesPublic := carriesPublicAddress_ok buf

theorem captureInBounds (cap : Capture) : CaptureInBounds cap where
  rewritten map macMap seed remapMac := applyHostMap_ok cap map macMap seed remapMac
  arpDropped := dropArpFrames_ok cap
  zones hints oui order := deriveZones_ok cap hints oui order
  protocols hints order := dominantProtocolByGroup_ok cap hints order
  promoted externalCidrs oui now rng := promoteHost_ok cap externalCidrs oui now rng

end Checked

/-- **The frame path never leaves a buffer.** Whatever the bytes, the parser does not panic and its
offsets are in order and inside the frame; every index, range and subtraction of the accessors, the
checksums, the rewrite, the guards, the scans of captures, the promotion and the four mutators is in
range, and every loop ends. -/
theorem frame_path_in_bounds :
    (∀ buf, Checked.FrameInBounds buf) ∧ ∀ cap, Checked.CaptureInBounds cap :=
  ⟨Checked.frameInBounds, Checked.captureInBounds⟩

end TurboLaser
