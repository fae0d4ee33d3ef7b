import Mathlib.Data.Finset.Image
import Mathlib.Data.Finset.Lattice.Fold
import Mathlib.Order.Lattice.Nat
import TurboLaser.Scenario.Fidelity
import TurboLaser.Simulate.ArpGraph
import TurboLaser.Synth.Arp

/-!
# The ARP oracle (validate/arp_profile.rs)

`analyze` reads the ARP frames of a capture and measures them, and `ArpProfile.check` compares the
measure with the bands of the reference capture. The oracle shares no code with the builders of the
frames: it reads at offsets, counts requests and replies, and remembers who asked for whom.

Its state is a tally, and a frame is one step of it (`ArpTally.observe`); a frame that is not whole
ARP over IPv4 on Ethernet leaves it alone. The measure that matters is the largest fan-out: how many
owners one MAC asks for. A scanner asks for many, and a plant does not.

- `observe_request`, `observe_reply`: what the oracle sees of a frame;
- `foldl_observe_edges`: **what it has counted after the frames of some edges**, a request and a
  reply each;
- `check_renderEdges`: **when it passes a capture of some edges**: if nobody asks for himself, no
  owner has a locally administered MAC, everybody that is expected owns an edge, and no MAC asks for
  too many, then no violation is found.
-/

namespace TurboLaser

open Lib Synth

/-! ## Profiles -/

/-- `ArpProfile`. -/
structure ArpProfile where
  requests : Nat
  replies : Nat
  gratuitous : Nat
  runts : Nat
  locallyAdministered : Nat
  maxFanout : Nat
  repliers : Finset Ipv4Addr
deriving DecidableEq

/-- What `analyze` has counted so far; `asked` is its map of sets, as the pairs in it. -/
structure ArpTally where
  requests : Nat
  replies : Nat
  gratuitous : Nat
  runts : Nat
  locallyAdministered : Nat
  repliers : Finset Ipv4Addr
  asked : Finset (Mac × Ipv4Addr)
deriving DecidableEq

/-- Nothing counted. -/
def ArpTally.empty : ArpTally := ⟨0, 0, 0, 0, 0, ∅, ∅⟩

/-- The loop body of `analyze`. -/
def ArpTally.observe (p : ArpTally) (d : Frame) : ArpTally :=
  if d.length < 42 ∨ be16 d 12 ≠ 0x0806 then p
  else
    let oper := be16 d 20
    let sha := macAt d 22
    let spa := be32 d 28
    let tpa := be32 d 38
    let p := { p with
      gratuitous := p.gratuitous + if spa = tpa then 1 else 0
      runts := p.runts + if d.length < 60 then 1 else 0 }
    if oper = 1 then
      { p with requests := p.requests + 1, asked := insert (macAt d 6, tpa) p.asked }
    else if oper = 2 then
      { p with
        replies := p.replies + 1
        repliers := insert spa p.repliers
        locallyAdministered := p.locallyAdministered + if sha.m0 &&& 0x02 ≠ 0 then 1 else 0 }
    else p

/-- The addresses a source asked for. -/
def ArpTally.targetsOf (p : ArpTally) (src : Mac) : Finset Ipv4Addr :=
  (p.asked.filter fun x => x.1 = src).image Prod.snd

/-- The most addresses that any source asked for. -/
def ArpTally.maxFanout (p : ArpTally) : Nat :=
  (p.asked.image Prod.fst).sup fun src => (p.targetsOf src).card

/-- `analyze`. -/
def analyze (cap : Capture) : ArpProfile :=
  let p := (cap.packets.map OwnedPacket.data).foldl ArpTally.observe .empty
  { requests := p.requests
    replies := p.replies
    gratuitous := p.gratuitous
    runts := p.runts
    locallyAdministered := p.locallyAdministered
    maxFanout := p.maxFanout
    repliers := p.repliers }

/-- `Violation`: the band that failed, with the numbers of its message. -/
inductive ArpViolation where
  | gratuitous (frames : Nat)
  | runts (frames : Nat)
  | locallyAdministered (replies : Nat)
  | scan (targets limit : Nat)
  | missing (owners : Nat)
deriving DecidableEq

/-- `ArpProfile::check`. -/
def ArpProfile.check (p : ArpProfile) (expectedOwners : Finset Ipv4Addr) (maxFanout : Nat) :
    List ArpViolation :=
  let missing := expectedOwners.filter fun ip => ip ∉ p.repliers
  (if p.gratuitous ≠ 0 then [.gratuitous p.gratuitous] else []) ++
    (if p.runts ≠ 0 then [.runts p.runts] else []) ++
    (if p.locallyAdministered ≠ 0 then [.locallyAdministered p.locallyAdministered] else []) ++
    (if maxFanout < p.maxFanout then [.scan p.maxFanout maxFanout] else []) ++
    (if missing ≠ ∅ then [.missing missing.card] else [])

/-! ## What the oracle sees of a resolution

An edge is a request and its answer. The oracle counts requests by their sender and answers by their
owner, and what it counts over a list of edges is a matter of the list. So its verdict on a capture
of edges can be given as four conditions on them.
-/

/-- Whether a MAC has the bit of the locally administered ones. -/
def Mac.local (m : Mac) : Bool := decide (m.m0 &&& 0x02 ≠ 0)

/-- The frames of an edge. -/
def Edge.frames (e : Edge) : List Frame :=
  let (req, rep) := resolve e.requester.mac e.requester.ip e.owner.mac e.owner.ip
  [req, rep]

/-- The capture of some edges. -/
def renderEdges (edges : List Edge) : Capture := Scenario.toCapture (edges.flatMap Edge.frames)

theorem observe_request (p : ArpTally) (senderMac : Mac) (senderIp targetIp : Ipv4Addr) :
    p.observe (arpRequest senderMac senderIp targetIp) =
      { p with
        requests := p.requests + 1
        gratuitous := p.gratuitous + if senderIp = targetIp then 1 else 0
        asked := insert (senderMac, targetIp) p.asked } := by
  obtain ⟨hether, hoper, hsrc, -, hspa, htpa⟩ :=
    bytes_arpFrame broadcast opRequest senderMac senderIp zeroMac targetIp
  have hlen := length_arpFrame broadcast opRequest senderMac senderIp zeroMac targetIp
  rw [ArpTally.observe, arpRequest, if_neg (by rw [hlen, hether]; decide), hspa, htpa, hsrc, hlen,
    hoper]
  simp [opRequest]

theorem observe_reply (p : ArpTally) (senderMac : Mac) (senderIp : Ipv4Addr) (targetMac : Mac)
    (targetIp : Ipv4Addr) :
    p.observe (arpReply senderMac senderIp targetMac targetIp) =
      { p with
        replies := p.replies + 1
        gratuitous := p.gratuitous + if senderIp = targetIp then 1 else 0
        locallyAdministered := p.locallyAdministered + if senderMac.local then 1 else 0
        repliers := insert senderIp p.repliers } := by
  obtain ⟨hether, hoper, -, hsha, hspa, htpa⟩ :=
    bytes_arpFrame targetMac opReply senderMac senderIp targetMac targetIp
  have hlen := length_arpFrame targetMac opReply senderMac senderIp targetMac targetIp
  rw [ArpTally.observe, arpReply, if_neg (by rw [hlen, hether]; decide), hspa, htpa, hsha, hlen,
    hoper]
  simp [opReply, Mac.local]

/-- What is counted over some edges. -/
theorem foldl_observe_edges (p : ArpTally) (edges : List Edge) :
    (edges.flatMap Edge.frames).foldl ArpTally.observe p =
      { requests := p.requests + edges.length
        replies := p.replies + edges.length
        gratuitous := p.gratuitous + 2 * edges.countP fun e => e.requester.ip = e.owner.ip
        runts := p.runts
        locallyAdministered := p.locallyAdministered + edges.countP fun e => e.owner.mac.local
        repliers := p.repliers ∪ (edges.map fun e => e.owner.ip).toFinset
        asked := p.asked ∪ (edges.map fun e => (e.requester.mac, e.owner.ip)).toFinset } := by
  induction edges generalizing p with
  | nil => simp
  | cons e edges ih =>
    rw [List.flatMap_cons, List.foldl_append, ih]
    show ArpTally.mk _ _ _ _ _ _ _ = _
    simp only [Edge.frames, Synth.resolve, List.foldl_cons, List.foldl_nil, observe_request,
      observe_reply, List.length_cons, List.countP_cons, List.map_cons, List.toFinset_cons,
      ArpTally.mk.injEq]
    -- a request and a reply for each edge; gratuitous are both, or neither
    refine ⟨by omega, by omega, ?_, trivial, ?_, ?_, ?_⟩
    · by_cases hself : e.requester.ip = e.owner.ip
      · simp [hself]
        omega
      · simp [hself, Ne.symm hself]
    · cases e.owner.mac.local
      · simp
      · simp
        omega
    · ext ip
      simp
    · ext x
      simp

theorem ArpTally.maxFanout_le {p : ArpTally} {limit : Nat}
    (h : ∀ src, (p.targetsOf src).card ≤ limit) : p.maxFanout ≤ limit := by
  unfold ArpTally.maxFanout
  exact Finset.sup_le fun src _ => h src

/-- The bands, as conditions. -/
theorem ArpProfile.check_eq_nil_iff {p : ArpProfile} {expected : Finset Ipv4Addr} {limit : Nat} :
    p.check expected limit = [] ↔ p.gratuitous = 0 ∧ p.runts = 0 ∧ p.locallyAdministered = 0 ∧
      p.maxFanout ≤ limit ∧ expected ⊆ p.repliers := by
  have hband : ∀ {c : Prop} [Decidable c] (v : ArpViolation),
      (if c then [v] else []) = [] ↔ ¬ c := by
    intro c _ v
    split
    · next hc => simp [hc]
    · next hc => simp [hc]
  have hmissing : ¬ (expected.filter fun ip => ip ∉ p.repliers) ≠ ∅ ↔ expected ⊆ p.repliers := by
    rw [not_not, Finset.filter_eq_empty_iff]
    simp only [not_not]
    rfl
  unfold ArpProfile.check
  simp only [List.append_eq_nil_iff, hband, hmissing, not_not, not_lt, and_assoc]

/-- **When the oracle passes a capture of some edges**: no edge asks for its own address, no
owner has a locally administered MAC, every expected owner answers, and no MAC asks for more
addresses than the limit. -/
theorem check_renderEdges {edges : List Edge} {expected : Finset Ipv4Addr} {limit : Nat}
    (hself : ∀ e ∈ edges, e.requester.ip ≠ e.owner.ip)
    (hglobal : ∀ e ∈ edges, e.owner.mac.local = false)
    (howners : ∀ ip ∈ expected, ∃ e ∈ edges, e.owner.ip = ip)
    (hscan : ∀ src, ((edges.filter fun e => decide (e.requester.mac = src)).map
      fun e => e.owner.ip).toFinset.card ≤ limit) :
    (analyze (renderEdges edges)).check expected limit = [] := by
  have hgratuitous : edges.countP (fun e => e.requester.ip = e.owner.ip) = 0 := by
    refine List.countP_eq_zero.mpr fun e he => ?_
    simpa using hself e he
  have hlocal : edges.countP (fun e => e.owner.mac.local) = 0 := by
    refine List.countP_eq_zero.mpr fun e he => ?_
    simpa using hglobal e he
  rw [ArpProfile.check_eq_nil_iff, analyze, renderEdges, Scenario.data_toCapture,
    foldl_observe_edges]
  dsimp only [ArpTally.empty]
  refine ⟨?_, rfl, ?_, ?_, ?_⟩
  · rw [hgratuitous]
  · rw [hlocal]
  · refine ArpTally.maxFanout_le fun src => (Finset.card_le_card fun ip hip => ?_).trans (hscan src)
    -- what a MAC asked for are the owners of its edges
    obtain ⟨x, hx, rfl⟩ := Finset.mem_image.mp hip
    obtain ⟨hasked, hsrc⟩ := Finset.mem_filter.mp hx
    simp only [Finset.empty_union, List.mem_toFinset, List.mem_map] at hasked ⊢
    obtain ⟨e, he, rfl⟩ := hasked
    exact ⟨e, List.mem_filter.mpr ⟨he, by simpa using hsrc⟩, rfl⟩
  · intro ip hip
    obtain ⟨e, he, rfl⟩ := howners ip hip
    exact Finset.mem_union_right _ (List.mem_toFinset.mpr (List.mem_map_of_mem he))

end TurboLaser
