import TurboLaser.Proto.MacPlan
import TurboLaser.Proto.OutputSafety
import TurboLaser.Proto.PlannedFrame

/-!
# What the leak filter drops

`dropPayloadLeakFrames` drops a rewritten frame in which any four consecutive bytes spell an
address of the capture. It is meant for payloads, which rewriting never changes, but it reads
the headers as well: a plan address there, a MAC, a checksum, or bytes of two fields next to
each other can spell an address of the capture too.

Whether they do can be told from the captured frame and the host map, since a rewritten frame
is the captured one under the fields of the plan (`planned`). So the condition below speaks of
captured bytes where no such field is, of the images of the two addresses, and of `planned`
for the windows that meet another field.

- `carriesAddr_iff`: the filter looks at every window of the frame;
- `written_outside_payload`: no rewritten field of an IPv4 frame reaches into its payload, so a
  payload that leaks has come in with the address (`payload_leak_came_in`);
- `drops_only_leaks_iff`: **only payload leaks are dropped exactly when every frame that may
  leave has headers free of the capture's addresses, or a payload that leaks one**;
- `plan_address_dropped`: a capture that is given the network it is on already loses a frame.
-/

namespace TurboLaser

open Lib

/-! ## Windows -/

theorem toBeBytes_injective {a b : UInt32} (h : toBeBytes a = toBeBytes b) : a = b := by
  have hread : ∀ x : UInt32, be32 (toBeBytes x) 0 = x := fun x => be32_of_bytes rfl rfl rfl rfl
  rw [← hread a, h, hread b]

theorem be32_cons (x : UInt8) (data : List UInt8) (i : Nat) :
    be32 (x :: data) (i + 1) = be32 data i := by
  unfold be32
  rw [byte_cons_succ, byte_cons_succ, byte_cons_succ, byte_cons_succ]

/-- The windows of a buffer are its words at all offsets. -/
theorem mem_windows4 {data w : List UInt8} :
    w ∈ windows4 data ↔ ∃ i, i + 4 ≤ data.length ∧ w = toBeBytes (be32 data i) := by
  induction data using windows4.induct with
  | case1 a b c d rest ih =>
    rw [windows4, List.mem_cons, ih]
    constructor
    · rintro (rfl | ⟨i, hi, rfl⟩)
      · exact ⟨0, by simp, (toBeBytes_be32 (a :: b :: c :: d :: rest) 0).symm⟩
      · exact ⟨i + 1, by rw [List.length_cons]; omega, by rw [be32_cons]⟩
    · rintro ⟨_ | i, hi, rfl⟩
      · exact .inl (toBeBytes_be32 (a :: b :: c :: d :: rest) 0)
      · rw [be32_cons]
        rw [List.length_cons] at hi
        exact .inr ⟨i, by omega, rfl⟩
  -- fewer than four bytes have no window
  | case2 data hshort =>
    have hnil : windows4 data = [] := by
      unfold windows4
      split
      · next a b c d rest => exact absurd rfl (hshort a b c d rest)
      · rfl
    rw [hnil]
    refine iff_of_false List.not_mem_nil ?_
    rintro ⟨i, hi, -⟩
    match data, hshort with
    | [], _ => exact absurd hi (by simp)
    | [_], _ => exact absurd hi (by simp)
    | [_, _], _ => exact absurd hi (by simp)
    | [_, _, _], _ => exact absurd hi (by simp)
    | a :: b :: c :: d :: rest, hshort => exact hshort a b c d rest rfl

/-- Four consecutive bytes from `i` on spell one of the addresses. -/
def SpellsAt (originals : Finset Ipv4Addr) (data : List UInt8) (i : Nat) : Prop :=
  i + 4 ≤ data.length ∧ be32 data i ∈ originals

/-- **The filter looks at every window.** -/
theorem carriesAddr_iff {originals : Finset Ipv4Addr} {data : List UInt8} :
    carriesAddr originals data = true ↔ ∃ i, SpellsAt originals data i := by
  unfold carriesAddr SpellsAt
  rw [List.any_eq_true]
  constructor
  · rintro ⟨w, hw, hspelled⟩
    obtain ⟨i, hi, rfl⟩ := mem_windows4.mp hw
    obtain ⟨a, ha, heq⟩ := decide_eq_true_iff.mp hspelled
    exact ⟨i, hi, toBeBytes_injective heq ▸ ha⟩
  · rintro ⟨i, hi, hmem⟩
    exact ⟨_, mem_windows4.mpr ⟨i, hi, rfl⟩, decide_eq_true ⟨_, hmem, rfl⟩⟩

/-! ## Payload and headers

The filter takes any four bytes that spell an address for a leak. Whether it is right depends on
where the four bytes are: inside the payload, under a field that the plan writes, across the border
of one, or beside all of them. `HeadersFree` and `PayloadLeaks` say what each place may hold, of the
captured frame and of the fields.
-/

/-- The window at `i` lies inside the payload. -/
def InPayload (l : FrameLayout) (i : Nat) : Prop := l.payload ≤ i ∧ i + 4 ≤ l.stop

/-- The payload of the frame spells one of the addresses. -/
def PayloadSpells (originals : Finset Ipv4Addr) (data : List UInt8) : Prop :=
  ∃ l, parseLayout data = some l ∧ carriesAddr originals (slice data l.payload l.stop) = true

/-- Every frame that leaves the capture in `drop_payload_leak_frames` leaks in its payload. -/
def DropsOnlyLeaks (seedFrom : UInt64 → Rng) (cap : Capture) (hints : List Ipv4Net) (seed : UInt64)
    (remapMac : Bool) : Prop :=
  let map := remapMap cap hints (seedFrom seed)
  ∀ q ∈ (dropIncoherentFrames (applyHostMap cap map ∅ seed remapMac) map.values).packets,
    q ∉ (remapCapture seedFrom cap hints seed remapMac).1.packets →
      PayloadSpells map.keySet q.data

/-- The bytes that a rewrite writes. -/
def WrittenBytes (l : FrameLayout) (i : Nat) : Prop :=
  match l.l3Kind with
  | .ipv4 => RewrittenBytes l i
  | .other => i < 12 ∨ (l.l3 + 8 ≤ i ∧ i < l.l3 + 28)

/-- The window at `i` has a rewritten byte in it. -/
def MeetsWritten (l : FrameLayout) (i : Nat) : Prop := ∃ k, i ≤ k ∧ k < i + 4 ∧ WrittenBytes l k

/-- The window at `i` has a byte of one of the fields in it. -/
def Meets (ps : List Patch) (i : Nat) : Prop := ∃ k, i ≤ k ∧ k < i + 4 ∧ ∃ p ∈ ps, p.Covers k

/-- **The headers spell no address of the capture.** None of the two new addresses is one, no
window of captured bytes spells one, and no other field of the plan does, by itself or together
with the bytes next to it. -/
structure HeadersFree (originals : Finset Ipv4Addr) (map : HostMap) (seed : UInt64)
    (remapMac : Bool) (l : FrameLayout) (buf : List UInt8) : Prop where
  addresses : l.l3Kind = .ipv4 →
    image map (be32 buf (l.l3 + 12)) ∉ originals ∧ image map (be32 buf (l.l3 + 16)) ∉ originals
  captured : ∀ i, ¬ InPayload l i → ¬ Meets (planPatches map ∅ seed remapMac l buf) i →
    ¬ SpellsAt originals buf i
  fields : ∀ i, ¬ InPayload l i → Meets (planPatches map ∅ seed remapMac l buf) i →
    ¬ (l.l3Kind = .ipv4 ∧ (i = l.l3 + 12 ∨ i = l.l3 + 16)) →
    ¬ SpellsAt originals (planned map ∅ seed remapMac l buf) i

/-- **The payload leaks an address of the capture.** An IPv4 payload came in with it; the body of
an ARP frame has the fields of the plan in it. -/
def PayloadLeaks (originals : Finset Ipv4Addr) (map : HostMap) (seed : UInt64) (remapMac : Bool)
    (l : FrameLayout) (buf : List UInt8) : Prop :=
  match l.l3Kind with
  | .ipv4 => ∃ i, InPayload l i ∧ SpellsAt originals buf i
  | .other => ∃ i, InPayload l i ∧ SpellsAt originals (planned map ∅ seed remapMac l buf) i

/-- Every frame of the capture that may leave has headers free of its addresses, or leaks one. -/
def NoCoincidence (cap : Capture) (map : HostMap) (seed : UInt64) (remapMac : Bool) : Prop :=
  ∀ p ∈ cap.packets, passesGuard map p.data = true → ∀ l, parseLayout p.data = some l →
    HeadersFree map.keySet map seed remapMac l p.data ∨
      PayloadLeaks map.keySet map seed remapMac l p.data

theorem payload_bounds {data : List UInt8} {l : FrameLayout} (h : parseLayout data = some l) :
    l.payload ≤ l.stop ∧ l.stop ≤ data.length := by
  by_cases hk : l.l3Kind = .ipv4
  · have hl := parseLayout_packet h hk
    rw [hl.payload]
    exact ⟨Nat.min_le_right _ _, hl.stop_le⟩
  · have hlen := (parseLayout_l3 h).2
    rw [(parseLayout_other h hk).2.1, (parseLayout_other h hk).2.2.1]
    exact ⟨hlen, Nat.le_refl _⟩

theorem payloadSpells_iff {originals : Finset Ipv4Addr} {data : List UInt8} {l : FrameLayout}
    (h : parseLayout data = some l) :
    PayloadSpells originals data ↔ ∃ i, InPayload l i ∧ SpellsAt originals data i := by
  obtain ⟨hle, hstop⟩ := payload_bounds h
  have hword : ∀ i, l.payload + i + 4 ≤ l.stop →
      be32 (slice data l.payload l.stop) i = be32 data (l.payload + i) := by
    intro i hi
    unfold be32
    rw [byte_slice (by omega), byte_slice (by omega), byte_slice (by omega), byte_slice (by omega)]
    rfl
  unfold PayloadSpells InPayload
  constructor
  · rintro ⟨l', hl', hspelled⟩
    obtain rfl : l = l' := Option.some.inj (h.symm.trans hl')
    obtain ⟨i, hi, hmem⟩ := carriesAddr_iff.mp hspelled
    rw [length_slice hstop] at hi
    rw [hword i (by omega)] at hmem
    exact ⟨l.payload + i, ⟨Nat.le_add_right _ _, by omega⟩, by omega, hmem⟩
  · rintro ⟨i, ⟨hlo, hhi⟩, -, hmem⟩
    refine ⟨l, h, carriesAddr_iff.mpr ⟨i - l.payload, ?_, ?_⟩⟩
    · rw [length_slice hstop]
      omega
    · rwa [hword _ (by omega), Nat.add_sub_cancel' hlo]

/-- A rewritten frame has its layout, and its other bytes. -/
theorem rewritten_spec (map : HostMap) (macMap : MacMap) (seed : UInt64) (remapMac : Bool)
    {buf : List UInt8} {l : FrameLayout} (h : parseLayout buf = some l) :
    parseLayout (applyHostMapFrame map macMap seed remapMac buf) = some l ∧
      AgreeOn (fun i => ¬ WrittenBytes l i) (applyHostMapFrame map macMap seed remapMac buf)
        buf := by
  unfold WrittenBytes
  cases hk : l.l3Kind with
  | ipv4 =>
    have hspec := rewriteIpv4_spec map macMap seed remapMac h hk
    rw [applyHostMapFrame_ipv4 h hk]
    exact ⟨hspec.layout h hk, hspec.agree⟩
  | other =>
    have hl3 := (parseLayout_l3 h).1
    have hagree := remapArpAddrs_agree map macMap seed remapMac l.l3 buf
    rw [applyHostMapFrame_other h hk]
    refine ⟨parseLayout_congr h (hagree.symm.mono ?_), hagree.mono fun i hi => ?_⟩
    · rintro i (hi | ⟨hipv4, -⟩)
      · omega
      · rw [hk] at hipv4
        cases hipv4
    · dsimp only at hi
      omega

theorem spellsAt_congr {originals : Finset Ipv4Addr} {l : FrameLayout} {out buf : List UInt8}
    (h : AgreeOn (fun i => ¬ WrittenBytes l i) out buf) {i : Nat} (hi : ¬ MeetsWritten l i) :
    SpellsAt originals out i ↔ SpellsAt originals buf i := by
  unfold SpellsAt
  rw [h.1, h.be32_eq fun k hk hk' hwritten => hi ⟨k, hk, hk', hwritten⟩]

/-- **No rewritten field of an IPv4 frame reaches into its payload.** -/
theorem written_outside_payload {buf : List UInt8} {l : FrameLayout} (h : parseLayout buf = some l)
    (hk : l.l3Kind = .ipv4) {i : Nat} (hi : InPayload l i) : ¬ MeetsWritten l i := by
  have hl := parseLayout_packet h hk
  have hihl := hl.ihl
  have hl4 := hl.l4
  have hl3 := (parseLayout_l3 h).1
  have hpayload := hl.payload
  have hle := hl.l4_le_stop
  unfold InPayload at hi
  rintro ⟨k, hlo, hhi, hwritten⟩
  unfold WrittenBytes at hwritten
  rw [hk] at hwritten
  dsimp only at hwritten
  rcases hwritten with hfront | haddr | hip | ⟨htcp, hcsum⟩ | ⟨hudp, hcsum⟩
  · omega
  · omega
  · omega
  · have := hl.tcpHeader htcp
    omega
  · have hlen : l4HeaderLen buf l = 8 := by
      unfold l4HeaderLen
      rw [hudp]
    omega

/-- So a payload that leaks has come in with the address. -/
theorem payload_leak_came_in {map : HostMap} {seed : UInt64} {remapMac : Bool} {buf : List UInt8}
    {l : FrameLayout} (h : parseLayout buf = some l) (hk : l.l3Kind = .ipv4)
    {originals : Finset Ipv4Addr} {i : Nat} (hi : InPayload l i) :
    SpellsAt originals (applyHostMapFrame map ∅ seed remapMac buf) i ↔
      SpellsAt originals buf i :=
  spellsAt_congr (rewritten_spec map ∅ seed remapMac h).2 (written_outside_payload h hk hi)

/-! ## Dropped frames

A window of the planned frame lies in the payload, or it does not; and if it does not, it is under a
field of the plan, or it is one of the captured frame. The two sides of the condition follow this
split. In an IPv4 frame the payload has come in as it leaves, so there the filter can be judged on
the captured bytes alone.
-/

/-- A frame that the guard passed leaves the capture exactly when it spells an address. -/
theorem dropped_iff {cap : Capture} {map : HostMap} {seed : UInt64} {remapMac : Bool}
    {q : OwnedPacket}
    (hq : q ∈ (dropIncoherentFrames (applyHostMap cap map ∅ seed remapMac) map.values).packets) :
    q ∉ (rewriteAndFilter cap map ∅ seed remapMac).packets ↔
      ∃ i, SpellsAt map.keySet q.data i := by
  rw [← carriesAddr_iff]
  unfold rewriteAndFilter
  dsimp only
  split
  · next hempty =>
    refine iff_of_false (fun hdropped => hdropped hq) ?_
    rw [carriesAddr_iff, hempty]
    rintro ⟨i, -, hmem⟩
    exact Finset.notMem_empty _ hmem
  · rw [dropPayloadLeakFrames, Capture.retain, List.mem_filter]
    simp [hq]

section Frame

variable {originals : Finset Ipv4Addr} {map : HostMap} {seed : UInt64} {remapMac : Bool}
  {buf : List UInt8} {l : FrameLayout}

/-- Where no field of the plan is, the windows are those of the captured frame. -/
theorem spellsAt_planned_of_not_meets {i : Nat}
    (hi : ¬ Meets (planPatches map ∅ seed remapMac l buf) i) :
    SpellsAt originals (planned map ∅ seed remapMac l buf) i ↔ SpellsAt originals buf i := by
  have hagree := patched_agree buf (planPatches map ∅ seed remapMac l buf)
  unfold SpellsAt planned
  rw [hagree.1, hagree.be32_eq fun k hk hk' p hp hcovers => hi ⟨k, hk, hk', p, hp, hcovers⟩]

/-- The address fields of a planned frame are the images of the captured ones. -/
theorem planned_addresses (h : parseLayout buf = some l) (hk : l.l3Kind = .ipv4) :
    be32 (planned map ∅ seed remapMac l buf) (l.l3 + 12) = image map (be32 buf (l.l3 + 12)) ∧
      be32 (planned map ∅ seed remapMac l buf) (l.l3 + 16) =
        image map (be32 buf (l.l3 + 16)) := by
  rw [← applyHostMapFrame_eq_planned map ∅ seed remapMac h, applyHostMapFrame_ipv4 h hk]
  have hspec := rewriteIpv4_spec map ∅ seed remapMac h hk
  exact ⟨hspec.src, hspec.dst⟩

/-- **Free headers are those in which no window of the planned frame spells an address.** -/
theorem headersFree_iff (h : parseLayout buf = some l) :
    HeadersFree originals map seed remapMac l buf ↔
      ∀ i, ¬ InPayload l i → ¬ SpellsAt originals (planned map ∅ seed remapMac l buf) i := by
  have haddr := fun hk => @planned_addresses map seed remapMac buf l h hk
  constructor
  · intro hfree i hi hspelled
    by_cases hmeets : Meets (planPatches map ∅ seed remapMac l buf) i
    · by_cases hfield : l.l3Kind = .ipv4 ∧ (i = l.l3 + 12 ∨ i = l.l3 + 16)
      · -- the window is an address field
        obtain ⟨hk, rfl | rfl⟩ := hfield
        · exact (hfree.addresses hk).1 ((haddr hk).1 ▸ hspelled.2)
        · exact (hfree.addresses hk).2 ((haddr hk).2 ▸ hspelled.2)
      · exact hfree.fields i hi hmeets hfield hspelled
    · exact hfree.captured i hi hmeets ((spellsAt_planned_of_not_meets hmeets).mp hspelled)
  · intro hclean
    refine ⟨fun hk => ?_, fun i hi hmeets hspelled => ?_, fun i hi _ _ => hclean i hi⟩
    · have hl := parseLayout_packet h hk
      have hihl := hl.ihl
      have hl4 := hl.l4
      have hle := hl.l4_le
      have hpayload := hl.payload
      have hstop := hl.l4_le_stop
      have hlen := length_patched buf (planPatches map ∅ seed remapMac l buf)
      obtain ⟨hsrc, hdst⟩ := haddr hk
      rw [← hsrc, ← hdst]
      -- both fields lie in front of the payload
      refine ⟨fun hmem => hclean (l.l3 + 12) (fun hin => ?_) ⟨?_, hmem⟩,
        fun hmem => hclean (l.l3 + 16) (fun hin => ?_) ⟨?_, hmem⟩⟩
      · have := hin.1
        omega
      · rw [planned, hlen]
        omega
      · have := hin.1
        omega
      · rw [planned, hlen]
        omega
    · exact hclean i hi ((spellsAt_planned_of_not_meets hmeets).mpr hspelled)

/-- A payload leaks exactly when the payload of the rewritten frame spells an address. -/
theorem payloadLeaks_iff (h : parseLayout buf = some l) :
    PayloadLeaks originals map seed remapMac l buf ↔
      PayloadSpells originals (applyHostMapFrame map ∅ seed remapMac buf) := by
  rw [payloadSpells_iff (rewritten_spec map ∅ seed remapMac h).1]
  unfold PayloadLeaks
  cases hk : l.l3Kind with
  | ipv4 =>
    exact exists_congr fun i => and_congr_right fun hi => (payload_leak_came_in h hk hi).symm
  | other => rw [applyHostMapFrame_eq_planned map ∅ seed remapMac h]

/-- One frame: every window that spells an address is answered for by one in the payload. -/
theorem headersFree_or_iff (h : parseLayout buf = some l) :
    ((∃ i, SpellsAt originals (applyHostMapFrame map ∅ seed remapMac buf) i) →
        PayloadSpells originals (applyHostMapFrame map ∅ seed remapMac buf)) ↔
      HeadersFree originals map seed remapMac l buf ∨
        PayloadLeaks originals map seed remapMac l buf := by
  rw [payloadLeaks_iff h, headersFree_iff h, ← applyHostMapFrame_eq_planned map ∅ seed remapMac h]
  constructor
  · intro hleaks
    by_cases hspelled : ∃ i, SpellsAt originals (applyHostMapFrame map ∅ seed remapMac buf) i
    · exact .inr (hleaks hspelled)
    · exact .inl fun i _ hi => hspelled ⟨i, hi⟩
  · rintro (hclean | hpayload) ⟨i, hspelled⟩
    · have hin : InPayload l i := by
        by_contra hout
        exact hclean i hout hspelled
      exact (payloadSpells_iff (rewritten_spec map ∅ seed remapMac h).1).mpr ⟨i, hin, hspelled⟩
    · exact hpayload

end Frame

/-- **The filter drops payload leaks only, exactly when every frame that may leave has headers free
of the capture's addresses, or a payload that leaks one.** What the headers will be is computed from
the captured frame and the plan, field by field, and no frame has to be rewritten for it. -/
theorem drops_only_leaks_iff (seedFrom : UInt64 → Rng) (cap : Capture) (hints : List Ipv4Net)
    (seed : UInt64) (remapMac : Bool) :
    DropsOnlyLeaks seedFrom cap hints seed remapMac ↔
      NoCoincidence cap (remapMap cap hints (seedFrom seed)) seed remapMac := by
  unfold DropsOnlyLeaks remapCapture
  dsimp only
  constructor
  · intro hleaks p hp hpass l hl
    refine (headersFree_or_iff hl).mp fun hspelled => ?_
    have hq := (@mem_survivors_iff cap _ ∅ seed remapMac _).mpr ⟨p, hp, hpass, rfl⟩
    exact hleaks _ hq ((dropped_iff hq).mpr hspelled)
  · intro hclean q hq hdropped
    obtain ⟨p, hp, hpass, rfl⟩ := mem_survivors_iff.mp hq
    obtain ⟨l, hl⟩ : ∃ l, parseLayout p.data = some l := by
      rw [← Option.isSome_iff_exists]
      unfold passesGuard at hpass
      split at hpass
      · cases hpass
      · next l hl => rw [hl]; rfl
    exact (headersFree_or_iff hl).mpr (hclean p hp hpass l hl) ((dropped_iff hq).mp hdropped)

/-- One datagram between two hosts in 10.20.10.0/24, with a payload of two letters. -/
def lettersCapture : Capture := ⟨[⟨0, 44, onesFrame⟩]⟩

/-- A generator with the first draw of seed 42584: the network that the capture is on already. -/
def sameNetRng : Rng := ⟨fun _ => 5130, 0⟩

/-- The map that moves nothing. -/
def sameNetMap : HostMap := remapMap lettersCapture [] sameNetRng

/-- The datagram as the filter sees it. -/
def movedNowhere : List UInt8 := applyHostMapFrame sameNetMap ∅ 42584 true onesFrame

/-- The new network is the old one, so the datagram is dropped for its own new source address; its
payload is too short for any. -/
theorem plan_address_dropped :
    ¬ DropsOnlyLeaks (fun _ => sameNetRng) lettersCapture [] 42584 true := by
  intro hleaks
  have hkept : (⟨0, 44, movedNowhere⟩ : OwnedPacket) ∈ (dropIncoherentFrames
      (applyHostMap lettersCapture sameNetMap ∅ 42584 true) sameNetMap.values).packets := by
    decide +kernel
  have hdropped : (⟨0, 44, movedNowhere⟩ : OwnedPacket) ∉
      (remapCapture (fun _ => sameNetRng) lettersCapture [] 42584 true).1.packets := by
    decide +kernel
  obtain ⟨l, hl, hspelled⟩ := hleaks ⟨0, 44, movedNowhere⟩ hkept hdropped
  have hlayout : parseLayout movedNowhere = some onesLayout := by decide +kernel
  dsimp only at hl hspelled
  rw [hlayout] at hl
  cases hl
  have hclean : carriesAddr sameNetMap.keySet (slice movedNowhere 42 44) = false := by
    decide +kernel
  exact Bool.false_ne_true (hclean.symm.trans hspelled)

end TurboLaser
