import Mathlib.Data.List.Forall2
import TurboLaser.Proto.Declared
import TurboLaser.Threat.Promote

/-!
# What a promotion moves (threat/mod.rs)

A promoted host has its address replaced in every IPv4 frame that it sends or receives, and its
frames leave from a new MAC. The selection pass and the rewriting pass both look at IPv4 frames
only.

A host of a capture is usually seen in ARP frames as well. There is a rewrite for these in the
remap, and none here: the ARP frames of a promoted host still say that its old address is at its old
MAC, on the segment, while its IPv4 frames come from the outside. `Mentions` and `ArpMentions` say
of a frame that it shows the host, and `MovesCompletely` that none does any more.

- `movedFrame_spec`: one frame before its checksums are recomputed: both addresses, and the MAC;
- `promoteFrame_valid_iff`: **the checksums of a moved frame**: a valid frame stays valid exactly
  when its transport checksum is part of the packet it declares, or the sum does not depend on it;
- `promoteHost_spec`: the host is private and of the capture, its new address is public, and every
  frame is moved by itself;
- `promotion_moves_iff`: **the host is gone from a capture exactly when no ARP frame carried it**:
  `promote_host` has no counterpart of `remap_arp_addrs`.
-/

namespace TurboLaser

open Lib

/-! ## What a frame carries -/

/-- `ParsedFrame::ipv4_src` of a frame that parses. -/
def frameIpv4Src (buf : List UInt8) : Option Ipv4Addr :=
  match parseLayout buf with
  | some l => if l.l3Kind = .ipv4 then some (be32 buf (l.l3 + 12)) else none
  | none => none

/-- An address is the IPv4 source or destination of a frame, or the ARP sender or target. -/
def Mentions (a : Ipv4Addr) (buf : List UInt8) : Prop := ∃ off ∈ addrOffsets buf, be32 buf off = a

instance (a : Ipv4Addr) (buf : List UInt8) : Decidable (Mentions a buf) :=
  inferInstanceAs (Decidable (∃ off ∈ addrOffsets buf, be32 buf off = a))

/-- An address is the sender or the target of an ARP frame. -/
def ArpMentions (a : Ipv4Addr) (buf : List UInt8) : Prop :=
  Mentions a buf ∧ frameIpv4Src buf = none

instance (a : Ipv4Addr) (buf : List UInt8) : Decidable (ArpMentions a buf) :=
  inferInstanceAs (Decidable (_ ∧ _))

/-- The frame parses, and its checksums are valid. -/
def ValidSums (buf : List UInt8) : Prop :=
  ∃ l, parseLayout buf = some l ∧ checksumsValid buf l = true

/-- Where a promotion sends an address. -/
def moveAddr (host external a : Ipv4Addr) : Ipv4Addr := if a = host then external else a

/-- What the two addresses of an IPv4 frame add to its transport sum, each sent somewhere. -/
def addressSum (send : Ipv4Addr → Ipv4Addr) (buf : List UInt8) (l : FrameLayout) : Nat :=
  wordSum (toBeBytes (send (be32 buf (l.l3 + 12)))) +
    wordSum (toBeBytes (send (be32 buf (l.l3 + 16))))

/-- A valid frame can be summed again when its addresses are moved: the packet declares all of its
transport checksum; or none of it, and the addresses add the same; or the high byte of it, and some
high byte makes up for what the addresses add. -/
def Resummable (host external : Ipv4Addr) (buf : List UInt8) (l : FrameLayout) : Prop :=
  ∀ off, csumOff l.l4Kind = some off →
    l.l4 + off + 2 ≤ l.stop ∨
      (l.stop ≤ l.l4 + off ∧
        addressSum (moveAddr host external) buf l % 65535 = addressSum id buf l % 65535) ∨
      (l.stop = l.l4 + off + 1 ∧ ∃ hi < 256, (l.l4Kind = .udp → 0 < hi) ∧
        (addressSum (moveAddr host external) buf l + hi * 256) % 65535 =
          (addressSum id buf l + (byte buf (l.l4 + off)).toNat * 256) % 65535)

theorem mentions_ipv4 {a : Ipv4Addr} {buf : List UInt8} {l : FrameLayout}
    (h : parseLayout buf = some l) (hk : l.l3Kind = .ipv4) :
    Mentions a buf ↔ be32 buf (l.l3 + 12) = a ∨ be32 buf (l.l3 + 16) = a := by
  unfold Mentions addrOffsets
  rw [h]
  simp [hk]

theorem frameIpv4Src_ipv4 {buf : List UInt8} {l : FrameLayout} (h : parseLayout buf = some l)
    (hk : l.l3Kind = .ipv4) : frameIpv4Src buf = some (be32 buf (l.l3 + 12)) := by
  unfold frameIpv4Src
  rw [h]
  exact if_pos hk

theorem frameIpv4Src_eq_none {buf : List UInt8}
    (h : ∀ l, parseLayout buf = some l → l.l3Kind ≠ .ipv4) : frameIpv4Src buf = none := by
  unfold frameIpv4Src
  split
  · next l hl => exact if_neg (h l hl)
  · rfl

/-- A frame that has an IPv4 source is an IPv4 frame. -/
theorem frameIpv4Src_ne_none {buf : List UInt8} (h : frameIpv4Src buf ≠ none) :
    ∃ l, parseLayout buf = some l ∧ l.l3Kind = .ipv4 := by
  by_contra hnot
  exact h (frameIpv4Src_eq_none fun l hl hk => hnot ⟨l, hl, hk⟩)

/-! ## One frame

A promotion replaces an address of the host where it stands in an IPv4 frame, with the MAC if it is
the source, and recomputes the checksums of a frame it has changed. Whether the frame is valid
afterwards depends on its transport header: where the checksum lies outside the packet it is not
recomputed, and the old one no longer fits.
-/

/-- An IPv4 frame with its addresses moved, before its checksums are recomputed. -/
def movedFrame (host external : Ipv4Addr) (mac : Mac) (l : FrameLayout) (buf : List UInt8) :
    List UInt8 :=
  let buf :=
    if be32 buf (l.l3 + 12) = host
    then write (write buf (l.l3 + 12) (toBeBytes external)) 6 mac.bytes else buf
  if be32 buf (l.l3 + 16) = host then write buf (l.l3 + 16) (toBeBytes external) else buf

/-- What moving the addresses of a frame leaves. -/
structure AddressesMoved (host external : Ipv4Addr) (mac : Mac) (l : FrameLayout)
    (buf out : List UInt8) : Prop where
  agree : AgreeOn (fun i => 12 ≤ i ∧ (i < l.l3 + 12 ∨ l.l3 + 20 ≤ i)) out buf
  src : be32 out (l.l3 + 12) = moveAddr host external (be32 buf (l.l3 + 12))
  dst : be32 out (l.l3 + 16) = moveAddr host external (be32 buf (l.l3 + 16))
  mac : be32 buf (l.l3 + 12) = host → macAt out 6 = mac

section Frame

variable {host external : Ipv4Addr} {mac : Mac} {buf : List UInt8} {l : FrameLayout}

theorem movedFrame_spec (h : parseLayout buf = some l) (hk : l.l3Kind = .ipv4) :
    AddressesMoved host external mac l buf (movedFrame host external mac l buf) := by
  have hl3 := (parseLayout_l3 h).1
  have hl := parseLayout_packet h hk
  have hihl := hl.ihl
  have hl4 := hl.l4
  have hfit := hl.l4_le
  unfold movedFrame
  dsimp only
  -- the source is written first, and the MAC in front of it
  have hfirst : ∃ b, (if be32 buf (l.l3 + 12) = host
        then write (write buf (l.l3 + 12) (toBeBytes external)) 6 mac.bytes else buf) = b ∧
      AgreeOn (fun i => 12 ≤ i ∧ (i < l.l3 + 12 ∨ l.l3 + 16 ≤ i)) b buf ∧
      be32 b (l.l3 + 12) = moveAddr host external (be32 buf (l.l3 + 12)) ∧
      (be32 buf (l.l3 + 12) = host → macAt b 6 = mac) := by
    refine ⟨_, rfl, ?_⟩
    unfold moveAddr
    by_cases hsrc : be32 buf (l.l3 + 12) = host
    · rw [if_pos hsrc, if_pos hsrc]
      have haddr := agreeOn_write buf (l.l3 + 12) (toBeBytes external)
      have hmac := agreeOn_write (write buf (l.l3 + 12) (toBeBytes external)) 6 mac.bytes
      rw [Mac.length_bytes] at hmac
      rw [length_toBeBytes] at haddr
      refine ⟨(hmac.mono fun i hi => .inr (by omega)).trans (haddr.mono fun i hi => by omega), ?_,
        fun _ => macAt_write_self mac (by rw [length_write]; omega)⟩
      rw [hmac.be32_eq fun k hk hk' => .inr (by omega)]
      exact be32_write_self external (by omega)
    · rw [if_neg hsrc, if_neg hsrc]
      exact ⟨AgreeOn.refl _ _, rfl, fun heq => absurd heq hsrc⟩
  obtain ⟨b, hb, hagree, hsrc, hmac⟩ := hfirst
  rw [hb]
  have hdst : be32 b (l.l3 + 16) = be32 buf (l.l3 + 16) :=
    hagree.be32_eq fun k hk hk' => by omega
  rw [hdst]
  by_cases hto : be32 buf (l.l3 + 16) = host
  · rw [if_pos hto]
    have hwrite := agreeOn_write b (l.l3 + 16) (toBeBytes external)
    rw [length_toBeBytes] at hwrite
    refine ⟨(hwrite.mono fun i hi => by omega).trans (hagree.mono fun i hi => by omega), ?_, ?_,
      fun hfrom => ?_⟩
    · rw [hwrite.be32_eq fun k hk hk' => .inl (by omega)]
      exact hsrc
    · rw [moveAddr, if_pos hto]
      exact be32_write_self external (by rw [hagree.1]; omega)
    · rw [hwrite.macAt_eq fun k hk hk' => .inl (by omega)]
      exact hmac hfrom
  · rw [if_neg hto]
    exact ⟨hagree.mono fun i hi => by omega, hsrc, by rw [moveAddr, if_neg hto, hdst],
      hmac⟩

/-- Moving the addresses keeps the layout. -/
theorem parseLayout_moved (h : parseLayout buf = some l) (hk : l.l3Kind = .ipv4) :
    parseLayout (movedFrame host external mac l buf) = some l := by
  have hl := parseLayout_packet h hk
  have hihl := hl.ihl
  have hl4 := hl.l4
  refine parseLayout_congr h ((movedFrame_spec h hk).agree.symm.mono ?_)
  rintro i (⟨hlo, hhi⟩ | ⟨-, hi⟩)
  · exact ⟨hlo, .inl (by omega)⟩
  · have hl3 := (parseLayout_l3 h).1
    unfold HeaderBytes at hi
    omega

theorem promoteFrame_ipv4 (h : parseLayout buf = some l) (hk : l.l3Kind = .ipv4)
    (hmentions : Mentions host buf) :
    promoteFrame host external mac buf =
      recomputeChecksums (movedFrame host external mac l buf) l := by
  have hsame : be32 (if be32 buf (l.l3 + 12) = host
      then write (write buf (l.l3 + 12) (toBeBytes external)) 6 mac.bytes else buf) (l.l3 + 16) =
        be32 buf (l.l3 + 16) := by
    have hl3 := (parseLayout_l3 h).1
    split
    · have haddr := agreeOn_write buf (l.l3 + 12) (toBeBytes external)
      have hmac := agreeOn_write (write buf (l.l3 + 12) (toBeBytes external)) 6 mac.bytes
      rw [Mac.length_bytes] at hmac
      rw [length_toBeBytes] at haddr
      rw [hmac.be32_eq fun k hk hk' => .inr (by omega), haddr.be32_eq fun k hk hk' => .inr (by omega)]
    · rfl
  unfold promoteFrame movedFrame
  rw [h]
  simp only [hk, decide_true, Bool.true_and, decide_eq_true_eq, Bool.or_eq_true]
  rw [if_pos]
  rw [hsame]
  exact (mentions_ipv4 h hk).mp hmentions

/-- A frame that does not mention the host is not written, and an ARP frame never is. -/
theorem promoteFrame_self (h : Mentions host buf → frameIpv4Src buf = none) :
    promoteFrame host external mac buf = buf := by
  cases hparse : parseLayout buf with
  | none =>
    unfold promoteFrame
    rw [hparse]
  | some l =>
    by_cases hk : l.l3Kind = .ipv4
    · have hnot : ¬ Mentions host buf := by
        intro hmentions
        have hnone := h hmentions
        rw [frameIpv4Src_ipv4 hparse hk] at hnone
        cases hnone
      rw [mentions_ipv4 hparse hk, not_or] at hnot
      unfold promoteFrame
      rw [hparse]
      simp [hnot.1, hnot.2]
    · unfold promoteFrame
      rw [hparse]
      simp [hk]

/-- The transport sum of a moved frame: only the addresses count differently. -/
theorem l4Sum_moved (h : parseLayout buf = some l) (hk : l.l3Kind = .ipv4) (off : Nat) :
    ∃ rest, l4Sum buf l off = addressSum id buf l + rest ∧
      l4Sum (movedFrame host external mac l buf) l off =
        addressSum (moveAddr host external) buf l + rest := by
  have hl3 := (parseLayout_l3 h).1
  have hl := parseLayout_packet h hk
  have hihl := hl.ihl
  have hl4 := hl.l4
  have hmoved := @movedFrame_spec host external mac buf l h hk
  have hl' := parseLayout_packet (@parseLayout_moved host external mac buf l h hk) hk
  refine ⟨l4Rest buf l off, l4Sum_addresses hl off, ?_⟩
  rw [l4Sum_addresses hl', hmoved.src, hmoved.dst]
  have hlen : (be16Field.write (movedFrame host external mac l buf) (l.l4 + off) 0).length =
      (be16Field.write buf (l.l4 + off) 0).length := by
    rw [be16Field.length_write, be16Field.length_write, hmoved.agree.1]
  have hrest : l4Rest (movedFrame host external mac l buf) l off = l4Rest buf l off := by
    unfold l4Rest
    rw [hmoved.agree.2 (l.l3 + 9) (by omega), slice_congr hlen fun i hi _ _ => ?_]
    rw [be16Field.byte_write, be16Field.byte_write, hmoved.agree.1, hmoved.agree.2 i (by omega)]
  rw [hrest]
  rfl

/-- **A valid frame stays valid exactly when it can be summed again.** -/
theorem promoteFrame_valid_iff (h : parseLayout buf = some l) (hk : l.l3Kind = .ipv4)
    (hmentions : Mentions host buf) (hvalid : checksumsValid buf l = true) :
    checksumsValid (promoteFrame host external mac buf) l = true ↔
      Resummable host external buf l := by
  have hl := parseLayout_packet h hk
  have hlayout := @parseLayout_moved host external mac buf l h hk
  have hl' := parseLayout_packet hlayout hk
  rw [promoteFrame_ipv4 h hk hmentions, checksumsValid_recompute_iff hlayout hk]
  obtain ⟨-, hbefore⟩ := (checksumsValid_iff_declared hl).mp hvalid
  refine forall₂_congr fun off hoff => ?_
  have hones := endAround_eq_ones_iff.mp (hbefore off hoff)
  have hpos := l4Sum_pos hl' hoff
  -- the sum before and after: the same rest, and the words of the two addresses
  obtain ⟨rest, hold, hnew⟩ := @l4Sum_moved host external mac buf l h hk off
  by_cases hall : l.l4 + off + 2 ≤ l.stop
  · -- all of the checksum is summed, so the recomputed one is right
    have hword : declaredWord l off (l4Word (movedFrame host external mac l buf) l off).toNat =
        (l4Word (movedFrame host external mac l buf) l off).toNat := if_pos hall
    rw [hword]
    exact iff_of_true (endAround_add_l4Word _ l off) (.inl hall)
  · unfold declaredField at hones
    unfold declaredWord at hones ⊢
    rw [if_neg hall] at hones ⊢
    by_cases hhalf : l.l4 + off < l.stop
    · -- only its high byte is
      rw [if_pos hhalf] at hones ⊢
      rw [be16_high, hold] at hones
      rw [declaredHigh_iff]
      simp only [endAround_eq_ones_iff]
      rw [hnew] at hpos ⊢
      constructor
      · rintro ⟨hi, hlt, hudp, -, hzero⟩
        exact .inr (.inr ⟨by omega, hi, hlt, hudp, by omega⟩)
      · rintro (hfull | ⟨hnone, -⟩ | ⟨-, hi, hlt, hudp, hsame⟩)
        · exact absurd hfull hall
        · omega
        · exact ⟨hi, hlt, hudp, by omega, by omega⟩
    · -- none of it is, so the addresses alone decide
      rw [if_neg hhalf] at hones ⊢
      rw [Nat.add_zero, hold] at hones
      rw [Nat.add_zero, endAround_eq_ones_iff, hnew]
      rw [hnew] at hpos
      constructor
      · rintro ⟨-, hzero⟩
        exact .inr (.inl ⟨by omega, by omega⟩)
      · rintro (hfull | ⟨-, hsame⟩ | ⟨hend, -⟩)
        · exact absurd hfull hall
        · exact ⟨hpos, by omega⟩
        · omega

/-- After a promotion an IPv4 frame does not mention the host, unless it moved to itself. -/
theorem promoteFrame_gone (hne : external ≠ host) (h : ¬ ArpMentions host buf) :
    ¬ Mentions host (promoteFrame host external mac buf) := by
  by_cases hmentions : Mentions host buf
  · -- the frame is IPv4, and both of its addresses are moved
    have hsome : frameIpv4Src buf ≠ none := fun hnone => h ⟨hmentions, hnone⟩
    obtain ⟨l, hparse, hk⟩ := frameIpv4Src_ne_none hsome
    have hlayout := @parseLayout_moved host external mac buf l hparse hk
    have hmoved := @movedFrame_spec host external mac buf l hparse hk
    have hl := parseLayout_packet hparse hk
    have hihl := hl.ihl
    have hl4 := hl.l4
    have hsums := recomputeChecksums_agree (movedFrame host external mac l buf) l
    -- no address is moved to the host, as the host itself is moved away
    have hnever : ∀ a, moveAddr host external a ≠ host := by
      intro a
      unfold moveAddr
      split
      · exact hne
      · next hother => exact hother
    rw [promoteFrame_ipv4 hparse hk hmentions,
      mentions_ipv4 (parseLayout_recompute hlayout hk) hk,
      hsums.be32_eq fun k hk hk' => by unfold ChecksumBytes; omega,
      hsums.be32_eq fun k hk hk' => by unfold ChecksumBytes; omega, hmoved.src, hmoved.dst]
    rintro (hsrc | hdst)
    · exact hnever _ hsrc
    · exact hnever _ hdst
  · rw [promoteFrame_self fun hm => absurd hm hmentions]
    exact hmentions

/-- A frame that leaves from the external address leaves from the new MAC. -/
theorem promoteFrame_mac (hnew : ¬ Mentions external buf)
    (h : frameIpv4Src (promoteFrame host external mac buf) = some external) :
    macAt (promoteFrame host external mac buf) 6 = mac := by
  by_cases hpromoted : Mentions host buf → frameIpv4Src buf = none
  · -- the frame is not written, and did not leave from there before
    rw [promoteFrame_self hpromoted] at h
    obtain ⟨l, hparse, hk⟩ := @frameIpv4Src_ne_none buf (by rw [h]; nofun)
    rw [frameIpv4Src_ipv4 hparse hk] at h
    exact absurd ((mentions_ipv4 hparse hk).mpr (.inl (Option.some.inj h))) hnew
  · rw [Classical.not_imp] at hpromoted
    obtain ⟨hmentions, hsome⟩ := hpromoted
    obtain ⟨l, hparse, hk⟩ := frameIpv4Src_ne_none hsome
    have hl3 := (parseLayout_l3 hparse).1
    have hlayout := @parseLayout_moved host external mac buf l hparse hk
    have hmoved := @movedFrame_spec host external mac buf l hparse hk
    have hl := parseLayout_packet hparse hk
    have hihl := hl.ihl
    have hl4 := hl.l4
    have hsums := recomputeChecksums_agree (movedFrame host external mac l buf) l
    rw [promoteFrame_ipv4 hparse hk hmentions] at h ⊢
    rw [frameIpv4Src_ipv4 (parseLayout_recompute hlayout hk) hk,
      hsums.be32_eq fun k hk hk' => by unfold ChecksumBytes; omega, hmoved.src] at h
    -- it leaves from the external address and did not before, so its source was the host
    have hsrc : be32 buf (l.l3 + 12) = host := by
      by_contra hother
      rw [moveAddr, if_neg hother] at h
      exact hnew ((mentions_ipv4 hparse hk).mpr (.inl (Option.some.inj h)))
    rw [hsums.macAt_eq fun k hk hk' => by unfold ChecksumBytes; omega]
    exact hmoved.mac hsrc

end Frame

/-! ## The whole capture

What one frame keeps the capture keeps, as a promotion goes frame by frame with one record. The
other direction needs a frame that was not moved completely, and there are two kinds: an ARP frame
that carried the host still does, and a valid frame whose checksum could not be written is not valid
now.
-/

/-- The host of a promotion has moved completely: no frame mentions it, what leaves from the new
address leaves from the new MAC, the new address is public, frames that did not mention the host
are what they were, and valid checksums are valid. -/
structure MovesCompletely (cap out : Capture) (record : PromotedHost) : Prop where
  gone : ∀ p ∈ out.packets, ¬ Mentions record.originalIp p.data
  mac : ∀ p ∈ out.packets,
    frameIpv4Src p.data = some record.externalIp → macAt p.data 6 = record.mac
  isPublic : isPublicUnicast record.externalIp = true
  others : List.Forall₂ (fun p q => ¬ Mentions record.originalIp p.data → q = p)
    cap.packets out.packets
  sums : List.Forall₂ (fun p q => ValidSums p.data → ValidSums q.data) cap.packets out.packets

/-- A frame from which a promotion removes a host completely: it does not carry the host as an ARP
address, and can be summed again. -/
def Removable (host external : Ipv4Addr) (buf : List UInt8) : Prop :=
  ¬ ArpMentions host buf ∧ ∀ l, parseLayout buf = some l → Mentions host buf →
    checksumsValid buf l = true → Resummable host external buf l

/-- An external address that is picked is public. -/
theorem pickExternal_public {cidrs : List String} {rng rng' : Rng} {external : Ipv4Addr}
    (h : pickExternal cidrs rng = some (external, rng')) : isPublicUnicast external = true := by
  unfold pickExternal at h
  split at h
  · have hmem := Rng.mem_of_pick h
    unfold externalHosts at hmem
    split at hmem
    · exact (List.mem_filter.mp (List.mem_of_mem_take hmem)).2
    · cases hmem
  · cases h

/-- The hosts that can be promoted are private. -/
theorem internalHosts_private {cap : Capture} {host : Ipv4Addr} (h : host ∈ internalHosts cap) :
    isPrivate host = true := by
  have hpush : ∀ (xs acc : List Ipv4Addr) (a : Ipv4Addr),
      a ∈ xs.foldl pushNew acc → a ∈ acc ∨ a ∈ xs := by
    intro xs
    induction xs with
    | nil => exact fun acc a ha => .inl ha
    | cons x xs ih =>
      intro acc a ha
      rcases ih _ a ha with hacc | hxs
      · unfold pushNew at hacc
        split at hacc
        · exact .inl hacc
        · rcases List.mem_append.mp hacc with hold | hx
          · exact .inl hold
          · exact .inr (List.mem_cons.mpr (.inl (List.mem_singleton.mp hx)))
      · exact .inr (List.mem_cons_of_mem _ hxs)
  rcases hpush _ _ host h with hnil | hmem
  · cases hnil
  · exact ((Bool.and_eq_true _ _).mp (List.mem_filter.mp hmem).2).1

/-- **What a promotion does**: a private host of the capture is moved, frame by frame, to a public
address. -/
theorem promoteHost_spec {cap out : Capture} {externalCidrs : List String} {oui : OuiDb}
    {now : UInt64} {rng : Rng} {record : PromotedHost}
    (h : (promoteHost cap externalCidrs oui now rng).1 = some (record, out)) :
    isPrivate record.originalIp = true ∧ isPublicUnicast record.externalIp = true ∧
      out = cap.mapData (promoteFrame record.originalIp record.externalIp record.mac) := by
  unfold promoteHost at h
  split at h
  · cases h
  · next host rng₁ hhost =>
    dsimp only at h
    split at h
    · cases h
    · next external rng₂ hexternal =>
      cases h
      exact ⟨internalHosts_private (Rng.mem_of_pick hhost), pickExternal_public hexternal, rfl⟩

/-- **A promotion moves its host completely exactly when no ARP frame carried the host, and every
valid frame that mentioned it can be summed again.** Both conditions are about the capture that came
in. -/
theorem promotion_moves_iff {cap out : Capture} {externalCidrs : List String} {oui : OuiDb}
    {now : UInt64} {rng : Rng} {record : PromotedHost}
    (h : (promoteHost cap externalCidrs oui now rng).1 = some (record, out))
    (hnew : ∀ p ∈ cap.packets, ¬ Mentions record.externalIp p.data) :
    MovesCompletely cap out record ↔
      ∀ p ∈ cap.packets, Removable record.originalIp record.externalIp p.data := by
  obtain ⟨hprivate, hpublic, rfl⟩ := promoteHost_spec h
  obtain ⟨host, external, mac, time⟩ := record
  dsimp only at *
  have hne : external ≠ host := by
    rintro rfl
    unfold isPublicUnicast at hpublic
    rw [hprivate, Bool.not_true, Bool.and_false, Bool.false_and] at hpublic
    cases hpublic
  -- an ARP frame stays as it is, and mentions the host still
  have harp : ∀ p ∈ cap.packets, ArpMentions host p.data →
      ¬ ∀ q ∈ (cap.mapData (promoteFrame host external mac)).packets, ¬ Mentions host q.data := by
    rintro p hp ⟨hmentions, hnone⟩ hgone
    refine hgone _ (List.mem_map_of_mem hp) ?_
    show Mentions host (promoteFrame host external mac p.data)
    rwa [promoteFrame_self fun _ => hnone]
  constructor
  · rintro ⟨hgone, -, -, -, hsums⟩ p hp
    have hno : ¬ ArpMentions host p.data := fun hmentions => harp p hp hmentions hgone
    refine ⟨hno, fun l hparse hmentions hvalid => ?_⟩
    have hk : l.l3Kind = .ipv4 := by
      by_contra hother
      refine hno ⟨hmentions, frameIpv4Src_eq_none fun l' hl' hk' => hother ?_⟩
      rw [hparse] at hl'
      cases hl'
      exact hk'
    have hstays := List.forall₂_same.mp (List.forall₂_map_right_iff.mp hsums) p hp
      ⟨l, hparse, hvalid⟩
    obtain ⟨l', hparse', hvalid'⟩ := hstays
    have hlayout : parseLayout (promoteFrame host external mac p.data) = some l := by
      rw [promoteFrame_ipv4 hparse hk hmentions]
      exact parseLayout_recompute (parseLayout_moved hparse hk) hk
    obtain rfl : l = l' := Option.some.inj (hlayout.symm.trans hparse')
    exact (promoteFrame_valid_iff hparse hk hmentions hvalid).mp hvalid'
  · intro hremovable
    refine ⟨?_, ?_, hpublic, ?_, ?_⟩
    · intro q hq
      obtain ⟨p, hp, rfl⟩ := List.mem_map.mp hq
      exact promoteFrame_gone hne (hremovable p hp).1
    · intro q hq hsrc
      obtain ⟨p, hp, rfl⟩ := List.mem_map.mp hq
      exact promoteFrame_mac (hnew p hp) hsrc
    · refine List.forall₂_map_right_iff.mpr (List.forall₂_same.mpr fun p _ hnot => ?_)
      rw [promoteFrame_self fun hm => absurd hm hnot]
    · refine List.forall₂_map_right_iff.mpr (List.forall₂_same.mpr ?_)
      rintro p hp ⟨l, hparse, hvalid⟩
      by_cases hmentions : Mentions host p.data
      · obtain ⟨hno, hsummable⟩ := hremovable p hp
        have hsome : frameIpv4Src p.data ≠ none := fun hnone => hno ⟨hmentions, hnone⟩
        obtain ⟨l', hparse', hk⟩ := frameIpv4Src_ne_none hsome
        obtain rfl : l = l' := Option.some.inj (hparse.symm.trans hparse')
        have hlayout : parseLayout (promoteFrame host external mac p.data) = some l := by
          rw [promoteFrame_ipv4 hparse hk hmentions]
          exact parseLayout_recompute (parseLayout_moved hparse hk) hk
        exact ⟨l, hlayout, (promoteFrame_valid_iff hparse hk hmentions hvalid).mpr
          (hsummable l hparse hmentions hvalid)⟩
      · show ValidSums (promoteFrame host external mac p.data)
        rw [promoteFrame_self fun hm => absurd hm hmentions]
        exact ⟨l, hparse, hvalid⟩

/-- The host of `onesFrame` asks for the one it sends to. -/
def whoHasFrame : List UInt8 :=
  [0xff, 0xff, 0xff, 0xff, 0xff, 0xff, 0x02, 0, 0, 0, 0, 2, 0x08, 0x06,
    0, 1, 0x08, 0, 6, 4, 0, 1, 0x02, 0, 0, 0, 0, 2, 10, 20, 10, 5, 0, 0, 0, 0, 0, 0, 10, 20, 10, 6]

/-- A datagram, and the ARP request in front of it. -/
def resolvedCapture : Capture := ⟨[⟨1, 42, whoHasFrame⟩, ⟨2, 44, onesFrame⟩]⟩

/-- Its host is promoted, and asks from the old address still. -/
theorem promotion_leaves_arp :
    ∃ record out, (promoteHost resolvedCapture ["203.0.113.0/24"] ⟨∅, ∅⟩ 5000 ⟨fun _ => 0, 0⟩).1 =
        some (record, out) ∧
      (∀ p ∈ resolvedCapture.packets, ¬ Mentions record.externalIp p.data) ∧
      ¬ MovesCompletely resolvedCapture out record := by
  refine ⟨⟨0x0A140A05, 0xCB007101, ⟨2, 0, 0, 0, 0, 0⟩, 5000⟩,
    resolvedCapture.mapData (promoteFrame 0x0A140A05 0xCB007101 ⟨2, 0, 0, 0, 0, 0⟩),
    by decide +kernel, by decide +kernel, fun hmoves => ?_⟩
  exact hmoves.gone ⟨1, 42, whoHasFrame⟩ (by decide +kernel) (by decide +kernel)

/-- Without the request it moves completely. -/
theorem promotion_moves_datagram :
    ∃ record out, (promoteHost ⟨[⟨2, 44, onesFrame⟩]⟩ ["203.0.113.0/24"] ⟨∅, ∅⟩ 5000
        ⟨fun _ => 0, 0⟩).1 = some (record, out) ∧
      MovesCompletely ⟨[⟨2, 44, onesFrame⟩]⟩ out record := by
  have hpromoted : (promoteHost ⟨[⟨2, 44, onesFrame⟩]⟩ ["203.0.113.0/24"] ⟨∅, ∅⟩ 5000
      ⟨fun _ => 0, 0⟩).1 = some (⟨0x0A140A05, 0xCB007101, ⟨2, 0, 0, 0, 0, 0⟩, 5000⟩,
        (⟨[⟨2, 44, onesFrame⟩]⟩ : Capture).mapData
          (promoteFrame 0x0A140A05 0xCB007101 ⟨2, 0, 0, 0, 0, 0⟩)) := by
    decide +kernel
  refine ⟨_, _, hpromoted, (promotion_moves_iff hpromoted (by decide +kernel)).mpr ?_⟩
  intro p hp
  obtain rfl := List.mem_singleton.mp hp
  refine ⟨by decide +kernel, fun l hparse _ _ off hoff => .inl ?_⟩
  -- the datagram declares all of its header
  have hlayout : parseLayout onesFrame = some onesLayout := by decide +kernel
  obtain rfl : onesLayout = l := Option.some.inj (hlayout.symm.trans hparse)
  cases hoff
  decide

end TurboLaser
