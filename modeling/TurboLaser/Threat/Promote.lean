import TurboLaser.Text
import TurboLaser.Proto.Rewrite
import TurboLaser.Proto.Remap

/-!
# Host promotion (threat/mod.rs)

A promotion makes an outsider of a host of a capture: its address is moved to an external network,
and its frames leave from a desktop MAC. `promoteHost` draws the host, the external address and the
MAC, in this order, and rewrites the capture in place.

The candidates are the private, unicast sources of the capture, each once, in the order in which
they first appear; the external ranges come from the configuration, and hosts of them that are not
public are left out. With nothing to draw from there is no promotion, and the capture goes out as it
was.

- `isPublicUnicast`: what counts as external;
- `promoteHost`: the promotion;
- `promoteHost_isSome_iff`: **a capture can be promoted exactly when it shows an internal host and
  there is an external range to move it to**, whatever is drawn. The draws decide who and where to,
  and not whether.
-/

namespace TurboLaser

open Lib

/-- `PromotedHost`. -/
structure PromotedHost where
  originalIp : Ipv4Addr
  externalIp : Ipv4Addr
  mac : Mac
  promotedUnix : UInt64
deriving DecidableEq

/-- `FALLBACK_DESKTOP_OUI`. -/
def fallbackDesktopOui : Oui := ⟨0x00, 0x50, 0x56⟩

/-- `OuiDb::vendor_of_prefix`. -/
def OuiDb.vendorOfPrefix (oui : OuiDb) (p : Oui) : Option String := oui.map.lookup p

/-! ## Addresses -/

/-- `Ipv4Addr::is_private`. -/
def isPrivate (a : Ipv4Addr) : Bool :=
  decide (a >>> 24 = 10) || decide (a >>> 20 = 0xAC1) || decide (a >>> 16 = 0xC0A8)

/-- `Ipv4Addr::is_link_local`. -/
def isLinkLocal (a : Ipv4Addr) : Bool := decide (a >>> 16 = 0xA9FE)

/-- `is_unicast`. -/
def isUnicast (a : Ipv4Addr) : Bool :=
  let o0 := a >>> 24
  o0 != 0 && o0 != 127 && decide (o0 < 224)

/-- `is_public_unicast`. -/
def isPublicUnicast (a : Ipv4Addr) : Bool := isUnicast a && !isPrivate a && !isLinkLocal a

/-- The addresses of a configured range that a promoted host may be given: at most 1024. -/
def externalHosts (cidr : String) : List Ipv4Addr :=
  match parseIpv4Net cidr with
  | some net => (net.hosts.filter isPublicUnicast).take 1024
  | none => []

/-- `pick_external`: an address of the first range that has one. -/
def pickExternal (cidrs : List String) (rng : Rng) : Option (Ipv4Addr × Rng) :=
  match cidrs.find? fun c => decide (externalHosts c ≠ []) with
  | some c => rng.pick (externalHosts c)
  | none => none

/-! ## What a capture shows -/

/-- `insert` of a set, with the elements in the order of their insertion. -/
def pushNew {α : Type} [DecidableEq α] (xs : List α) (x : α) : List α :=
  if x ∈ xs then xs else xs ++ [x]

/-- The frames `promote_host` looks at, each with its layout: IPv4 with a whole header. -/
def ipv4Frames (cap : Capture) : List (List UInt8 × FrameLayout) :=
  cap.packets.filterMap fun p =>
    match parseLayout p.data with
    | some l => if l.l3Kind ≠ .ipv4 ∨ p.data.length < l.l3 + 20 then none else some (p.data, l)
    | none => none

/-- The internal hosts that send, in order of appearance. -/
def internalHosts (cap : Capture) : List Ipv4Addr :=
  (((ipv4Frames cap).map fun (d, l) => be32 d (l.l3 + 12)).filter fun a =>
    isPrivate a && isUnicast a).foldl pushNew []

/-- The prefixes that send and belong to no vendor of the table, in order of appearance. -/
def desktopOuis (oui : OuiDb) (cap : Capture) : List Oui :=
  ((((ipv4Frames cap).map Prod.fst).filter fun d => decide (12 ≤ d.length)).map
    fun d => (⟨byte d 6, byte d 7, byte d 8⟩ : Oui)).filter (fun p => (oui.vendorOfPrefix p).isNone)
    |>.foldl pushNew []

/-! ## The promotion -/

/-- `rng.gen::<u8>()`. -/
def Rng.genByte (rng : Rng) : UInt8 × Rng := (UInt8.ofNat (rng.draw rng.pos), rng.advance)

/-- The MAC of a promoted host: a desktop prefix of the capture, and three random bytes. -/
def desktopMac (ouis : List Oui) (rng : Rng) : Mac × Rng :=
  let (oui, rng) := (rng.pick ouis).getD (fallbackDesktopOui, rng)
  let (b3, rng) := rng.genByte
  let (b4, rng) := rng.genByte
  let (b5, rng) := rng.genByte
  (⟨oui.o0, oui.o1, oui.o2, b3, b4, b5⟩, rng)

/-- One frame of a promotion. The checksums follow an address that changed. -/
def promoteFrame (host external : Ipv4Addr) (mac : Mac) (buf : List UInt8) : List UInt8 :=
  match parseLayout buf with
  | none => buf
  | some l =>
    let fromHost := decide (l.l3Kind = .ipv4) && decide (be32 buf (l.l3 + 12) = host)
    let buf :=
      if fromHost then write (write buf (l.l3 + 12) (toBeBytes external)) 6 mac.bytes else buf
    let toHost := decide (l.l3Kind = .ipv4) && decide (be32 buf (l.l3 + 16) = host)
    let buf := if toHost then write buf (l.l3 + 16) (toBeBytes external) else buf
    if fromHost || toHost then recomputeChecksums buf l else buf

/-- `promote_host`: the record and the rewritten capture, and the generator. -/
def promoteHost (cap : Capture) (externalCidrs : List String) (oui : OuiDb) (now : UInt64)
    (rng : Rng) : Option (PromotedHost × Capture) × Rng :=
  match rng.pick (internalHosts cap) with
  | none => (none, rng)
  | some (host, rng) =>
    match pickExternal externalCidrs rng with
    | none => (none, rng)
    | some (external, rng) =>
      let (mac, rng) := desktopMac (desktopOuis oui cap) rng
      (some (⟨host, external, mac, now⟩, cap.mapData (promoteFrame host external mac)), rng)

/-! ## What can be promoted -/

/-- A draw from a list succeeds unless it is empty. -/
theorem Rng.pick_isSome_iff {α : Type} (rng : Rng) {xs : List α} :
    (rng.pick xs).isSome = true ↔ xs ≠ [] := by
  unfold Rng.pick Rng.genRange
  rw [Option.isSome_map]
  constructor
  · rintro hsome rfl
    cases hsome
  · intro hne
    have hpos : 0 < xs.length := List.length_pos_iff.mpr hne
    rw [List.getElem?_eq_getElem (Nat.mod_lt _ hpos)]
    rfl

theorem pickExternal_isSome_iff {cidrs : List String} (rng : Rng) :
    (pickExternal cidrs rng).isSome = true ↔ ∃ c ∈ cidrs, externalHosts c ≠ [] := by
  unfold pickExternal
  split
  · next c hfind =>
    have hc : externalHosts c ≠ [] := by simpa using List.find?_some hfind
    exact iff_of_true ((Rng.pick_isSome_iff rng).mpr hc) ⟨c, List.mem_of_find?_eq_some hfind, hc⟩
  · next hfind =>
    refine iff_of_false (by simp) ?_
    rintro ⟨c, hc, hne⟩
    exact absurd (decide_eq_true hne) (List.find?_eq_none.mp hfind c hc)

/-- A host of the capture can be promoted. -/
def Promotable (cap : Capture) (externalCidrs : List String) : Prop :=
  internalHosts cap ≠ [] ∧ ∃ c ∈ externalCidrs, externalHosts c ≠ []

instance (cap : Capture) (externalCidrs : List String) :
    Decidable (Promotable cap externalCidrs) :=
  inferInstanceAs (Decidable (_ ∧ ∃ c ∈ externalCidrs, _))

/-- **Whether a promotion succeeds does not depend on what is drawn.** -/
theorem promoteHost_isSome_iff {cap : Capture} {externalCidrs : List String} {oui : OuiDb}
    {now : UInt64} {rng : Rng} :
    (promoteHost cap externalCidrs oui now rng).1.isSome = true ↔
      Promotable cap externalCidrs := by
  unfold promoteHost Promotable
  rw [← Rng.pick_isSome_iff rng]
  cases hpick : rng.pick (internalHosts cap) with
  | none => simp
  | some picked =>
    obtain ⟨host, rng₁⟩ := picked
    rw [← pickExternal_isSome_iff rng₁]
    dsimp only
    cases pickExternal externalCidrs rng₁ with
    | none => simp
    | some external => simp

/-- The record carries the time of the promotion. -/
theorem promotedUnix_of_promoteHost {cap out : Capture} {externalCidrs : List String} {oui : OuiDb}
    {now : UInt64} {rng : Rng} {record : PromotedHost}
    (h : (promoteHost cap externalCidrs oui now rng).1 = some (record, out)) :
    record.promotedUnix = now := by
  unfold promoteHost at h
  split at h
  · cases h
  · dsimp only at h
    split at h
    · cases h
    · cases h
      rfl

end TurboLaser
