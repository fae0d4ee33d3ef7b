import Mathlib.Data.List.AList
import TurboLaser.Proto.Frame
import TurboLaser.Proto.Mac

/-!
# Rewriting frames through a host map (proto/l3.rs)

The second half of both remaps: `applyHostMap` rewrites the addresses (and, with `remapMac`, the
MACs) of every frame in place, then two filters drop what must not reach the wire.
`dropIncoherentFrames` keeps a frame only when its addresses are in the plan,
`dropPayloadLeakFrames` drops a frame that still carries an original address anywhere in its bytes.

The map goes from addresses of the capture to addresses of the plan; an address that is not in it is
left alone. MACs follow the addresses: the plan's MAC of an address is the one on record in the
ledger, or else the one that the seed gives it. Every frame is rewritten for itself, so the
functions here are about one frame, and `applyHostMap` maps them over the capture.

Frames that are neither IPv4 nor whole ARP packets keep their bytes, and the guard that follows lets
pass only those of them that carry no addresses at all. `rewriteAndFilter` is the common tail of the
two remaps, in the source's order: the rewrite, the guard, and the filter for payloads.
-/

namespace TurboLaser

open Lib

/-- `HashMap<u32, u32>`: original address to plan address. -/
abbrev HostMap := AList fun _ : Ipv4Addr => Ipv4Addr

/-- `HashMap<u32, [u8; 6]>`: plan address to MAC override. -/
abbrev MacMap := AList fun _ : Ipv4Addr => Mac

/-- The values of a host map, as a set. -/
def HostMap.values (map : HostMap) : Finset Ipv4Addr := (map.entries.map Sigma.snd).toFinset

/-- The keys of a host map, as a set. -/
def HostMap.keySet (map : HostMap) : Finset Ipv4Addr := map.keys.toFinset

/-- `OwnedPacket`. -/
structure OwnedPacket where
  ts : Nat
  origLen : Nat
  data : List UInt8
deriving DecidableEq

/-- `Capture`: the header is not modelled, `pcapio::write` always emits its own. -/
structure Capture where
  packets : List OwnedPacket
deriving DecidableEq

/-- Keep the packets whose bytes pass. -/
def Capture.retain (cap : Capture) (keep : List UInt8 → Bool) : Capture :=
  ⟨cap.packets.filter fun p => keep p.data⟩

/-- Edit the bytes of every packet. -/
def Capture.mapData (cap : Capture) (f : List UInt8 → List UInt8) : Capture :=
  ⟨cap.packets.map fun p => { p with data := f p.data }⟩

/-- `is_arp_ipv4`: ARP for IPv4 over Ethernet, with all its 28 bytes captured. -/
def isArpIpv4 (buf : List UInt8) (l3 : Nat) : Bool :=
  decide (2 ≤ l3) && decide (l3 + 28 ≤ buf.length) && decide (be16 buf (l3 - 2) = 0x0806) &&
    decide (be16 buf l3 = 1) && decide (be16 buf (l3 + 2) = 0x0800) &&
    decide (byte buf (l3 + 4) = 6) && decide (byte buf (l3 + 5) = 4)

/-- `mac_for`: an explicit override if present, else the natural MAC. -/
def macFor (macMap : MacMap) (seed : UInt64) (newIp : Ipv4Addr) : Mac :=
  (macMap.lookup newIp).getD (hostMac seed newIp)

/-- Overwrite the word at `off` when there is a new address. -/
def setAddr (buf : List UInt8) (off : Nat) : Option Ipv4Addr → List UInt8
  | none => buf
  | some a => write buf off (toBeBytes a)

/-- Overwrite the six bytes at `off` with the MAC of a new address, when there is one. -/
def setMacFor (macMap : MacMap) (seed : UInt64) (buf : List UInt8) (off : Nat) :
    Option Ipv4Addr → List UInt8
  | none => buf
  | some ip => write buf off (macFor macMap seed ip).bytes

/-- The IPv4 branch of `apply_host_map`. -/
def rewriteIpv4 (map : HostMap) (macMap : MacMap) (seed : UInt64) (remapMac : Bool)
    (l : FrameLayout) (buf : List UInt8) : List UInt8 :=
  let newSrc := map.lookup (be32 buf (l.l3 + 12))
  let buf := setAddr buf (l.l3 + 12) newSrc
  let newDst := map.lookup (be32 buf (l.l3 + 16))
  let buf := setAddr buf (l.l3 + 16) newDst
  let buf := if newSrc.isSome || newDst.isSome then recomputeChecksums buf l else buf
  if remapMac then
    let buf := setMacFor macMap seed buf 6 newSrc
    -- broadcast and multicast destination MACs stay
    if byte buf 0 &&& 0x01 = 0 then setMacFor macMap seed buf 0 newDst else buf
  else buf

/-- A target hardware address is a real one: neither all zero nor all ones. -/
def isRealMac (mac : List UInt8) : Bool :=
  !(mac.all fun b => b == 0) && !(mac.all fun b => b == 0xff)

/-- `remap_arp_addrs`: sender first, then target. -/
def remapArpAddrs (map : HostMap) (macMap : MacMap) (seed : UInt64) (remapMac : Bool)
    (l3 : Nat) (buf : List UInt8) : List UInt8 :=
  if isArpIpv4 buf l3 then
    let nspa := map.lookup (be32 buf (l3 + 14))
    let buf := setAddr buf (l3 + 14) nspa
    let buf := if remapMac then
        setMacFor macMap seed (setMacFor macMap seed buf (l3 + 8) nspa) 6 nspa
      else buf
    let ntpa := map.lookup (be32 buf (l3 + 24))
    let buf := setAddr buf (l3 + 24) ntpa
    -- a request's target hardware address is zero and stays
    if remapMac && isRealMac (slice buf (l3 + 18) (l3 + 24)) then
      setMacFor macMap seed (setMacFor macMap seed buf (l3 + 18) ntpa) 0 ntpa
    else buf
  else buf

/-- `apply_host_map` on one frame. -/
def applyHostMapFrame (map : HostMap) (macMap : MacMap) (seed : UInt64) (remapMac : Bool)
    (buf : List UInt8) : List UInt8 :=
  match parseLayout buf with
  | none => buf
  | some l =>
    match l.l3Kind with
    | .ipv4 => rewriteIpv4 map macMap seed remapMac l buf
    | .other => remapArpAddrs map macMap seed remapMac l.l3 buf

/-- `apply_host_map`. -/
def applyHostMap (cap : Capture) (map : HostMap) (macMap : MacMap) (seed : UInt64)
    (remapMac : Bool) : Capture :=
  cap.mapData (applyHostMapFrame map macMap seed remapMac)

/-! ## Output filters -/

/-- `drop_oversize_frames`. -/
def dropOversizeFrames (cap : Capture) (maxFrame : Nat) : Capture :=
  cap.retain fun data => decide (data.length ≤ maxFrame)

/-- `drop_arp_frames`. -/
def dropArpFrames (cap : Capture) : Capture :=
  cap.retain fun data =>
    match parseLayout data with
    | some l => if 2 ≤ l.l3 then be16 data (l.l3 - 2) != 0x0806 else true
    | none => true

/-- A frame carries the address in some window of four bytes. -/
def carriesAddr (originals : Finset Ipv4Addr) (data : List UInt8) : Bool :=
  (windows4 data).any fun w => decide (∃ a ∈ originals, toBeBytes a = w)

/-- `drop_payload_leak_frames`. -/
def dropPayloadLeakFrames (cap : Capture) (originals : Finset Ipv4Addr) : Capture :=
  cap.retain fun data => !carriesAddr originals data

/-- A destination may leave: not a host address, or one of the plan. -/
def dstOk (valid : Finset Ipv4Addr) (a : Ipv4Addr) : Bool := !isRemappable a || decide (a ∈ valid)

/-- A source must be a plan host. -/
def srcIsPlan (valid : Finset Ipv4Addr) (a : Ipv4Addr) : Bool :=
  isRemappable a && decide (a ∈ valid)

/-- `frame_is_plan_coherent`. -/
def frameIsPlanCoherent (valid : Finset Ipv4Addr) (buf : List UInt8) : Bool :=
  match parseLayout buf with
  | none => false
  | some l =>
    match l.l3Kind with
    | .ipv4 =>
      if buf.length < l.l3 + 20 then false
      -- a truncated packet cannot be re-checksummed coherently
      else if buf.length < l.l3 + be16 buf (l.l3 + 2) then false
      else srcIsPlan valid (be32 buf (l.l3 + 12)) && dstOk valid (be32 buf (l.l3 + 16))
    | .other =>
      if l.l3 < 2 then false
      else if be16 buf (l.l3 - 2) = 0x0806 ∧ isArpIpv4 buf l.l3 = true then
        srcIsPlan valid (be32 buf (l.l3 + 14)) && dstOk valid (be32 buf (l.l3 + 24))
      else false

/-- `drop_incoherent_frames`. -/
def dropIncoherentFrames (cap : Capture) (valid : Finset Ipv4Addr) : Capture :=
  cap.retain (frameIsPlanCoherent valid)

/-- The common tail of both remaps: rewrite, then drop what is not plan-coherent,
then drop what still leaks an original address. -/
def rewriteAndFilter (cap : Capture) (map : HostMap) (macMap : MacMap) (seed : UInt64)
    (remapMac : Bool) : Capture :=
  let cap := applyHostMap cap map macMap seed remapMac
  let cap := dropIncoherentFrames cap map.values
  if map.keySet = ∅ then cap else dropPayloadLeakFrames cap map.keySet

end TurboLaser
