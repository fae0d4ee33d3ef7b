import TurboLaser.Proto.RewriteFacts
import TurboLaser.Synth.Eth

/-!
# ARP resolution (synth/arp.rs)

A host asks for an address by broadcast, and its owner answers to the asker alone. Both frames are
padded to the Ethernet minimum, so that a sensor does not count them as runts.

The two builders are one function of the opcode, the two pairs of addresses and the Ethernet
destination; a request leaves the target's hardware address zero and goes to everybody. Nothing of
the plant is decided here: who asks whom is a matter of the graph in `Simulate.ArpGraph`.

- `arpFrame`, `request`, `reply`, `resolve`: the builders;
- `bytes_arpFrame`: **the fields of a frame, where an observer reads them.** The oracle of `verify`
  reads at these offsets, written independently of the builder, and its counts rest on this lemma
  alone.
-/

namespace TurboLaser.Synth

open Lib

/-- `ETHERTYPE_ARP`. -/
def ethertypeArp : UInt16 := 0x0806

/-- `BROADCAST`. -/
def broadcast : Mac := ⟨0xff, 0xff, 0xff, 0xff, 0xff, 0xff⟩

/-- `ZERO_MAC`. -/
def zeroMac : Mac := ⟨0, 0, 0, 0, 0, 0⟩

/-- `OP_REQUEST`. -/
def opRequest : UInt16 := 1

/-- `OP_REPLY`. -/
def opReply : UInt16 := 2

/-- `arp`: an ARP frame for IPv4 over Ethernet, padded to 60 bytes. -/
def arpFrame (ethDst : Mac) (oper : UInt16) (senderMac : Mac) (senderIp : Ipv4Addr)
    (targetMac : Mac) (targetIp : Ipv4Addr) : Frame :=
  let p := toBeBytes16 1 ++ toBeBytes16 0x0800 ++ [6, 4] ++ toBeBytes16 oper ++ senderMac.bytes ++
    toBeBytes senderIp ++ targetMac.bytes ++ toBeBytes targetIp
  let f := l2Frame senderMac ethDst ethertypeArp p
  if f.length < 60 then f ++ List.replicate (60 - f.length) 0 else f

/-- `request`. -/
def arpRequest (senderMac : Mac) (senderIp targetIp : Ipv4Addr) : Frame :=
  arpFrame broadcast opRequest senderMac senderIp zeroMac targetIp

/-- `reply`. -/
def arpReply (senderMac : Mac) (senderIp : Ipv4Addr) (targetMac : Mac) (targetIp : Ipv4Addr) :
    Frame :=
  arpFrame targetMac opReply senderMac senderIp targetMac targetIp

/-- `resolve`: the request, and the reply of the owner. -/
def resolve (requesterMac : Mac) (requesterIp : Ipv4Addr) (ownerMac : Mac) (ownerIp : Ipv4Addr) :
    Frame × Frame :=
  (arpRequest requesterMac requesterIp ownerIp,
    arpReply ownerMac ownerIp requesterMac requesterIp)

section Fields

variable (ethDst : Mac) (oper : UInt16) (senderMac : Mac) (senderIp : Ipv4Addr) (targetMac : Mac)
  (targetIp : Ipv4Addr)

@[simp] theorem length_arpFrame :
    (arpFrame ethDst oper senderMac senderIp targetMac targetIp).length = 60 := by
  simp [arpFrame, l2Frame, ethernetHeader, Mac.bytes, toBeBytes16, toBeBytes]

/-- **An ARP frame is read back as it was built**: its Ethernet source, its operation, and the
addresses of the sender and the target. -/
theorem bytes_arpFrame :
    let b := arpFrame ethDst oper senderMac senderIp targetMac targetIp
    be16 b 12 = 0x0806 ∧ be16 b 20 = oper.toNat ∧ macAt b 6 = senderMac ∧ macAt b 22 = senderMac ∧
      be32 b 28 = senderIp ∧ be32 b 38 = targetIp := by
  intro b
  have hb : b = arpFrame ethDst oper senderMac senderIp targetMac targetIp := rfl
  simp only [arpFrame, l2Frame, ethernetHeader, Mac.bytes, toBeBytes16, toBeBytes,
    List.cons_append, List.nil_append, List.length_cons, List.length_nil, Nat.reduceAdd,
    Nat.reduceLT, if_true, Nat.reduceSub, List.replicate] at hb
  refine ⟨be16_of_bytes (x := ethertypeArp) ?_ ?_, be16_of_bytes ?_ ?_, ?_, ?_,
    be32_of_bytes ?_ ?_ ?_ ?_, be32_of_bytes ?_ ?_ ?_ ?_⟩
  all_goals simp only [hb, macAt, byte_cons_succ, byte_cons_zero]

end Fields

end TurboLaser.Synth
