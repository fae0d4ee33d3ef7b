import TurboLaser.Threat.Promote

/-!
# The public address backstop (proto/l3.rs)

With the remap off, the run loop asks `carries_public_address` about every frame before it is
replayed: a frame with a public source or destination must not reach a bridge that may lead to the
Internet. The answer is yes for whatever cannot be parsed, so that the doubtful cases are held back.

Only the functions are here, as the source has them: what counts as routable for IPv4 (the special
networks are excluded one by one), for IPv6 (by the leading bytes) and for ARP. That the answer is
safe, and for which frames it is not, is in `Proto.FailsClosed`, where an independent reader of
frames is compared with it. The two predicates for IPv4 differ from the one that selects hosts for
the remap, `isRemappable`: the remap moves private addresses too.
-/

namespace TurboLaser

open Lib

/-- `Ipv4Addr::is_loopback`. -/
def isLoopback (a : Ipv4Addr) : Bool := decide (a >>> 24 = 127)

/-- `l3::is_public_unicast`. -/
def L3.isPublicUnicast (a : Ipv4Addr) : Bool :=
  isUnicast a && !isPrivate a && !isLoopback a && !isLinkLocal a

/-- An IPv6 address is neither link-local nor multicast, and not unspecified. -/
def routable (buf : List UInt8) (o : Nat) : Bool :=
  let linkLocal := decide (byte buf o = 0xfe) && decide (byte buf (o + 1) &&& 0xc0 = 0x80)
  let multicast := decide (byte buf o = 0xff)
  let unspecified := (slice buf o (o + 16)).all fun x => decide (x = 0)
  !linkLocal && !multicast && !unspecified

/-- `ipv6_carries_routable`. -/
def ipv6CarriesRoutable (buf : List UInt8) (l3 : Nat) : Bool :=
  if buf.length < l3 + 40 then true else routable buf (l3 + 8) || routable buf (l3 + 24)

/-- `carries_public_address`. -/
def carriesPublicAddress (buf : List UInt8) : Bool :=
  match parseLayout buf with
  | none => true
  | some l =>
    match l.l3Kind with
    | .ipv4 =>
      if buf.length < l.l3 + 20 then true
      else
        L3.isPublicUnicast (be32 buf (l.l3 + 12)) || L3.isPublicUnicast (be32 buf (l.l3 + 16))
    | .other =>
      if l.l3 < 2 then true
      else
        let ethertype := be16 buf (l.l3 - 2)
        if ethertype = 0x86dd then ipv6CarriesRoutable buf l.l3
        else if ethertype = 0x0806 then
          if isArpIpv4 buf l.l3 = true then
            L3.isPublicUnicast (be32 buf (l.l3 + 14)) || L3.isPublicUnicast (be32 buf (l.l3 + 24))
          else false
        -- pure L2 has no IP to leak
        else false

end TurboLaser
