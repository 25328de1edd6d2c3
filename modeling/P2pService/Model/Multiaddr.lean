import Mathlib.Logic.Basic

/-!
# Addresses

A multiaddr is a list of protocol components. Peer ids are compared and printed, never inspected,
so they are a type parameter throughout.
-/

namespace P2pService

structure Ipv4Addr where
  octets : UInt8 × UInt8 × UInt8 × UInt8
  deriving DecidableEq, Repr

namespace Ipv4Addr

def isLoopback (ip : Ipv4Addr) : Bool := ip.octets.1 = 127

def isUnspecified (ip : Ipv4Addr) : Bool := ip.octets = (0, 0, 0, 0)

end Ipv4Addr

abbrev Ipv6Addr := BitVec 128

namespace Ipv6Addr

def isLoopback (ip : Ipv6Addr) : Bool := ip = 1

def isUnspecified (ip : Ipv6Addr) : Bool := ip = 0

end Ipv6Addr

inductive Protocol (PeerId : Type) where
  | ip4 (ip : Ipv4Addr)
  | ip6 (ip : Ipv6Addr)
  | tcp (port : UInt16)
  | dns (name : String)
  | p2p (peerId : PeerId)
  | other (code : Nat) (payload : List UInt8)
  deriving DecidableEq, Repr

abbrev Multiaddr (PeerId : Type) := List (Protocol PeerId)

/-- `Display` and `FromStr` of a libp2p type. -/
class TextCodec (α : Type) where
  toStr : α → String
  fromStr : String → Option α

/-- The two ends of a connection, as the swarm reports them: the side that dialed knows the address
it dialed, the other side the address the dialer appeared to come from. -/
inductive Endpoint (PeerId : Type) where
  | dialer (address : Multiaddr PeerId)
  | listener (localAddr sendBackAddr : Multiaddr PeerId)
  deriving DecidableEq, Repr

namespace Endpoint

variable {PeerId : Type}

def isDialer : Endpoint PeerId → Bool
  | .dialer _ => true
  | .listener _ _ => false

def getRemoteAddress : Endpoint PeerId → Multiaddr PeerId
  | .dialer address => address
  | .listener _ sendBackAddr => sendBackAddr

end Endpoint
end P2pService
