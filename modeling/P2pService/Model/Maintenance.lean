import P2pService.Model.Backoff
import P2pService.Model.Peerstore

/-!
# What a maintenance tick dials

The lists of a tick, each as a function of the network snapshot. A list that the source shuffles is
a multiset here, and the order it is dialed in is given from outside.
-/

namespace P2pService
open Library

def backoffBase : Duration := 10 ^ 9

def backoffCap : Duration := 300 * 10 ^ 9

def peerstoreMaxAgeSecs : Nat := 7 * 24 * 3600

def maxPreferredDialsPerTick : Nat := 16

namespace Maintenance

variable {PeerId : Type}

def splitPeerMultiaddr (addr : Multiaddr PeerId) : Option (PeerId × Multiaddr PeerId) :=
  match addr.getLast? with
  | some (.p2p peerId) => some (peerId, addr.dropLast)
  | _ => none

def isUndialable (addr : Multiaddr PeerId) : Bool :=
  addr.any fun
    | .ip4 ip => ip.isLoopback || ip.isUnspecified
    | .ip6 ip => Ipv6Addr.isLoopback ip || Ipv6Addr.isUnspecified ip
    | _ => false

variable [DecidableEq PeerId]

def bootstrapCandidates (bootstrap : List (PeerId × Multiaddr PeerId)) (connected : Finset PeerId) :
    List (PeerId × List (Multiaddr PeerId)) :=
  if bootstrap.any fun peer => peer.1 ∈ connected then []
  else bootstrap.map fun peer => (peer.1, [peer.2])

/-- The preferred peers that are not connected and have an address worth dialing, before they are
shuffled. -/
def preferredCandidates (preferred : Multiset (PeerId × List (Multiaddr PeerId)))
    (connected : Finset PeerId) : Multiset (PeerId × List (Multiaddr PeerId)) :=
  preferred.filterMap fun peer =>
    let dialable := peer.2.filter fun addr => !isUndialable addr
    if peer.1 ∈ connected ∨ dialable = [] then none else some (peer.1, dialable)

def refillCandidates (lowWater : Nat) (stored : Multiset (PeerId × Multiaddr PeerId))
    (connected : Finset PeerId) : Multiset (PeerId × Multiaddr PeerId) :=
  if connected.card < lowWater then
    stored.filter fun peer => peer.1 ∉ connected ∧ !isUndialable peer.2
  else 0

def refillBudget (lowWater : Nat) (connected : Finset PeerId) : Nat :=
  lowWater - connected.card + 2

/-- Everything a tick goes through, in order, given how the two lists were shuffled. -/
def candidates (bootstrap : List (PeerId × Multiaddr PeerId)) (lowWater : Nat)
    (connected : Finset PeerId) (preferred : List (PeerId × List (Multiaddr PeerId)))
    (refill : List (PeerId × Multiaddr PeerId)) : List (PeerId × List (Multiaddr PeerId)) :=
  bootstrapCandidates bootstrap connected ++ preferred.take maxPreferredDialsPerTick ++
    (refill.take (refillBudget lowWater connected)).map fun peer => (peer.1, [peer.2])

end Maintenance
end P2pService
