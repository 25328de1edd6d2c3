import P2pService.Model.Config
import P2pService.World.Tick

/-!
# The refill of a tick, and the connections it opens

A tick that has nothing but refill candidates, beside a run of the event loop in which the tick's
dials succeed one after the other.
-/

namespace P2pService
open Library

variable {PeerId : Type}

def P2PConfig.tickInputs (config : P2PConfig PeerId) (snapshot : NetworkSnapshot PeerId)
    (peerstore : PeerStore) (nowUnix : Nat) : TickInputs PeerId where
  bootstrapMultiaddrs := config.peers
  lowWater := config.lowWater
  snapshot := snapshot
  peerstore := peerstore
  nowUnix := nowUnix

def Label.opening? : Label PeerId → Option (PeerId × Endpoint PeerId)
  | .event _ (.connectionEstablished peer endpoint _) => some (peer, endpoint)
  | _ => none

def Label.openings (labels : List (Label PeerId)) : List (PeerId × Endpoint PeerId) :=
  labels.filterMap opening?

/-- The label closes no connection and changes no preferred set. -/
def Label.steady : Label PeerId → Bool
  | .event _ (.connectionClosed _ _ _ _) | .command _ (.setPreferredPeers _ _) => false
  | _ => true

/-- The connection that dialing the candidate opened. Its address is a dialed one, up to what the
swarm adds to it. -/
def Candidate.Opened (candidate : Candidate PeerId) (opening : PeerId × Endpoint PeerId) : Prop :=
  opening.1 = candidate.peer ∧ opening.2.isDialer ∧ ∃ addr ∈ candidate.addrs,
    SubnetLimits.subnet opening.2.getRemoteAddress = SubnetLimits.subnet addr

variable [DecidableEq PeerId]

def TickInputs.OnlyRefills (inputs : TickInputs PeerId) : Prop :=
  Tick.bootstrapCandidates inputs = [] ∧ inputs.preferred = 0

structure P2PConfig.Configures (config : P2PConfig PeerId) (loop : EventLoop PeerId) : Prop where
  settings : ∃ protectedCap, loop.settings = config.networkSettings protectedCap
  bootstrapPeers : loop.bootstrapPeers = config.bootstrapPeerIds

variable [TextCodec PeerId] [TextCodec (Multiaddr PeerId)]

def World.Spares (world : World PeerId) : Label PeerId → Prop
  | .event now (.connectionEstablished peer endpoint id) => ∀ q, .disconnectPeerId q ∉
      (world.loop.handleEvent now (.connectionEstablished peer endpoint id)).effects
  | _ => True

/-- All dials of the tick succeed, at addresses in subnets of their own, and nothing else happens to
the connections and the preferred peers. -/
structure RefillRun (world : World PeerId) {inputs : TickInputs PeerId} (tick : Tick inputs)
    (labels : List (Label PeerId)) : Prop where
  legal : (networkSystem PeerId).Legal world labels
  steady : ∀ label ∈ labels, label.steady
  succeeded : ∀ dial ∈ tick.dials, dial.moment.result = .connected
  opened : List.Forall₂ Candidate.Opened (tick.dials.map Dial.candidate) (Label.openings labels)
  apart : ((Label.openings labels).map fun opening =>
    SubnetLimits.subnet opening.2.getRemoteAddress).Nodup
  unused : ∀ opening ∈ Label.openings labels, ∃ s,
    SubnetLimits.subnet opening.2.getRemoteAddress = some s ∧ world.swarm.inSubnet s = ∅

/-- Stored candidates that one tick can dial, at addresses in subnets of their own. -/
structure Refillable (world : World PeerId) (inputs : TickInputs PeerId)
    (pairs : Finset (PeerId × Multiaddr PeerId)) : Prop where
  stored : ∀ pair ∈ pairs, pair ∈ inputs.refill
  peers : Set.InjOn Prod.fst (pairs : Set (PeerId × Multiaddr PeerId))
  apart : Set.InjOn (fun pair => SubnetLimits.subnet pair.2)
    (pairs : Set (PeerId × Multiaddr PeerId))
  unused : ∀ pair ∈ pairs, ∃ s, SubnetLimits.subnet pair.2 = some s ∧
    world.swarm.inSubnet s = ∅
  budget : pairs.card ≤ inputs.refillBudget

end P2pService
