import P2pService.Library.System
import P2pService.Model.Network

/-!
# The event loop and its swarm

A world is the event loop together with what its swarm knows: the open connections, the outgoing
attempts in flight and gossipsub's score records. Labels are what can happen next: an event of the
swarm handled by the loop, a command handled by the loop, a dial started by one of the swarm's
behaviours, a score record forgotten.

`networkSystem` assumes of the swarm that connections are matched: an id is established once and
closed once, as the same connection, and the count reported at a close is the number of
connections the peer still has. `dialSystem` assumes in addition how outgoing attempts start and
end, and `exactDialSystem` when a dial is refused for its condition.
-/

namespace P2pService
open Library

structure Connection (PeerId : Type) where
  id : ConnectionId
  peer : PeerId
  remoteAddr : Multiaddr PeerId
  deriving DecidableEq, Repr

def Connection.subnet {PeerId : Type} (connection : Connection PeerId) : Option Subnet :=
  SubnetLimits.subnet connection.remoteAddr

structure Swarm (PeerId : Type) where
  connections : Finset (Connection PeerId)
  /-- The ids of all connections there ever were. -/
  established : Finset ConnectionId
  /-- The connections the loop asked to close, on their own or with their peer. -/
  closing : Finset (Connection PeerId)
  /-- The peers an outgoing attempt is in flight to. -/
  attempts : Finset PeerId
  /-- Gossipsub's score records, by their application score. -/
  scores : PeerId → Option Score

inductive Label (PeerId : Type) where
  | event (now : Nat) (event : SwarmEvent PeerId)
  | command (view : SwarmView PeerId) (command : Command PeerId)
  /-- A behaviour of the swarm starts an attempt of its own. -/
  | behaviourDial (peer : PeerId)
  /-- Gossipsub forgets a peer that is not connected. -/
  | forgetScore (peer : PeerId)

structure World (PeerId : Type) where
  loop : EventLoop PeerId
  swarm : Swarm PeerId
  senders : Finset Sender
  /-- The dial commands received: whose answer is due for which peer. -/
  dials : List (Sender × PeerId)
  answers : List (Sender × Answer PeerId)

section

variable {PeerId : Type}

def Effect.answer? : Effect PeerId → Option (Sender × Answer PeerId)
  | .answer sender reply => some (sender, reply)
  | _ => none

def Command.dialed : Command PeerId → List (Sender × PeerId)
  | .dial peer _ sender => [(sender, peer)]
  | _ => []

def Label.sender? : Label PeerId → Option Sender
  | .command _ asked => some asked.sender
  | _ => none

def Swarm.empty : Swarm PeerId := ⟨∅, ∅, ∅, ∅, fun _ => none⟩

def Swarm.inSubnet (swarm : Swarm PeerId) (subnet : Subnet) : Finset (Connection PeerId) :=
  swarm.connections.filter (·.subnet = some subnet)

end

variable {PeerId : Type} [DecidableEq PeerId]

namespace Swarm

def connectionsOf (swarm : Swarm PeerId) (peer : PeerId) : Finset (Connection PeerId) :=
  swarm.connections.filter (·.peer = peer)

def peers (swarm : Swarm PeerId) : Finset PeerId := swarm.connections.image (·.peer)

def kept (swarm : Swarm PeerId) : Finset (Connection PeerId) := swarm.connections \ swarm.closing

def Free (swarm : Swarm PeerId) (peer : PeerId) : Prop :=
  peer ∉ swarm.peers ∧ peer ∉ swarm.attempts

instance (swarm : Swarm PeerId) (peer : PeerId) : Decidable (swarm.Free peer) :=
  inferInstanceAs (Decidable (_ ∧ _))

def report (swarm : Swarm PeerId) : SwarmEvent PeerId → Swarm PeerId
  | .connectionEstablished peer endpoint id =>
      { swarm with
        connections := insert ⟨id, peer, endpoint.getRemoteAddress⟩ swarm.connections
        established := insert id swarm.established
        attempts := if endpoint.isDialer then swarm.attempts.erase peer else swarm.attempts
        -- a peer without a score record gets one
        scores := fun q => if q = peer then some ((swarm.scores q).getD 0) else swarm.scores q }
  | .connectionClosed peer endpoint id _ =>
      { swarm with connections := swarm.connections.erase ⟨id, peer, endpoint.getRemoteAddress⟩ }
  | .outgoingConnectionError (some peer) _ => { swarm with attempts := swarm.attempts.erase peer }
  | _ => swarm

def perform (swarm : Swarm PeerId) : Effect PeerId → Swarm PeerId
  | .dial peer _ (.ok ()) => { swarm with attempts := insert peer swarm.attempts }
  | .disconnectPeerId peer => { swarm with closing := swarm.closing ∪ swarm.connectionsOf peer }
  | .closeConnection id =>
      { swarm with closing := swarm.closing ∪ swarm.connections.filter (·.id = id) }
  | .setApplicationScore peers score =>
      { swarm with
        scores := fun q => if q ∈ peers then (swarm.scores q).map fun _ => score else swarm.scores q }
  | _ => swarm

end Swarm

namespace World

def start (subscriptions : Subscriptions) (peerstore : PeerStore) (settings : NetworkSettings)
    (bootstrapPeers : Finset PeerId) : World PeerId where
  loop := .new subscriptions .new peerstore settings bootstrapPeers
  swarm := .empty
  senders := ∅
  dials := []
  answers := []

def reply (world : World PeerId) (sender : Sender) : Option (Answer PeerId) :=
  (world.answers.find? (·.1 = sender)).map Prod.snd

def settle (world : World PeerId) (turn : Turn PeerId) : World PeerId :=
  { world with
    loop := turn.loop
    swarm := turn.effects.foldl Swarm.perform world.swarm
    answers := world.answers ++ turn.effects.filterMap Effect.answer? }

/-- Connections are matched, every command has a sender of its own, and a score record is kept
while its peer is connected. -/
def Matched (world : World PeerId) : Label PeerId → Prop
  | .event _ (.connectionEstablished _ _ id) => id ∉ world.swarm.established
  | .event _ (.connectionClosed peer endpoint id numEstablished) =>
      ⟨id, peer, endpoint.getRemoteAddress⟩ ∈ world.swarm.connections ∧
        numEstablished + 1 = (world.swarm.connectionsOf peer).card
  | .event _ _ => True
  | .command _ command => command.sender ∉ world.senders
  | .behaviourDial _ => True
  | .forgetScore peer => peer ∉ world.swarm.peers

/-- How outgoing attempts start and end. An attempt starts only for a peer that is neither
connected nor being dialed, and every attempt that ends was in flight. -/
def DialsMatched (world : World PeerId) : Label PeerId → Prop
  | .event _ (.connectionEstablished peer endpoint _) =>
      endpoint.isDialer → peer ∈ world.swarm.attempts
  | .event _ (.outgoingConnectionError (some peer) _) => peer ∈ world.swarm.attempts
  | .command view (.dial peer addrs _) => view.dial peer addrs = .ok () → world.swarm.Free peer
  | .behaviourDial peer => world.swarm.Free peer
  | _ => True

instance (world : World PeerId) : (label : Label PeerId) → Decidable (world.Matched label)
  | .event _ (.connectionEstablished _ _ _) => inferInstanceAs (Decidable (_ ∉ _))
  | .event _ (.connectionClosed _ _ _ _) => inferInstanceAs (Decidable (_ ∧ _))
  | .event _ (.gossipsubMessage _) | .event _ (.identifyReceived _ _)
  | .event _ (.outgoingConnectionError _ _) | .event _ .other | .behaviourDial _ => isTrue trivial
  | .command _ _ => inferInstanceAs (Decidable (_ ∉ _))
  | .forgetScore _ => inferInstanceAs (Decidable (_ ∉ _))

instance (world : World PeerId) : (label : Label PeerId) → Decidable (world.DialsMatched label)
  | .event _ (.connectionEstablished _ _ _) => inferInstanceAs (Decidable (_ → _))
  | .event _ (.outgoingConnectionError (some _) _) => inferInstanceAs (Decidable (_ ∈ _))
  | .command _ (.dial _ _ _) => inferInstanceAs (Decidable (_ → _))
  | .behaviourDial _ => inferInstanceAs (Decidable (Swarm.Free _ _))
  | .event _ (.connectionClosed _ _ _ _) | .event _ (.gossipsubMessage _)
  | .event _ (.identifyReceived _ _) | .event _ (.outgoingConnectionError none _)
  | .event _ .other | .command _ (.startListening _ _) | .command _ (.identify _)
  | .command _ (.subscribe _ _) | .command _ (.publishMessage _ _ _)
  | .command _ (.networkSnapshot _) | .command _ (.setPreferredPeers _ _)
  | .command _ (.getPeers _) | .forgetScore _ => isTrue trivial

/-- A dial is refused for its condition exactly when the peer is connected or being dialed. -/
def ConditionExact (world : World PeerId) : Label PeerId → Prop
  | .command view (.dial peer addrs _) =>
      view.dial peer addrs = .error .dialPeerConditionFalse ↔ ¬ world.swarm.Free peer
  | _ => True

instance (world : World PeerId) : (label : Label PeerId) → Decidable (world.ConditionExact label)
  | .command _ (.dial _ _ _) => inferInstanceAs (Decidable (_ ↔ _))
  | .event _ _ | .command _ (.startListening _ _) | .command _ (.identify _)
  | .command _ (.subscribe _ _) | .command _ (.publishMessage _ _ _)
  | .command _ (.networkSnapshot _) | .command _ (.setPreferredPeers _ _)
  | .command _ (.getPeers _) | .behaviourDial _ | .forgetScore _ => isTrue trivial

variable [TextCodec PeerId] [TextCodec (Multiaddr PeerId)]

def next (world : World PeerId) : Label PeerId → World PeerId
  | .event now event =>
      { world with swarm := world.swarm.report event }.settle (world.loop.handleEvent now event)
  | .command view command =>
      { world with
        senders := insert command.sender world.senders
        dials := world.dials ++ command.dialed }.settle (world.loop.handleCommand view command)
  | .behaviourDial peer =>
      { world with swarm := { world.swarm with attempts := insert peer world.swarm.attempts } }
  | .forgetScore peer =>
      { world with swarm := { world.swarm with
          scores := fun q => if q = peer then none else world.swarm.scores q } }

end World

def networkSystem (PeerId : Type) [DecidableEq PeerId] [TextCodec PeerId]
    [TextCodec (Multiaddr PeerId)] : System (World PeerId) (Label PeerId) where
  initial world := ∃ subscriptions peerstore settings bootstrapPeers,
    world = .start subscriptions peerstore settings bootstrapPeers
  enabled := World.Matched
  next := World.next

def dialSystem (PeerId : Type) [DecidableEq PeerId] [TextCodec PeerId]
    [TextCodec (Multiaddr PeerId)] : System (World PeerId) (Label PeerId) :=
  (networkSystem PeerId).restrict World.DialsMatched

def exactDialSystem (PeerId : Type) [DecidableEq PeerId] [TextCodec PeerId]
    [TextCodec (Multiaddr PeerId)] : System (World PeerId) (Label PeerId) :=
  (dialSystem PeerId).restrict World.ConditionExact

instance [TextCodec PeerId] [TextCodec (Multiaddr PeerId)] (world : World PeerId)
    (label : Label PeerId) : Decidable ((networkSystem PeerId).enabled world label) :=
  inferInstanceAs (Decidable (world.Matched label))

instance [TextCodec PeerId] [TextCodec (Multiaddr PeerId)] (world : World PeerId)
    (label : Label PeerId) : Decidable ((dialSystem PeerId).enabled world label) :=
  inferInstanceAs (Decidable (world.Matched label ∧ world.DialsMatched label))

instance [TextCodec PeerId] [TextCodec (Multiaddr PeerId)] (world : World PeerId)
    (label : Label PeerId) : Decidable ((exactDialSystem PeerId).enabled world label) :=
  inferInstanceAs (Decidable
    ((world.Matched label ∧ world.DialsMatched label) ∧ world.ConditionExact label))

/-! ## A small network

Three peers, for examples. -/

namespace Sample

inductive Peer where
  | alice
  | bob
  | carol
  deriving DecidableEq, Repr

def addr (a b c d : UInt8) : Multiaddr Peer := [.ip4 ⟨a, b, c, d⟩, .tcp 4025]

instance : TextCodec Peer where
  toStr
    | .alice => "QmZkurbY2G2hWay59yiTgQNaQxHSNzKZFt2jbnwJhQcKgV"
    | .bob => "Qmb5b2ZwJm9pVWrppf3D3iMF1bXbjZhbJTwGvKEBMZNxa2"
    | .carol => "QmcBgy7oxnSEzYNEmbSvfaVSGNkZYFEDyFDL2Ri8bXpDJS"
  fromStr text :=
    if text = "QmZkurbY2G2hWay59yiTgQNaQxHSNzKZFt2jbnwJhQcKgV" then some .alice
    else if text = "Qmb5b2ZwJm9pVWrppf3D3iMF1bXbjZhbJTwGvKEBMZNxa2" then some .bob
    else if text = "QmcBgy7oxnSEzYNEmbSvfaVSGNkZYFEDyFDL2Ri8bXpDJS" then some .carol
    else none

def componentText : Protocol Peer → String
  | .ip4 ⟨a, b, c, d⟩ =>
      "/ip4/" ++ ".".intercalate [toString a, toString b, toString c, toString d]
  | .tcp port => "/tcp/" ++ toString port
  | .dns name => "/dns/" ++ name
  | .p2p peer => "/p2p/" ++ TextCodec.toStr peer
  | .ip6 ip => "/ip6/" ++ toString ip
  | .other code _ => "/" ++ toString code

/-- Reads back the addresses `10.0.0.1` and `10.0.0.2`, and no others. -/
instance : TextCodec (Multiaddr Peer) where
  toStr address := String.join (address.map componentText)
  fromStr text :=
    if text = "/ip4/10.0.0.1/tcp/4025" then some (addr 10 0 0 1)
    else if text = "/ip4/10.0.0.2/tcp/4025" then some (addr 10 0 0 2)
    else none

def node (highWater perSubnetCap protectedCap : Nat) : World Peer :=
  .start (.new 1024) .default ⟨0, highWater, perSubnetCap, protectedCap⟩ ∅

theorem node_reachable (highWater perSubnetCap protectedCap : Nat) :
    (networkSystem Peer).Reachable (node highWater perSubnetCap protectedCap) :=
  .initial ⟨_, _, _, _, rfl⟩

def view (reply : Except DialError Unit) : SwarmView Peer where
  localPeerId := .carol
  listeners := [addr 10 9 9 9]
  externalAddresses := []
  listenOn _ := .ok ()
  dial _ _ := reply
  subscribe _ := .ok ()
  publish _ _ := .ok ()
  peerScore _ := none

def prefer (peers : List Peer) (sender : Sender) : Label Peer :=
  .command (view (.ok ())) (.setPreferredPeers (peers.map (·, [])) sender)

def inbound (peer : Peer) (address : Multiaddr Peer) (id : ConnectionId) : Label Peer :=
  .event 0 (.connectionEstablished peer (.listener (addr 10 9 9 9) address) id)

def hangUp (peer : Peer) (address : Multiaddr Peer) (id : ConnectionId) (numEstablished : Nat) :
    Label Peer :=
  .event 0 (.connectionClosed peer (.listener (addr 10 9 9 9) address) id numEstablished)

def outbound (peer : Peer) (address : Multiaddr Peer) (id : ConnectionId) : Label Peer :=
  .event 0 (.connectionEstablished peer (.dialer address) id)

def dial (peer : Peer) (reply : Except DialError Unit) (sender : Sender) : Label Peer :=
  .command (view reply) (.dial peer [] sender)

def afterAlice : World Peer :=
  (networkSystem Peer).after (node 1 4 1) [inbound .alice (addr 10 0 0 1) 0]

theorem afterAlice_reachable : (networkSystem Peer).Reachable afterAlice :=
  (node_reachable 1 4 1).after (by decide)

end Sample

end P2pService
