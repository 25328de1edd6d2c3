import P2pService.Model.Metrics
import P2pService.Model.Peerstore
import P2pService.Model.Subnet
import P2pService.Model.Subscriptions
import Mathlib.Data.Finset.Image
import Mathlib.Data.Rat.Defs

/-!
# The event loop

`handleEvent` and `handleCommand` are the two arms of the loop of `EventLoop::run`. A turn of the
loop ends in a new loop state and a list of effects: the calls it made on the swarm and the answers
it sent. What the swarm replies while a command is handled is a `SwarmView`.
-/

namespace P2pService
open Library

abbrev ConnectionId := Nat

/-- The sending half of a oneshot channel. -/
abbrev Sender := Nat

abbrev Score := ℚ

def preferredPeerAppScore : Score := 100

structure NetworkSettings where
  lowWater : Nat
  highWater : Nat
  perSubnetCap : Nat
  /-- `(high_water as f32 * max_protected_share) as usize`. -/
  protectedCap : Nat
  deriving DecidableEq, Repr

inductive DialError where
  | localPeerId
  | noAddresses
  | dialPeerConditionFalse
  | aborted
  | wrongPeerId
  | denied
  | transport
  deriving DecidableEq, Repr

inductive PublishError where
  | duplicate
  | signingError
  | noPeersSubscribedToTopic
  | messageTooLarge
  | transformFailed
  | allQueuesFull
  deriving DecidableEq, Repr

/-- What a command can be answered with instead of a result. -/
inductive CommandError where
  | dial (error : DialError)
  | dialFailed (error : DialError)
  | listen
  | subscription
  | publish (error : PublishError)
  | channelClosed
  deriving DecidableEq, Repr

inductive DialErrorKind where
  | wrongPeerId
  | unreachable
  | internal
  deriving DecidableEq, Repr

def classifyDialError : CommandError → DialErrorKind
  | .dial .wrongPeerId | .dialFailed .wrongPeerId => .wrongPeerId
  | .dial _ | .dialFailed _ => .unreachable
  | _ => .internal

structure GossipsubMessage (PeerId : Type) where
  source : Option PeerId
  data : List UInt8
  topic : String

/-- `hasher` is what a new `DefaultHasher` makes of some bytes. -/
def messageIdFn {PeerId : Type} (hasher : List UInt8 → UInt64) (message : GossipsubMessage PeerId) :
    String :=
  toString (hasher message.data)

structure NodeInfo (PeerId : Type) where
  peerId : PeerId
  listenMultiaddrs : List (Multiaddr PeerId)
  externalMultiaddrs : List (Multiaddr PeerId)

structure NetworkSnapshot (PeerId : Type) where
  connected : Finset PeerId
  preferred : Multiset (PeerId × List (Multiaddr PeerId))

structure PeerSnapshot (PeerId : Type) where
  peerId : PeerId
  multiaddrs : List (Multiaddr PeerId)
  preferred : Bool
  score : Score

inductive Answer (PeerId : Type) where
  | ok
  | error (error : CommandError)
  | nodeInfo (info : NodeInfo PeerId)
  | snapshot (snapshot : NetworkSnapshot PeerId)
  | counts (accepted truncated : UInt32)
  | peers (peers : Multiset (PeerSnapshot PeerId))

inductive SwarmEvent (PeerId : Type) where
  | gossipsubMessage (message : GossipsubMessage PeerId)
  | identifyReceived (peerId : PeerId) (listenAddrs : List (Multiaddr PeerId))
  | connectionEstablished (peerId : PeerId) (endpoint : Endpoint PeerId) (connectionId : ConnectionId)
  | connectionClosed (peerId : PeerId) (endpoint : Endpoint PeerId) (connectionId : ConnectionId)
      (numEstablished : Nat)
  | outgoingConnectionError (peerId : Option PeerId) (error : DialError)
  | other

inductive Command (PeerId : Type) where
  | startListening (addr : Multiaddr PeerId) (sender : Sender)
  | dial (peerId : PeerId) (peerAddrs : List (Multiaddr PeerId)) (sender : Sender)
  | identify (sender : Sender)
  | subscribe (topic : String) (sender : Sender)
  | publishMessage (topic : String) (message : List UInt8) (sender : Sender)
  | networkSnapshot (sender : Sender)
  | setPreferredPeers (peers : List (PeerId × List (Multiaddr PeerId))) (sender : Sender)
  | getPeers (sender : Sender)

def Command.sender {PeerId : Type} : Command PeerId → Sender
  | .startListening _ sender | .dial _ _ sender | .identify sender | .subscribe _ sender
  | .publishMessage _ _ sender | .networkSnapshot sender | .setPreferredPeers _ sender
  | .getPeers sender => sender

/-- What the swarm tells the loop when it is asked, at one moment. -/
structure SwarmView (PeerId : Type) where
  localPeerId : PeerId
  listeners : List (Multiaddr PeerId)
  externalAddresses : List (Multiaddr PeerId)
  listenOn : Multiaddr PeerId → Except CommandError Unit
  dial : PeerId → List (Multiaddr PeerId) → Except DialError Unit
  subscribe : String → Except CommandError Unit
  publish : String → List UInt8 → Except CommandError Unit
  peerScore : PeerId → Option Score

inductive Effect (PeerId : Type) where
  | listenOn (addr : Multiaddr PeerId)
  | dial (peerId : PeerId) (addrs : List (Multiaddr PeerId)) (reply : Except DialError Unit)
  | subscribe (topic : String)
  | publish (topic : String) (message : List UInt8)
  | disconnectPeerId (peerId : PeerId)
  | closeConnection (connectionId : ConnectionId)
  /-- One call for each of the peers: an iteration over a hash set has no order. -/
  | setApplicationScore (peerIds : Finset PeerId) (score : Score)
  | answer (sender : Sender) (answer : Answer PeerId)

structure EventLoop (PeerId : Type) where
  subscriptions : Subscriptions
  pendingDials : HashMap PeerId (List Sender)
  metrics : Metrics
  peerstore : PeerStore
  settings : NetworkSettings
  subnetLimits : SubnetLimits
  connected : HashMap PeerId (List (Multiaddr PeerId))
  /-- `protected` in the source. -/
  protectedPeers : Finset PeerId
  bootstrapPeers : Finset PeerId
  dialHints : HashMap PeerId (List (Multiaddr PeerId))

/-- The loop after a turn, and what the turn did outside it, in order. -/
structure Turn (PeerId : Type) where
  loop : EventLoop PeerId
  effects : List (Effect PeerId)

variable {PeerId : Type}

def answerAll (senders : List Sender) (answer : Answer PeerId) : List (Effect PeerId) :=
  senders.map fun sender => .answer sender answer

def replyAnswer : Except CommandError Unit → Answer PeerId
  | .ok () => .ok
  | .error error => .error error

namespace EventLoop

def new (subscriptions : Subscriptions) (metrics : Metrics) (peerstore : PeerStore)
    (settings : NetworkSettings) (bootstrapPeers : Finset PeerId) : EventLoop PeerId where
  subscriptions := subscriptions
  pendingDials := ∅
  metrics := metrics
  peerstore := peerstore
  settings := settings
  subnetLimits := .new settings.perSubnetCap
  connected := ∅
  protectedPeers := bootstrapPeers
  bootstrapPeers := bootstrapPeers
  dialHints := ∅

def networkSnapshot (loop : EventLoop PeerId) : NetworkSnapshot PeerId where
  connected := loop.connected.keys
  preferred := loop.dialHints.iter

variable [DecidableEq PeerId]

def resolvePendingDials (loop : EventLoop PeerId) (peerId : PeerId) (answer : Answer PeerId) :
    Turn PeerId :=
  match loop.pendingDials.get peerId with
  | some senders =>
      ⟨{ loop with pendingDials := loop.pendingDials.remove peerId }, answerAll senders answer⟩
  | none => ⟨loop, []⟩

def enforceConnectionLimits (loop : EventLoop PeerId) (peerId : PeerId) (connectionId : ConnectionId)
    (remoteAddr : Multiaddr PeerId) : Turn PeerId :=
  let exempt := decide (peerId ∈ loop.protectedPeers)
  let (subnetLimits, subnetVerdict) := loop.subnetLimits.onConnection remoteAddr exempt
  let overHighWater := decide (loop.settings.highWater < loop.connected.len) && !exempt
  let effects :=
    if overHighWater then [.disconnectPeerId peerId]
    else if subnetVerdict = .reject then [.closeConnection connectionId]
    else []
  ⟨{ loop with subnetLimits := subnetLimits }, effects⟩

/-! ## Events -/

def handleClosed (loop : EventLoop PeerId) (peerId : PeerId) (endpoint : Endpoint PeerId)
    (numEstablished : Nat) : EventLoop PeerId :=
  { loop with
    metrics := { loop.metrics with connectedPeers := loop.metrics.connectedPeers - 1 }
    subnetLimits := loop.subnetLimits.onDisconnection endpoint.getRemoteAddress
    connected :=
      if numEstablished = 0 then loop.connected.remove peerId
      else
        match loop.connected.get peerId with
        | some addrs =>
            loop.connected.insert peerId (addrs.filter fun a => a ≠ endpoint.getRemoteAddress)
        | none => loop.connected }

section Events

variable [TextCodec PeerId] [TextCodec (Multiaddr PeerId)]

def handleMessage (loop : EventLoop PeerId) (nowMillis : Nat) (message : GossipsubMessage PeerId) :
    EventLoop PeerId :=
  match message.source with
  | none => loop
  | some source =>
      let envelope : Envelope :=
        { topic := message.topic
          sourcePeerId := TextCodec.toStr source
          data := message.data
          receivedAtMillis := nowMillis }
      { loop with
        metrics := { loop.metrics with
          totalMessagesReceived := loop.metrics.totalMessagesReceived + 1 }
        subscriptions := (loop.subscriptions.publish envelope).1 }

def handleIdentify (loop : EventLoop PeerId) (nowUnix : Nat) (peerId : PeerId)
    (listenAddrs : List (Multiaddr PeerId)) : EventLoop PeerId :=
  let tcpAddrs := listenAddrs.filter fun addr => addr.any fun
    | .tcp _ => true
    | _ => false
  if tcpAddrs.isEmpty then loop
  else { loop with peerstore := loop.peerstore.record peerId tcpAddrs nowUnix }

def handleEstablished (loop : EventLoop PeerId) (nowUnix : Nat) (peerId : PeerId)
    (endpoint : Endpoint PeerId) (connectionId : ConnectionId) : Turn PeerId :=
  let counted : EventLoop PeerId := { loop with
    metrics := { loop.metrics with connectedPeers := loop.metrics.connectedPeers + 1 } }
  let dialed : Turn PeerId :=
    if endpoint.isDialer then
      { counted with
        peerstore := counted.peerstore.record peerId [endpoint.getRemoteAddress] nowUnix
        }.resolvePendingDials peerId .ok
    else ⟨counted, []⟩
  let remoteAddr := endpoint.getRemoteAddress
  let tabled : EventLoop PeerId := { dialed.loop with
    connected := dialed.loop.connected.insert peerId
      ((dialed.loop.connected.get peerId).getD [] ++ [remoteAddr]) }
  let granted : List (Effect PeerId) :=
    if tabled.dialHints.containsKey peerId ∨ peerId ∈ tabled.bootstrapPeers then
      [.setApplicationScore {peerId} preferredPeerAppScore]
    else []
  let enforced := tabled.enforceConnectionLimits peerId connectionId remoteAddr
  ⟨enforced.loop, dialed.effects ++ granted ++ enforced.effects⟩

def handleEvent (loop : EventLoop PeerId) (now : Nat) : SwarmEvent PeerId → Turn PeerId
  | .gossipsubMessage message => ⟨loop.handleMessage now message, []⟩
  | .identifyReceived peerId listenAddrs => ⟨loop.handleIdentify now peerId listenAddrs, []⟩
  | .connectionEstablished peerId endpoint connectionId =>
      loop.handleEstablished now peerId endpoint connectionId
  | .connectionClosed peerId endpoint _ numEstablished =>
      ⟨loop.handleClosed peerId endpoint numEstablished, []⟩
  | .outgoingConnectionError peerId error =>
      match peerId with
      | some peerId => loop.resolvePendingDials peerId (.error (.dialFailed error))
      | none => ⟨loop, []⟩
  | .other => ⟨loop, []⟩

end Events

/-! ## Commands -/

def handleDial (loop : EventLoop PeerId) (view : SwarmView PeerId) (peerId : PeerId)
    (peerAddrs : List (Multiaddr PeerId)) (sender : Sender) : Turn PeerId :=
  match loop.pendingDials.get peerId with
  | some senders =>
      -- a dial is in flight: wait for it, and ignore the new addresses
      ⟨{ loop with pendingDials := loop.pendingDials.insert peerId (senders ++ [sender]) }, []⟩
  | none =>
      let reply := view.dial peerId peerAddrs
      let dialed : Effect PeerId := .dial peerId peerAddrs reply
      match reply with
      | .ok () =>
          ⟨{ loop with pendingDials := loop.pendingDials.insert peerId [sender] }, [dialed]⟩
      | .error .dialPeerConditionFalse => ⟨loop, [dialed, .answer sender .ok]⟩
      | .error error => ⟨loop, [dialed, .answer sender (.error (.dial error))]⟩

def handleSetPreferredPeers (loop : EventLoop PeerId)
    (peers : List (PeerId × List (Multiaddr PeerId))) (sender : Sender) : Turn PeerId :=
  let cap := loop.settings.protectedCap
  let truncated := (peers.length - cap).toUInt32
  let acceptedPeers := peers.take cap
  let accepted := acceptedPeers.length.toUInt32
  let newSet := (acceptedPeers.map Prod.fst).toFinset
  let dropped := loop.protectedPeers.filter fun old => old ∉ newSet ∧ old ∉ loop.bootstrapPeers
  let granted : List (Effect PeerId) :=
    acceptedPeers.map fun peer => .setApplicationScore {peer.1} preferredPeerAppScore
  ⟨{ loop with
      protectedPeers := acceptedPeers.foldl (fun peers peer => insert peer.1 peers)
        (loop.protectedPeers \ dropped)
      dialHints := HashMap.insertAll ∅ acceptedPeers },
    .setApplicationScore dropped 0 :: granted ++ [.answer sender (.counts accepted truncated)]⟩

def getPeers (loop : EventLoop PeerId) (view : SwarmView PeerId) : Multiset (PeerSnapshot PeerId) :=
  loop.connected.iter.map fun entry =>
    { peerId := entry.1
      multiaddrs := entry.2
      preferred := decide (entry.1 ∈ loop.protectedPeers)
      score := (view.peerScore entry.1).getD 0 }

def handleCommand (loop : EventLoop PeerId) (view : SwarmView PeerId) : Command PeerId → Turn PeerId
  | .startListening addr sender =>
      ⟨loop, [.listenOn addr, .answer sender (replyAnswer (view.listenOn addr))]⟩
  | .dial peerId peerAddrs sender => loop.handleDial view peerId peerAddrs sender
  | .identify sender =>
      ⟨loop, [.answer sender (.nodeInfo
        ⟨view.localPeerId, view.listeners, view.externalAddresses⟩)]⟩
  | .subscribe topic sender =>
      ⟨loop, [.subscribe topic, .answer sender (replyAnswer (view.subscribe topic))]⟩
  | .publishMessage topic message sender =>
      ⟨loop, [.publish topic message, .answer sender (replyAnswer (view.publish topic message))]⟩
  | .networkSnapshot sender => ⟨loop, [.answer sender (.snapshot loop.networkSnapshot)]⟩
  | .setPreferredPeers peers sender => loop.handleSetPreferredPeers peers sender
  | .getPeers sender => ⟨loop, [.answer sender (.peers (loop.getPeers view))]⟩

end EventLoop
end P2pService
