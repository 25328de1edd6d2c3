import P2pService.World.Fanout

/-!
# Gossipsub before the service

A message reaches gossipsub from a `Publish` call or from the mesh. Gossipsub takes it for a
duplicate when its id is in the duplicate cache, which nothing leaves here: a run stays within the
cache time.
-/

namespace P2pService
open Library

structure Gossip (PeerId : Type) where
  service : Fanout PeerId
  duplicateCache : Finset String

inductive GossipLabel (PeerId : Type) where
  /-- `cached` says whether the id is cached when the publish is refused after all. -/
  | publish (request : PublishRequest) (view : SwarmView PeerId) (sender : Sender) (cached : Bool)
  /-- `subscribed` says whether gossipsub hands messages of this topic on. -/
  | receive (nowMillis : Nat) (message : GossipsubMessage PeerId) (subscribed : Bool)
  | service (label : FanoutLabel PeerId)

structure Arrival where
  topic : String
  payload : List UInt8
  cached : Bool
  deriving DecidableEq, Repr

/-- Whether a label of the service has it publish or receive a message. -/
def FanoutLabel.carriesMessage {PeerId : Type} : FanoutLabel PeerId → Bool
  | .publish _ _ _ | .network (.event _ (.gossipsubMessage _))
  | .network (.command _ (.publishMessage _ _ _)) => true
  | _ => false

namespace GossipLabel

variable {PeerId : Type}

def publishCached (request : PublishRequest) (view : SwarmView PeerId) (cached : Bool) : Bool :=
  match view.publish request.topic request.payload with
  | .ok () => true
  | .error _ => cached

/-- A publish without a topic is refused before it reaches gossipsub. -/
def arrival? : GossipLabel PeerId → Option Arrival
  | .publish request view _ cached =>
      if request.topic = "" then none
      else some ⟨request.topic, request.payload, publishCached request view cached⟩
  | .receive _ message _ => some ⟨message.topic, message.data, true⟩
  | .service _ => none

end GossipLabel

namespace Gossip

variable {PeerId : Type}

def ownMessage (state : Gossip PeerId) (request : PublishRequest) : GossipsubMessage PeerId :=
  ⟨some state.service.localPeerId, request.payload, request.topic⟩

variable (hasher : List UInt8 → UInt64)

def Duplicate (state : Gossip PeerId) : GossipLabel PeerId → Prop
  | .publish request view _ _ =>
      request.topic ≠ "" ∧
        view.publish request.topic request.payload = .error (.publish .duplicate)
  | .receive _ message _ => messageIdFn hasher message ∈ state.duplicateCache
  | .service _ => False

variable [DecidableEq PeerId]

def Enabled (state : Gossip PeerId) : GossipLabel PeerId → Prop
  | .publish request view sender _ =>
      state.service.Enabled (.publish request view sender) ∧
        (request.topic ≠ "" →
          (view.publish request.topic request.payload = .error (.publish .duplicate) ↔
            messageIdFn hasher (state.ownMessage request) ∈ state.duplicateCache))
  | .receive _ _ _ => True
  | .service label => state.service.Enabled label ∧ label.carriesMessage = false

variable [TextCodec PeerId] [TextCodec (Multiaddr PeerId)] [ToString CommandError]

def next (state : Gossip PeerId) : GossipLabel PeerId → Gossip PeerId
  | .publish request view sender cached =>
      { service := state.service.next (.publish request view sender)
        duplicateCache :=
          if request.topic ≠ "" ∧ GossipLabel.publishCached request view cached then
            insert (messageIdFn hasher (state.ownMessage request)) state.duplicateCache
          else state.duplicateCache }
  | .receive nowMillis message subscribed =>
      if messageIdFn hasher message ∈ state.duplicateCache then state
      else
        { service :=
            if subscribed then
              state.service.next (.network (.event nowMillis (.gossipsubMessage message)))
            else state.service
          duplicateCache := insert (messageIdFn hasher message) state.duplicateCache }
  | .service label => { state with service := state.service.next label }

end Gossip

def gossipSystem (PeerId : Type) [DecidableEq PeerId] [TextCodec PeerId]
    [TextCodec (Multiaddr PeerId)] [ToString CommandError] (hasher : List UInt8 → UInt64) :
    System (Gossip PeerId) (GossipLabel PeerId) where
  initial state := (fanoutSystem PeerId).initial state.service ∧ state.duplicateCache = ∅
  enabled := Gossip.Enabled hasher
  next := Gossip.next hasher

def recordArrival {PeerId : Type} (_ : Gossip PeerId) (label : GossipLabel PeerId)
    (arrivals : List Arrival) : List Arrival :=
  arrivals ++ label.arrival?.toList

/-- The runs in which only the given payloads occur, beside what has reached gossipsub. -/
def recordedGossip (PeerId : Type) [DecidableEq PeerId] [TextCodec PeerId]
    [TextCodec (Multiaddr PeerId)] [ToString CommandError] (hasher : List UInt8 → UInt64)
    (payloads : Set (List UInt8)) : System (Gossip PeerId × List Arrival) (GossipLabel PeerId) :=
  ((gossipSystem PeerId hasher).restrict fun _ label =>
    ∀ arrival ∈ label.arrival?, arrival.payload ∈ payloads).withHistory [] recordArrival

end P2pService
