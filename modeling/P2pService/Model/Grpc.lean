import P2pService.Model.Network

/-!
# The gRPC service

A handler turns a request into a command of the event loop, waits for the answer, and turns that
into a response. The two halves are separate functions here, because other things happen in
between. What a third-party error prints as is left to a `ToString` instance.
-/

namespace P2pService
open Library

inductive StatusCode where
  | invalidArgument
  | notFound
  | failedPrecondition
  | internal
  deriving DecidableEq, Repr

structure Status where
  code : StatusCode
  message : String
  deriving DecidableEq, Repr

/-- The text of the error that a text of the wrong form is parsed to. -/
class ParseError (α : Type) where
  describe : String → String

structure IdentifyResponse where
  peerId : String
  listenMultiaddrs : List String
  externalMultiaddrs : List String
  deriving DecidableEq, Repr

structure DialRequest where
  peerId : String
  multiaddr : String
  deriving DecidableEq, Repr

structure PeerInfo where
  peerId : String
  multiaddrs : List String
  preferred : Bool
  score : Score
  deriving DecidableEq, Repr

structure PreferredPeer where
  peerId : String
  multiaddrs : List String
  deriving DecidableEq, Repr

structure SetPreferredPeersResponse where
  accepted : UInt32
  truncated : UInt32
  deriving DecidableEq, Repr

structure PublishRequest where
  topic : String
  payload : List UInt8
  echo : Bool
  deriving DecidableEq, Repr

structure PubsubEnvelope where
  topic : String
  sourcePeerId : String
  payload : List UInt8
  receivedAtMillis : Nat
  deriving DecidableEq, Repr

def Envelope.toPubsub (envelope : Envelope) : PubsubEnvelope where
  topic := envelope.topic
  sourcePeerId := envelope.sourcePeerId
  payload := envelope.data
  receivedAtMillis := envelope.receivedAtMillis

def emptyTopic : Status := ⟨.invalidArgument, "topic must not be empty"⟩

def internal [ToString CommandError] (error : CommandError) : Status := ⟨.internal, toString error⟩

namespace Grpc

variable {PeerId : Type}

def parsePeerId [TextCodec PeerId] [ParseError PeerId] (value : String) : Except Status PeerId :=
  match TextCodec.fromStr value with
  | some peerId => .ok peerId
  | none => .error ⟨.invalidArgument,
      "invalid peer id " ++ value ++ ": " ++ ParseError.describe PeerId value⟩

def parseMultiaddr [TextCodec (Multiaddr PeerId)] [ParseError (Multiaddr PeerId)] (value : String) :
    Except Status (Multiaddr PeerId) :=
  match TextCodec.fromStr value with
  | some multiaddr => .ok multiaddr
  | none => .error ⟨.invalidArgument,
      "invalid multiaddr " ++ value ++ ": " ++ ParseError.describe (Multiaddr PeerId) value⟩

/-! ## Reading the node -/

def identify (sender : Sender) : Command PeerId := .identify sender

def getPeers (sender : Sender) : Command PeerId := .getPeers sender

section

variable [TextCodec PeerId] [TextCodec (Multiaddr PeerId)] [ToString CommandError]

def identifyResponse : Answer PeerId → Except Status IdentifyResponse
  | .nodeInfo info => .ok
      { peerId := TextCodec.toStr info.peerId
        listenMultiaddrs := info.listenMultiaddrs.map TextCodec.toStr
        externalMultiaddrs := info.externalMultiaddrs.map TextCodec.toStr }
  | .error error => .error (internal error)
  | _ => .error (internal .channelClosed)

def getPeersResponse : Answer PeerId → Except Status (Multiset PeerInfo)
  | .peers peers => .ok (peers.map fun peer =>
      { peerId := TextCodec.toStr peer.peerId
        multiaddrs := peer.multiaddrs.map TextCodec.toStr
        preferred := peer.preferred
        score := peer.score })
  | .error error => .error (internal error)
  | _ => .error (internal .channelClosed)

end

/-! ## Preferred peers -/

section

variable [DecidableEq PeerId] [TextCodec PeerId] [TextCodec (Multiaddr PeerId)]

/-- One entry of a request: skipped when its peer id does not parse or was seen before, and kept
with those of its addresses that parse. -/
def keepEntry (kept : List (PeerId × List (Multiaddr PeerId)) × Finset PeerId)
    (peer : PreferredPeer) : List (PeerId × List (Multiaddr PeerId)) × Finset PeerId :=
  match TextCodec.fromStr peer.peerId with
  | none => kept
  | some peerId =>
      if peerId ∈ kept.2 then kept
      else (kept.1 ++ [(peerId, peer.multiaddrs.filterMap TextCodec.fromStr)], insert peerId kept.2)

def parsePreferredPeers (request : List PreferredPeer) : List (PeerId × List (Multiaddr PeerId)) :=
  (request.foldl keepEntry ([], ∅)).1

def setPreferredPeers (request : List PreferredPeer) (sender : Sender) : Command PeerId :=
  .setPreferredPeers (parsePreferredPeers request) sender

end

section

variable [ToString CommandError]

/-- The response to a command's answer. A oneshot channel has the type of its command's result, so
there is no other answer than these. -/
def setPreferredPeersResponse : Answer PeerId → Except Status SetPreferredPeersResponse
  | .counts accepted truncated => .ok ⟨accepted, truncated⟩
  | .error error => .error (internal error)
  | _ => .error (internal .channelClosed)

/-! ## Dialing -/

def dial [TextCodec PeerId] [TextCodec (Multiaddr PeerId)] [ParseError PeerId]
    [ParseError (Multiaddr PeerId)] (request : DialRequest) (sender : Sender) :
    Except Status (Command PeerId) := do
  let peerId ← parsePeerId request.peerId
  let multiaddr ← parseMultiaddr request.multiaddr
  return .dial peerId [multiaddr] sender

omit [ToString CommandError] in
theorem dial_of_ok [TextCodec PeerId] [TextCodec (Multiaddr PeerId)] [ParseError PeerId]
    [ParseError (Multiaddr PeerId)] {request : DialRequest} {sender : Sender}
    {command : Command PeerId} (made : dial request sender = .ok command) :
    ∃ peerId multiaddr, command = .dial peerId [multiaddr] sender := by
  unfold dial at made
  cases parsed : (parsePeerId request.peerId : Except Status PeerId) with
  | error => simp [parsed, bind, Except.bind] at made
  | ok peerId =>
      cases read : (parseMultiaddr request.multiaddr : Except Status (Multiaddr PeerId)) with
      | error => simp [parsed, read, bind, Except.bind] at made
      | ok multiaddr =>
          simp only [parsed, read, bind, Except.bind, pure, Except.pure, Except.ok.injEq] at made
          exact ⟨peerId, multiaddr, made.symm⟩

def mapDialErrorToStatus (error : CommandError) : Status :=
  match classifyDialError error with
  | .wrongPeerId => ⟨.failedPrecondition, "wrong peer id: " ++ toString error⟩
  | .unreachable => ⟨.notFound, "peer unreachable: " ++ toString error⟩
  | .internal => internal error

def dialResponse : Answer PeerId → Except Status Unit
  | .ok => .ok ()
  | .error error => .error (mapDialErrorToStatus error)
  | _ => .error (mapDialErrorToStatus .channelClosed)

/-! ## Publishing -/

def publish (request : PublishRequest) (sender : Sender) : Except Status (Command PeerId) :=
  if request.topic = "" then .error emptyTopic
  else .ok (.publishMessage request.topic request.payload sender)

/-- What is left to do once the loop has answered a publish: count it, and hand it to the local
subscribers if the caller asked for an echo. -/
def published (metrics : Metrics) (request : PublishRequest) (localPeerId : String) (nowMillis : Nat)
    (answer : Answer PeerId) : Except Status Unit × Metrics × Option Envelope :=
  let echo : Option Envelope :=
    if request.echo then
      some
        { topic := request.topic
          sourcePeerId := localPeerId
          data := request.payload
          receivedAtMillis := nowMillis }
    else none
  match answer with
  | .ok =>
      let sent := { metrics with totalMessagesSent := metrics.totalMessagesSent + 1 }
      (.ok (), sent.incrementEvent "message_published", echo)
  | .error (.publish .noPeersSubscribedToTopic) =>
      -- a mesh without peers must not fail the caller
      (.ok (), metrics.incrementEvent "publish_no_peers", echo)
  | .error error => (.error (internal error), metrics.incrementEvent "publish_error", none)
  | _ => (.error (internal .channelClosed), metrics.incrementEvent "publish_error", none)

end

/-! ## Subscribing -/

def subscribe (topicName : String) (sender : Sender) : Except Status (Command PeerId) :=
  if topicName = "" then .error emptyTopic
  else .ok (.subscribe topicName sender)

def subscribeResponse [ToString CommandError] : Answer PeerId → Except Status Unit
  | .ok => .ok ()
  | .error error => .error (internal error)
  | _ => .error (internal .channelClosed)

inductive StreamStep where
  | yield (envelope : PubsubEnvelope)
  | continue
  | wait
  | break
  deriving DecidableEq, Repr

def streamStep (metrics : Metrics) : Received Envelope → StreamStep × Metrics
  | .value envelope => (.yield envelope.toPubsub, metrics)
  | .lagged _ => (.continue, metrics.incrementEvent "subscriber_lagged")
  | .pending => (.wait, metrics)
  | .closed => (.break, metrics)

end Grpc
end P2pService
