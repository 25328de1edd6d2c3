import P2pService.World.Hub
import P2pService.World.Network

/-!
# Streams and publishes beside the event loop

Every `Subscribe` call is a stream from the moment its receiver exists, and goes through the steps
of the handler one at a time; every `Publish` call waits for the loop's answer before it echoes.
Anything else of the network can happen between two steps. A label that has the loop handle a
call's command also stands for sending it: nothing depends on how long the command was on its way.
-/

namespace P2pService
open Library

inductive Phase where
  /-- The receiver exists, and the loop has not handled the join. -/
  | created
  | joining (sender : Sender)
  | streaming
  | dropped
  deriving DecidableEq

structure Stream where
  topic : String
  receiver : Receiver
  phase : Phase
  yielded : List PubsubEnvelope
  deriving DecidableEq

structure PublishCall where
  request : PublishRequest
  sender : Sender

structure Fanout (PeerId : Type) where
  network : World PeerId
  streams : List Stream
  calls : List PublishCall
  localPeerId : PeerId

inductive FanoutLabel (PeerId : Type) where
  | network (label : Label PeerId)
  | subscribe (topic : String)
  | join (i : Nat) (view : SwarmView PeerId) (sender : Sender)
  | respond (i : Nat)
  | read (i : Nat)
  /-- The client gives up the call or closes the stream. -/
  | drop (i : Nat)
  | publish (request : PublishRequest) (view : SwarmView PeerId) (sender : Sender)
  | finish (i : Nat) (nowMillis : Nat)

namespace Stream

def awaited (stream : Stream) : Option Sender :=
  match stream.phase with
  | .joining sender => some sender
  | _ => none

def live (stream : Stream) : Bool := decide (stream.phase ≠ .dropped)

def subscriber (stream : Stream) : Subscriber :=
  ⟨stream.topic, stream.receiver, stream.live, stream.yielded⟩

end Stream

namespace Fanout

variable {PeerId : Type}

def subscriptions (state : Fanout PeerId) : Subscriptions := state.network.loop.subscriptions

def metrics (state : Fanout PeerId) : Metrics := state.network.loop.metrics

def share (state : Fanout PeerId) (subscriptions : Subscriptions) (metrics : Metrics) :
    Fanout PeerId :=
  { state with network := { state.network with
      loop := { state.network.loop with subscriptions := subscriptions, metrics := metrics } } }

/-- What remains of a state when only messages count. -/
def hub (state : Fanout PeerId) : Hub where
  subscriptions := state.subscriptions
  subscribers := state.streams.map Stream.subscriber
  lagEvents := state.metrics.event "subscriber_lagged"

def setStream (state : Fanout PeerId) (i : Nat) (stream : Stream) : Fanout PeerId :=
  { state with streams := state.streams.set i stream }

def dropStream (state : Fanout PeerId) (i : Nat) (stream : Stream) : Fanout PeerId :=
  (state.share (state.subscriptions.dropReceiver stream.receiver) state.metrics).setStream i
    { stream with phase := .dropped }

def subscribe (state : Fanout PeerId) (topic : String) : Fanout PeerId :=
  if topic = "" then state
  else
    match state.subscriptions.subscribe topic with
    | none => state
    | some (subscriptions, receiver) =>
        { state.share subscriptions state.metrics with
          streams := state.streams ++ [⟨topic, receiver, .created, []⟩] }

def readStream (state : Fanout PeerId) (i : Nat) (stream : Stream) : Fanout PeerId :=
  match state.subscriptions.recv stream.receiver with
  | none => state
  | some (received, receiver) =>
      let moved := { stream with receiver := receiver }
      match Grpc.streamStep state.metrics received with
      | (.yield envelope, metrics) =>
          (state.share state.subscriptions metrics).setStream i
            { moved with yielded := stream.yielded ++ [envelope] }
      | (.continue, metrics) | (.wait, metrics) =>
          (state.share state.subscriptions metrics).setStream i moved
      | (.break, metrics) => (state.share state.subscriptions metrics).dropStream i moved

variable [DecidableEq PeerId]

def start (network : World PeerId) (localPeerId : PeerId) : Fanout PeerId :=
  ⟨network, [], [], localPeerId⟩

/-- An answered join opens the stream; an error ends the call, and its receiver with it. -/
def respond (state : Fanout PeerId) (i : Nat) (stream : Stream) : Fanout PeerId :=
  match stream.awaited.bind state.network.reply with
  | some .ok => state.setStream i { stream with phase := .streaming }
  | some _ => state.dropStream i stream
  | none => state

def Enabled (state : Fanout PeerId) : FanoutLabel PeerId → Prop
  | .network label => state.network.Matched label
  | .subscribe _ => True
  | .join i view sender =>
      ∃ stream ∈ state.streams[i]?, stream.phase = .created ∧
        state.network.Matched (.command view (.subscribe stream.topic sender))
  | .respond i =>
      ∃ stream ∈ state.streams[i]?, (stream.awaited.bind state.network.reply).isSome
  | .read i => ∃ stream ∈ state.streams[i]?, stream.phase = .streaming
  | .drop i => ∃ stream ∈ state.streams[i]?, stream.live
  | .publish request view sender =>
      state.network.Matched (.command view (.publishMessage request.topic request.payload sender))
  | .finish i _ => ∃ call ∈ state.calls[i]?, (state.network.reply call.sender).isSome

instance (state : Fanout PeerId) : (label : FanoutLabel PeerId) → Decidable (state.Enabled label)
  | .network label => inferInstanceAs (Decidable (state.network.Matched label))
  | .subscribe _ => isTrue trivial
  | .join i view sender => inferInstanceAs (Decidable
      (∃ stream ∈ state.streams[i]?, stream.phase = .created ∧
        state.network.Matched (.command view (.subscribe stream.topic sender))))
  | .respond i => inferInstanceAs (Decidable
      (∃ stream ∈ state.streams[i]?, (stream.awaited.bind state.network.reply).isSome))
  | .read i => inferInstanceAs (Decidable
      (∃ stream ∈ state.streams[i]?, stream.phase = .streaming))
  | .drop i => inferInstanceAs (Decidable (∃ stream ∈ state.streams[i]?, stream.live))
  | .publish request view sender => inferInstanceAs (Decidable (state.network.Matched
      (.command view (.publishMessage request.topic request.payload sender))))
  | .finish i _ => inferInstanceAs (Decidable
      (∃ call ∈ state.calls[i]?, (state.network.reply call.sender).isSome))

section

variable [TextCodec PeerId] [TextCodec (Multiaddr PeerId)] [ToString CommandError]

def finish (state : Fanout PeerId) (i : Nat) (call : PublishCall) (nowMillis : Nat) :
    Fanout PeerId :=
  match state.network.reply call.sender with
  | none => state
  | some answer =>
      let (_, metrics, echo) := Grpc.published state.metrics call.request
        (TextCodec.toStr state.localPeerId) nowMillis answer
      let subscriptions :=
        match echo with
        | some envelope => (state.subscriptions.publish envelope).1
        | none => state.subscriptions
      { state.share subscriptions metrics with calls := state.calls.eraseIdx i }

def next (state : Fanout PeerId) : FanoutLabel PeerId → Fanout PeerId
  | .network label => { state with network := state.network.next label }
  | .subscribe topic => state.subscribe topic
  | .join i view sender =>
      match state.streams[i]? with
      | some stream =>
          { state with
            network := state.network.next (.command view (.subscribe stream.topic sender))
            streams := state.streams.set i { stream with phase := .joining sender } }
      | none => state
  | .respond i =>
      match state.streams[i]? with
      | some stream => state.respond i stream
      | none => state
  | .read i =>
      match state.streams[i]? with
      | some stream => state.readStream i stream
      | none => state
  | .drop i =>
      match state.streams[i]? with
      | some stream => state.dropStream i stream
      | none => state
  | .publish request view sender =>
      match Grpc.publish request sender with
      | .error _ => state
      | .ok command =>
          { state with
            network := state.network.next (.command view command)
            calls := state.calls ++ [⟨request, sender⟩] }
  | .finish i nowMillis =>
      match state.calls[i]? with
      | some call => state.finish i call nowMillis
      | none => state

end

end Fanout

def fanoutSystem (PeerId : Type) [DecidableEq PeerId] [TextCodec PeerId]
    [TextCodec (Multiaddr PeerId)] [ToString CommandError] :
    System (Fanout PeerId) (FanoutLabel PeerId) where
  initial state := ∃ capacity peerstore settings bootstrapPeers localPeerId, 0 < capacity ∧
    state = .start (.start (.new capacity) peerstore settings bootstrapPeers) localPeerId
  enabled := Fanout.Enabled
  next := Fanout.next

instance {PeerId : Type} [DecidableEq PeerId] [TextCodec PeerId] [TextCodec (Multiaddr PeerId)]
    [ToString CommandError] (state : Fanout PeerId) (label : FanoutLabel PeerId) :
    Decidable ((fanoutSystem PeerId).enabled state label) :=
  inferInstanceAs (Decidable (state.Enabled label))

namespace Sample

scoped instance : ToString CommandError := ⟨fun _ => "error"⟩

def service (capacity : Nat) : Fanout Peer :=
  .start (.start (.new capacity) .default ⟨0, 1, 4, 1⟩ ∅) .carol

def gossip (topic : String) (byte : UInt8) : FanoutLabel Peer :=
  .network (.event 0 (.gossipsubMessage ⟨some .alice, [byte], topic⟩))

def joined (i : Nat) (sender : Sender) : List (FanoutLabel Peer) :=
  [.join i (view (.ok ())) sender, .respond i]

end Sample

end P2pService
