import P2pService.World.Fanout

/-!
# What the counters should say

The messages that arrived, the publishes that were accepted and how the loop answered them, and the
lags that streams were told of, recorded beside the service.
-/

namespace P2pService
open Library

structure AnsweredPublish (PeerId : Type) where
  request : PublishRequest
  answer : Answer PeerId

structure Tally (PeerId : Type) where
  arrived : List (GossipsubMessage PeerId)
  accepted : List PublishRequest
  answered : List (AnsweredPublish PeerId)
  lags : Nat

section

variable {PeerId : Type}

def Answer.publishEvent : Answer PeerId → String
  | .ok => "message_published"
  | .error (.publish .noPeersSubscribedToTopic) => "publish_no_peers"
  | _ => "publish_error"

def Label.arrival? : Label PeerId → Option (GossipsubMessage PeerId)
  | .event _ (.gossipsubMessage message) => some message
  | _ => none

end

variable {PeerId : Type} [DecidableEq PeerId]

namespace Fanout

def answered? (state : Fanout PeerId) (i : Nat) : Option (AnsweredPublish PeerId) := do
  let call ← state.calls[i]?
  let answer ← state.network.reply call.sender
  return ⟨call.request, answer⟩

omit [DecidableEq PeerId] in
def received? (state : Fanout PeerId) (i : Nat) : Option (Received Envelope) := do
  let stream ← state.streams[i]?
  let (received, _) ← state.subscriptions.recv stream.receiver
  return received

end Fanout

namespace Tally

omit [DecidableEq PeerId] in
def empty : Tally PeerId := ⟨[], [], [], 0⟩

def record (state : Fanout PeerId) (label : FanoutLabel PeerId) (tally : Tally PeerId) :
    Tally PeerId :=
  match label with
  | .network label => { tally with arrived := tally.arrived ++ label.arrival?.toList }
  | .publish request _ _ => { tally with
      accepted := if request.topic = "" then tally.accepted else tally.accepted ++ [request] }
  | .finish i _ => { tally with answered := tally.answered ++ (state.answered? i).toList }
  | .read i => { tally with
      lags := tally.lags + ((state.received? i).map lagEvent).getD 0 }
  | .subscribe _ | .join _ _ _ | .respond _ | .drop _ => tally

end Tally

def talliedFanout (PeerId : Type) [DecidableEq PeerId] [TextCodec PeerId]
    [TextCodec (Multiaddr PeerId)] [ToString CommandError] :
    System (Fanout PeerId × Tally PeerId) (FanoutLabel PeerId) :=
  (fanoutSystem PeerId).withHistory .empty Tally.record

end P2pService
