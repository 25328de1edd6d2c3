import P2pService.Library.Calls
import P2pService.Model.Grpc
import P2pService.World.Network

/-!
# The event loop and its clients

Every method of a client goes through `P2PClient::send_command_and_wait`, which is a call on the
event loop: the command enters the channel, and its sender is the slot that the answer goes to. A
send that waits for room in the channel is a call that has not sent yet. The loop ends by itself
when the channel is closed, or it is aborted.
-/

namespace P2pService
open Library

section

variable {PeerId : Type}

def Label.command? : Label PeerId → Option (Command PeerId)
  | .command _ asked => some asked
  | _ => none

def errsWith (kind : CommandError → Bool) : Except CommandError Unit → Bool
  | .ok () => true
  | .error error => kind error

def CommandError.isPublish : CommandError → Bool
  | .publish _ => true
  | _ => false

/-- What the swarm replies to a call is an error of that call's own type. -/
def Label.wellTyped : Label PeerId → Bool
  | .command view (.startListening addr _) => errsWith (· = .listen) (view.listenOn addr)
  | .command view (.subscribe topic _) => errsWith (· = .subscription) (view.subscribe topic)
  | .command view (.publishMessage topic message _) =>
      errsWith CommandError.isPublish (view.publish topic message)
  | _ => true

/-- The senders that wait for a dial. -/
def EventLoop.heldSenders (loop : EventLoop PeerId) : Multiset Sender :=
  loop.pendingDials.iter.bind fun entry => (entry.2 : Multiset Sender)

/-- What the caller gets, for what its receiver gets. -/
def P2PClient.sendCommandAndWait (received : Option (Answer PeerId)) : Answer PeerId :=
  match received with
  | some answer => answer
  | none => .error .channelClosed

end

variable (PeerId : Type) [DecidableEq PeerId] [TextCodec PeerId] [TextCodec (Multiaddr PeerId)]

def eventLoopServer : Server (World PeerId) (Label PeerId) (Command PeerId) (Answer PeerId) where
  toSystem := (networkSystem PeerId).restrict fun _ label => label.wellTyped
  request? := Label.command?
  slot := Command.sender
  held world := world.loop.heldSenders
  answers world := world.answers

abbrev Service := Desk (World PeerId) (Command PeerId) (Answer PeerId)

abbrev ServiceLabel := DeskLabel (Label PeerId) (Command PeerId)

def serviceSystem : System (Service PeerId × CallLog) (ServiceLabel PeerId) :=
  (eventLoopServer PeerId).loggedDesk

/-! ## The requests of the gRPC API -/

inductive Rpc where
  | identify
  | dial (request : DialRequest)
  | publish (request : PublishRequest)
  | subscribe (topicName : String)
  | setPreferredPeers (peers : List PreferredPeer)
  | getPeers
  deriving DecidableEq, Repr

namespace Rpc

variable {PeerId : Type} [TextCodec PeerId] [TextCodec (Multiaddr PeerId)]

/-- The command that a handler sends, unless it refuses the request. -/
def command [DecidableEq PeerId] [ParseError PeerId] [ParseError (Multiaddr PeerId)] (rpc : Rpc)
    (sender : Sender) : Except Status (Command PeerId) :=
  match rpc with
  | .identify => .ok (Grpc.identify sender)
  | .dial request => Grpc.dial request sender
  | .publish request => Grpc.publish request sender
  | .subscribe topicName => Grpc.subscribe topicName sender
  | .setPreferredPeers peers => .ok (Grpc.setPreferredPeers peers sender)
  | .getPeers => .ok (Grpc.getPeers sender)

/-- The status that a handler ends with, once its command has been answered. -/
def status [ToString CommandError] (rpc : Rpc) (metrics : Metrics) (localPeerId : String)
    (nowMillis : Nat) (answer : Answer PeerId) : Except Status Unit :=
  match rpc with
  | .identify => (Grpc.identifyResponse answer).map fun _ => ()
  | .dial _ => Grpc.dialResponse answer
  | .publish request => (Grpc.published metrics request localPeerId nowMillis answer).1
  | .subscribe _ => Grpc.subscribeResponse answer
  | .setPreferredPeers _ => (Grpc.setPreferredPeersResponse answer).map fun _ => ()
  | .getPeers => (Grpc.getPeersResponse answer).map fun _ => ()

end Rpc

namespace Sample

scoped instance : ParseError Peer := ⟨fun _ => "invalid multihash"⟩

scoped instance : ParseError (Multiaddr Peer) := ⟨fun _ => "invalid multiaddr"⟩

def idleService : Service Peer := ⟨node 4 4 1, true, [], [], {0}⟩

def askedBob : Command Peer := .dial .bob [addr 10 0 0 2] 0

/-- A dial that the loop has taken, and a question of another client behind it. -/
def dialAndAsk : List (ServiceLabel Peer) :=
  [.call 0 askedBob, .send 0, .serve (.command (view (.ok ())) askedBob), .clone 0 1,
    .call 1 (.identify 1), .send 1]

def dialedAndAsked : Service Peer × CallLog :=
  (serviceSystem Peer).after (idleService, ⟨[], []⟩) dialAndAsk

theorem dialedAndAsked_reachable : (serviceSystem Peer).Reachable dialedAndAsked := by
  refine (System.Reachable.initial ?_).after ?_
  · exact ⟨⟨⟨_, _, _, _, rfl⟩, rfl, rfl, rfl⟩, rfl⟩
  · refine ⟨⟨by decide, rfl, by simp [idleService]⟩, ⟨rfl, _, rfl, rfl⟩, ?_, ?_, ?_, ?_, trivial⟩
    · exact ⟨rfl, ⟨by decide, rfl⟩, askedBob, rfl, rfl⟩
    · exact ⟨by decide, by decide⟩
    · refine ⟨by decide, rfl, by decide⟩
    · exact ⟨rfl, _, rfl, rfl⟩

def hungUp : Service Peer × CallLog :=
  (serviceSystem Peer).after dialedAndAsked
    [.event (outbound .bob (addr 10 0 0 2) 0), .complete 0, .kill, .complete 1]

theorem hungUp_reachable : (serviceSystem Peer).Reachable hungUp := by
  refine dialedAndAsked_reachable.after ⟨?_, rfl, rfl, rfl, trivial⟩
  exact ⟨rfl, ⟨by decide, rfl⟩, rfl⟩

end Sample

end P2pService
