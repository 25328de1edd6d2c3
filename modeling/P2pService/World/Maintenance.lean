import P2pService.Model.Maintenance
import P2pService.World.Network

/-!
# The maintenance task beside the event loop

The task talks to the loop by commands only. A command it has sent waits in the channel until the
loop handles it, and the task waits for the answer, or for the timeout of a dial; everything else
of the network goes on meanwhile.
-/

namespace P2pService
open Library

/-- Where the task stands. Within a tick it keeps the peers connected in its snapshot, the
candidates that are left and the peers it has dialed. -/
inductive Task (PeerId : Type) where
  | sleeping
  | asking (sender : Sender)
  | dialing (connected : Finset PeerId) (candidates : List (PeerId × List (Multiaddr PeerId)))
      (attempted : Finset PeerId)
  | awaiting (sender : Sender) (peer : PeerId) (connected : Finset PeerId)
      (candidates : List (PeerId × List (Multiaddr PeerId))) (attempted : Finset PeerId)

structure Maintained (PeerId : Type) where
  network : World PeerId
  /-- The commands of the task that the loop has not handled yet. -/
  requests : List (Command PeerId)
  backoff : DialBackoff PeerId
  task : Task PeerId
  bootstrap : List (PeerId × Multiaddr PeerId)
  lowWater : Nat

inductive MaintenanceLabel (PeerId : Type) where
  | network (label : Label PeerId)
  | deliver (view : SwarmView PeerId)
  | tick (now : Instant) (sender : Sender)
  | plan (nowUnix : Nat) (preferred : List (PeerId × List (Multiaddr PeerId)))
      (refill : List (PeerId × Multiaddr PeerId))
  | attempt (now : Instant) (sender : Sender)
  | conclude (now : Instant) (jitter : ℚ)
  | timeout (now : Instant) (jitter : ℚ)

namespace Maintained

variable {PeerId : Type}

def awaited (state : Maintained PeerId) : Option (Sender × PeerId) :=
  match state.task with
  | .awaiting sender peer _ _ _ => some (sender, peer)
  | _ => none

variable [DecidableEq PeerId]

def start (network : World PeerId) (bootstrapMultiaddrs : List (Multiaddr PeerId)) (lowWater : Nat) :
    Maintained PeerId where
  network := network
  requests := []
  backoff := .new backoffBase backoffCap
  task := .sleeping
  bootstrap := bootstrapMultiaddrs.filterMap Maintenance.splitPeerMultiaddr
  lowWater := lowWater

def Fresh (state : Maintained PeerId) (sender : Sender) : Prop :=
  sender ∉ state.network.senders ∧ sender ∉ state.requests.map Command.sender

/-- The factor `0.5 + rand::random::<f64>()`. -/
def Jitter (jitter : ℚ) : Prop := 1 / 2 ≤ jitter ∧ jitter < 3 / 2

section

variable [TextCodec PeerId] [TextCodec (Multiaddr PeerId)]

def Enabled (state : Maintained PeerId) : MaintenanceLabel PeerId → Prop
  | .network label =>
      state.network.Matched label ∧
        ∀ sender ∈ label.sender?, sender ∉ state.requests.map Command.sender
  | .deliver view => ∃ command ∈ state.requests.head?, state.network.Matched (.command view command)
  | .tick _ sender => state.task = .sleeping ∧ state.Fresh sender
  | .plan nowUnix preferred refill =>
      ∃ sender snapshot, state.task = .asking sender ∧
        state.network.reply sender = some (.snapshot snapshot) ∧
        preferred = Maintenance.preferredCandidates snapshot.preferred snapshot.connected ∧
        refill = Maintenance.refillCandidates state.lowWater
          (state.network.loop.peerstore.dialCandidates peerstoreMaxAgeSecs nowUnix) snapshot.connected
  | .attempt _ sender =>
      (∃ connected candidates attempted, state.task = .dialing connected candidates attempted) ∧
        state.Fresh sender
  | .conclude _ jitter =>
      Jitter jitter ∧ ∃ sender peer, state.awaited = some (sender, peer) ∧
        (state.network.reply sender).isSome
  | .timeout _ jitter => Jitter jitter ∧ state.awaited.isSome

def attempt (state : Maintained PeerId) (now : Instant) (sender : Sender) : Maintained PeerId :=
  match state.task with
  | .dialing _ [] _ => { state with task := .sleeping }
  | .dialing connected ((peer, addrs) :: rest) attempted =>
      if peer ∈ connected ∨ peer ∈ attempted ∨ state.backoff.ready peer now = false then
        { state with task := .dialing connected rest attempted }
      else
        { state with
          requests := state.requests ++ [.dial peer addrs sender]
          task := .awaiting sender peer connected rest (insert peer attempted) }
  | _ => state

def next (state : Maintained PeerId) : MaintenanceLabel PeerId → Maintained PeerId
  | .network label => { state with network := state.network.next label }
  | .deliver view =>
      match state.requests with
      | [] => state
      | command :: rest =>
          { state with network := state.network.next (.command view command), requests := rest }
  | .tick now sender =>
      { state with
        backoff := state.backoff.prune now
        requests := state.requests ++ [.networkSnapshot sender]
        task := .asking sender }
  | .plan _ preferred refill =>
      match state.task with
      | .asking sender =>
          match state.network.reply sender with
          | some (.snapshot snapshot) =>
              let candidates := Maintenance.candidates state.bootstrap state.lowWater
                snapshot.connected preferred refill
              { state with task := .dialing snapshot.connected candidates ∅ }
          | _ => { state with task := .sleeping }
      | _ => state
  | .attempt now sender => state.attempt now sender
  | .conclude now jitter =>
      match state.task with
      | .awaiting sender peer connected candidates attempted =>
          match state.network.reply sender with
          | some .ok =>
              { state with
                backoff := state.backoff.recordSuccess peer
                task := .dialing connected candidates attempted }
          | some _ =>
              { state with
                backoff := state.backoff.recordFailure peer now jitter
                task := .dialing connected candidates attempted }
          | none => state
      | _ => state
  | .timeout now jitter =>
      match state.task with
      | .awaiting _ peer connected candidates attempted =>
          { state with
            backoff := state.backoff.recordFailure peer now jitter
            task := .dialing connected candidates attempted }
      | _ => state

end

end Maintained

def maintenanceSystem (PeerId : Type) [DecidableEq PeerId] [TextCodec PeerId]
    [TextCodec (Multiaddr PeerId)] : System (Maintained PeerId) (MaintenanceLabel PeerId) where
  initial state := ∃ network bootstrapMultiaddrs lowWater,
    (networkSystem PeerId).initial network ∧ state = .start network bootstrapMultiaddrs lowWater
  enabled := Maintained.Enabled
  next := Maintained.next

end P2pService
