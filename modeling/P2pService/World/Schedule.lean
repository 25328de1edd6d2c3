import P2pService.World.Backoff
import P2pService.World.Tick

/-!
# The maintenance task under a clock

The task reads a clock that never goes back, and calls its backoff with what it reads. What it has
done since its last tick is recorded as a pass, beside the log of the failures that still count.
-/

namespace P2pService
open Library

section

variable {PeerId : Type}

def Command.dial? : Command PeerId → Option (PeerId × List (Multiaddr PeerId))
  | .dial peer addrs _ => some (peer, addrs)
  | _ => none

structure Pass (PeerId : Type) where
  startedAt : Instant
  before : DialBackoff PeerId
  inputs : Option (TickInputs PeerId)
  dials : List (PeerId × List (Multiaddr PeerId))

end

variable {PeerId : Type} [DecidableEq PeerId]

namespace Maintained

def backoffCall? (state : Maintained PeerId) : MaintenanceLabel PeerId → Option (BackoffCall PeerId)
  | .tick now _ => some (.prune now)
  | .attempt now _ =>
      match state.task with
      | .dialing connected ((peer, _) :: _) attempted =>
          if peer ∈ connected ∨ peer ∈ attempted then none else some (.ready peer now)
      | _ => none
  | .conclude now jitter =>
      match state.task with
      | .awaiting sender peer _ _ _ =>
          match state.network.reply sender with
          | some .ok => some (.recordSuccess peer)
          | some _ => some (.recordFailure peer now jitter)
          | none => none
      | _ => none
  | .timeout now jitter =>
      match state.task with
      | .awaiting _ peer _ _ _ => some (.recordFailure peer now jitter)
      | _ => none
  | .network _ | .deliver _ | .plan _ _ _ => none

def advance (state : Maintained PeerId) (label : MaintenanceLabel PeerId) (clock : Instant) : Instant :=
  ((state.backoffCall? label).bind BackoffCall.now?).getD clock

def OnTime (state : Maintained PeerId × Instant) (label : MaintenanceLabel PeerId) : Prop :=
  ∀ call ∈ state.1.backoffCall? label, ∀ now ∈ call.now?, state.2 ≤ now

/-- What the task plans with, once its question has been answered. -/
def tickInputs? (state : Maintained PeerId) (nowUnix : Nat) : Option (TickInputs PeerId) :=
  match state.task with
  | .asking sender =>
      match state.network.reply sender with
      | some (.snapshot snapshot) => some
          { bootstrapMultiaddrs := state.bootstrap.map fun configured =>
              configured.2 ++ [.p2p configured.1]
            lowWater := state.lowWater
            snapshot := snapshot
            peerstore := state.network.loop.peerstore
            nowUnix := nowUnix }
      | _ => none
  | _ => none

variable [TextCodec PeerId] [TextCodec (Multiaddr PeerId)]

def newDials (state : Maintained PeerId) (label : MaintenanceLabel PeerId) :
    List (PeerId × List (Multiaddr PeerId)) :=
  ((state.next label).requests.drop state.requests.length).filterMap Command.dial?

end Maintained

variable (PeerId) [TextCodec PeerId] [TextCodec (Multiaddr PeerId)]

def clockedMaintenance : System (Maintained PeerId × Instant) (MaintenanceLabel PeerId) :=
  ((maintenanceSystem PeerId).withHistory 0 Maintained.advance).restrict Maintained.OnTime

variable {PeerId}

def Pass.record (state : Maintained PeerId × Instant) (label : MaintenanceLabel PeerId)
    (pass : Pass PeerId) : Pass PeerId :=
  match label with
  | .tick now _ => ⟨now, state.1.backoff, none, []⟩
  | .plan nowUnix _ _ => { pass with inputs := state.1.tickInputs? nowUnix }
  | .attempt _ _ => { pass with dials := pass.dials ++ state.1.newDials label }
  | .network _ | .deliver _ | .conclude _ _ | .timeout _ _ => pass

def FailureLog.record (state : Maintained PeerId × Instant) (label : MaintenanceLabel PeerId)
    (log : FailureLog PeerId) : FailureLog PeerId :=
  match state.1.backoffCall? label with
  | some call => logCall ⟨state.1.backoff, state.2⟩ call log
  | none => log

variable (PeerId)

def passSystem : System ((Maintained PeerId × Instant) × Pass PeerId) (MaintenanceLabel PeerId) :=
  (clockedMaintenance PeerId).withHistory ⟨0, .new backoffBase backoffCap, none, []⟩ Pass.record

def loggedMaintenance :
    System ((Maintained PeerId × Instant) × FailureLog PeerId) (MaintenanceLabel PeerId) :=
  (clockedMaintenance PeerId).withHistory ⟨fun _ => 0, fun _ => none⟩ FailureLog.record

end P2pService
