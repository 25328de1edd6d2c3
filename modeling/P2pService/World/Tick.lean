import P2pService.World.Maintenance

/-!
# One tick of the maintenance task

A tick from its prune to its last dial, by itself. What the source leaves to chance or to others is
given with the tick: how the two lists are shuffled, what the clock says, and what comes of each
dial.
-/

namespace P2pService
open Library

inductive Source where
  | bootstrap
  | preferred
  | refill
  deriving DecidableEq, Repr

structure Candidate (PeerId : Type) where
  source : Source
  peer : PeerId
  addrs : List (Multiaddr PeerId)
  deriving DecidableEq, Repr

inductive DialResult where
  | connected
  | failed
  | timedOut
  deriving DecidableEq, Repr

/-- The time at which a candidate comes up and, should it be dialed, what comes of that, when, and
how a failure is jittered. -/
structure Moment where
  readyAt : Instant
  result : DialResult
  settledAt : Instant
  jitter : ℚ

structure Dial (PeerId : Type) where
  candidate : Candidate PeerId
  moment : Moment
  backoff : DialBackoff PeerId

structure DialLoop (PeerId : Type) where
  backoff : DialBackoff PeerId
  attempted : Finset PeerId
  dials : List (Dial PeerId)

namespace DialLoop

variable {PeerId : Type} [DecidableEq PeerId]

def settle (backoff : DialBackoff PeerId) (peer : PeerId) (moment : Moment) : DialBackoff PeerId :=
  match moment.result with
  | .connected => backoff.recordSuccess peer
  | .failed | .timedOut => backoff.recordFailure peer moment.settledAt moment.jitter

def turn (connected : Finset PeerId) (loop : DialLoop PeerId) (candidate : Candidate PeerId)
    (moment : Moment) : DialLoop PeerId :=
  let peer := candidate.peer
  if peer ∈ connected ∨ peer ∈ loop.attempted then loop
  else if loop.backoff.ready peer moment.readyAt = false then loop
  else
    { backoff := settle loop.backoff peer moment
      attempted := insert peer loop.attempted
      dials := loop.dials ++ [⟨candidate, moment, loop.backoff⟩] }

def run (connected : Finset PeerId) (loop : DialLoop PeerId)
    (turns : List (Candidate PeerId × Moment)) : DialLoop PeerId :=
  turns.foldl (fun loop turn => loop.turn connected turn.1 turn.2) loop

end DialLoop

/-- What a tick finds: the configuration, the snapshot it is answered, and the peerstore at the time
it reads it. -/
structure TickInputs (PeerId : Type) where
  bootstrapMultiaddrs : List (Multiaddr PeerId)
  lowWater : Nat
  snapshot : NetworkSnapshot PeerId
  peerstore : PeerStore
  nowUnix : Nat

namespace TickInputs

variable {PeerId : Type}

def connected (inputs : TickInputs PeerId) : Finset PeerId := inputs.snapshot.connected

def bootstrap (inputs : TickInputs PeerId) : List (PeerId × Multiaddr PeerId) :=
  inputs.bootstrapMultiaddrs.filterMap Maintenance.splitPeerMultiaddr

def refillBudget (inputs : TickInputs PeerId) : Nat :=
  Maintenance.refillBudget inputs.lowWater inputs.connected

variable [DecidableEq PeerId]

def preferred (inputs : TickInputs PeerId) : Multiset (PeerId × List (Multiaddr PeerId)) :=
  Maintenance.preferredCandidates inputs.snapshot.preferred inputs.connected

def refill [TextCodec PeerId] [TextCodec (Multiaddr PeerId)] (inputs : TickInputs PeerId) :
    Multiset (PeerId × Multiaddr PeerId) :=
  Maintenance.refillCandidates inputs.lowWater
    (inputs.peerstore.dialCandidates peerstoreMaxAgeSecs inputs.nowUnix) inputs.connected

end TickInputs

/-- One way in which a tick can go. -/
structure Tick {PeerId : Type} [DecidableEq PeerId] [TextCodec PeerId] [TextCodec (Multiaddr PeerId)]
    (inputs : TickInputs PeerId) where
  backoff : DialBackoff PeerId
  startedAt : Instant
  preferred : List (PeerId × List (Multiaddr PeerId))
  preferred_shuffled : preferred = inputs.preferred
  refill : List (PeerId × Multiaddr PeerId)
  refill_shuffled : refill = inputs.refill
  moments : Nat → Moment
  clock : ∀ k, startedAt ≤ (moments k).readyAt ∧ (moments k).readyAt ≤ (moments k).settledAt ∧
    (moments k).settledAt ≤ (moments (k + 1)).readyAt
  jitter : ∀ k, Maintained.Jitter (moments k).jitter

namespace Tick

variable {PeerId : Type} [DecidableEq PeerId] [TextCodec PeerId] [TextCodec (Multiaddr PeerId)]
  {inputs : TickInputs PeerId} (tick : Tick inputs)

omit [TextCodec PeerId] [TextCodec (Multiaddr PeerId)] in
def bootstrapCandidates (inputs : TickInputs PeerId) : List (Candidate PeerId) :=
  (Maintenance.bootstrapCandidates inputs.bootstrap inputs.connected).map fun peer =>
    ⟨.bootstrap, peer.1, peer.2⟩

def preferredCandidates : List (Candidate PeerId) :=
  (tick.preferred.take maxPreferredDialsPerTick).map fun peer => ⟨.preferred, peer.1, peer.2⟩

def refillCandidates : List (Candidate PeerId) :=
  (tick.refill.take inputs.refillBudget).map fun peer => ⟨.refill, peer.1, [peer.2]⟩

def candidates : List (Candidate PeerId) :=
  bootstrapCandidates inputs ++ tick.preferredCandidates ++ tick.refillCandidates

theorem candidates_eq : tick.candidates.map (fun candidate => (candidate.peer, candidate.addrs)) =
    Maintenance.candidates inputs.bootstrap inputs.lowWater inputs.connected tick.preferred
      tick.refill := by
  simp [candidates, bootstrapCandidates, preferredCandidates, refillCandidates,
    Maintenance.candidates, TickInputs.refillBudget, Function.comp_def]

def turns : List (Candidate PeerId × Moment) :=
  tick.candidates.zipIdx.map fun entry => (entry.1, tick.moments entry.2)

def pruned : DialBackoff PeerId := tick.backoff.prune tick.startedAt

def finished : DialLoop PeerId := DialLoop.run inputs.connected ⟨tick.pruned, ∅, []⟩ tick.turns

def dials : List (Dial PeerId) := tick.finished.dials

def dialsFrom (source : Source) : List (Dial PeerId) :=
  tick.dials.filter fun dial => dial.candidate.source = source

end Tick
end P2pService
