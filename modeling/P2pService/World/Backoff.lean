import P2pService.World.Maintenance

/-!
# A backoff over a run of calls

The calls come at times that never go back. Two things are recorded beside the backoff: what it
would be if the prunes of the run had not been made, and which failures of a peer still count.
-/

namespace P2pService
open Library

inductive BackoffCall (PeerId : Type) where
  | recordFailure (peer : PeerId) (now : Instant) (jitter : ℚ)
  | recordSuccess (peer : PeerId)
  | ready (peer : PeerId) (now : Instant)
  | prune (now : Instant)

namespace BackoffCall

variable {PeerId : Type}

def now? : BackoffCall PeerId → Option Instant
  | .recordFailure _ now _ | .ready _ now | .prune now => some now
  | .recordSuccess _ => none

def isPrune : BackoffCall PeerId → Bool
  | .prune _ => true
  | _ => false

end BackoffCall

structure ClockedBackoff (PeerId : Type) where
  backoff : DialBackoff PeerId
  clock : Instant

structure FailureLog (PeerId : Type) where
  /-- The failures since the last success, or the last prune that removed the peer. -/
  count : PeerId → Nat
  latest : PeerId → Option Instant

variable {PeerId : Type} [DecidableEq PeerId]

def DialBackoff.called (backoff : DialBackoff PeerId) : BackoffCall PeerId → DialBackoff PeerId
  | .recordFailure peer now jitter => backoff.recordFailure peer now jitter
  | .recordSuccess peer => backoff.recordSuccess peer
  | .ready _ _ => backoff
  | .prune now => backoff.prune now

namespace ClockedBackoff

omit [DecidableEq PeerId] in
def Enabled (state : ClockedBackoff PeerId) : BackoffCall PeerId → Prop
  | .recordFailure _ now jitter => state.clock ≤ now ∧ Maintained.Jitter jitter
  | .recordSuccess _ => True
  | .ready _ now | .prune now => state.clock ≤ now

instance (state : ClockedBackoff PeerId) : ∀ call, Decidable (state.Enabled call)
  | .recordFailure _ now jitter => inferInstanceAs
      (Decidable (state.clock ≤ now ∧ 1 / 2 ≤ jitter ∧ jitter < 3 / 2))
  | .recordSuccess _ => inferInstanceAs (Decidable True)
  | .ready _ now | .prune now => inferInstanceAs (Decidable (state.clock ≤ now))

def next (state : ClockedBackoff PeerId) (call : BackoffCall PeerId) : ClockedBackoff PeerId :=
  ⟨state.backoff.called call, call.now?.getD state.clock⟩

def removes (state : ClockedBackoff PeerId) (now : Instant) (peer : PeerId) : Bool :=
  state.backoff.state.containsKey peer && !(state.backoff.prune now).state.containsKey peer

end ClockedBackoff

def backoffSystem (PeerId : Type) [DecidableEq PeerId] (base cap : Duration) :
    System (ClockedBackoff PeerId) (BackoffCall PeerId) where
  initial state := state.backoff = .new base cap
  enabled := ClockedBackoff.Enabled
  next := ClockedBackoff.next

def callUnpruned (_ : ClockedBackoff PeerId) (call : BackoffCall PeerId)
    (unpruned : DialBackoff PeerId) : DialBackoff PeerId :=
  if call.isPrune then unpruned else unpruned.called call

def unprunedSystem (PeerId : Type) [DecidableEq PeerId] (base cap : Duration) :
    System (ClockedBackoff PeerId × DialBackoff PeerId) (BackoffCall PeerId) :=
  (backoffSystem PeerId base cap).withHistory (.new base cap) callUnpruned

instance (base cap : Duration) (state : ClockedBackoff PeerId × DialBackoff PeerId)
    (call : BackoffCall PeerId) : Decidable ((unprunedSystem PeerId base cap).enabled state call) :=
  inferInstanceAs (Decidable (state.1.Enabled call))

def logCall (state : ClockedBackoff PeerId) (call : BackoffCall PeerId) (log : FailureLog PeerId) :
    FailureLog PeerId :=
  match call with
  | .recordFailure peer now _ =>
      { count := fun q => if q = peer then log.count q + 1 else log.count q
        latest := fun q => if q = peer then some now else log.latest q }
  | .recordSuccess peer => { log with count := fun q => if q = peer then 0 else log.count q }
  | .ready _ _ => log
  | .prune now => { log with count := fun q => if state.removes now q then 0 else log.count q }

def loggedSystem (PeerId : Type) [DecidableEq PeerId] (base cap : Duration) :
    System (ClockedBackoff PeerId × FailureLog PeerId) (BackoffCall PeerId) :=
  (backoffSystem PeerId base cap).withHistory ⟨fun _ => 0, fun _ => none⟩ logCall

instance (base cap : Duration) (state : ClockedBackoff PeerId × FailureLog PeerId)
    (call : BackoffCall PeerId) : Decidable ((loggedSystem PeerId base cap).enabled state call) :=
  inferInstanceAs (Decidable (state.1.Enabled call))

end P2pService
