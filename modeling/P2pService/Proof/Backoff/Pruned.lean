import P2pService.Proof.Tick.Dials
import P2pService.World.Backoff

/-!
# Pruning a backoff

A prune drops entries of peers that are ready anyway. With the entry goes the count of failures, so
the next failure of the peer costs less than it would have.
-/

namespace P2pService
open Library

variable {PeerId : Type} [DecidableEq PeerId]

namespace DialBackoff

theorem ready_recordFailure (backoff : DialBackoff PeerId) (peer other : PeerId)
    (failedAt jitter : ℚ) (now : Instant) :
    (backoff.recordFailure other failedAt jitter).ready peer now =
      if peer = other then
        decide (failedAt + backoff.capped (backoff.nextFailures other) * jitter ≤ now)
      else backoff.ready peer now := by
  split_ifs with same
  · subst same
    simp only [ready, recordFailure, HashMap.get_insert_self]
  · exact ready_congr (backoff.get_recordFailure_of_ne same failedAt jitter) now

theorem ready_recordSuccess (backoff : DialBackoff PeerId) (peer other : PeerId) (now : Instant) :
    (backoff.recordSuccess other).ready peer now =
      if peer = other then true else backoff.ready peer now := by
  split_ifs with same
  · subst same
    exact ready_of_none (backoff.recordSuccess_get peer) now
  · exact ready_congr (backoff.get_recordSuccess_of_ne same) now

omit [DecidableEq PeerId] in
def growth (backoff : DialBackoff PeerId) (failures : UInt32) : Nat :=
  backoff.base * saturatingPowTwo (failures.toNat - 1)

omit [DecidableEq PeerId] in
def AtCap (backoff : DialBackoff PeerId) (failures : UInt32) : Prop :=
  min durationMax backoff.cap ≤ backoff.growth failures

theorem min_eq_min_iff (m n cap : Nat) : min m cap = min n cap ↔ m = n ∨ cap ≤ m ∧ cap ≤ n := by
  omega

omit [DecidableEq PeerId] in
theorem capped_eq (backoff : DialBackoff PeerId) (failures : UInt32) :
    backoff.capped failures = min (backoff.growth failures) (min durationMax backoff.cap) :=
  min_assoc _ _ _

omit [DecidableEq PeerId] in
theorem capped_eq_iff {first second : DialBackoff PeerId} (cap : first.cap = second.cap)
    (m n : UInt32) : first.capped m = second.capped n ↔
      first.growth m = second.growth n ∨ first.AtCap m ∧ second.AtCap n := by
  rw [AtCap, AtCap, capped_eq, capped_eq, cap]
  exact min_eq_min_iff _ _ _

end DialBackoff

/-! ## A run with its prunes and without -/

def SameAnswer (state : ClockedBackoff PeerId × DialBackoff PeerId) : BackoffCall PeerId → Prop
  | .ready peer now => state.1.backoff.ready peer now = state.2.ready peer now
  | .recordFailure _ _ _ | .recordSuccess _ | .prune _ => True

/-- Every query that can come now has the same answer with the prunes and without. -/
def Alike (state : ClockedBackoff PeerId × DialBackoff PeerId) : Prop :=
  ∀ call, state.1.Enabled call → SameAnswer state call

instance (state : ClockedBackoff PeerId × DialBackoff PeerId) :
    ∀ call, Decidable (SameAnswer state call)
  | .ready _ _ => inferInstanceAs (Decidable (_ = _))
  | .recordFailure _ _ _ | .recordSuccess _ | .prune _ => inferInstanceAs (Decidable True)

def SameCap (state : ClockedBackoff PeerId × DialBackoff PeerId) : Prop :=
  state.1.backoff.cap = state.2.cap

/-- The failures counted with the prunes and without are as many as make the same delay. -/
def SameDelay (state : ClockedBackoff PeerId × DialBackoff PeerId) : BackoffCall PeerId → Prop
  | .recordFailure peer _ _ =>
      state.1.backoff.growth (state.1.backoff.nextFailures peer) =
          state.2.growth (state.2.nextFailures peer) ∨
        state.1.backoff.AtCap (state.1.backoff.nextFailures peer) ∧
          state.2.AtCap (state.2.nextFailures peer)
  | .recordSuccess _ | .ready _ _ | .prune _ => True

instance (state : ClockedBackoff PeerId × DialBackoff PeerId) :
    ∀ call, Decidable (SameDelay state call)
  | .recordFailure _ _ _ => inferInstanceAs (Decidable (_ = _ ∨ _ ≤ _ ∧ _ ≤ _))
  | .recordSuccess _ | .ready _ _ | .prune _ => inferInstanceAs (Decidable True)

theorem alike_iff {state : ClockedBackoff PeerId × DialBackoff PeerId} : Alike state ↔
    ∀ peer now, state.1.clock ≤ now →
      state.1.backoff.ready peer now = state.2.ready peer now := by
  constructor
  · intro alike peer now later
    exact alike (.ready peer now) later
  · intro same call enabled
    cases call with
    | ready peer now => exact same peer now enabled
    | recordFailure | recordSuccess | prune => trivial

theorem delay_eq_iff {jitter : ℚ} (positive : 0 < jitter) (failedAt : Instant) (m n : Nat) :
    (∀ now, failedAt ≤ now → (failedAt + m * jitter ≤ now ↔ failedAt + n * jitter ≤ now)) ↔
      m = n := by
  constructor
  · intro alike
    have ends (k : Nat) : failedAt ≤ failedAt + k * jitter :=
      le_add_of_nonneg_right (mul_nonneg (Nat.cast_nonneg k) positive.le)
    have first := (alike _ (ends m)).mp le_rfl
    have second := (alike _ (ends n)).mpr le_rfl
    have same : (m : ℚ) * jitter = n * jitter := add_left_cancel (le_antisymm second first)
    exact Nat.cast_injective (mul_right_cancel₀ positive.ne' same)
  · rintro rfl now _
    exact Iff.rfl

theorem alike_next {state : ClockedBackoff PeerId × DialBackoff PeerId}
    (cap : SameCap state) (alike : Alike state) {call : BackoffCall PeerId}
    (enabled : state.1.Enabled call) :
    Alike (state.1.next call, callUnpruned state.1 call state.2) ↔ SameDelay state call := by
  rw [alike_iff] at alike ⊢
  obtain ⟨⟨backoff, clock⟩, unpruned⟩ := state
  cases call with
  | recordFailure peer now jitter =>
      obtain ⟨later, spread⟩ := enabled
      have positive : 0 < jitter := lt_of_lt_of_le (by norm_num) spread.1
      refine Iff.trans ?_ ((delay_eq_iff positive now _ _).trans (DialBackoff.capped_eq_iff cap _ _))
      constructor
      · intro still time after
        have here := still peer time after
        simp only [ClockedBackoff.next, DialBackoff.called, callUnpruned, BackoffCall.isPrune,
          DialBackoff.ready_recordFailure, if_true, Bool.false_eq_true, if_false] at here
        exact decide_eq_decide.mp here
      · intro delays other time after
        simp only [ClockedBackoff.next, DialBackoff.called, callUnpruned, BackoffCall.isPrune,
          DialBackoff.ready_recordFailure, Bool.false_eq_true, if_false]
        split_ifs with same
        · exact decide_eq_decide.mpr (delays time after)
        · exact alike other time (later.trans after)
  | recordSuccess peer =>
      refine iff_of_true (fun other time after => ?_) trivial
      simp only [ClockedBackoff.next, DialBackoff.called, callUnpruned, BackoffCall.isPrune,
        DialBackoff.ready_recordSuccess, Bool.false_eq_true, if_false]
      rw [alike other time after]
  | ready peer now =>
      exact iff_of_true (fun other time after => alike other time (enabled.trans after)) trivial
  | prune now =>
      refine iff_of_true (fun other time after => ?_) trivial
      have dropped := backoff.ready_prune other after
      exact dropped.trans (alike other time (enabled.trans after))

/--
The pruned run answers every query like the unpruned one, those it makes and those it could make,
exactly when each failure costs the same in both. For the queries that the run itself makes only
one direction holds: equal costs are enough, but where the costs differ the run may never ask.
-/
theorem prune_invisible_iff {base cap : Duration}
    {state : ClockedBackoff PeerId × DialBackoff PeerId}
    (first : (unprunedSystem PeerId base cap).initial state) {calls : List (BackoffCall PeerId)}
    (legal : (unprunedSystem PeerId base cap).Legal state calls) :
    ((unprunedSystem PeerId base cap).Throughout Alike state calls ↔
        (unprunedSystem PeerId base cap).EachStep SameDelay state calls) ∧
      ((unprunedSystem PeerId base cap).EachStep SameDelay state calls →
        (unprunedSystem PeerId base cap).EachStep SameAnswer state calls) := by
  obtain ⟨backoff, unpruned⟩ := first
  have caps : SameCap state := by rw [SameCap, backoff, unpruned]
  have start : Alike state := alike_iff.mpr fun _ _ _ => by rw [backoff, unpruned]
  have exact_run : (unprunedSystem PeerId base cap).Throughout Alike state calls ↔
      (unprunedSystem PeerId base cap).EachStep SameDelay state calls := by
    refine System.throughout_iff_eachStep ?_ ?_ caps start legal
    · intro state call same _
      cases call <;> exact same
    · intro state call same alike enabled
      exact alike_next same alike enabled
  refine ⟨exact_run, fun delays => ?_⟩
  exact (exact_run.mpr delays).eachStep (fun state call alike enabled => alike call enabled) legal

namespace Sample

def seconds (count : ℚ) : Instant := count * 10 ^ 9

def freshBackoff : ClockedBackoff Peer := ⟨.new backoffBase backoffCap, 0⟩

def twoFailures : List (BackoffCall Peer) :=
  [.recordFailure .alice (seconds 0) 1, .recordFailure .alice (seconds 1) 1]

/-- The prune forgets both failures, five minutes after the second one's window. -/
def forgotten : List (BackoffCall Peer) :=
  twoFailures ++
    [.prune (seconds 303), .recordFailure .alice (seconds 303) 1, .ready .alice (seconds 304)]

def unharmed : List (BackoffCall Peer) :=
  twoFailures ++
    [.prune (seconds 303), .recordFailure .bob (seconds 303) 1, .ready .alice (seconds 304)]

end Sample

section

open Sample

theorem prune_invisible_unharmed :
    (unprunedSystem Peer backoffBase backoffCap).EachStep SameAnswer
      (freshBackoff, .new backoffBase backoffCap) unharmed := by
  have first : (unprunedSystem Peer backoffBase backoffCap).initial
      (freshBackoff, .new backoffBase backoffCap) := ⟨rfl, rfl⟩
  exact (prune_invisible_iff first (by decide +kernel)).2 (by decide +kernel)

theorem prune_forgets_failures : ¬ ∀ (base cap : Duration)
    (state : ClockedBackoff Peer × DialBackoff Peer) (calls : List (BackoffCall Peer)),
    (unprunedSystem Peer base cap).initial state → (unprunedSystem Peer base cap).Legal state calls →
      (unprunedSystem Peer base cap).EachStep SameAnswer state calls := by
  intro invisible
  have answers := invisible backoffBase backoffCap
    (freshBackoff, .new backoffBase backoffCap) forgotten ⟨rfl, rfl⟩ (by decide +kernel)
  exact absurd answers (by decide +kernel)

end

end P2pService
