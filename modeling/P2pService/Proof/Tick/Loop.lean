import P2pService.Library.Pick
import P2pService.World.Tick

/-!
# The dial loop of a tick

The loop consults a backoff that it updates itself, but only for peers that it does not come back
to. So it dials the first entry of each peer that comes up unconnected and ready, where ready is
judged by the backoff the loop started with.
-/

namespace P2pService
open Library

variable {PeerId : Type} [DecidableEq PeerId]

namespace DialBackoff

theorem ready_congr {first second : DialBackoff PeerId} {peer : PeerId}
    (same : first.state.get peer = second.state.get peer) (now : Instant) :
    first.ready peer now = second.ready peer now := by
  simp only [ready, same]

theorem get_recordFailure_self (backoff : DialBackoff PeerId) (peer : PeerId) (now jitter : ℚ) :
    (backoff.recordFailure peer now jitter).state.get peer ≠ none := by
  rw [recordFailure, HashMap.get_insert_self]
  exact Option.some_ne_none _

theorem get_recordSuccess_of_ne (backoff : DialBackoff PeerId) {peer other : PeerId}
    (different : peer ≠ other) :
    (backoff.recordSuccess other).state.get peer = backoff.state.get peer := by
  rw [recordSuccess, HashMap.get_remove, if_neg different]

end DialBackoff

namespace DialLoop

def due (connected : Finset PeerId) (backoff : DialBackoff PeerId)
    (turn : Candidate PeerId × Moment) : Bool :=
  turn.1.peer ∉ connected && backoff.ready turn.1.peer turn.2.readyAt

abbrev dialedPeer (turn : Candidate PeerId × Moment) : PeerId := turn.1.peer

theorem due_iff {connected : Finset PeerId} {backoff : DialBackoff PeerId}
    {turn : Candidate PeerId × Moment} : due connected backoff turn ↔
      turn.1.peer ∉ connected ∧ backoff.ready turn.1.peer turn.2.readyAt := by
  simp [due]

theorem settle_get_self (backoff : DialBackoff PeerId) (peer : PeerId) (moment : Moment) :
    (settle backoff peer moment).state.get peer = none ↔ moment.result = .connected := by
  unfold settle
  cases moment.result with
  | connected => simp
  | failed | timedOut => simp [backoff.get_recordFailure_self peer]

theorem settle_get_of_ne (backoff : DialBackoff PeerId) {peer other : PeerId}
    (different : peer ≠ other) (moment : Moment) :
    (settle backoff other moment).state.get peer = backoff.state.get peer := by
  unfold settle
  cases moment.result with
  | connected => exact backoff.get_recordSuccess_of_ne different
  | failed | timedOut => exact backoff.get_recordFailure_of_ne different _ _

variable {connected : Finset PeerId}

theorem turn_of_due {loop : DialLoop PeerId} {turn : Candidate PeerId × Moment}
    (dial : due connected loop.backoff turn) (fresh : turn.1.peer ∉ loop.attempted) :
    loop.turn connected turn.1 turn.2 =
      { backoff := settle loop.backoff turn.1.peer turn.2
        attempted := insert turn.1.peer loop.attempted
        dials := loop.dials ++ [⟨turn.1, turn.2, loop.backoff⟩] } := by
  obtain ⟨absent, ready⟩ := due_iff.mp dial
  simp [DialLoop.turn, absent, fresh, ready]

theorem turn_of_passed {loop : DialLoop PeerId} {turn : Candidate PeerId × Moment}
    (passed : ¬ (due connected loop.backoff turn ∧ turn.1.peer ∉ loop.attempted)) :
    loop.turn connected turn.1 turn.2 = loop := by
  unfold DialLoop.turn
  dsimp only
  split_ifs with skipped waiting
  · rfl
  · rfl
  · rw [not_or] at skipped
    exact absurd ⟨due_iff.mpr ⟨skipped.1, Bool.not_eq_false _ ▸ waiting⟩, skipped.2⟩ passed

structure Ran (connected : Finset PeerId) (start : DialBackoff PeerId)
    (turns : List (Candidate PeerId × Moment)) (loop : DialLoop PeerId) : Prop where
  dials : loop.dials.map (fun dial => (dial.candidate, dial.moment)) =
    pick dialedPeer (due connected start) ∅ turns
  attempted : loop.attempted = okKeys dialedPeer (due connected start) turns
  allowed : ∀ dial ∈ loop.dials, dial.backoff.ready dial.candidate.peer dial.moment.readyAt
  settled : ∀ dial ∈ loop.dials,
    loop.backoff.state.get dial.candidate.peer = none ↔ dial.moment.result = .connected
  untouched : ∀ peer ∉ loop.attempted, loop.backoff.state.get peer = start.state.get peer

namespace Ran

variable {start : DialBackoff PeerId} {turns : List (Candidate PeerId × Moment)}
  {loop : DialLoop PeerId}

theorem peer_mem_attempted (ran : Ran connected start turns loop) {dial : Dial PeerId}
    (made : dial ∈ loop.dials) : dial.candidate.peer ∈ loop.attempted := by
  have picked := List.mem_map_of_mem (f := fun dial => (dial.candidate, dial.moment)) made
  rw [ran.dials] at picked
  rw [ran.attempted]
  exact mem_okKeys.mpr ⟨_, (pick_sublist ∅ turns).mem picked, ok_of_mem_pick picked, rfl⟩

theorem due_eq (ran : Ran connected start turns loop) {turn : Candidate PeerId × Moment}
    (fresh : turn.1.peer ∉ loop.attempted) :
    due connected loop.backoff turn = due connected start turn := by
  rw [due, due, DialBackoff.ready_congr (ran.untouched _ fresh)]

theorem turn (ran : Ran connected start turns loop) (turn : Candidate PeerId × Moment) :
    Ran connected start (turns ++ [turn]) (loop.turn connected turn.1 turn.2) := by
  have keys : okKeys dialedPeer (due connected start) (turns ++ [turn]) =
      loop.attempted ∪ okKeys dialedPeer (due connected start) [turn] := by
    rw [ran.attempted]
    simp [okKeys]
  by_cases dials : due connected loop.backoff turn ∧ turn.1.peer ∉ loop.attempted
  · have due_now : due connected start turn := ran.due_eq dials.2 ▸ dials.1
    rw [turn_of_due dials.1 dials.2]
    refine ⟨?_, ?_, fun dial made => ?_, fun dial made => ?_, fun peer other => ?_⟩
    · rw [pick_append, Finset.empty_union, ← ran.attempted, ← ran.dials, List.map_append,
        pick_cons_of_taken due_now dials.2]
      rfl
    · rw [keys, Finset.insert_eq, Finset.union_comm]
      simp [okKeys, due_now]
    · rcases List.mem_append.mp made with old | new
      · exact ran.allowed dial old
      · cases List.mem_singleton.mp new
        exact (due_iff.mp dials.1).2
    · rcases List.mem_append.mp made with old | new
      · have different : dial.candidate.peer ≠ turn.1.peer :=
          fun same => dials.2 (same ▸ ran.peer_mem_attempted old)
        rw [settle_get_of_ne loop.backoff different]
        exact ran.settled dial old
      · cases List.mem_singleton.mp new
        exact settle_get_self loop.backoff turn.1.peer turn.2
    · rw [Finset.mem_insert, not_or] at other
      rw [settle_get_of_ne loop.backoff other.1]
      exact ran.untouched peer other.2
  · have passed : ¬ (due connected start turn ∧ turn.1.peer ∉ loop.attempted) :=
      fun now => dials ⟨(ran.due_eq now.2).symm ▸ now.1, now.2⟩
    rw [turn_of_passed dials]
    refine ⟨?_, ?_, ran.allowed, ran.settled, ran.untouched⟩
    · rw [pick_append, Finset.empty_union, ← ran.attempted, ← ran.dials,
        pick_cons_of_passed passed]
      exact (List.append_nil _).symm
    · rw [keys]
      refine (Finset.union_eq_left.mpr fun peer member => ?_).symm
      obtain ⟨_, listed, due_now, rfl⟩ := mem_okKeys.mp member
      cases List.mem_singleton.mp listed
      by_contra fresh
      exact passed ⟨due_now, fresh⟩

end Ran

theorem ran_run (connected : Finset PeerId) (start : DialBackoff PeerId)
    (turns : List (Candidate PeerId × Moment)) :
    Ran connected start turns (run connected ⟨start, ∅, []⟩ turns) := by
  induction turns using List.reverseRecOn with
  | nil => exact ⟨rfl, rfl, by simp [run], by simp [run], fun _ _ => rfl⟩
  | append_singleton turns turn ih =>
      rw [run, List.foldl_append]
      exact ih.turn turn

end DialLoop
end P2pService
