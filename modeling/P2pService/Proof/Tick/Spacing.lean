import P2pService.Proof.Backoff.Windows
import P2pService.Proof.Tick.Task

/-!
# When the task dials a peer again

Over all its passes the task makes a run of calls on its backoff, under a clock that never goes
back. So what the backoff promises about the failures of a peer holds of the dials the task sends.
-/

namespace P2pService
open Library

variable {PeerId : Type} [DecidableEq PeerId] [TextCodec PeerId] [TextCodec (Multiaddr PeerId)]

namespace Maintained

omit [TextCodec PeerId] [TextCodec (Multiaddr PeerId)] in
theorem attempt_backoff (state : Maintained PeerId) (now : Instant) (sender : Sender) :
    (state.attempt now sender).backoff = state.backoff := by
  unfold attempt
  split
  · rfl
  · split_ifs <;> rfl
  · rfl

theorem next_backoff (state : Maintained PeerId) (label : MaintenanceLabel PeerId) :
    (state.next label).backoff =
      match state.backoffCall? label with
      | some call => state.backoff.called call
      | none => state.backoff := by
  cases label with
  | network | tick => rfl
  | deliver view =>
      simp only [next, backoffCall?]
      split <;> rfl
  | plan nowUnix preferred refill =>
      simp only [next, backoffCall?]
      split
      · split <;> rfl
      · rfl
  | attempt now sender =>
      simp only [next, attempt_backoff, backoffCall?]
      cases state.task with
      | dialing connected candidates attempted =>
          cases candidates with
          | nil => rfl
          | cons candidate rest =>
              dsimp only
              split_ifs <;> rfl
      | _ => rfl
  | conclude now jitter =>
      simp only [next, backoffCall?]
      cases state.task with
      | awaiting sender peer connected candidates attempted =>
          dsimp only
          cases state.network.reply sender with
          | none => rfl
          | some answer => cases answer <;> rfl
      | _ => rfl
  | timeout now jitter =>
      simp only [next, backoffCall?]
      cases state.task <;> rfl

theorem backoffCall?_jitter {state : Maintained PeerId} {label : MaintenanceLabel PeerId}
    (enabled : state.Enabled label) {peer : PeerId} {now : Instant} {jitter : ℚ}
    (call : state.backoffCall? label = some (.recordFailure peer now jitter)) : Jitter jitter := by
  cases label with
  | network | deliver | plan | tick => cases call
  | attempt =>
      simp only [backoffCall?] at call
      split at call
      · split_ifs at call
        cases call
      · cases call
  | conclude =>
      simp only [backoffCall?] at call
      split at call
      · split at call <;> cases call
        exact enabled.1
      · cases call
  | timeout =>
      simp only [backoffCall?] at call
      split at call <;> cases call
      exact enabled.1

end Maintained

variable (PeerId) in
/-- The passes of the task are one run of calls on its backoff. -/
def backoffRefinement :
    Refinement (clockedMaintenance PeerId) (backoffSystem PeerId backoffBase backoffCap) where
  view state := ⟨state.1.backoff, state.2⟩
  image state label := state.1.backoffCall? label
  initial state first := by
    obtain ⟨⟨_, _, _, _, started⟩, _⟩ := first
    exact congrArg (·.backoff) started
  enabled state label call enabled image := by
    have onTime := enabled.2 call image
    cases call with
    | recordFailure peer now jitter =>
        exact ⟨onTime now rfl, Maintained.backoffCall?_jitter enabled.1 image⟩
    | recordSuccess peer => trivial
    | ready peer now => exact onTime now rfl
    | prune now => exact onTime now rfl
  seen state label call _ image := by
    have backoff := state.1.next_backoff label
    rw [image] at backoff
    have clock : state.1.advance label state.2 = call.now?.getD state.2 := by
      rw [Maintained.advance, image, Option.bind_some]
    exact congrArg₂ ClockedBackoff.mk backoff clock
  unseen state label _ image := by
    have backoff := state.1.next_backoff label
    rw [image] at backoff
    have clock : state.1.advance label state.2 = state.2 := by
      rw [Maintained.advance, image, Option.bind_none, Option.getD_none]
    exact congrArg₂ ClockedBackoff.mk backoff clock

theorem loggedMaintenance_eq : loggedMaintenance PeerId =
    (clockedMaintenance PeerId).withHistory ⟨fun _ => 0, fun _ => none⟩
      ((backoffRefinement PeerId).record logCall) := by
  unfold loggedMaintenance
  congr 1
  funext state label log
  cases image : state.1.backoffCall? label with
  | some call =>
      rw [Refinement.record_of_some image, FailureLog.record, image]
      rfl
  | none => rw [Refinement.record_of_none image, FailureLog.record, image]

theorem tracks_of_reachable {state : (Maintained PeerId × Instant) × FailureLog PeerId}
    (reachable : (loggedMaintenance PeerId).Reachable state) :
    Tracks backoffBase backoffCap ((⟨state.1.1.backoff, state.1.2⟩, state.2) :
      ClockedBackoff PeerId × FailureLog PeerId) := by
  rw [loggedMaintenance_eq] at reachable
  exact .of_reachable ((backoffRefinement PeerId).reachable_withHistory reachable)

/-! ## The dials of an attempt -/

theorem Maintained.newDials_attempt {state : Maintained PeerId} {connected : Finset PeerId}
    {peer : PeerId} {addrs : List (Multiaddr PeerId)}
    {rest : List (PeerId × List (Multiaddr PeerId))} {attempted : Finset PeerId}
    (task : state.task = .dialing connected ((peer, addrs) :: rest) attempted) (now : Instant)
    (sender : Sender) : state.newDials (.attempt now sender) =
      if peer ∈ connected ∨ peer ∈ attempted ∨ state.backoff.ready peer now = false then []
      else [(peer, addrs)] := by
  simp only [newDials, next, Maintained.attempt, task]
  split_ifs
  · rw [List.drop_length]
    rfl
  · rw [List.drop_left]
    rfl

theorem Maintained.mem_newDials_attempt {state : Maintained PeerId} {now : Instant} {sender : Sender}
    {dial : PeerId × List (Multiaddr PeerId)}
    (sent : dial ∈ state.newDials (.attempt now sender)) : state.backoff.ready dial.1 now := by
  cases task : state.task with
  | dialing connected candidates attempted =>
      cases candidates with
      | nil => simp [newDials, next, Maintained.attempt, task] at sent
      | cons candidate rest =>
          rw [newDials_attempt task] at sent
          split_ifs at sent with skipped
          · cases sent
          · rw [not_or, not_or, Bool.not_eq_false] at skipped
            rw [List.mem_singleton.mp sent]
            exact skipped.2.2
  | sleeping | asking | awaiting => simp [newDials, next, Maintained.attempt, task] at sent

/--
Over all passes, a peer whose dials have failed is dialed again only after half of the window that
its failures in a row make, and a candidate that is neither connected nor tried in this pass is
dialed as soon as one and a half times the longest window has passed since its last failure.
-/
theorem dials_spaced {state : (Maintained PeerId × Instant) × FailureLog PeerId}
    (reachable : (loggedMaintenance PeerId).Reachable state) (now : Instant) (sender : Sender) :
    (∀ dial ∈ state.1.1.newDials (.attempt now sender), state.2.count dial.1 = 0 ∨
      ∃ failedAt, state.2.latest dial.1 = some failedAt ∧ (state.2.count dial.1 < 2 ^ 32 →
        failedAt + (backoffWindow backoffBase backoffCap (state.2.count dial.1) : ℚ) / 2 ≤ now)) ∧
    ∀ connected peer addrs rest attempted,
      state.1.1.task = .dialing connected ((peer, addrs) :: rest) attempted →
      peer ∉ connected → peer ∉ attempted →
      (∀ failedAt, state.2.latest peer = some failedAt → failedAt + 3 * (backoffCap : ℚ) / 2 ≤ now) →
        state.1.1.newDials (.attempt now sender) = [(peer, addrs)] := by
  have tracks := tracks_of_reachable reachable
  constructor
  · intro dial sent
    rcases Nat.eq_zero_or_pos (state.2.count dial.1) with zero | positive
    · exact .inl zero
    · obtain ⟨failedAt, _, failed, _, _⟩ := (tracks.peer dial.1).present positive
      obtain ⟨entry, found, early, _⟩ := tracks.nextAttempt_bounds positive failed
      refine .inr ⟨failedAt, failed, fun counted => ?_⟩
      have window : state.1.1.backoff.capped (.ofNat (state.2.count dial.1)) =
          backoffWindow backoffBase backoffCap (state.2.count dial.1) := by
        have exact_window := state.1.1.backoff.capped_eq_window (tracks.cap ▸ by decide)
          (tracks.cap ▸ tracks.base ▸ by decide) counted
        rw [exact_window, tracks.base, tracks.cap]
      have ready := Maintained.mem_newDials_attempt sent
      rw [DialBackoff.ready_of_entry found, decide_eq_true_eq] at ready
      rw [window] at early
      exact early.trans ready
  · intro connected peer addrs rest attempted task unconnected fresh late
    have ready : state.1.1.backoff.ready peer now = true := by
      cases found : state.1.1.backoff.state.get peer with
      | none => exact DialBackoff.ready_of_none found now
      | some entry =>
          obtain ⟨failedAt, failed, bound⟩ := tracks.nextAttempt_le found
          rw [DialBackoff.ready_of_entry found, decide_eq_true_eq]
          exact bound.trans (late failedAt failed)
    rw [Maintained.newDials_attempt task, if_neg]
    rw [ready]
    rintro (joined | tried | unready)
    · exact unconnected joined
    · exact fresh tried
    · exact Bool.noConfusion unready

namespace Sample

/-- The dial of Bob times out in one pass, and he comes up again in the next. -/
def timedOut : (Maintained Peer × Instant) × FailureLog Peer :=
  (loggedMaintenance Peer).after
    ((.start (node 4 4 1) [addr 10 0 0 2 ++ [.p2p .bob]] 1, 0), ⟨fun _ => 0, fun _ => none⟩)
    [.tick 1 0, .deliver (view (.ok ())), .plan 0 [] [], .attempt 2 1, .deliver (view (.ok ())),
      .timeout 3 1, .attempt 4 2, .tick (seconds 1) 2, .deliver (view (.ok ())), .plan 0 [] []]

theorem timedOut_reachable : (loggedMaintenance Peer).Reachable timedOut := by
  refine (System.Reachable.initial ?_).after ?_
  · exact ⟨⟨⟨_, _, _, ⟨_, _, _, _, rfl⟩, rfl⟩, rfl⟩, rfl⟩
  · refine ⟨⟨⟨rfl, by decide, by decide⟩, ?_⟩, ⟨⟨_, rfl, by decide⟩, nofun⟩,
      ⟨⟨0, _, rfl, rfl, rfl, rfl⟩, nofun⟩, ⟨⟨⟨_, _, _, rfl⟩, by decide, by decide⟩, ?_⟩,
      ⟨⟨_, rfl, by decide⟩, nofun⟩, ⟨⟨Paced.jitter_one, rfl⟩, ?_⟩,
      ⟨⟨⟨_, _, _, rfl⟩, by decide, by decide⟩, nofun⟩, ⟨⟨rfl, by decide, by decide⟩, ?_⟩,
      ⟨⟨_, rfl, by decide⟩, nofun⟩, ⟨⟨2, _, rfl, rfl, rfl, rfl⟩, nofun⟩, trivial⟩
    all_goals
      rintro _ ⟨⟩ _ ⟨⟩
      decide +kernel

end Sample

section

open Sample

theorem dials_spaced_timedOut : ∃ failedAt, timedOut.2.latest .bob = some failedAt ∧
    failedAt + (backoffWindow backoffBase backoffCap 1 : ℚ) / 2 ≤ seconds 2 := by
  have once : timedOut.2.count .bob = 1 := by decide +kernel
  have sent : (Peer.bob, [addr 10 0 0 2]) ∈ timedOut.1.1.newDials (.attempt (seconds 2) 3) := by
    decide +kernel
  rcases (dials_spaced timedOut_reachable (seconds 2) 3).1 _ sent with never | ⟨failedAt, failed, spaced⟩
  · exact absurd (once.symm.trans never) (by decide)
  · rw [once] at spaced
    exact ⟨failedAt, failed, spaced (by decide)⟩

end

end P2pService
