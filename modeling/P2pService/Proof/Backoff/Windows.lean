import P2pService.Proof.Backoff.Pruned

/-!
# The windows of a backoff

After the `k`-th failure in a row the window is `base * 2^(k-1)`, capped, whatever saturates on the
way there.
-/

namespace P2pService
open Library

/-- The window that the documentation promises after so many failures. -/
def backoffWindow (base cap : Duration) (failures : Nat) : Duration :=
  min (base * 2 ^ (failures - 1)) cap

theorem growth_eq_or_le {base cap : Duration} (reaches : cap ≤ base * (2 ^ 32 - 1)) (exponent : Nat) :
    base * saturatingPowTwo exponent = base * 2 ^ exponent ∨
      cap ≤ base * saturatingPowTwo exponent ∧ cap ≤ base * 2 ^ exponent := by
  unfold saturatingPowTwo
  split_ifs with saturated
  · have power : 2 ^ 32 - 1 ≤ 2 ^ exponent :=
      (Nat.sub_le _ _).trans (Nat.pow_le_pow_right (by decide) saturated)
    exact .inr ⟨reaches, reaches.trans (Nat.mul_le_mul_left base power)⟩
  · exact .inl rfl

theorem DialBackoff.capped_eq_window {PeerId : Type} (backoff : DialBackoff PeerId)
    (range : backoff.cap ≤ durationMax) (reaches : backoff.cap ≤ backoff.base * (2 ^ 32 - 1))
    {failures : Nat} (counted : failures < 2 ^ 32) :
    backoff.capped (.ofNat failures) = backoffWindow backoff.base backoff.cap failures := by
  have exact_count : (UInt32.ofNat failures).toNat = failures := UInt32.toNat_ofNat_of_lt' counted
  rw [capped_eq, growth, exact_count, min_eq_right range, backoffWindow, min_eq_min_iff]
  exact growth_eq_or_le reaches _

theorem jittered_bounds {delay jitter : ℚ} (nonneg : 0 ≤ delay)
    (spread : Maintained.Jitter jitter) :
    delay / 2 ≤ delay * jitter ∧ delay * jitter ≤ 3 * delay / 2 := by
  have least := mul_le_mul_of_nonneg_left spread.1 nonneg
  have most := mul_le_mul_of_nonneg_left spread.2.le nonneg
  exact ⟨by linarith, by linarith⟩

variable {PeerId : Type} [DecidableEq PeerId] {base cap : Duration}

namespace ClockedBackoff

variable {state : ClockedBackoff PeerId} {now : Instant} {peer : PeerId}

theorem get_prune_of_removes (removed : state.removes now peer) :
    (state.backoff.prune now).state.get peer = none := by
  rw [removes, Bool.and_eq_true, Bool.not_eq_true'] at removed
  exact Option.not_isSome_iff_eq_none.mp (Bool.eq_false_iff.mp removed.2)

theorem get_prune_of_not_removes (kept : ¬state.removes now peer) :
    (state.backoff.prune now).state.get peer = state.backoff.state.get peer := by
  cases found : state.backoff.state.get peer with
  | none => exact DialBackoff.get_prune_of_none found now
  | some entry =>
      have present : (state.backoff.prune now).state.containsKey peer := by
        rw [removes, HashMap.containsKey, found, Option.isSome_some, Bool.true_and,
          Bool.not_eq_true', Bool.not_eq_false] at kept
        exact kept
      obtain ⟨left, there⟩ := Option.isSome_iff_exists.mp present
      have same := (Option.filter_eq_some_iff.mp ((HashMap.get_retain _ _ _).symm.trans there)).1
      rw [there, ← same, found]

end ClockedBackoff

/-- What the backoff holds of a peer, by the failures of it that still count. -/
structure TracksPeer (state : ClockedBackoff PeerId × FailureLog PeerId) (peer : PeerId) : Prop where
  absent : state.2.count peer = 0 → state.1.backoff.state.get peer = none
  present : 0 < state.2.count peer → ∃ failedAt jitter, state.2.latest peer = some failedAt ∧
    Maintained.Jitter jitter ∧ state.1.backoff.state.get peer = some
      ⟨.ofNat (state.2.count peer),
        failedAt + state.1.backoff.capped (.ofNat (state.2.count peer)) * jitter⟩

namespace TracksPeer

variable {before after : ClockedBackoff PeerId × FailureLog PeerId} {peer : PeerId}

theorem of_none (zero : after.2.count peer = 0) (absent : after.1.backoff.state.get peer = none) :
    TracksPeer after peer where
  absent _ := absent
  present positive := absurd zero positive.ne'

theorem of_same (tracks : TracksPeer before peer)
    (capped : after.1.backoff.capped = before.1.backoff.capped)
    (count : after.2.count peer = before.2.count peer)
    (latest : after.2.latest peer = before.2.latest peer)
    (entry : after.1.backoff.state.get peer = before.1.backoff.state.get peer) :
    TracksPeer after peer where
  absent zero := entry.trans (tracks.absent (count.symm.trans zero))
  present positive := by
    rw [count] at positive
    rw [count, latest, entry, capped]
    exact tracks.present positive

theorem nextFailures_eq (tracks : TracksPeer before peer) :
    before.1.backoff.nextFailures peer = .ofNat (before.2.count peer + 1) := by
  rw [UInt32.ofNat_add, DialBackoff.nextFailures]
  rcases Nat.eq_zero_or_pos (before.2.count peer) with zero | positive
  · rw [tracks.absent zero, zero]
    rfl
  · obtain ⟨_, _, _, _, entry⟩ := tracks.present positive
    rw [entry]
    rfl

end TracksPeer

structure Tracks (base cap : Duration) (state : ClockedBackoff PeerId × FailureLog PeerId) : Prop where
  base : state.1.backoff.base = base
  cap : state.1.backoff.cap = cap
  peer : ∀ peer, TracksPeer state peer

namespace Tracks

variable {state : ClockedBackoff PeerId × FailureLog PeerId}

theorem recordFailure (tracks : Tracks base cap state) (peer : PeerId) (now : Instant) {jitter : ℚ}
    (spread : Maintained.Jitter jitter) :
    Tracks base cap (state.1.next (.recordFailure peer now jitter),
      logCall state.1 (.recordFailure peer now jitter) state.2) := by
  refine ⟨tracks.base, tracks.cap, fun other => ?_⟩
  by_cases same : other = peer
  · subst same
    have count : (logCall state.1 (.recordFailure other now jitter) state.2).count other =
      state.2.count other + 1 := if_pos rfl
    refine ⟨fun zero => absurd (count.symm.trans zero) (Nat.succ_ne_zero _), fun _ =>
      ⟨now, jitter, if_pos rfl, spread, ?_⟩⟩
    rw [count, ← (tracks.peer other).nextFailures_eq]
    exact HashMap.get_insert_self _ _ _
  · exact (tracks.peer other).of_same rfl (if_neg same) (if_neg same)
      (state.1.backoff.get_recordFailure_of_ne same now jitter)

theorem recordSuccess (tracks : Tracks base cap state) (peer : PeerId) :
    Tracks base cap (state.1.next (.recordSuccess peer),
      logCall state.1 (.recordSuccess peer) state.2) := by
  refine ⟨tracks.base, tracks.cap, fun other => ?_⟩
  by_cases same : other = peer
  · subst same
    exact .of_none (if_pos rfl) (state.1.backoff.recordSuccess_get other)
  · exact (tracks.peer other).of_same rfl (if_neg same) rfl
      (state.1.backoff.get_recordSuccess_of_ne same)

theorem prune (tracks : Tracks base cap state) (now : Instant) :
    Tracks base cap (state.1.next (.prune now), logCall state.1 (.prune now) state.2) := by
  refine ⟨tracks.base, tracks.cap, fun other => ?_⟩
  by_cases removed : state.1.removes now other
  · exact .of_none (if_pos removed) (state.1.get_prune_of_removes removed)
  · exact (tracks.peer other).of_same rfl (if_neg removed) rfl
      (state.1.get_prune_of_not_removes removed)

theorem of_reachable (reachable : (loggedSystem PeerId base cap).Reachable state) :
    Tracks base cap state := by
  refine reachable.invariant ?_ ?_
  · rintro ⟨⟨backoff, clock⟩, log⟩ ⟨rfl, rfl⟩
    exact ⟨rfl, rfl, fun peer => .of_none rfl (HashMap.get_empty peer)⟩
  · intro state call _ tracks enabled
    cases call with
    | recordFailure peer now jitter => exact tracks.recordFailure peer now enabled.2
    | recordSuccess peer => exact tracks.recordSuccess peer
    | ready peer now =>
        exact ⟨tracks.base, tracks.cap, fun other => (tracks.peer other).of_same rfl rfl rfl rfl⟩
    | prune now => exact tracks.prune now

theorem count_pos (tracks : Tracks base cap state) {peer : PeerId} {entry : BackoffState}
    (found : state.1.backoff.state.get peer = some entry) : 0 < state.2.count peer := by
  by_contra zero
  rw [(tracks.peer peer).absent (Nat.eq_zero_of_not_pos zero)] at found
  cases found

theorem nextAttempt_bounds (tracks : Tracks base cap state) {peer : PeerId} {failedAt : Instant}
    (positive : 0 < state.2.count peer) (failed : state.2.latest peer = some failedAt) :
    ∃ entry, state.1.backoff.state.get peer = some entry ∧
      failedAt + state.1.backoff.capped (.ofNat (state.2.count peer)) / 2 ≤ entry.nextAttempt ∧
      entry.nextAttempt ≤
        failedAt + 3 * state.1.backoff.capped (.ofNat (state.2.count peer)) / 2 := by
  obtain ⟨last, jitter, latest, spread, entry⟩ := (tracks.peer peer).present positive
  cases Option.some.inj (failed.symm.trans latest)
  refine ⟨_, entry, ?_, ?_⟩
  · exact add_le_add_right (jittered_bounds (Nat.cast_nonneg _) spread).1 failedAt
  · exact add_le_add_right (jittered_bounds (Nat.cast_nonneg _) spread).2 failedAt

theorem nextAttempt_le (tracks : Tracks base cap state) {peer : PeerId} {entry : BackoffState}
    (found : state.1.backoff.state.get peer = some entry) :
    ∃ failedAt, state.2.latest peer = some failedAt ∧
      entry.nextAttempt ≤ failedAt + 3 * (cap : ℚ) / 2 := by
  have positive := tracks.count_pos found
  obtain ⟨failedAt, _, failed, _, _⟩ := (tracks.peer peer).present positive
  obtain ⟨_, there, _, latest⟩ := tracks.nextAttempt_bounds positive failed
  cases Option.some.inj (found.symm.trans there)
  have capped : (state.1.backoff.capped (.ofNat (state.2.count peer)) : ℚ) ≤ cap :=
    Nat.cast_le.mpr (tracks.cap ▸ min_le_right _ _)
  exact ⟨failedAt, failed, by linarith⟩

end Tracks

/-! ## The exponential law -/

/-- What a backoff promises, given the failures that still count. -/
structure Windows (base cap : Duration) (state : ClockedBackoff PeerId × FailureLog PeerId) :
    Prop where
  unblocked : ∀ peer, state.2.count peer = 0 → ∀ now, state.1.backoff.ready peer now = true
  failed : ∀ peer, 1 ≤ state.2.count peer → (state.2.latest peer).isSome
  blocked : ∀ peer failedAt, 1 ≤ state.2.count peer → state.2.count peer < 2 ^ 32 →
    state.2.latest peer = some failedAt → ∀ now, failedAt ≤ now →
      now < failedAt + (backoffWindow base cap (state.2.count peer) : ℚ) / 2 →
        state.1.backoff.ready peer now = false
  reopened : ∀ peer failedAt, 1 ≤ state.2.count peer → state.2.count peer < 2 ^ 32 →
    state.2.latest peer = some failedAt → ∀ now,
      failedAt + 3 * (backoffWindow base cap (state.2.count peer) : ℚ) / 2 ≤ now →
        state.1.backoff.ready peer now = true
  bounded : ∀ peer failedAt, state.2.latest peer = some failedAt → ∀ now,
    failedAt + 3 * (cap : ℚ) / 2 ≤ now → state.1.backoff.ready peer now = true
  otherFailure : ∀ peer other, other ≠ peer → ∀ failedAt jitter now,
    (state.1.backoff.recordFailure other failedAt jitter).ready peer now =
      state.1.backoff.ready peer now
  otherSuccess : ∀ peer other, other ≠ peer → ∀ now,
    (state.1.backoff.recordSuccess other).ready peer now = state.1.backoff.ready peer now
  unpruned : ∀ peer pruned now, pruned ≤ now →
    (state.1.backoff.prune pruned).ready peer now = state.1.backoff.ready peer now
  kept : ∀ peer now, state.1.clock ≤ now →
    (state.1.backoff.prune now).state.containsKey peer →
      ∃ failedAt, state.2.latest peer = some failedAt ∧ now - 5 / 2 * (cap : ℚ) < failedAt

theorem DialBackoff.ready_of_entry {backoff : DialBackoff PeerId} {peer : PeerId}
    {entry : BackoffState} (found : backoff.state.get peer = some entry) (now : Instant) :
    backoff.ready peer now = decide (entry.nextAttempt ≤ now) := by
  rw [ready, found]

theorem windows_of_reachable (range : cap ≤ durationMax) (reaches : cap ≤ base * (2 ^ 32 - 1))
    {state : ClockedBackoff PeerId × FailureLog PeerId}
    (reachable : (loggedSystem PeerId base cap).Reachable state) : Windows base cap state := by
  have tracks := Tracks.of_reachable reachable
  have window (peer : PeerId) (counted : state.2.count peer < 2 ^ 32) :
      state.1.backoff.capped (.ofNat (state.2.count peer)) =
        backoffWindow base cap (state.2.count peer) := by
    have exact_window := state.1.backoff.capped_eq_window (tracks.cap ▸ range)
      (tracks.cap ▸ tracks.base ▸ reaches) counted
    rw [exact_window, tracks.base, tracks.cap]
  constructor
  case unblocked =>
    intro peer zero now
    exact DialBackoff.ready_of_none ((tracks.peer peer).absent zero) now
  case failed =>
    intro peer positive
    obtain ⟨failedAt, _, failed, _, _⟩ := (tracks.peer peer).present positive
    rw [failed, Option.isSome_some]
  case blocked =>
    intro peer failedAt positive counted failed now _ soon
    obtain ⟨entry, found, early, _⟩ := tracks.nextAttempt_bounds positive failed
    rw [window peer counted] at early
    rw [DialBackoff.ready_of_entry found, decide_eq_false_iff_not, not_le]
    exact soon.trans_le early
  case reopened =>
    intro peer failedAt positive counted failed now late
    obtain ⟨entry, found, _, latest⟩ := tracks.nextAttempt_bounds positive failed
    rw [window peer counted] at latest
    rw [DialBackoff.ready_of_entry found, decide_eq_true_eq]
    exact latest.trans late
  case bounded =>
    intro peer failedAt failed now late
    cases found : state.1.backoff.state.get peer with
    | none => exact DialBackoff.ready_of_none found now
    | some entry =>
        obtain ⟨last, latest, bound⟩ := tracks.nextAttempt_le found
        cases Option.some.inj (failed.symm.trans latest)
        rw [DialBackoff.ready_of_entry found, decide_eq_true_eq]
        exact bound.trans late
  case otherFailure =>
    intro peer other different failedAt jitter now
    rw [DialBackoff.ready_recordFailure, if_neg different.symm]
  case otherSuccess =>
    intro peer other different now
    rw [DialBackoff.ready_recordSuccess, if_neg different.symm]
  case unpruned =>
    intro peer pruned now later
    exact state.1.backoff.ready_prune peer later
  case kept =>
    intro peer now _ present
    obtain ⟨entry, found⟩ := Option.isSome_iff_exists.mp present
    obtain ⟨there, unexpired⟩ := Option.filter_eq_some_iff.mp
      ((HashMap.get_retain _ _ _).symm.trans found)
    obtain ⟨failedAt, failed, bound⟩ := tracks.nextAttempt_le there
    rw [decide_eq_true_eq, tracks.cap] at unexpired
    exact ⟨failedAt, failed, by linarith⟩

namespace Sample

def afterTwoFailures : ClockedBackoff Peer × FailureLog Peer :=
  (loggedSystem Peer backoffBase backoffCap).after
    (freshBackoff, ⟨fun _ => 0, fun _ => none⟩) twoFailures

end Sample

section

open Sample

theorem windows_after_twoFailures :
    afterTwoFailures.1.backoff.ready .alice (seconds (3 / 2)) = false ∧
      afterTwoFailures.1.backoff.ready .alice (seconds 4) = true := by
  have first : (loggedSystem Peer backoffBase backoffCap).initial
      (freshBackoff, ⟨fun _ => 0, fun _ => none⟩) := ⟨rfl, rfl⟩
  have windows : Windows backoffBase backoffCap afterTwoFailures :=
    windows_of_reachable (by decide) (by decide)
      ((System.Reachable.initial first).after (by decide +kernel))
  have failed : afterTwoFailures.2.latest .alice = some (seconds 1) := rfl
  exact ⟨windows.blocked .alice _ (by decide) (by decide) failed _ (by decide +kernel)
      (by decide +kernel),
    windows.reopened .alice _ (by decide) (by decide) failed _ (by decide +kernel)⟩

end

end P2pService
