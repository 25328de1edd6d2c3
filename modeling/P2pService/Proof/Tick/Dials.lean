import P2pService.Proof.Tick.Loop

/-!
# The dials of a tick

What the loop over the candidates makes of the three lists of a tick.
-/

namespace P2pService
open Library

variable {PeerId : Type} [DecidableEq PeerId]

theorem DialBackoff.ready_prune (backoff : DialBackoff PeerId) (peer : PeerId) {before now : Instant}
    (later : before ≤ now) : (backoff.prune before).ready peer now = backoff.ready peer now := by
  have entry : (backoff.prune before).state.get peer = (backoff.state.get peer).filter fun state =>
      decide (before < state.nextAttempt + backoff.cap) := HashMap.get_retain _ _ _
  unfold ready
  rw [entry]
  cases backoff.state.get peer with
  | none => rfl
  | some state =>
      by_cases kept : before < state.nextAttempt + backoff.cap
      · simp only [Option.filter_some, kept, decide_true, if_true]
      · simp only [Option.filter_some, kept, decide_false, Bool.false_eq_true, if_false]
        have expired : state.nextAttempt ≤ now :=
          calc state.nextAttempt ≤ state.nextAttempt + backoff.cap :=
                le_add_of_nonneg_right (Nat.cast_nonneg _)
            _ ≤ before := not_lt.mp kept
            _ ≤ now := later
        exact (decide_eq_true expired).symm

namespace Tick

variable [TextCodec PeerId] [TextCodec (Multiaddr PeerId)] {inputs : TickInputs PeerId}
  (tick : Tick inputs)

theorem ran : DialLoop.Ran inputs.connected tick.pruned tick.turns tick.finished :=
  DialLoop.ran_run inputs.connected tick.pruned tick.turns

theorem startedAt_le (k : Nat) : tick.startedAt ≤ (tick.moments k).readyAt := (tick.clock k).1

/-- The candidate at position `k` is the first of its peer to come up ready. -/
structure First (k : Nat) (candidate : Candidate PeerId) : Prop where
  listed : tick.candidates[k]? = some candidate
  unconnected : candidate.peer ∉ inputs.connected
  ready : tick.backoff.ready candidate.peer (tick.moments k).readyAt
  earliest : ∀ j < k, ∀ earlier, tick.candidates[j]? = some earlier →
    earlier.peer = candidate.peer → tick.backoff.ready candidate.peer (tick.moments j).readyAt = false

theorem turns_getElem? (k : Nat) : tick.turns[k]? =
    (tick.candidates[k]?).map fun candidate => (candidate, tick.moments k) := by
  simp [turns, Function.comp_def]

theorem due_eq (k : Nat) (candidate : Candidate PeerId) :
    DialLoop.due inputs.connected tick.pruned (candidate, tick.moments k) =
      (decide (candidate.peer ∉ inputs.connected) &&
        tick.backoff.ready candidate.peer (tick.moments k).readyAt) := by
  rw [DialLoop.due, pruned, DialBackoff.ready_prune _ _ (tick.startedAt_le k)]

theorem dial_iff (candidate : Candidate PeerId) :
    (∃ dial ∈ tick.dials, dial.candidate = candidate) ↔ ∃ k, tick.First k candidate := by
  have made : (∃ dial ∈ tick.dials, dial.candidate = candidate) ↔
      ∃ moment, (candidate, moment) ∈
        pick DialLoop.dialedPeer (DialLoop.due inputs.connected tick.pruned) ∅ tick.turns := by
    rw [← tick.ran.dials]
    constructor
    · rintro ⟨dial, member, rfl⟩
      exact ⟨dial.moment, List.mem_map.mpr ⟨dial, member, rfl⟩⟩
    · rintro ⟨_, picked⟩
      obtain ⟨dial, member, same⟩ := List.mem_map.mp picked
      exact ⟨dial, member, (Prod.mk.inj same).1⟩
  rw [made]
  constructor
  · rintro ⟨moment, picked⟩
    obtain ⟨k, found, acceptable, _, earliest⟩ := mem_pick_iff_getElem?.mp picked
    rw [turns_getElem?] at found
    obtain ⟨_, listed, same⟩ := Option.map_eq_some_iff.mp found
    cases same
    rw [due_eq, Bool.and_eq_true, decide_eq_true_eq] at acceptable
    refine ⟨k, listed, acceptable.1, acceptable.2, fun j position earlier before same => ?_⟩
    have refused := earliest j position (earlier, tick.moments j)
      (by rw [turns_getElem?, before]; rfl) same
    rw [due_eq, Bool.and_eq_false_iff, same] at refused
    rcases refused with connected | unready
    · exact absurd acceptable.1 (by simpa using connected)
    · exact unready
  · rintro ⟨k, first⟩
    refine ⟨tick.moments k, mem_pick_iff_getElem?.mpr ⟨k, ?_, ?_, Finset.notMem_empty _, ?_⟩⟩
    · rw [turns_getElem?, first.listed]
      rfl
    · rw [due_eq, first.ready, Bool.and_true]
      exact decide_eq_true first.unconnected
    · intro j position turn found same
      rw [turns_getElem?] at found
      obtain ⟨earlier, listed, rfl⟩ := Option.map_eq_some_iff.mp found
      have unready := first.earliest j position earlier listed same
      rw [due_eq, show earlier.peer = candidate.peer from same, unready, Bool.and_false]

/-! ## The three lists -/

def timed (start : Nat) (candidates : List (Candidate PeerId)) : List (Candidate PeerId × Moment) :=
  (candidates.zipIdx start).map fun entry => (entry.1, tick.moments entry.2)

def bootstrapTurns : List (Candidate PeerId × Moment) := tick.timed 0 (bootstrapCandidates inputs)

def preferredTurns : List (Candidate PeerId × Moment) :=
  tick.timed (bootstrapCandidates inputs).length tick.preferredCandidates

def refillTurns : List (Candidate PeerId × Moment) :=
  tick.timed (bootstrapCandidates inputs ++ tick.preferredCandidates).length tick.refillCandidates

theorem turns_eq : tick.turns = tick.bootstrapTurns ++ (tick.preferredTurns ++ tick.refillTurns) := by
  simp only [turns, candidates, bootstrapTurns, preferredTurns, refillTurns, timed,
    List.zipIdx_append, List.map_append, List.append_assoc, List.length_append, Nat.zero_add]

theorem map_fst_timed (start : Nat) (candidates : List (Candidate PeerId)) :
    (tick.timed start candidates).map Prod.fst = candidates := by
  rw [timed, List.map_map]
  exact List.zipIdx_map_fst start candidates

theorem mem_of_mem_timed {start : Nat} {candidates : List (Candidate PeerId)}
    {turn : Candidate PeerId × Moment} (member : turn ∈ tick.timed start candidates) :
    turn.1 ∈ candidates := by
  rw [← tick.map_fst_timed start candidates]
  exact List.mem_map_of_mem member

def picked (used : Finset PeerId) (turns : List (Candidate PeerId × Moment)) :
    List (Candidate PeerId × Moment) :=
  pick DialLoop.dialedPeer (DialLoop.due inputs.connected tick.pruned) used turns

def duePeers (turns : List (Candidate PeerId × Moment)) : Finset PeerId :=
  okKeys DialLoop.dialedPeer (DialLoop.due inputs.connected tick.pruned) turns

theorem dials_map : tick.dials.map (fun dial => (dial.candidate, dial.moment)) =
    tick.picked ∅ tick.bootstrapTurns ++
      (tick.picked (tick.duePeers tick.bootstrapTurns) tick.preferredTurns ++
        tick.picked (tick.duePeers tick.bootstrapTurns ∪ tick.duePeers tick.preferredTurns)
          tick.refillTurns) := by
  have dials := tick.ran.dials
  rw [turns_eq, pick_append, pick_append, Finset.empty_union] at dials
  exact dials

theorem source_of_picked {source : Source} {start : Nat} {candidates : List (Candidate PeerId)}
    (all : ∀ candidate ∈ candidates, candidate.source = source) {used : Finset PeerId}
    {turn : Candidate PeerId × Moment} (member : turn ∈ tick.picked used (tick.timed start candidates)) :
    turn.1.source = source :=
  all _ (tick.mem_of_mem_timed ((pick_sublist used _).mem member))

omit [TextCodec PeerId] [TextCodec (Multiaddr PeerId)] in
theorem source_of_bootstrap : ∀ candidate ∈ bootstrapCandidates inputs,
    candidate.source = .bootstrap := by
  intro candidate member
  obtain ⟨_, _, rfl⟩ := List.mem_map.mp member
  rfl

theorem source_of_preferred : ∀ candidate ∈ tick.preferredCandidates,
    candidate.source = .preferred := by
  intro candidate member
  obtain ⟨_, _, rfl⟩ := List.mem_map.mp member
  rfl

theorem source_of_refill : ∀ candidate ∈ tick.refillCandidates, candidate.source = .refill := by
  intro candidate member
  obtain ⟨_, _, rfl⟩ := List.mem_map.mp member
  rfl

theorem filter_picked (source : Source) {own : Source} {start : Nat}
    {candidates : List (Candidate PeerId)}
    (all : ∀ candidate ∈ candidates, candidate.source = own) (used : Finset PeerId) :
    (tick.picked used (tick.timed start candidates)).filter (·.1.source = source) =
      if own = source then tick.picked used (tick.timed start candidates) else [] := by
  split_ifs with same
  · refine List.filter_eq_self.mpr fun turn member => decide_eq_true ?_
    rw [tick.source_of_picked all member, same]
  · refine List.filter_eq_nil_iff.mpr fun turn member => ?_
    rw [tick.source_of_picked all member, decide_eq_true_eq]
    exact same

theorem dialsFrom_map (source : Source) :
    (tick.dialsFrom source).map (fun dial => (dial.candidate, dial.moment)) =
      match source with
      | .bootstrap => tick.picked ∅ tick.bootstrapTurns
      | .preferred => tick.picked (tick.duePeers tick.bootstrapTurns) tick.preferredTurns
      | .refill =>
          tick.picked (tick.duePeers tick.bootstrapTurns ∪ tick.duePeers tick.preferredTurns)
            tick.refillTurns := by
  have filtered : (tick.dialsFrom source).map (fun dial => (dial.candidate, dial.moment)) =
      (tick.dials.map fun dial => (dial.candidate, dial.moment)).filter (·.1.source = source) := by
    rw [List.filter_map]
    rfl
  rw [filtered, dials_map, List.filter_append, List.filter_append]
  unfold bootstrapTurns preferredTurns refillTurns
  rw [tick.filter_picked source source_of_bootstrap, tick.filter_picked source tick.source_of_preferred,
    tick.filter_picked source tick.source_of_refill]
  cases source <;> simp

def dialedFrom (source : Source) : Finset PeerId :=
  ((tick.dialsFrom source).map (·.candidate.peer)).toFinset

theorem dialed_peers (source : Source) : (tick.dialsFrom source).map (·.candidate.peer) =
    ((tick.dialsFrom source).map fun dial => (dial.candidate, dial.moment)).map
      DialLoop.dialedPeer := by
  rw [List.map_map]
  rfl

theorem nodup_dialed (source : Source) : ((tick.dialsFrom source).map (·.candidate.peer)).Nodup := by
  rw [dialed_peers, dialsFrom_map]
  cases source with
  | bootstrap | preferred | refill => exact nodup_pick _ _

theorem length_dialsFrom (source : Source) :
    (tick.dialsFrom source).length = (tick.dialedFrom source).card := by
  rw [dialedFrom, List.toFinset_card_of_nodup (tick.nodup_dialed source), List.length_map]

theorem dialedFrom_bootstrap : tick.dialedFrom .bootstrap = tick.duePeers tick.bootstrapTurns := by
  rw [dialedFrom, dialed_peers, dialsFrom_map]
  exact (keys_pick ∅ _).trans (Finset.sdiff_empty)

theorem dialedFrom_preferred : tick.dialedFrom .preferred =
    tick.duePeers tick.preferredTurns \ tick.dialedFrom .bootstrap := by
  rw [dialedFrom_bootstrap, dialedFrom, dialed_peers, dialsFrom_map]
  exact keys_pick _ _

theorem dialedFrom_refill : tick.dialedFrom .refill =
    tick.duePeers tick.refillTurns \ (tick.dialedFrom .bootstrap ∪ tick.dialedFrom .preferred) := by
  have union : tick.dialedFrom .bootstrap ∪ tick.dialedFrom .preferred =
      tick.duePeers tick.bootstrapTurns ∪ tick.duePeers tick.preferredTurns := by
    rw [dialedFrom_preferred, Finset.union_sdiff_self_eq_union, dialedFrom_bootstrap]
  rw [union, dialedFrom, dialed_peers, dialsFrom_map]
  exact keys_pick _ _

end Tick
end P2pService
