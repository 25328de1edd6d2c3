import P2pService.Proof.Tick.Addresses

/-!
# The dial slots of a tick

The caps cut the shuffled lists before the loop looks at them, so a slot goes to an entry of a list
and not to a peer that is ready. With the clock standing still, the dials of a list are its ready
peers that are left after the cut.
-/

namespace P2pService
open Library

variable {PeerId : Type} [DecidableEq PeerId] [TextCodec PeerId] [TextCodec (Multiaddr PeerId)]

namespace Tick

variable {inputs : TickInputs PeerId} (tick : Tick inputs)

def Frozen : Prop := ∀ k, (tick.moments k).readyAt = tick.startedAt

def Waiting (peer : PeerId) : Prop :=
  peer ∉ inputs.connected ∧ tick.backoff.ready peer tick.startedAt

instance (peer : PeerId) : Decidable (tick.Waiting peer) := inferInstanceAs (Decidable (_ ∧ _))

/-- The preferred peers with a dialable hint that are waiting and not dialed as bootstrap. -/
def waitingPreferred : Finset PeerId :=
  (inputs.preferred.map Prod.fst).toFinset.filter fun peer =>
    tick.Waiting peer ∧ peer ∉ tick.dialedFrom .bootstrap

/-- The peers with a recent dialable stored address that are waiting and not dialed before. -/
def waitingRefill : Finset PeerId :=
  (inputs.refill.map Prod.fst).toFinset.filter fun peer =>
    tick.Waiting peer ∧ peer ∉ tick.dialedFrom .bootstrap ∪ tick.dialedFrom .preferred

variable {tick}

theorem mem_duePeers_timed (frozen : tick.Frozen) {start : Nat}
    {candidates : List (Candidate PeerId)} {peer : PeerId} :
    peer ∈ tick.duePeers (tick.timed start candidates) ↔
      tick.Waiting peer ∧ peer ∈ candidates.map Candidate.peer := by
  have due (turn : Candidate PeerId × Moment) (member : turn ∈ tick.timed start candidates) :
      DialLoop.due inputs.connected tick.pruned turn ↔ tick.Waiting turn.1.peer := by
    obtain ⟨⟨candidate, k⟩, _, rfl⟩ := List.mem_map.mp member
    rw [due_eq, frozen k, Bool.and_eq_true, decide_eq_true_eq]
    rfl
  unfold duePeers
  rw [mem_okKeys]
  constructor
  · rintro ⟨turn, member, ready, rfl⟩
    exact ⟨(due turn member).mp ready, List.mem_map_of_mem (tick.mem_of_mem_timed member)⟩
  · rintro ⟨waiting, listed⟩
    obtain ⟨candidate, member, rfl⟩ := List.mem_map.mp listed
    rw [← tick.map_fst_timed start candidates] at member
    obtain ⟨turn, timed, rfl⟩ := List.mem_map.mp member
    exact ⟨turn, timed, (due turn timed).mpr waiting, rfl⟩

theorem mem_dialedFrom_preferred (frozen : tick.Frozen) {peer : PeerId} :
    peer ∈ tick.dialedFrom .preferred ↔ tick.Waiting peer ∧ peer ∉ tick.dialedFrom .bootstrap ∧
      peer ∈ (tick.preferred.take maxPreferredDialsPerTick).map Prod.fst := by
  have listed : tick.preferredCandidates.map Candidate.peer =
      (tick.preferred.take maxPreferredDialsPerTick).map Prod.fst := by
    rw [preferredCandidates, List.map_map]
    rfl
  rw [dialedFrom_preferred, Finset.mem_sdiff, preferredTurns, mem_duePeers_timed frozen, listed]
  tauto

theorem mem_dialedFrom_refill (frozen : tick.Frozen) {peer : PeerId} :
    peer ∈ tick.dialedFrom .refill ↔ tick.Waiting peer ∧
      peer ∉ tick.dialedFrom .bootstrap ∪ tick.dialedFrom .preferred ∧
      peer ∈ (tick.refill.take inputs.refillBudget).map Prod.fst := by
  have listed : tick.refillCandidates.map Candidate.peer =
      (tick.refill.take inputs.refillBudget).map Prod.fst := by
    rw [refillCandidates, List.map_map]
    rfl
  rw [dialedFrom_refill, Finset.mem_sdiff, refillTurns, mem_duePeers_timed frozen, listed]
  tauto

theorem mem_waitingPreferred {peer : PeerId} : peer ∈ tick.waitingPreferred ↔ tick.Waiting peer ∧
    peer ∉ tick.dialedFrom .bootstrap ∧ peer ∈ tick.preferred.map Prod.fst := by
  unfold waitingPreferred
  rw [Finset.mem_filter, Multiset.mem_toFinset, ← tick.preferred_shuffled, Multiset.map_coe,
    Multiset.mem_coe]
  tauto

theorem mem_waitingRefill {peer : PeerId} : peer ∈ tick.waitingRefill ↔ tick.Waiting peer ∧
    peer ∉ tick.dialedFrom .bootstrap ∪ tick.dialedFrom .preferred ∧
      peer ∈ tick.refill.map Prod.fst := by
  unfold waitingRefill
  rw [Finset.mem_filter, Multiset.mem_toFinset, ← tick.refill_shuffled, Multiset.map_coe,
    Multiset.mem_coe]
  tauto

end Tick

namespace Sample

def hintedAndStored : TickInputs Peer where
  bootstrapMultiaddrs := []
  lowWater := 1
  snapshot := ⟨∅, {(.alice, [addr 10 0 0 1]), (.bob, [addr 10 0 0 2])}⟩
  peerstore := (PeerStore.default.record Peer.alice [addr 10 0 0 1] 0).record
    Peer.carol [addr 10 0 0 2] 0
  nowUnix := 0

theorem hintedAndStored_preferred :
    (([(.alice, [addr 10 0 0 1]), (.bob, [addr 10 0 0 2])] : List (Peer × List (Multiaddr Peer))) :
      Multiset _) = hintedAndStored.preferred := by
  decide +kernel

theorem hintedAndStored_refill :
    (([(.alice, addr 10 0 0 1), (.carol, addr 10 0 0 2)] : List (Peer × Multiaddr Peer)) :
      Multiset _) = hintedAndStored.refill := by
  decide +kernel

/-- Alice is in backoff, and she is first in both lists. -/
def aliceFirst : Tick hintedAndStored :=
  stoppedTick hintedAndStored (DialLoop.settle (.new backoffBase backoffCap) .alice stopped)
    _ hintedAndStored_preferred _ hintedAndStored_refill

end Sample

section

open Sample

end

namespace Sample

def threeStored : TickInputs Peer where
  bootstrapMultiaddrs := []
  lowWater := 1
  snapshot := ⟨∅, 0⟩
  peerstore := ((PeerStore.default.record Peer.alice [addr 10 0 0 1, addr 10 0 0 2] 0).record
    Peer.bob [addr 10 0 0 1, addr 10 0 0 2] 0).record Peer.carol [addr 10 0 0 1] 0
  nowUnix := 0

def aliceBobCarol : List (Peer × Multiaddr Peer) :=
  [(.alice, addr 10 0 0 1), (.alice, addr 10 0 0 2), (.bob, addr 10 0 0 1), (.bob, addr 10 0 0 2),
    (.carol, addr 10 0 0 1)]

theorem aliceBobCarol_shuffled :
    (aliceBobCarol : Multiset (Peer × Multiaddr Peer)) = threeStored.refill := by
  decide +kernel

theorem threeStored_preferred :
    (([] : List (Peer × List (Multiaddr Peer))) : Multiset _) = threeStored.preferred := rfl

def carolLast : Tick threeStored :=
  stoppedTick threeStored
    (DialLoop.settle (DialLoop.settle (.new backoffBase backoffCap) .alice stopped) .bob stopped)
    [] threeStored_preferred aliceBobCarol aliceBobCarol_shuffled

end Sample

section

open Sample

end

end P2pService
