import P2pService.Proof.Tick.Dials

/-!
# What a tick may dial

Bounds on the dials of a tick, whatever the lists have in common.
-/

namespace P2pService
open Library

variable {PeerId : Type} [DecidableEq PeerId] [TextCodec PeerId] [TextCodec (Multiaddr PeerId)]

/-! ## Where the addresses come from -/

namespace TickInputs

omit [DecidableEq PeerId] [TextCodec PeerId] [TextCodec (Multiaddr PeerId)] in
theorem mem_bootstrap {inputs : TickInputs PeerId} {peer : PeerId} {addr : Multiaddr PeerId} :
    (peer, addr) ∈ inputs.bootstrap ↔ addr ++ [.p2p peer] ∈ inputs.bootstrapMultiaddrs := by
  have split (multiaddr : Multiaddr PeerId) :
      Maintenance.splitPeerMultiaddr multiaddr = some (peer, addr) ↔
        multiaddr = addr ++ [.p2p peer] := by
    unfold Maintenance.splitPeerMultiaddr
    rcases List.eq_nil_or_concat multiaddr with rfl | ⟨start, last, rfl⟩
    · simp
    · rw [List.concat_eq_append, List.getLast?_concat, List.dropLast_concat]
      cases last <;> simp [and_comm]
  simp [bootstrap, split]

def Isolated (inputs : TickInputs PeerId) : Prop :=
  ∀ addr peer, addr ++ [.p2p peer] ∈ inputs.bootstrapMultiaddrs → peer ∉ inputs.connected

def Configured (inputs : TickInputs PeerId) (peer : PeerId) (addr : Multiaddr PeerId) : Prop :=
  inputs.Isolated ∧ addr ++ [.p2p peer] ∈ inputs.bootstrapMultiaddrs

def Hinted (inputs : TickInputs PeerId) (peer : PeerId) (addr : Multiaddr PeerId) : Prop :=
  ∃ hints, (peer, hints) ∈ inputs.snapshot.preferred ∧ addr ∈ hints ∧
    Maintenance.isUndialable addr = false

def Stored (inputs : TickInputs PeerId) (peer : PeerId) (addr : Multiaddr PeerId) : Prop :=
  ∃ key record, inputs.peerstore.peers.get key = some record ∧ TextCodec.fromStr key = some peer ∧
    inputs.nowUnix - record.lastSeenUnix ≤ 7 * 24 * 3600 ∧
    ∃ text ∈ record.addrs, TextCodec.fromStr text = some addr

omit [DecidableEq PeerId] in
theorem stored_iff {inputs : TickInputs PeerId} {peer : PeerId} {addr : Multiaddr PeerId} :
    (peer, addr) ∈ inputs.peerstore.dialCandidates peerstoreMaxAgeSecs inputs.nowUnix ↔
      inputs.Stored peer addr := by
  unfold PeerStore.dialCandidates Stored
  rw [Multiset.mem_bind]
  constructor
  · rintro ⟨⟨key, record⟩, entry, member⟩
    have found := HashMap.mem_iter.mp entry
    dsimp only at member
    split_ifs at member with stale
    · simp at member
    · cases named : (TextCodec.fromStr key : Option PeerId) with
      | none =>
          rw [named] at member
          simp at member
      | some other =>
          rw [named] at member
          obtain ⟨_, listed, same⟩ := List.mem_map.mp (Multiset.mem_coe.mp member)
          cases same
          exact ⟨key, record, found, named, not_lt.mp stale, List.mem_filterMap.mp listed⟩
  · rintro ⟨key, record, found, named, recent, listed⟩
    refine ⟨(key, record), HashMap.mem_iter.mpr found, ?_⟩
    have fresh : ¬ peerstoreMaxAgeSecs < inputs.nowUnix - record.lastSeenUnix := not_lt.mpr recent
    dsimp only
    rw [if_neg fresh, named]
    exact Multiset.mem_coe.mpr (List.mem_map.mpr ⟨addr, List.mem_filterMap.mpr listed, rfl⟩)

def Provides (inputs : TickInputs PeerId) (peer : PeerId) (addr : Multiaddr PeerId) : Source → Prop
  | .bootstrap => inputs.Configured peer addr
  | .preferred => inputs.Hinted peer addr
  | .refill => inputs.Stored peer addr

omit [TextCodec PeerId] [TextCodec (Multiaddr PeerId)] in
theorem isolated_iff {inputs : TickInputs PeerId} :
    inputs.Isolated ↔ ¬ inputs.bootstrap.any fun peer => peer.1 ∈ inputs.connected := by
  rw [List.any_eq_true]
  constructor
  · rintro isolated ⟨⟨peer, addr⟩, configured, connected⟩
    exact isolated addr peer (mem_bootstrap.mp configured) (of_decide_eq_true connected)
  · intro apart addr peer configured connected
    exact apart ⟨(peer, addr), mem_bootstrap.mpr configured, decide_eq_true connected⟩

/-- The addresses with which a source lists a peer that is not connected. -/
def Entry (inputs : TickInputs PeerId) (peer : PeerId) (addrs : List (Multiaddr PeerId)) :
    Source → Prop
  | .bootstrap => ∃ addr, inputs.Configured peer addr ∧ addrs = [addr]
  | .preferred => ∃ hints, (peer, hints) ∈ inputs.snapshot.preferred ∧
      addrs = hints.filter (fun addr => !Maintenance.isUndialable addr) ∧ addrs ≠ []
  | .refill => inputs.connected.card < inputs.lowWater ∧ ∃ addr, inputs.Stored peer addr ∧
      Maintenance.isUndialable addr = false ∧ addrs = [addr]

omit [DecidableEq PeerId] in
theorem Hinted.entry {inputs : TickInputs PeerId} {peer : PeerId} {addr : Multiaddr PeerId}
    (hinted : inputs.Hinted peer addr) : ∃ addrs, addr ∈ addrs ∧ inputs.Entry peer addrs .preferred := by
  obtain ⟨hints, listed, member, dialable⟩ := hinted
  have kept : addr ∈ hints.filter fun addr => !Maintenance.isUndialable addr := by
    rw [List.mem_filter, dialable]
    exact ⟨member, rfl⟩
  exact ⟨_, kept, hints, listed, rfl, List.ne_nil_of_mem kept⟩

theorem mem_preferred {inputs : TickInputs PeerId} {peer : PeerId}
    {addrs : List (Multiaddr PeerId)} : (peer, addrs) ∈ inputs.preferred ↔
      peer ∉ inputs.connected ∧ inputs.Entry peer addrs .preferred := by
  unfold preferred Maintenance.preferredCandidates
  rw [Multiset.mem_filterMap]
  constructor
  · rintro ⟨⟨other, hints⟩, listed, selected⟩
    dsimp only at selected
    split_ifs at selected with dropped
    cases selected
    rw [not_or] at dropped
    exact ⟨dropped.1, hints, listed, rfl, dropped.2⟩
  · rintro ⟨absent, hints, listed, rfl, dialable⟩
    refine ⟨(peer, hints), listed, ?_⟩
    dsimp only
    rw [if_neg (not_or.mpr ⟨absent, dialable⟩)]

theorem mem_refill {inputs : TickInputs PeerId} {peer : PeerId} {addr : Multiaddr PeerId} :
    (peer, addr) ∈ inputs.refill ↔
      peer ∉ inputs.connected ∧ inputs.Entry peer [addr] .refill := by
  unfold refill Maintenance.refillCandidates
  split_ifs with low
  · rw [Multiset.mem_filter, stored_iff, Bool.not_eq_true']
    constructor
    · rintro ⟨stored, absent, dialable⟩
      exact ⟨absent, low, addr, stored, dialable, rfl⟩
    · rintro ⟨absent, _, _, stored, dialable, same⟩
      cases same
      exact ⟨stored, absent, dialable⟩
  · simp [Entry, low]

omit [DecidableEq PeerId] in
theorem Entry.provides {inputs : TickInputs PeerId} {peer : PeerId}
    {addrs : List (Multiaddr PeerId)} {source : Source} (entry : inputs.Entry peer addrs source) :
    ∀ addr ∈ addrs, inputs.Provides peer addr source := by
  intro addr carried
  cases source with
  | bootstrap =>
      obtain ⟨_, configured, rfl⟩ := entry
      cases List.mem_singleton.mp carried
      exact configured
  | preferred =>
      obtain ⟨hints, hinted, rfl, _⟩ := entry
      rw [List.mem_filter, Bool.not_eq_true'] at carried
      exact ⟨hints, hinted, carried⟩
  | refill =>
      obtain ⟨_, _, stored, _, rfl⟩ := entry
      cases List.mem_singleton.mp carried
      exact stored

end TickInputs

namespace Tick

variable {inputs : TickInputs PeerId} (tick : Tick inputs)

theorem mem_bootstrapCandidates {candidate : Candidate PeerId} :
    candidate ∈ bootstrapCandidates inputs ↔
      candidate.source = .bootstrap ∧ inputs.Entry candidate.peer candidate.addrs .bootstrap := by
  unfold bootstrapCandidates Maintenance.bootstrapCandidates
  split_ifs with anchored
  · have joined : ¬ inputs.Isolated := fun isolated => TickInputs.isolated_iff.mp isolated anchored
    simp [TickInputs.Entry, TickInputs.Configured, joined]
  · have isolated := TickInputs.isolated_iff.mpr anchored
    rw [List.map_map, List.mem_map]
    constructor
    · rintro ⟨⟨peer, addr⟩, listed, rfl⟩
      exact ⟨rfl, addr, ⟨isolated, TickInputs.mem_bootstrap.mp listed⟩, rfl⟩
    · rintro ⟨source, addr, ⟨_, configured⟩, single⟩
      obtain ⟨_, peer, _⟩ := candidate
      cases source
      cases single
      exact ⟨(peer, addr), TickInputs.mem_bootstrap.mpr configured, rfl⟩

theorem mem_preferredCandidates {candidate : Candidate PeerId} :
    candidate ∈ tick.preferredCandidates ↔ candidate.source = .preferred ∧
      (candidate.peer, candidate.addrs) ∈ tick.preferred.take maxPreferredDialsPerTick := by
  rw [preferredCandidates, List.mem_map]
  constructor
  · rintro ⟨_, taken, rfl⟩
    exact ⟨rfl, taken⟩
  · rintro ⟨source, taken⟩
    refine ⟨_, taken, ?_⟩
    cases candidate
    cases source
    rfl

theorem mem_refillCandidates {candidate : Candidate PeerId} :
    candidate ∈ tick.refillCandidates ↔ candidate.source = .refill ∧ ∃ addr,
      (candidate.peer, addr) ∈ tick.refill.take inputs.refillBudget ∧ candidate.addrs = [addr] := by
  rw [refillCandidates, List.mem_map]
  constructor
  · rintro ⟨⟨_, addr⟩, taken, rfl⟩
    exact ⟨rfl, addr, taken, rfl⟩
  · rintro ⟨source, addr, taken, single⟩
    refine ⟨_, taken, ?_⟩
    cases candidate
    cases source
    cases single
    rfl

theorem entry_of_candidate {candidate : Candidate PeerId} (member : candidate ∈ tick.candidates) :
    inputs.Entry candidate.peer candidate.addrs candidate.source := by
  unfold candidates at member
  rw [List.mem_append, List.mem_append] at member
  rcases member with (bootstrap | preferred) | refill
  · obtain ⟨source, entry⟩ := mem_bootstrapCandidates.mp bootstrap
    exact source ▸ entry
  · obtain ⟨source, taken⟩ := tick.mem_preferredCandidates.mp preferred
    have listed := List.mem_of_mem_take taken
    rw [← Multiset.mem_coe, tick.preferred_shuffled] at listed
    exact source ▸ (TickInputs.mem_preferred.mp listed).2
  · obtain ⟨source, addr, taken, single⟩ := tick.mem_refillCandidates.mp refill
    have listed := List.mem_of_mem_take taken
    rw [← Multiset.mem_coe, tick.refill_shuffled] at listed
    rw [source, single]
    exact (TickInputs.mem_refill.mp listed).2

theorem entry_of_dial {dial : Dial PeerId} (made : dial ∈ tick.dials) :
    inputs.Entry dial.candidate.peer dial.candidate.addrs dial.candidate.source := by
  obtain ⟨_, first⟩ := (tick.dial_iff dial.candidate).mp ⟨dial, made, rfl⟩
  exact tick.entry_of_candidate (List.mem_of_getElem? first.listed)

theorem entry_of_dialFrom {source : Source} {dial : Dial PeerId}
    (made : dial ∈ tick.dialsFrom source) :
    inputs.Entry dial.candidate.peer dial.candidate.addrs source := by
  obtain ⟨made, same⟩ := List.mem_filter.mp made
  have entry := tick.entry_of_dial made
  rw [of_decide_eq_true same] at entry
  exact entry

/-! ## The tick as a whole -/

structure Safe : Prop where
  once : (tick.dials.map (·.candidate.peer)).Nodup
  unconnected : ∀ dial ∈ tick.dials, dial.candidate.peer ∉ inputs.connected
  ready : ∀ dial ∈ tick.dials, dial.backoff.ready dial.candidate.peer dial.moment.readyAt
  isolated : tick.dialsFrom .bootstrap ≠ [] → inputs.Isolated
  bootstrap_first : tick.dials.Pairwise fun earlier later =>
    later.candidate.source = .bootstrap → earlier.candidate.source = .bootstrap
  preferred_cap : (tick.dialsFrom .preferred).length ≤ 16
  refill_cap : (tick.dialsFrom .refill).length ≤ inputs.lowWater - inputs.connected.card + 2
  refill_low : inputs.lowWater ≤ inputs.connected.card → tick.dialsFrom .refill = []
  provided : ∀ dial ∈ tick.dials, ∀ addr ∈ dial.candidate.addrs,
    inputs.Provides dial.candidate.peer addr dial.candidate.source
  retried : ∀ dial ∈ tick.dials,
    (tick.finished.backoff.state.get dial.candidate.peer ≠ none ↔
      dial.moment.result = .failed ∨ dial.moment.result = .timedOut)
  untouched : ∀ peer, (∀ dial ∈ tick.dials, dial.candidate.peer ≠ peer) →
    tick.finished.backoff.state.get peer = (tick.backoff.prune tick.startedAt).state.get peer

theorem length_dialsFrom_le (source : Source) :
    (tick.dialsFrom source).length ≤
      match source with
      | .bootstrap => tick.bootstrapTurns.length
      | .preferred => tick.preferredTurns.length
      | .refill => tick.refillTurns.length := by
  rw [← List.length_map (fun dial : Dial PeerId => (dial.candidate, dial.moment)), dialsFrom_map]
  cases source with
  | bootstrap | preferred | refill => exact (pick_sublist _ _).length_le

theorem length_timed (start : Nat) (candidates : List (Candidate PeerId)) :
    (tick.timed start candidates).length = candidates.length := by
  rw [timed, List.length_map, List.length_zipIdx]

theorem nodup_dials : (tick.dials.map (·.candidate.peer)).Nodup := by
  have dials : tick.dials.map (fun dial => (dial.candidate, dial.moment)) =
      tick.picked ∅ tick.turns := tick.ran.dials
  have once : ((tick.picked ∅ tick.turns).map DialLoop.dialedPeer).Nodup := nodup_pick ∅ tick.turns
  rw [← dials, List.map_map] at once
  exact once

theorem pairwise_dials : tick.dials.Pairwise fun earlier later =>
    later.candidate.source = .bootstrap → earlier.candidate.source = .bootstrap := by
  have sources : (tick.dials.map fun dial => (dial.candidate, dial.moment)).Pairwise
      fun earlier later => later.1.source = .bootstrap → earlier.1.source = .bootstrap := by
    rw [dials_map, List.pairwise_append]
    have rest : ∀ turn ∈ tick.picked (tick.duePeers tick.bootstrapTurns) tick.preferredTurns ++
        tick.picked (tick.duePeers tick.bootstrapTurns ∪ tick.duePeers tick.preferredTurns)
          tick.refillTurns, turn.1.source ≠ .bootstrap := by
      intro turn member
      rcases List.mem_append.mp member with preferred | refill
      · rw [tick.source_of_picked tick.source_of_preferred preferred]
        exact Source.noConfusion
      · rw [tick.source_of_picked tick.source_of_refill refill]
        exact Source.noConfusion
    refine ⟨List.pairwise_of_forall_mem_list fun earlier first later second _ => ?_,
      List.pairwise_of_forall_mem_list fun earlier first later second bootstrap => ?_,
      fun earlier first later second _ => ?_⟩
    · exact tick.source_of_picked source_of_bootstrap first
    · exact absurd bootstrap (rest later second)
    · exact tick.source_of_picked source_of_bootstrap first
  exact List.pairwise_map.mp sources

theorem unconnected_of_dial {dial : Dial PeerId} (made : dial ∈ tick.dials) :
    dial.candidate.peer ∉ inputs.connected := by
  obtain ⟨_, first⟩ := (tick.dial_iff dial.candidate).mp ⟨dial, made, rfl⟩
  exact first.unconnected

theorem length_preferred_le : (tick.dialsFrom .preferred).length ≤ maxPreferredDialsPerTick := by
  refine (tick.length_dialsFrom_le .preferred).trans ?_
  rw [preferredTurns, length_timed, preferredCandidates, List.length_map]
  exact List.length_take_le _ _

theorem length_refill_le : (tick.dialsFrom .refill).length ≤ inputs.refillBudget := by
  refine (tick.length_dialsFrom_le .refill).trans ?_
  rw [refillTurns, length_timed, refillCandidates, List.length_map]
  exact List.length_take_le _ _

end Tick

theorem tick_safe {inputs : TickInputs PeerId} (tick : Tick inputs) : tick.Safe where
  once := tick.nodup_dials
  unconnected _ made := tick.unconnected_of_dial made
  ready := tick.ran.allowed
  isolated := by
    intro some_dial
    obtain ⟨_, made⟩ := List.exists_mem_of_ne_nil _ some_dial
    obtain ⟨_, configured, _⟩ := tick.entry_of_dialFrom made
    exact configured.1
  bootstrap_first := tick.pairwise_dials
  preferred_cap := tick.length_preferred_le
  refill_cap := tick.length_refill_le
  refill_low := by
    intro enough
    by_contra some_dial
    obtain ⟨_, made⟩ := List.exists_mem_of_ne_nil _ some_dial
    exact absurd (tick.entry_of_dialFrom made).1 (not_lt.mpr enough)
  provided _ made := (tick.entry_of_dial made).provides
  retried := by
    intro dial made
    rw [Ne, tick.ran.settled dial made]
    cases dial.moment.result <;> simp
  untouched := by
    intro peer other
    refine tick.ran.untouched peer fun attempted => ?_
    rw [tick.ran.attempted, ← Finset.sdiff_empty (s := okKeys _ _ _), ← keys_pick,
      ← tick.ran.dials, List.map_map, List.mem_toFinset] at attempted
    obtain ⟨dial, made, same⟩ := List.mem_map.mp attempted
    exact other dial made same

end P2pService
