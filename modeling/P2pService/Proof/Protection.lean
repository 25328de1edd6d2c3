import P2pService.Proof.Steps

/-!
# Protection, dial hints and scores

The protected peers are the bootstrap peers and the peers with dial hints, and gossipsub scores a
connected peer as preferred exactly when it is protected.

The score of a peer is only set while gossipsub has a record of it, so the invariant is about all
records, those of peers that left included: a peer that comes back to an old record must find the
score it is due now.
-/

namespace P2pService
open Library

variable {PeerId : Type} [DecidableEq PeerId]

def EventLoop.dueScore (loop : EventLoop PeerId) (peer : PeerId) : Score :=
  if peer ∈ loop.protectedPeers then preferredPeerAppScore else 0

theorem EventLoop.mem_installed {loop : EventLoop PeerId}
    {peers : List (PeerId × List (Multiaddr PeerId))} {q : PeerId} :
    q ∈ (loop.protectedPeers \ loop.droppedSet peers) ∪ loop.acceptedSet peers ↔
      q ∈ loop.acceptedSet peers ∨ q ∈ loop.protectedPeers ∧ q ∈ loop.bootstrapPeers := by
  simp only [droppedSet, Finset.mem_union, Finset.mem_sdiff, Finset.mem_filter]
  tauto

theorem EventLoop.keys_accepted (loop : EventLoop PeerId)
    (peers : List (PeerId × List (Multiaddr PeerId))) :
    (HashMap.insertAll ∅ (loop.accepted peers)).keys = loop.acceptedSet peers := by
  rw [HashMap.keys_insertAll, Finmap.keys_empty, Finset.empty_union, acceptedSet]

theorem EventLoop.card_acceptedSet_le (loop : EventLoop PeerId)
    (peers : List (PeerId × List (Multiaddr PeerId))) :
    (loop.acceptedSet peers).card ≤ loop.settings.protectedCap := by
  calc (loop.acceptedSet peers).card
      ≤ ((loop.accepted peers).map Prod.fst).length := List.toFinset_card_le _
    _ = (loop.accepted peers).length := List.length_map ..
    _ ≤ loop.settings.protectedCap := List.length_take_le ..

structure Agreed (world : World PeerId) : Prop where
  protectedPeers :
    world.loop.protectedPeers = world.loop.bootstrapPeers ∪ world.loop.dialHints.keys
  dialHints : world.loop.dialHints.len ≤ world.loop.settings.protectedCap
  recorded : ∀ peer ∈ world.swarm.peers, (world.swarm.scores peer).isSome
  scores : ∀ peer score, world.swarm.scores peer = some score → score = world.loop.dueScore peer

namespace Agreed

theorem start (subscriptions : Subscriptions) (peerstore : PeerStore) (settings : NetworkSettings)
    (bootstrapPeers : Finset PeerId) :
    Agreed (World.start subscriptions peerstore settings bootstrapPeers) where
  protectedPeers := by simp [World.start, EventLoop.new]
  dialHints := by simp [World.start, EventLoop.new, HashMap.len]
  recorded peer member := by simp [World.start, Swarm.empty, Swarm.peers] at member
  scores peer score known := by simp [World.start, Swarm.empty] at known

variable {before after : World PeerId}

theorem mem_protectedPeers (agreed : Agreed before) {peer : PeerId} :
    peer ∈ before.loop.protectedPeers ↔
      before.loop.dialHints.containsKey peer ∨ peer ∈ before.loop.bootstrapPeers := by
  rw [agreed.protectedPeers, Finset.mem_union, HashMap.mem_keys, or_comm]
  rfl

theorem bootstrapPeers_subset (agreed : Agreed before) :
    before.loop.bootstrapPeers ⊆ before.loop.protectedPeers := by
  rw [agreed.protectedPeers]
  exact Finset.subset_union_left

theorem installed (agreed : Agreed before) (peers : List (PeerId × List (Multiaddr PeerId))) :
    (before.loop.protectedPeers \ before.loop.droppedSet peers) ∪ before.loop.acceptedSet peers =
      before.loop.bootstrapPeers ∪ before.loop.acceptedSet peers := by
  ext q
  have kept : q ∈ before.loop.bootstrapPeers → q ∈ before.loop.protectedPeers :=
    fun member => agreed.bootstrapPeers_subset member
  rw [EventLoop.mem_installed, Finset.mem_union]
  tauto

theorem dueScore_of_same (same : World.SamePreferred before after) :
    after.loop.dueScore = before.loop.dueScore := by
  funext peer
  simp only [EventLoop.dueScore, same.protectedPeers]

theorem of_established (agreed : Agreed before) (setup : World.SameSetup before after)
    {peer : PeerId} {endpoint : Endpoint PeerId} {id : ConnectionId}
    (step : World.Established before after peer endpoint id) : Agreed after where
  protectedPeers := by
    rw [step.protectedPeers, setup.bootstrapPeers, step.dialHints]; exact agreed.protectedPeers
  dialHints := by rw [step.dialHints, setup.settings]; exact agreed.dialHints
  recorded q connected := by
    rw [step.scores]
    by_cases same : q = peer
    · rw [if_pos same]; rfl
    · rw [if_neg same]
      rw [Swarm.peers, step.connections, Finset.image_insert] at connected
      exact agreed.recorded q (Finset.mem_of_mem_insert_of_ne connected same)
  scores q score known := by
    rw [dueScore_of_same step.toSamePreferred]
    rw [step.scores] at known
    split_ifs at known with same granted
    · -- the grant tests what protection means
      rw [← Option.some.inj known, EventLoop.dueScore, same,
        if_pos (agreed.mem_protectedPeers.mpr granted)]
    · -- nothing is granted, and an old record already has the score
      subst same
      cases old : before.swarm.scores q with
      | none =>
          rw [old, Option.getD_none] at known
          rw [← Option.some.inj known, EventLoop.dueScore,
            if_neg (mt agreed.mem_protectedPeers.mp granted)]
      | some previous =>
          rw [old, Option.getD_some] at known
          rw [← Option.some.inj known]
          exact agreed.scores q previous old
    · exact agreed.scores q score known

theorem of_closed (agreed : Agreed before) (setup : World.SameSetup before after)
    {peer : PeerId} {endpoint : Endpoint PeerId} {id : ConnectionId} {numEstablished : Nat}
    (step : World.Closed before after peer endpoint id numEstablished) : Agreed after where
  protectedPeers := by
    rw [step.protectedPeers, setup.bootstrapPeers, step.dialHints]; exact agreed.protectedPeers
  dialHints := by rw [step.dialHints, setup.settings]; exact agreed.dialHints
  recorded q connected := by
    rw [Swarm.peers, step.connections] at connected
    rw [step.scores]
    exact agreed.recorded q (Finset.image_subset_image (Finset.erase_subset _ _) connected)
  scores := by
    rw [step.scores, dueScore_of_same step.toSamePreferred]
    exact agreed.scores

theorem of_installed (agreed : Agreed before) (setup : World.SameSetup before after)
    {peers : List (PeerId × List (Multiaddr PeerId))}
    (step : World.Installed before after peers) : Agreed after where
  protectedPeers := by
    rw [step.protectedPeers, setup.bootstrapPeers, step.dialHints, EventLoop.keys_accepted]
    exact agreed.installed peers
  dialHints := by
    rw [step.dialHints, setup.settings, HashMap.len, EventLoop.keys_accepted]
    exact before.loop.card_acceptedSet_le peers
  recorded q connected := by
    rw [Swarm.peers, step.connections] at connected
    rw [step.scores]
    have recorded := agreed.recorded q connected
    split_ifs <;> simpa using recorded
  scores q score known := by
    have due : after.loop.dueScore q = if q ∈ before.loop.acceptedSet peers ∨
        q ∈ before.loop.protectedPeers ∧ q ∈ before.loop.bootstrapPeers
        then preferredPeerAppScore else 0 := by
      simp only [EventLoop.dueScore, step.protectedPeers, EventLoop.mem_installed]
    rw [step.scores] at known
    split_ifs at known with listed dropped
    · obtain ⟨_, _, rfl⟩ := Option.map_eq_some_iff.mp known
      rw [due, if_pos (.inl listed)]
    · obtain ⟨_, _, rfl⟩ := Option.map_eq_some_iff.mp known
      have gone := (Finset.mem_filter.mp dropped).2
      rw [due, if_neg (by tauto)]
    · -- neither listed nor dropped: a bootstrap peer, or one that was not protected at all
      have stays : ¬ (q ∈ before.loop.protectedPeers ∧ q ∉ before.loop.bootstrapPeers) :=
        fun ⟨here, removable⟩ => dropped (Finset.mem_filter.mpr ⟨here, listed, removable⟩)
      rw [agreed.scores q score known, due, EventLoop.dueScore]
      congr 1
      simp only [listed, false_or, eq_iff_iff]
      tauto

theorem of_quiet (agreed : Agreed before) (setup : World.SameSetup before after)
    (quiet : World.Quiet before after) : Agreed after where
  protectedPeers := by
    rw [quiet.protectedPeers, setup.bootstrapPeers, quiet.dialHints]; exact agreed.protectedPeers
  dialHints := by rw [quiet.dialHints, setup.settings]; exact agreed.dialHints
  recorded q connected := by
    rw [Swarm.peers, quiet.connections] at connected
    rcases quiet.scores q with same | ⟨gone, _⟩
    · rw [same]; exact agreed.recorded q connected
    · exact absurd connected gone
  scores q score known := by
    rw [dueScore_of_same quiet.toSamePreferred]
    rcases quiet.scores q with same | ⟨_, forgotten⟩
    · exact agreed.scores q score (same ▸ known)
    · rw [forgotten] at known; cases known

variable [TextCodec PeerId] [TextCodec (Multiaddr PeerId)]

theorem next (agreed : Agreed before) {label : Label PeerId} (matched : before.Matched label) :
    Agreed (before.next label) := by
  have setup := before.next_setup label
  cases World.step matched with
  | established _ _ _ _ step => exact agreed.of_established setup step
  | closed _ _ _ _ _ step => exact agreed.of_closed setup step
  | installed _ _ _ step => exact agreed.of_installed setup step
  | quiet _ _ quiet => exact agreed.of_quiet setup quiet

end Agreed

variable [TextCodec PeerId] [TextCodec (Multiaddr PeerId)]

theorem agreed_of_reachable {world : World PeerId}
    (reachable : (networkSystem PeerId).Reachable world) : Agreed world := by
  refine reachable.invariant ?_ fun _ _ _ agreed matched => agreed.next matched
  rintro _ ⟨subscriptions, peerstore, settings, bootstrapPeers, rfl⟩
  exact .start subscriptions peerstore settings bootstrapPeers

/-- In every reachable state the protected peers are the bootstrap peers and those with dial hints,
the dial hints keep to the cap, and a connected peer is scored as preferred when it is protected
and as anyone otherwise. -/
theorem protection_agrees {world : World PeerId}
    (reachable : (networkSystem PeerId).Reachable world) :
    world.loop.protectedPeers = world.loop.bootstrapPeers ∪ world.loop.dialHints.keys ∧
    world.loop.dialHints.len ≤ world.loop.settings.protectedCap ∧
    ∀ peer ∈ world.swarm.peers, world.swarm.scores peer =
      some (if peer ∈ world.loop.protectedPeers then preferredPeerAppScore else 0) := by
  have agreed := agreed_of_reachable reachable
  refine ⟨agreed.protectedPeers, agreed.dialHints, fun peer connected => ?_⟩
  obtain ⟨score, known⟩ := Option.isSome_iff_exists.mp (agreed.recorded peer connected)
  rw [known, agreed.scores peer score known, EventLoop.dueScore]

/-- Alice is preferred before she connects, and Bob is not. -/
theorem protection_agrees_preferred_first :
    let world := (networkSystem Sample.Peer).after (Sample.node 4 4 1)
      [Sample.prefer [.alice] 0, Sample.inbound .alice (Sample.addr 10 0 0 1) 0,
        Sample.inbound .bob (Sample.addr 10 0 0 2) 1]
    world.swarm.scores .alice = some preferredPeerAppScore ∧ world.swarm.scores .bob = some 0 := by
  have scored := (protection_agrees ((Sample.node_reachable 4 4 1).after
    (show (networkSystem Sample.Peer).Legal (Sample.node 4 4 1)
      [Sample.prefer [.alice] 0, Sample.inbound .alice (Sample.addr 10 0 0 1) 0,
        Sample.inbound .bob (Sample.addr 10 0 0 2) 1] by decide))).2.2
  exact ⟨(scored .alice (by decide)).trans (by rw [if_pos (by decide)]),
    (scored .bob (by decide)).trans (by rw [if_neg (by decide)])⟩

end P2pService
