import P2pService.Proof.Limits.Reference

/-!
# Who the high watermark costs a connection

The watermark is compared with the peers that are connected, and a peer the loop has asked to
disconnect is connected until its close arrives. So a peer is disconnected when there are too many
connected peers, those on their way out included.
-/

namespace P2pService
open Library

variable {PeerId : Type} [DecidableEq PeerId]

namespace World

/-- The peers that would be connected if every close the loop asked for had arrived, and the peer
that connects now. -/
def staying (world : World PeerId) (peer : PeerId) : Finset PeerId :=
  insert peer (world.swarm.kept.image (·.peer))

def leaving (world : World PeerId) (peer : PeerId) : Finset PeerId :=
  world.swarm.peers \ world.staying peer

theorem card_staying_add_leaving (world : World PeerId) (peer : PeerId) :
    (world.staying peer).card + (world.leaving peer).card =
      (insert peer world.swarm.peers).card := by
  have kept : world.swarm.kept.image (·.peer) ⊆ world.swarm.peers :=
    Finset.image_subset_image Finset.sdiff_subset
  have split : world.staying peer ∪ world.leaving peer = insert peer world.swarm.peers := by
    rw [leaving, Finset.union_sdiff_self_eq_union, staying, Finset.insert_union,
      Finset.union_eq_right.mpr kept]
  rw [← split, leaving, Finset.card_union_of_disjoint Finset.disjoint_sdiff]

theorem leaving_eq_empty {world : World PeerId} (settled : world.swarm.kept = world.swarm.connections)
    (peer : PeerId) : world.leaving peer = ∅ := by
  rw [leaving, Finset.sdiff_eq_empty_iff_subset, staying, settled]
  exact Finset.subset_insert _ _

end World

theorem Reference.mem_calls_decide {settings : NetworkSettings} {protectedPeers : Finset PeerId}
    {connections : Finset (Connection PeerId)} {new : Connection PeerId} (q : PeerId) :
    .disconnectPeerId q ∈ (Reference.decide settings protectedPeers connections new).calls
        new.peer new.id ↔
      q = new.peer ∧ new.peer ∉ protectedPeers ∧
        settings.highWater < (insert new.peer (connections.image (·.peer))).card := by
  unfold Reference.decide
  split_ifs <;> simp_all [Reference.Decision.calls]

variable [TextCodec PeerId] [TextCodec (Multiaddr PeerId)]

theorem Tabled.disconnects_iff {world : World PeerId} (tabled : Tabled world) (now : Nat)
    (peer q : PeerId) (endpoint : Endpoint PeerId) (id : ConnectionId) :
    .disconnectPeerId q ∈
        (world.loop.handleEvent now (.connectionEstablished peer endpoint id)).effects ↔
      q = peer ∧ peer ∉ world.loop.protectedPeers ∧
        world.loop.settings.highWater < (insert peer world.swarm.peers).card := by
  have closes (effects : List (Effect PeerId)) :
      .disconnectPeerId q ∈ effects ↔ .disconnectPeerId q ∈ effects.filter Effect.closes := by
    simp [Effect.closes]
  rw [closes, tabled.established_closes]
  exact Reference.mem_calls_decide q

/--
A connection that is established has a peer disconnected exactly when it is unprotected and makes
too many connected peers, the peers on their way out included. With no close pending that is one
peer more than the watermark among the peers that stay; when no more peers stay than the watermark
allows, another peer is on its way out.
-/
theorem disconnect_over_high_water {world : World PeerId}
    (reachable : (networkSystem PeerId).Reachable world) (now : Nat) (peer : PeerId)
    (endpoint : Endpoint PeerId) (id : ConnectionId) :
    (∀ q, .disconnectPeerId q ∈
        (world.loop.handleEvent now (.connectionEstablished peer endpoint id)).effects ↔
      q = peer ∧ peer ∉ world.loop.protectedPeers ∧
        world.loop.settings.highWater < (world.staying peer).card + (world.leaving peer).card) ∧
    (.disconnectPeerId peer ∈
        (world.loop.handleEvent now (.connectionEstablished peer endpoint id)).effects →
      (world.swarm.kept = world.swarm.connections →
        world.loop.settings.highWater < (world.staying peer).card) ∧
      ((world.staying peer).card ≤ world.loop.settings.highWater →
        (world.leaving peer).Nonempty)) := by
  have exact_count := world.card_staying_add_leaving peer
  have disconnects (q : PeerId) :=
    (tabled_of_reachable reachable).disconnects_iff now peer q endpoint id
  rw [← exact_count] at disconnects
  refine ⟨disconnects, fun disconnected => ?_⟩
  obtain ⟨_, _, exceeds⟩ := (disconnects peer).mp disconnected
  constructor
  · intro settled
    rw [World.leaving_eq_empty settled, Finset.card_empty, Nat.add_zero] at exceeds
    exact exceeds
  · intro room
    exact Finset.card_pos.mp (by omega)

theorem disconnect_over_high_water_bob :
    .disconnectPeerId Sample.Peer.bob ∈ (Sample.afterAlice.loop.handleEvent 0
        (.connectionEstablished Sample.Peer.bob (.dialer (Sample.addr 10 0 0 2)) 1)).effects :=
  ((disconnect_over_high_water Sample.afterAlice_reachable 0 .bob
    (.dialer (Sample.addr 10 0 0 2)) 1).1 .bob).mpr (by decide)

/-- Alice is connected at a high watermark of one, and Bob's connection is refused. While it is
still open Alice connects a second time, and is disconnected as the only peer that was to stay. -/
theorem disconnect_not_over_high_water_second_connection :
    ¬ ∀ (world : World Sample.Peer) now peer endpoint id,
      (networkSystem Sample.Peer).Reachable world →
      world.Matched (.event now (.connectionEstablished peer endpoint id)) →
      .disconnectPeerId peer ∈
        (world.loop.handleEvent now (.connectionEstablished peer endpoint id)).effects →
      world.loop.settings.highWater < (world.staying peer).card := by
  intro always
  have legal : (networkSystem Sample.Peer).Legal Sample.afterAlice
    [Sample.inbound .bob (Sample.addr 10 0 0 2) 1] := by decide
  have exceeds := always _ 0 .alice (.listener (Sample.addr 10 9 9 9) (Sample.addr 10 0 0 1)) 2
    (Sample.afterAlice_reachable.after legal) (by decide) (List.mem_singleton_self _)
  exact absurd exceeds (by decide)

end P2pService
