import P2pService.Proof.Steps

/-!
# The connection table and the open connections

The loop never sees the set of open connections. It keeps the peers in `connected` and a count for
each subnet, and updates both from the events. `Tabled` says the two agree with the connections
that are open, and every step keeps it.
-/

namespace P2pService
open Library

section Counting

variable {α β : Type*} [DecidableEq α] [DecidableEq β]

theorem image_erase {s : Finset α} {a : α} (member : a ∈ s) (f : α → β) :
    (s.erase a).image f =
      if (s.filter (f · = f a)).card = 1 then (s.image f).erase (f a) else s.image f := by
  ext b
  split_ifs with alone
  · obtain ⟨x, only⟩ := Finset.card_eq_one.mp alone
    have is_x {c : α} (c_mem : c ∈ s) (same : f c = f a) : c = x := by
      rw [← Finset.mem_singleton, ← only, Finset.mem_filter]; exact ⟨c_mem, same⟩
    simp only [Finset.mem_image, Finset.mem_erase]
    constructor
    · rintro ⟨c, ⟨other, c_mem⟩, rfl⟩
      refine ⟨fun same => other ?_, c, c_mem, rfl⟩
      rw [is_x c_mem same, is_x member rfl]
    · rintro ⟨other, c, c_mem, rfl⟩
      exact ⟨c, ⟨fun same => other (congrArg f same), c_mem⟩, rfl⟩
  · refine ⟨fun mem => Finset.image_subset_image (Finset.erase_subset a s) mem, fun mem => ?_⟩
    obtain ⟨c, c_mem, rfl⟩ := Finset.mem_image.mp mem
    by_cases same : c = a
    · -- another element has the image of the one removed
      subst same
      have positive : 0 < (s.filter (f · = f c)).card :=
        Finset.card_pos.mpr ⟨c, Finset.mem_filter.mpr ⟨c_mem, rfl⟩⟩
      obtain ⟨d, d_mem, other⟩ :=
        Finset.exists_mem_ne (show 1 < (s.filter (f · = f c)).card by omega) c
      rw [Finset.mem_filter] at d_mem
      exact Finset.mem_image.mpr ⟨d, Finset.mem_erase.mpr ⟨other, d_mem.1⟩, d_mem.2⟩
    · exact Finset.mem_image_of_mem f (Finset.mem_erase.mpr ⟨same, c_mem⟩)

theorem card_filter_insert {s : Finset α} {a : α} (absent : a ∉ s) (p : α → Prop)
    [DecidablePred p] : ((insert a s).filter p).card = (s.filter p).card + if p a then 1 else 0 := by
  rw [Finset.filter_insert]
  split_ifs with holds
  · rw [Finset.card_insert_of_notMem fun mem => absent (Finset.mem_of_mem_filter a mem)]
  · rfl

theorem card_filter_erase {s : Finset α} {a : α} (member : a ∈ s) (p : α → Prop)
    [DecidablePred p] : ((s.erase a).filter p).card = (s.filter p).card - if p a then 1 else 0 := by
  rw [Finset.filter_erase]
  split_ifs with holds
  · rw [Finset.card_erase_of_mem (Finset.mem_filter.mpr ⟨member, holds⟩)]
  · rw [Finset.erase_eq_of_notMem fun mem => holds (Finset.mem_filter.mp mem).2, Nat.sub_zero]

end Counting

variable {PeerId : Type} [DecidableEq PeerId]

theorem EventLoop.tabled_keys (loop : EventLoop PeerId) (peer : PeerId) (addr : Multiaddr PeerId) :
    (loop.tabled peer addr).keys = insert peer loop.connected.keys :=
  HashMap.keys_insert _ _ _

theorem EventLoop.handleClosed_keys (loop : EventLoop PeerId) (peer : PeerId)
    (endpoint : Endpoint PeerId) (numEstablished : Nat) :
    (loop.handleClosed peer endpoint numEstablished).connected.keys =
      if numEstablished = 0 then loop.connected.keys.erase peer else loop.connected.keys := by
  unfold handleClosed
  dsimp only
  split_ifs
  · exact HashMap.keys_remove _ _
  · split
    · rename_i present
      rw [HashMap.keys_insert]
      exact Finset.insert_eq_of_mem (HashMap.mem_keys_iff_exists.mpr ⟨_, present⟩)
    · rfl

structure Tabled (world : World PeerId) : Prop where
  keys : world.loop.connected.keys = world.swarm.peers
  counts : ∀ s, world.loop.subnetLimits.count s = (world.swarm.inSubnet s).card
  cap : world.loop.subnetLimits.cap = world.loop.settings.perSubnetCap
  ids : ∀ connection ∈ world.swarm.connections, connection.id ∈ world.swarm.established

namespace Tabled

theorem start (subscriptions : Subscriptions) (peerstore : PeerStore) (settings : NetworkSettings)
    (bootstrapPeers : Finset PeerId) :
    Tabled (World.start subscriptions peerstore settings bootstrapPeers) where
  keys := rfl
  counts s := SubnetLimits.new_count _ s
  cap := rfl
  ids connection member := by simp [World.start, Swarm.empty] at member

variable {before after : World PeerId}

theorem notMem_of_fresh (tabled : Tabled before) {id : ConnectionId}
    (fresh : id ∉ before.swarm.established) (peer : PeerId) (addr : Multiaddr PeerId) :
    ⟨id, peer, addr⟩ ∉ before.swarm.connections :=
  fun member => fresh (tabled.ids _ member)

theorem of_same (tabled : Tabled before) (setup : World.SameSetup before after)
    (same : World.SameConnections before after) : Tabled after where
  keys := by rw [same.connected, Swarm.peers, same.connections]; exact tabled.keys
  counts s := by rw [same.subnetLimits, Swarm.inSubnet, same.connections]; exact tabled.counts s
  cap := by rw [same.subnetLimits, setup.settings]; exact tabled.cap
  ids := by rw [same.connections, same.established]; exact tabled.ids

theorem of_established (tabled : Tabled before) (setup : World.SameSetup before after)
    {peer : PeerId} {endpoint : Endpoint PeerId} {id : ConnectionId}
    (step : World.Established before after peer endpoint id) : Tabled after where
  keys := by
    rw [step.connected, EventLoop.tabled_keys, tabled.keys, Swarm.peers, Swarm.peers,
      step.connections, Finset.image_insert]
  counts s := by
    rw [step.subnetLimits, SubnetLimits.onConnection_count, tabled.counts, Swarm.inSubnet,
      Swarm.inSubnet, step.connections, card_filter_insert (tabled.notMem_of_fresh step.fresh peer _)]
    rfl
  cap := by rw [step.subnetLimits, SubnetLimits.onConnection_cap, setup.settings]; exact tabled.cap
  ids := by
    rw [step.connections, step.established]
    intro connection member
    rcases Finset.mem_insert.mp member with rfl | old
    · exact Finset.mem_insert_self _ _
    · exact Finset.mem_insert_of_mem (tabled.ids connection old)

theorem of_closed (tabled : Tabled before) (setup : World.SameSetup before after)
    {peer : PeerId} {endpoint : Endpoint PeerId} {id : ConnectionId} {numEstablished : Nat}
    (step : World.Closed before after peer endpoint id numEstablished) : Tabled after where
  keys := by
    have last : (before.swarm.connections.filter (·.peer = peer)).card = 1 ↔ numEstablished = 0 := by
      have := step.remaining
      unfold Swarm.connectionsOf at this
      omega
    rw [step.connected, EventLoop.handleClosed_keys, tabled.keys, Swarm.peers, Swarm.peers,
      step.connections, image_erase step.opened]
    simp only [last]
  counts s := by
    rw [step.subnetLimits, SubnetLimits.onDisconnection_count, tabled.counts, Swarm.inSubnet,
      Swarm.inSubnet, step.connections, card_filter_erase step.opened]
    rfl
  cap := by
    rw [step.subnetLimits, SubnetLimits.onDisconnection_cap, setup.settings]; exact tabled.cap
  ids := by
    rw [step.connections, step.established]
    exact fun connection member => tabled.ids connection (Finset.mem_of_mem_erase member)

variable [TextCodec PeerId] [TextCodec (Multiaddr PeerId)]

theorem next (tabled : Tabled before) {label : Label PeerId} (matched : before.Matched label) :
    Tabled (before.next label) := by
  have setup := before.next_setup label
  cases World.step matched with
  | established _ _ _ _ step => exact tabled.of_established setup step
  | closed _ _ _ _ _ step => exact tabled.of_closed setup step
  | installed _ _ _ step => exact tabled.of_same setup step.toSameConnections
  | quiet _ _ quiet => exact tabled.of_same setup quiet.toSameConnections

end Tabled

variable [TextCodec PeerId] [TextCodec (Multiaddr PeerId)]

theorem tabled_of_reachable {world : World PeerId} (reachable : (networkSystem PeerId).Reachable world) :
    Tabled world := by
  refine reachable.invariant ?_ fun _ _ _ tabled matched => tabled.next matched
  rintro _ ⟨subscriptions, peerstore, settings, bootstrapPeers, rfl⟩
  exact .start subscriptions peerstore settings bootstrapPeers

end P2pService
