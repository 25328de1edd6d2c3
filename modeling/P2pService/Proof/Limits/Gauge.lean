import P2pService.Proof.Limits.Table

/-!
# The connected-peers gauge

The gauge moves with every connection, the table with every peer. So the gauge counts connections,
and it counts peers exactly in the runs in which no peer connects twice.
-/

namespace P2pService
open Library

variable {PeerId : Type} [DecidableEq PeerId]

/-- The gauge is the number of connected peers, which is the number of entries of the table. -/
def GaugeExact (world : World PeerId) : Prop :=
  world.loop.metrics.connectedPeers = world.swarm.peers.card ∧
    world.loop.metrics.connectedPeers = world.loop.connected.len

/-- No connection is established to a peer that has one. -/
def FirstConnection (world : World PeerId) : Label PeerId → Prop
  | .event _ (.connectionEstablished peer _ _) => peer ∉ world.swarm.peers
  | _ => True

instance (world : World PeerId) : Decidable (GaugeExact world) :=
  inferInstanceAs (Decidable (_ ∧ _))

instance (world : World PeerId) : (label : Label PeerId) → Decidable (FirstConnection world label)
  | .event _ (.connectionEstablished _ _ _) => inferInstanceAs (Decidable (_ ∉ _))
  | .event _ (.connectionClosed _ _ _ _) | .event _ (.gossipsubMessage _)
  | .event _ (.identifyReceived _ _) | .event _ (.outgoingConnectionError _ _) | .event _ .other
  | .command _ _ | .behaviourDial _ | .forgetScore _ => isTrue trivial

structure Gauged (world : World PeerId) : Prop where
  tabled : Tabled world
  gauge : world.loop.metrics.connectedPeers = world.swarm.connections.card

theorem Gauged.exact_iff {world : World PeerId} (gauged : Gauged world) :
    GaugeExact world ↔ world.swarm.peers.card = world.swarm.connections.card := by
  unfold GaugeExact
  rw [gauged.gauge, HashMap.len, gauged.tabled.keys]
  omega

variable [TextCodec PeerId] [TextCodec (Multiaddr PeerId)]

theorem Gauged.next {world : World PeerId} (gauged : Gauged world) {label : Label PeerId}
    (matched : world.Matched label) : Gauged (world.next label) := by
  refine ⟨gauged.tabled.next matched, ?_⟩
  cases World.step matched with
  | established now peer endpoint id step =>
      rw [step.connectedPeers, gauged.gauge, step.connections,
        Finset.card_insert_of_notMem (gauged.tabled.notMem_of_fresh step.fresh peer _)]
      simp
  | closed now peer endpoint id n step =>
      rw [step.connectedPeers, gauged.gauge, step.connections, Finset.card_erase_of_mem step.opened,
        Nat.cast_sub (Finset.card_pos.mpr ⟨_, step.opened⟩)]
      simp
  | installed _ _ _ step => rw [step.connectedPeers, gauged.gauge, step.connections]
  | quiet _ _ quiet => rw [quiet.connectedPeers, gauged.gauge, quiet.connections]

theorem Gauged.exact_next {world : World PeerId} (gauged : Gauged world) (exact : GaugeExact world)
    {label : Label PeerId} (matched : world.Matched label) :
    GaugeExact (world.next label) ↔ FirstConnection world label := by
  rw [(gauged.next matched).exact_iff]
  rw [gauged.exact_iff] at exact
  cases World.step matched with
  | established now peer endpoint id step =>
      have new := gauged.tabled.notMem_of_fresh step.fresh peer endpoint.getRemoteAddress
      rw [Swarm.peers, step.connections, Finset.card_insert_of_notMem new, Finset.image_insert]
      constructor
      · intro grown known
        have known : peer ∈ world.swarm.connections.image (·.peer) := known
        rw [Finset.insert_eq_of_mem known] at grown
        unfold Swarm.peers at exact
        omega
      · intro first
        have first : peer ∉ world.swarm.connections.image (·.peer) := first
        rw [Finset.card_insert_of_notMem first]
        exact congrArg (· + 1) exact
  | closed now peer endpoint id n step =>
      -- the connections have distinct peers, so the peer that loses one has none left
      have injective := Finset.card_image_iff.mp exact
      refine ⟨fun _ => trivial, fun _ => ?_⟩
      rw [Swarm.peers, step.connections]
      exact Finset.card_image_iff.mpr (injective.mono (Finset.erase_subset _ _))
  | installed _ _ _ step =>
      rw [Swarm.peers, step.connections]
      exact ⟨fun _ => trivial, fun _ => exact⟩
  | quiet label is_quiet quiet =>
      rw [Swarm.peers, quiet.connections]
      refine ⟨fun _ => ?_, fun _ => exact⟩
      unfold FirstConnection
      split
      · simp [Label.quiet] at is_quiet
      · trivial

/-- The gauge counts the connected peers throughout a run exactly when every connection of the run
is established to a peer that has none at that moment. -/
theorem gauge_exact_iff {world : World PeerId} (start : (networkSystem PeerId).initial world)
    {labels : List (Label PeerId)} (legal : (networkSystem PeerId).Legal world labels) :
    (networkSystem PeerId).Throughout GaugeExact world labels ↔
      (networkSystem PeerId).EachStep FirstConnection world labels := by
  obtain ⟨subscriptions, peerstore, settings, bootstrapPeers, rfl⟩ := start
  have gauged : Gauged (World.start subscriptions peerstore settings bootstrapPeers) :=
    ⟨.start subscriptions peerstore settings bootstrapPeers, rfl⟩
  exact System.throughout_iff_eachStep (fun _ _ gauged matched => gauged.next matched)
    (fun _ _ gauged exact matched => gauged.exact_next exact matched) gauged
    (gauged.exact_iff.mpr rfl) legal

theorem gauge_exact_iff_reconnect :
    (networkSystem Sample.Peer).Throughout GaugeExact (Sample.node 4 4 1)
      [Sample.inbound .alice (Sample.addr 10 0 0 1) 0, Sample.inbound .bob (Sample.addr 10 0 0 2) 1,
        Sample.hangUp .alice (Sample.addr 10 0 0 1) 0 0,
        Sample.inbound .alice (Sample.addr 10 0 0 1) 2] :=
  (gauge_exact_iff ⟨_, _, _, _, rfl⟩ (by decide)).mpr (by decide)

/-- Alice connects twice: the gauge says two and she is one peer. -/
theorem gauge_not_exact_second_connection :
    ¬ ∀ world, (networkSystem Sample.Peer).Reachable world → GaugeExact world := by
  intro always
  have legal : (networkSystem Sample.Peer).Legal (Sample.node 4 4 1)
      [Sample.inbound .alice (Sample.addr 10 0 0 1) 0,
        Sample.inbound .alice (Sample.addr 10 0 0 1) 1] := by decide
  exact absurd (always _ ((Sample.node_reachable 4 4 1).after legal)) (by decide)

end P2pService
