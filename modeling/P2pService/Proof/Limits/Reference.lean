import P2pService.Proof.Limits.Table

/-!
# The limits, from the open connections alone

`Reference.decide` is what the limits ask for, said about the set of open connections and nothing
else. The loop decides from its tables, and in every reachable state it decides the same.
-/

namespace P2pService
open Library

namespace Reference

inductive Decision where
  | keep
  | disconnectPeer
  | closeConnection
  deriving DecidableEq, Repr

variable {PeerId : Type}

def Decision.calls (peer : PeerId) (id : ConnectionId) : Decision → List (Effect PeerId)
  | .keep => []
  | .disconnectPeer => [.disconnectPeerId peer]
  | .closeConnection => [.closeConnection id]

theorem closes_calls (decision : Decision) (peer : PeerId) (id : ConnectionId) :
    (decision.calls peer id).filter Effect.closes = decision.calls peer id := by
  cases decision <;> rfl

variable [DecidableEq PeerId]

/-- What becomes of a new connection, given the connections open before it. A protected peer is
left alone. Otherwise the peer goes if that makes too many connected peers, and else the connection
goes if its subnet was full. -/
def decide (settings : NetworkSettings) (protectedPeers : Finset PeerId)
    (connections : Finset (Connection PeerId)) (new : Connection PeerId) : Decision :=
  if new.peer ∈ protectedPeers then .keep
  else if settings.highWater < (insert new.peer (connections.image (·.peer))).card then
    .disconnectPeer
  else if new.subnet.isSome ∧
      settings.perSubnetCap ≤ (connections.filter (·.subnet = new.subnet)).card then
    .closeConnection
  else .keep

end Reference

variable {PeerId : Type} [DecidableEq PeerId]

theorem Tabled.tabled_len {world : World PeerId} (tabled : Tabled world) (peer : PeerId)
    (addr : Multiaddr PeerId) :
    (world.loop.tabled peer addr).len = (insert peer world.swarm.peers).card := by
  rw [HashMap.len, EventLoop.tabled_keys, tabled.keys]

theorem Tabled.full_iff {world : World PeerId} (tabled : Tabled world) (new : Connection PeerId) :
    world.loop.subnetLimits.Full new.remoteAddr ↔
      new.subnet.isSome ∧ world.loop.settings.perSubnetCap ≤
        (world.swarm.connections.filter (·.subnet = new.subnet)).card := by
  rw [SubnetLimits.full_iff, tabled.cap]
  constructor
  · rintro ⟨s, subnet, full⟩
    have subnet : new.subnet = some s := subnet
    rw [tabled.counts, Swarm.inSubnet] at full
    rw [subnet]
    exact ⟨rfl, full⟩
  · rintro ⟨some_subnet, full⟩
    obtain ⟨s, subnet⟩ := Option.isSome_iff_exists.mp some_subnet
    rw [subnet] at full
    exact ⟨s, subnet, by rw [tabled.counts]; exact full⟩

theorem Tabled.enforce_eq_reference {world : World PeerId} (tabled : Tabled world) (peer : PeerId)
    (endpoint : Endpoint PeerId) (id : ConnectionId) :
    ({ world.loop with
        connected := world.loop.tabled peer endpoint.getRemoteAddress }.enforceConnectionLimits
          peer id endpoint.getRemoteAddress).effects =
      (Reference.decide world.loop.settings world.loop.protectedPeers world.swarm.connections
        ⟨id, peer, endpoint.getRemoteAddress⟩).calls peer id := by
  rw [EventLoop.enforceConnectionLimits_effects]
  simp only [tabled.tabled_len, tabled.full_iff ⟨id, peer, endpoint.getRemoteAddress⟩, Reference.decide]
  split_ifs
  all_goals first | rfl | contradiction

variable [TextCodec PeerId] [TextCodec (Multiaddr PeerId)]

theorem Tabled.established_closes {world : World PeerId} (tabled : Tabled world) (now : Nat)
    (peer : PeerId) (endpoint : Endpoint PeerId) (id : ConnectionId) :
    (world.loop.handleEvent now
        (.connectionEstablished peer endpoint id)).effects.filter Effect.closes =
      (Reference.decide world.loop.settings world.loop.protectedPeers world.swarm.connections
        ⟨id, peer, endpoint.getRemoteAddress⟩).calls peer id := by
  have answered : (if endpoint.isDialer then
      answerAll ((world.loop.pendingDials.get peer).getD []) .ok else [] :
        List (Effect PeerId)).filter Effect.closes = [] := by
    split_ifs
    · exact List.filter_eq_nil_iff.mpr fun effect member => by
        simp [closes_answerAll _ _ effect member]
    · rfl
  have granted (condition : Prop) [Decidable condition] :
      (if condition then [.setApplicationScore {peer} preferredPeerAppScore] else [] :
        List (Effect PeerId)).filter Effect.closes = [] := by
    split_ifs <;> rfl
  rw [EventLoop.handleEvent, EventLoop.handleEstablished_effects, tabled.enforce_eq_reference,
    List.filter_append, List.filter_append, answered, granted, Reference.closes_calls]
  rfl

/--
In every reachable state the tables are the open connections, and the calls that close after a
connection is established are those of the reference. A closed connection is always counted in its
subnet, so the saturating subtraction is an exact one.
-/
theorem limits_refine_reference {world : World PeerId}
    (reachable : (networkSystem PeerId).Reachable world) :
    world.loop.connected.keys = world.swarm.peers ∧
    (∀ s, world.loop.subnetLimits.counts.get s =
      if (world.swarm.inSubnet s).card = 0 then none else some (world.swarm.inSubnet s).card) ∧
    (∀ now peer endpoint id n s,
      world.Matched (.event now (.connectionClosed peer endpoint id n)) →
      SubnetLimits.subnet endpoint.getRemoteAddress = some s →
      ∃ count, world.loop.subnetLimits.counts.get s = some (count + 1)) ∧
    ∀ now peer endpoint id, world.Matched (.event now (.connectionEstablished peer endpoint id)) →
      (world.loop.handleEvent now
          (.connectionEstablished peer endpoint id)).effects.filter Effect.closes =
        (Reference.decide world.loop.settings world.loop.protectedPeers world.swarm.connections
          ⟨id, peer, endpoint.getRemoteAddress⟩).calls peer id := by
  have tabled := tabled_of_reachable reachable
  refine ⟨tabled.keys, fun s => ?_, ?_, fun now peer endpoint id _ =>
    tabled.established_closes now peer endpoint id⟩
  · rw [SubnetLimits.counts_get, tabled.counts]
  · rintro now peer endpoint id n s ⟨opened, _⟩ subnet
    have counted : (world.swarm.inSubnet s).card ≠ 0 :=
      Finset.card_ne_zero_of_mem (Finset.mem_filter.mpr ⟨opened, subnet⟩)
    refine ⟨(world.swarm.inSubnet s).card - 1, ?_⟩
    rw [SubnetLimits.counts_get, tabled.counts, if_neg counted, Nat.sub_one_add_one counted]

theorem limits_refine_reference_second_peer :
    Sample.afterAlice.loop.connected.keys = {Sample.Peer.alice} ∧
      (Sample.afterAlice.loop.handleEvent 0 (.connectionEstablished Sample.Peer.bob
          (.dialer (Sample.addr 10 0 0 2)) 1)).effects.filter Effect.closes =
        [.disconnectPeerId Sample.Peer.bob] := by
  obtain ⟨keys, _, _, decision⟩ := limits_refine_reference Sample.afterAlice_reachable
  refine ⟨keys.trans (by decide), (decision 0 .bob _ 1 (by decide)).trans ?_⟩
  rw [show Reference.decide _ _ _ _ = Reference.Decision.disconnectPeer by decide]
  rfl

end P2pService
