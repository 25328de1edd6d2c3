import P2pService.Model.Network

/-!
# What the handlers do

One equation for the loop each handler leaves and one for its effects. The proofs about runs use
these and never unfold a handler.
-/

namespace P2pService
open Library

variable {PeerId : Type} [DecidableEq PeerId]

namespace EventLoop

theorem resolvePendingDials_loop (loop : EventLoop PeerId) (peer : PeerId) (answer : Answer PeerId) :
    (loop.resolvePendingDials peer answer).loop =
      { loop with pendingDials := loop.pendingDials.remove peer } := by
  unfold resolvePendingDials
  split
  · rfl
  · rename_i absent
    rw [HashMap.remove_of_none absent]

theorem resolvePendingDials_effects (loop : EventLoop PeerId) (peer : PeerId)
    (answer : Answer PeerId) : (loop.resolvePendingDials peer answer).effects =
      answerAll ((loop.pendingDials.get peer).getD []) answer := by
  unfold resolvePendingDials
  split
  · rename_i present; simp [present]
  · rename_i absent; simp [absent, answerAll]

theorem enforceConnectionLimits_effects (loop : EventLoop PeerId) (peer : PeerId)
    (id : ConnectionId) (addr : Multiaddr PeerId) :
    (loop.enforceConnectionLimits peer id addr).effects =
      if peer ∈ loop.protectedPeers then []
      else if loop.settings.highWater < loop.connected.len then [.disconnectPeerId peer]
      else if loop.subnetLimits.Full addr then [.closeConnection id]
      else [] := by
  unfold enforceConnectionLimits
  simp only [SubnetLimits.onConnection_verdict]
  by_cases exempt : peer ∈ loop.protectedPeers
  · simp [exempt]
  · by_cases tooMany : loop.settings.highWater < loop.connected.len <;> simp [exempt, tooMany]

variable [TextCodec PeerId] [TextCodec (Multiaddr PeerId)]

def tabled (loop : EventLoop PeerId) (peer : PeerId) (addr : Multiaddr PeerId) :
    HashMap PeerId (List (Multiaddr PeerId)) :=
  loop.connected.insert peer ((loop.connected.get peer).getD [] ++ [addr])

theorem handleEstablished_loop (loop : EventLoop PeerId) (now : Nat) (peer : PeerId)
    (endpoint : Endpoint PeerId) (id : ConnectionId) :
    (loop.handleEstablished now peer endpoint id).loop =
      { loop with
        metrics := { loop.metrics with connectedPeers := loop.metrics.connectedPeers + 1 }
        peerstore := if endpoint.isDialer
          then loop.peerstore.record peer [endpoint.getRemoteAddress] now else loop.peerstore
        pendingDials := if endpoint.isDialer
          then loop.pendingDials.remove peer else loop.pendingDials
        connected := loop.tabled peer endpoint.getRemoteAddress
        subnetLimits := (loop.subnetLimits.onConnection endpoint.getRemoteAddress
          (decide (peer ∈ loop.protectedPeers))).1 } := by
  unfold handleEstablished
  cases endpoint.isDialer
  · rfl
  · simp only [if_true, resolvePendingDials_loop]
    rfl

theorem handleEstablished_effects (loop : EventLoop PeerId) (now : Nat) (peer : PeerId)
    (endpoint : Endpoint PeerId) (id : ConnectionId) :
    (loop.handleEstablished now peer endpoint id).effects =
      (if endpoint.isDialer then answerAll ((loop.pendingDials.get peer).getD []) .ok else []) ++
      (if loop.dialHints.containsKey peer ∨ peer ∈ loop.bootstrapPeers
        then [.setApplicationScore {peer} preferredPeerAppScore] else []) ++
      ({ loop with connected := loop.tabled peer endpoint.getRemoteAddress }.enforceConnectionLimits
        peer id endpoint.getRemoteAddress).effects := by
  unfold handleEstablished
  cases endpoint.isDialer
  · rfl
  · simp only [if_true, resolvePendingDials_loop, resolvePendingDials_effects]
    rfl

theorem handleEvent_other (loop : EventLoop PeerId) (now : Nat) (event : SwarmEvent PeerId)
    (established : ∀ peer endpoint id, event ≠ .connectionEstablished peer endpoint id)
    (closed : ∀ peer endpoint id n, event ≠ .connectionClosed peer endpoint id n) :
    (∃ subscriptions pendingDials received peerstore, (loop.handleEvent now event).loop =
      { loop with
        subscriptions := subscriptions, pendingDials := pendingDials, peerstore := peerstore
        metrics := { loop.metrics with totalMessagesReceived := received } }) ∧
    ∃ senders answer, (loop.handleEvent now event).effects = answerAll senders answer := by
  cases event with
  | gossipsubMessage message =>
      refine ⟨?_, [], .ok, rfl⟩
      simp only [handleEvent, handleMessage]
      split
      · exact ⟨_, _, loop.metrics.totalMessagesReceived, _, rfl⟩
      · exact ⟨_, _, _, _, rfl⟩
  | identifyReceived peer addrs =>
      refine ⟨?_, [], .ok, rfl⟩
      simp only [handleEvent, handleIdentify]
      split <;> exact ⟨_, _, loop.metrics.totalMessagesReceived, _, rfl⟩
  | connectionEstablished peer endpoint id => exact absurd rfl (established peer endpoint id)
  | connectionClosed peer endpoint id n => exact absurd rfl (closed peer endpoint id n)
  | outgoingConnectionError peer error =>
      cases peer with
      | none => exact ⟨⟨_, _, loop.metrics.totalMessagesReceived, _, rfl⟩, [], .ok, rfl⟩
      | some peer =>
          exact ⟨⟨_, _, loop.metrics.totalMessagesReceived, _, loop.resolvePendingDials_loop peer _⟩,
            _, _, loop.resolvePendingDials_effects peer _⟩
  | other => exact ⟨⟨_, _, loop.metrics.totalMessagesReceived, _, rfl⟩, [], .ok, rfl⟩

/-! ## The preferred set -/

omit [TextCodec PeerId] [TextCodec (Multiaddr PeerId)]

def accepted (loop : EventLoop PeerId) (peers : List (PeerId × List (Multiaddr PeerId))) :
    List (PeerId × List (Multiaddr PeerId)) :=
  peers.take loop.settings.protectedCap

def acceptedSet (loop : EventLoop PeerId) (peers : List (PeerId × List (Multiaddr PeerId))) :
    Finset PeerId :=
  ((loop.accepted peers).map Prod.fst).toFinset

def droppedSet (loop : EventLoop PeerId) (peers : List (PeerId × List (Multiaddr PeerId))) :
    Finset PeerId :=
  loop.protectedPeers.filter fun old => old ∉ loop.acceptedSet peers ∧ old ∉ loop.bootstrapPeers

theorem foldl_insert_eq_union {V : Type} (entries : List (PeerId × V)) (peers : Finset PeerId) :
    entries.foldl (fun peers entry => insert entry.1 peers) peers =
      peers ∪ (entries.map Prod.fst).toFinset := by
  induction entries generalizing peers with
  | nil => simp
  | cons entry entries ih =>
      rw [List.foldl_cons, ih]
      ext q
      simp only [Finset.mem_union, Finset.mem_insert, List.map_cons, List.mem_toFinset, List.mem_cons]
      tauto

theorem handleSetPreferredPeers_loop (loop : EventLoop PeerId)
    (peers : List (PeerId × List (Multiaddr PeerId))) (sender : Sender) :
    (loop.handleSetPreferredPeers peers sender).loop =
      { loop with
        protectedPeers := (loop.protectedPeers \ loop.droppedSet peers) ∪ loop.acceptedSet peers
        dialHints := HashMap.insertAll ∅ (loop.accepted peers) } := by
  simp only [handleSetPreferredPeers, foldl_insert_eq_union]
  rfl

theorem handleSetPreferredPeers_effects (loop : EventLoop PeerId)
    (peers : List (PeerId × List (Multiaddr PeerId))) (sender : Sender) :
    (loop.handleSetPreferredPeers peers sender).effects =
      .setApplicationScore (loop.droppedSet peers) 0 ::
        (loop.accepted peers).map (fun peer => .setApplicationScore {peer.1} preferredPeerAppScore) ++
        [.answer sender (.counts (loop.accepted peers).length.toUInt32
          (peers.length - loop.settings.protectedCap).toUInt32)] := rfl

/-! ## What commands leave alone -/

theorem handleDial_loop (loop : EventLoop PeerId) (view : SwarmView PeerId) (peer : PeerId)
    (addrs : List (Multiaddr PeerId)) (sender : Sender) :
    ∃ pendingDials, (loop.handleDial view peer addrs sender).loop =
      { loop with pendingDials := pendingDials } := by
  unfold handleDial
  split
  · exact ⟨_, rfl⟩
  · dsimp only
    split
    · exact ⟨_, rfl⟩
    · exact ⟨loop.pendingDials, rfl⟩
    · exact ⟨loop.pendingDials, rfl⟩

theorem handleCommand_loop (loop : EventLoop PeerId) (view : SwarmView PeerId)
    (command : Command PeerId) :
    ∃ pendingDials protectedPeers dialHints, (loop.handleCommand view command).loop =
      { loop with
        pendingDials := pendingDials, protectedPeers := protectedPeers, dialHints := dialHints } := by
  cases command with
  | dial peer addrs sender =>
      obtain ⟨pendingDials, same⟩ := loop.handleDial_loop view peer addrs sender
      exact ⟨pendingDials, loop.protectedPeers, loop.dialHints, same⟩
  | setPreferredPeers peers sender =>
      exact ⟨loop.pendingDials, _, _, loop.handleSetPreferredPeers_loop peers sender⟩
  | _ => exact ⟨loop.pendingDials, loop.protectedPeers, loop.dialHints, rfl⟩

end EventLoop
end P2pService
