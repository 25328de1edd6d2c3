import P2pService.Model.Grpc
import P2pService.Proof.Protection

/-!
# From a request to the preferred set

A `SetPreferredPeers` request replaces the preferred set by the peers it names, up to the cap.
What the lenient parser makes of a request is `namedPeers`, and what the event loop makes of that
depends on the bootstrap peers and the cap, not on the sets installed before.
-/

namespace P2pService
open Library

variable {PeerId : Type} [DecidableEq PeerId] [TextCodec PeerId] [TextCodec (Multiaddr PeerId)]

/-- The peers a request names, in the order in which they first appear, each with the addresses
that parse in its first entry. -/
def namedPeers : List PreferredPeer → List (PeerId × List (Multiaddr PeerId))
  | [] => []
  | peer :: rest =>
      match TextCodec.fromStr peer.peerId with
      | none => namedPeers rest
      | some peerId =>
          (peerId, peer.multiaddrs.filterMap TextCodec.fromStr) ::
            (namedPeers rest).filter (·.1 ≠ peerId)

theorem namedPeers_nodup (request : List PreferredPeer) :
    ((namedPeers request).map Prod.fst : List PeerId).Nodup := by
  induction request with
  | nil => exact List.nodup_nil
  | cons peer rest ih =>
      unfold namedPeers
      split
      · exact ih
      · rename_i peerId _
        rw [List.map_cons, List.nodup_cons]
        refine ⟨fun again => ?_, ih.sublist (List.filter_sublist.map _)⟩
        obtain ⟨entry, member, same⟩ := List.mem_map.mp again
        simp only [List.mem_filter, decide_eq_true_eq] at member
        exact member.2 same

theorem Grpc.foldl_keepEntry (request : List PreferredPeer)
    (kept : List (PeerId × List (Multiaddr PeerId)) × Finset PeerId) :
    (request.foldl keepEntry kept).1 = kept.1 ++ (namedPeers request).filter (·.1 ∉ kept.2) := by
  induction request generalizing kept with
  | nil => simp [namedPeers]
  | cons peer rest ih =>
      rw [List.foldl_cons, ih, keepEntry, namedPeers]
      cases (TextCodec.fromStr peer.peerId : Option PeerId) with
      | none => rfl
      | some peerId =>
          by_cases seen : peerId ∈ kept.2
          · -- filtering out a peer that is seen anyway changes nothing
            simp only [seen, if_true, not_true_eq_false, decide_false, Bool.false_eq_true,
              not_false_eq_true, List.filter_cons_of_neg, List.filter_filter]
            congr 1
            refine List.filter_congr fun entry _ => ?_
            by_cases same : entry.1 = peerId <;> simp [same, seen]
          · simp only [seen, if_false, not_false_eq_true, decide_true, List.filter_cons_of_pos,
              List.append_assoc, List.singleton_append, List.filter_filter]
            congr 2
            refine List.filter_congr fun entry _ => ?_
            by_cases same : entry.1 = peerId <;> simp [same]

theorem Grpc.parsePreferredPeers_eq (request : List PreferredPeer) :
    parsePreferredPeers request = (namedPeers request : List (PeerId × List (Multiaddr PeerId))) := by
  rw [parsePreferredPeers, foldl_keepEntry]
  simp

theorem Grpc.setPreferredPeers_eq (request : List PreferredPeer) (sender : Sender) :
    (setPreferredPeers request sender : Command PeerId) =
      .setPreferredPeers (namedPeers request) sender := by
  rw [setPreferredPeers, parsePreferredPeers_eq]

def Label.installs : Label PeerId → Bool
  | .command _ (.setPreferredPeers _ _) => true
  | _ => false

omit [TextCodec PeerId] [TextCodec (Multiaddr PeerId)] in
theorem EventLoop.handleSetPreferredPeers_again (loop : EventLoop PeerId)
    (peers : List (PeerId × List (Multiaddr PeerId))) (first second : Sender) :
    ((loop.handleSetPreferredPeers peers first).loop.handleSetPreferredPeers peers second).loop =
      (loop.handleSetPreferredPeers peers first).loop := by
  have same : ((loop.handleSetPreferredPeers peers first).loop.protectedPeers \
        (loop.handleSetPreferredPeers peers first).loop.droppedSet peers) ∪
          (loop.handleSetPreferredPeers peers first).loop.acceptedSet peers =
      (loop.handleSetPreferredPeers peers first).loop.protectedPeers := by
    ext q
    have accepted : (loop.handleSetPreferredPeers peers first).loop.acceptedSet peers =
      loop.acceptedSet peers := rfl
    have bootstrap : (loop.handleSetPreferredPeers peers first).loop.bootstrapPeers =
      loop.bootstrapPeers := rfl
    rw [mem_installed, accepted, bootstrap, handleSetPreferredPeers_loop, mem_installed]
    tauto
  rw [handleSetPreferredPeers_loop _ peers second, same]
  rfl

namespace World

theorem samePreferred_of_matched {world : World PeerId} {label : Label PeerId}
    (matched : world.Matched label) (other : ¬ label.installs) :
    SamePreferred world (world.next label) := by
  cases World.step matched with
  | established _ _ _ _ step => exact step.toSamePreferred
  | closed _ _ _ _ _ step => exact step.toSamePreferred
  | installed _ _ _ _ => exact absurd rfl other
  | quiet _ _ quiet => exact quiet.toSamePreferred

theorem next_setPreferredPeers_answers (world : World PeerId) (view : SwarmView PeerId)
    (peers : List (PeerId × List (Multiaddr PeerId))) (sender : Sender) :
    (world.next (.command view (.setPreferredPeers peers sender))).answers =
      world.answers ++ [(sender, .counts (world.loop.accepted peers).length.toUInt32
        (peers.length - world.loop.settings.protectedCap).toUInt32)] := by
  simp only [next, settle, EventLoop.handleCommand, EventLoop.answers_handleSetPreferredPeers]

end World

abbrev undisturbed (PeerId : Type) [DecidableEq PeerId] [TextCodec PeerId]
    [TextCodec (Multiaddr PeerId)] : System (World PeerId) (Label PeerId) :=
  (networkSystem PeerId).restrict fun _ label => ¬ label.installs

theorem undisturbed_preferred {world : World PeerId} {labels : List (Label PeerId)}
    (legal : (undisturbed PeerId).Legal world labels) :
    World.SamePreferred world ((undisturbed PeerId).after world labels) := by
  refine System.after_of_step (fun before label same enabled => ?_) ⟨rfl, rfl⟩ legal
  have step := World.samePreferred_of_matched enabled.1 enabled.2
  exact ⟨step.protectedPeers.trans same.protectedPeers, step.dialHints.trans same.dialHints⟩

/--
A request is an exact replacement. Whatever was installed before, the dial hints become the first
peers the request names, as many as the cap allows, and the protected peers these and the bootstrap
peers; the response counts both; the rest of the loop is as it was. No other label changes the set,
so what is installed is always what the last processed request says, and repeating a request
changes nothing.
-/
theorem setPreferredPeers_exact [ToString CommandError] {world : World PeerId}
    (reachable : (networkSystem PeerId).Reachable world) (view : SwarmView PeerId)
    (request : List PreferredPeer) (sender : Sender) :
    let named := namedPeers request
    let cap := world.loop.settings.protectedCap
    let after := world.next (.command view (Grpc.setPreferredPeers request sender))
    (∀ peer addrs, after.loop.dialHints.get peer = some addrs ↔ (peer, addrs) ∈ named.take cap) ∧
    after.loop.protectedPeers =
      world.loop.bootstrapPeers ∪ ((named.take cap).map Prod.fst).toFinset ∧
    (∃ answer response, after.answers = world.answers ++ [(sender, answer)] ∧
      Grpc.setPreferredPeersResponse answer = .ok response ∧
      (named.length < 2 ^ 32 → response.accepted.toNat = min cap named.length ∧
        response.truncated.toNat = named.length - response.accepted.toNat)) ∧
    after.loop = { world.loop with
      protectedPeers := after.loop.protectedPeers, dialHints := after.loop.dialHints } ∧
    (∀ labels, (undisturbed PeerId).Legal after labels →
      ((undisturbed PeerId).after after labels).loop.protectedPeers = after.loop.protectedPeers ∧
      ((undisturbed PeerId).after after labels).loop.dialHints = after.loop.dialHints) ∧
    ∀ view sender,
      (after.next (.command view (Grpc.setPreferredPeers request sender))).loop = after.loop := by
  intro named cap after
  have after_eq : after = world.next (.command view (.setPreferredPeers named sender)) := by
    simp only [after, Grpc.setPreferredPeers_eq, named]
  have installed : World.Installed world after named :=
    after_eq ▸ world.next_setPreferredPeers view named sender
  have agreed := agreed_of_reachable reachable
  have setup : World.SameSetup world after := world.next_setup _
  have nodup : ((named.take cap).map Prod.fst).Nodup :=
    (namedPeers_nodup request).sublist ((List.take_sublist cap named).map Prod.fst)
  refine ⟨fun peer addrs => ?_, ?_, ?_, ?_, fun labels legal => ?_, fun _ second => ?_⟩
  · rw [installed.dialHints]
    exact HashMap.get_insertAll_iff nodup peer addrs
  · rw [installed.protectedPeers, agreed.installed]
    rfl
  · rw [after_eq]
    refine ⟨_, _, world.next_setPreferredPeers_answers view named sender, rfl, fun small => ?_⟩
    have fits : (world.loop.accepted named).length = min cap named.length := List.length_take ..
    have rest : named.length - cap < 2 ^ 32 := by omega
    have within : min cap named.length < 2 ^ 32 := by omega
    rw [fits, Nat.toUInt32_eq, Nat.toUInt32_eq, UInt32.toNat_ofNat_of_lt' within,
      UInt32.toNat_ofNat_of_lt' rest]
    exact ⟨rfl, by omega⟩
  · rw [after_eq]
    rfl
  · have same := undisturbed_preferred legal
    exact ⟨same.protectedPeers, same.dialHints⟩
  · rw [Grpc.setPreferredPeers_eq, after_eq]
    exact world.loop.handleSetPreferredPeers_again named sender second

/-- A request with an entry that does not parse and one that appears twice, at a cap of one. -/
theorem setPreferredPeers_exact_truncated :
    (Sample.afterAlice.next (.command (Sample.view (.ok ())) (Grpc.setPreferredPeers
      [⟨"not a peer id", []⟩, ⟨TextCodec.toStr Sample.Peer.bob, ["/ip4/10.0.0.2/tcp/4025", "/bad"]⟩,
        ⟨TextCodec.toStr Sample.Peer.carol, []⟩, ⟨TextCodec.toStr Sample.Peer.bob, []⟩]
      7))).loop.dialHints.get .bob = some [Sample.addr 10 0 0 2] := by
  have : ToString CommandError := ⟨fun _ => "error"⟩
  exact ((setPreferredPeers_exact Sample.afterAlice_reachable _ _ _).1 _ _).mpr (by decide)

end P2pService
