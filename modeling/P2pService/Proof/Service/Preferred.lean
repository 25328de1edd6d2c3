import P2pService.Library.Register
import P2pService.Proof.Preferred
import P2pService.Proof.Service.Calls

/-!
# Who sees the preferred peers

The last `SetPreferredPeers` that the loop has taken is a register: it is replaced as a whole, and
the answers to `GetPeers` and to the question of the maintenance task are made from it.
-/

namespace P2pService
open Library

section

variable {PeerId : Type}

def Command.preferred? : Command PeerId → Option (List (PeerId × List (Multiaddr PeerId)))
  | .setPreferredPeers peers _ => some peers
  | _ => none

def Command.readsPreferred : Command PeerId → Bool
  | .getPeers _ | .networkSnapshot _ => true
  | _ => false

end

variable {PeerId : Type} [DecidableEq PeerId]

namespace World

/-- The loop protects and hints at what comes of these peers. -/
structure Prefers (world : World PeerId) (peers : List (PeerId × List (Multiaddr PeerId))) : Prop where
  protectedPeers :
    world.loop.protectedPeers = world.loop.bootstrapPeers ∪ world.loop.acceptedSet peers
  dialHints : world.loop.dialHints = HashMap.insertAll ∅ (world.loop.accepted peers)

/-- The answer was given while these peers were preferred. -/
def Tells (world : World PeerId) (peers : List (PeerId × List (Multiaddr PeerId))) :
    Answer PeerId → Prop
  | .peers listed => ∀ entry ∈ listed,
      entry.preferred ↔ entry.peerId ∈ world.loop.bootstrapPeers ∪ world.loop.acceptedSet peers
  | .snapshot snapshot =>
      snapshot.preferred = (HashMap.insertAll ∅ (world.loop.accepted peers)).iter
  | _ => False

variable {before after : World PeerId} {peers : List (PeerId × List (Multiaddr PeerId))}

omit [DecidableEq PeerId] in
theorem SameSetup.accepted (setup : SameSetup before after) :
    after.loop.accepted peers = before.loop.accepted peers := by
  rw [EventLoop.accepted, setup.settings, EventLoop.accepted]

theorem SameSetup.acceptedSet (setup : SameSetup before after) :
    after.loop.acceptedSet peers = before.loop.acceptedSet peers := by
  rw [EventLoop.acceptedSet, setup.accepted, EventLoop.acceptedSet]

theorem Prefers.start (subscriptions : Subscriptions) (peerstore : PeerStore)
    (settings : NetworkSettings) (bootstrapPeers : Finset PeerId) :
    (World.start subscriptions peerstore settings bootstrapPeers).Prefers [] where
  protectedPeers := by simp [World.start, EventLoop.new, EventLoop.acceptedSet, EventLoop.accepted]
  dialHints := by simp [World.start, EventLoop.new, EventLoop.accepted, HashMap.insertAll]

theorem Prefers.of_same (prefers : before.Prefers peers) (setup : SameSetup before after)
    (same : SamePreferred before after) : after.Prefers peers where
  protectedPeers := by
    rw [same.protectedPeers, setup.bootstrapPeers, setup.acceptedSet, prefers.protectedPeers]
  dialHints := by rw [same.dialHints, setup.accepted, prefers.dialHints]

theorem Prefers.installed {old : List (PeerId × List (Multiaddr PeerId))}
    (prefers : before.Prefers old) (setup : SameSetup before after)
    (step : Installed before after peers) : after.Prefers peers where
  protectedPeers := by
    rw [step.protectedPeers, setup.bootstrapPeers, setup.acceptedSet]
    ext peer
    have bootstrap : peer ∈ before.loop.bootstrapPeers → peer ∈ before.loop.protectedPeers := by
      rw [prefers.protectedPeers]
      exact Finset.mem_union_left _
    rw [EventLoop.mem_installed, Finset.mem_union]
    tauto
  dialHints := by rw [step.dialHints, setup.accepted]

theorem Tells.of_setup {answer : Answer PeerId} (tells : before.Tells peers answer)
    (setup : SameSetup before after) : after.Tells peers answer := by
  cases answer with
  | peers listed =>
      intro entry member
      rw [setup.bootstrapPeers, setup.acceptedSet]
      exact tells entry member
  | snapshot snapshot =>
      rw [Tells, setup.accepted]
      exact tells
  | _ => exact tells

end World

variable [TextCodec PeerId] [TextCodec (Multiaddr PeerId)]

def preferredRegister (PeerId : Type) [DecidableEq PeerId] [TextCodec PeerId]
    [TextCodec (Multiaddr PeerId)] :
    Register (eventLoopServer PeerId) (List (PeerId × List (Multiaddr PeerId))) where
  start := []
  write? := Command.preferred?
  reads := Command.readsPreferred
  Shows := World.Prefers
  Found world _ answer peers := world.Tells peers answer

theorem World.tells_of_read {world : World PeerId} {peers : List (PeerId × List (Multiaddr PeerId))}
    (prefers : world.Prefers peers) (view : SwarmView PeerId) {command : Command PeerId}
    (reads : command.readsPreferred) :
    ∃ answer, (command.sender, answer) ∈ (world.next (.command view command)).answers ∧
      (world.next (.command view command)).Tells peers answer := by
  have setup := world.next_setup (.command view command)
  cases command with
  | getPeers sender =>
      refine ⟨.peers (world.loop.getPeers view), List.mem_append_right _ (List.mem_singleton_self _), ?_⟩
      refine Tells.of_setup (fun entry member => ?_) setup
      obtain ⟨listed, _, rfl⟩ := Multiset.mem_map.mp member
      rw [← prefers.protectedPeers]
      exact decide_eq_true_iff
  | networkSnapshot sender =>
      refine ⟨.snapshot world.loop.networkSnapshot,
        List.mem_append_right _ (List.mem_singleton_self _), ?_⟩
      refine Tells.of_setup ?_ setup
      rw [Tells, EventLoop.networkSnapshot, prefers.dialHints]
  | _ => cases reads

theorem preferredRegister_lawful : (preferredRegister PeerId).Lawful := by
  constructor
  case initial =>
    rintro _ ⟨subscriptions, peerstore, settings, bootstrapPeers, rfl⟩
    exact .start subscriptions peerstore settings bootstrapPeers
  case writes =>
    intro world label command old peers enabled asks prefers writes
    cases label with
    | command view asked =>
        cases asks
        cases command with
        | setPreferredPeers named sender =>
            cases writes
            exact prefers.installed (world.next_setup (.command view (.setPreferredPeers _ sender)))
              (world.next_setPreferredPeers view _ sender)
        | _ => cases writes
    | _ => cases asks
  case keeps =>
    intro world label peers enabled quiet prefers
    have other : ¬ label.installs := by
      intro installs
      cases label with
      | command view command =>
          cases command with
          | setPreferredPeers named sender => cases quiet
          | _ => cases installs
      | _ => cases installs
    exact prefers.of_same (world.next_setup label) (World.samePreferred_of_matched enabled.1 other)
  case answers =>
    intro world label command peers enabled asks reads prefers
    cases label with
    | command view asked =>
        cases asks
        exact World.tells_of_read prefers view reads
    | _ => cases asks
  case stays =>
    intro world label command answer peers enabled tells
    exact tells.of_setup (world.next_setup label)

/--
Once a `SetPreferredPeers` has returned, whoever asks after that is answered by it or by one that
the loop took later. The answer is made from the last one that the loop took before the question.
-/
theorem preferred_seen {state final : Service PeerId × CallLog}
    (reachable : (serviceSystem PeerId).Reachable state) {labels : List (ServiceLabel PeerId)}
    (legal : (serviceSystem PeerId).Legal state labels)
    (run : (serviceSystem PeerId).after state labels = final) {first second : Sender}
    {setter reader : ClientId} {peers : List (PeerId × List (Multiaddr PeerId))}
    {command : Command PeerId} {response answer : Answer PeerId}
    (set : state.1.calls[first]? =
      some ⟨setter, .setPreferredPeers peers first, .returned (some response)⟩)
    (later : state.1.calls.length ≤ second)
    (read : final.1.calls[second]? = some ⟨reader, command, .returned (some answer)⟩)
    (reads : command.readsPreferred) :
    ∃ before last between after installed,
      final.2.served = before ++ last :: between ++ second :: after ∧ first ∈ before ++ [last] ∧
        (Server.asked final.1 last).bind Command.preferred? = some installed ∧
        (∀ slot ∈ between, (Server.asked final.1 slot).bind Command.preferred? = none) ∧
        final.1.server.Tells installed answer :=
  Register.finds_of_returned preferredRegister_lawful eventLoopServer_honest reachable legal run set
    rfl rfl later read rfl reads

namespace Sample

def preferAlice : Command Peer := .setPreferredPeers [(.alice, [])] 0

def preferred : Service Peer × CallLog :=
  (serviceSystem Peer).after (idleService, ⟨[], []⟩)
    [.call 0 preferAlice, .send 0, .serve (.command (view (.ok ())) preferAlice), .complete 0]

theorem preferred_reachable : (serviceSystem Peer).Reachable preferred := by
  refine (System.Reachable.initial ?_).after ?_
  · exact ⟨⟨⟨_, _, _, _, rfl⟩, rfl, rfl, rfl⟩, rfl⟩
  · refine ⟨⟨by decide, rfl, by simp [idleService]⟩, ⟨rfl, _, rfl, rfl⟩, ?_, rfl, trivial⟩
    exact ⟨rfl, ⟨by decide, rfl⟩, preferAlice, rfl, rfl⟩

def askAgain : List (ServiceLabel Peer) :=
  [.call 0 (.networkSnapshot 1), .send 1,
    .serve (.command (view (.ok ())) (.networkSnapshot 1)), .complete 1]

theorem askAgain_legal : (serviceSystem Peer).Legal preferred askAgain := by
  refine ⟨⟨by decide, rfl, by decide⟩, ⟨rfl, _, rfl, rfl⟩, ?_, rfl, trivial⟩
  exact ⟨rfl, ⟨by decide, rfl⟩, .networkSnapshot 1, rfl, rfl⟩

def asked : Service Peer × CallLog := (serviceSystem Peer).after preferred askAgain

end Sample

section

open Sample

theorem preferred_seen_asked : ∃ installed, asked.1.server.Tells installed
    (.snapshot preferred.1.server.loop.networkSnapshot) := by
  have set : preferred.1.calls[0]? = some ⟨0, preferAlice, .returned (some (.counts 1 0))⟩ := rfl
  have read : asked.1.calls[1]? = some ⟨0, .networkSnapshot 1,
    .returned (some (.snapshot preferred.1.server.loop.networkSnapshot))⟩ := rfl
  obtain ⟨_, _, _, _, installed, _, _, _, _, tells⟩ :=
    preferred_seen preferred_reachable askAgain_legal rfl set (le_refl 1) read rfl
  exact ⟨installed, tells⟩

end

end P2pService
