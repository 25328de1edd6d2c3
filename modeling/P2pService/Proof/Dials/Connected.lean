import P2pService.Proof.Dials.Answered

/-!
# What a successful dial means

A dial that is answered with success means that its peer is connected, but for one case: the swarm
refuses the dial because an attempt to the peer is in flight that no client asked for. Then nobody
waits for that attempt, and the refusal is taken for success.
-/

namespace P2pService
open Library

variable {PeerId : Type} [DecidableEq PeerId]

/-- No dial meets an attempt in flight that nobody waits for, unless the peer is connected. -/
def NoForeignAttempt (world : World PeerId) : Label PeerId → Prop
  | .command _ (.dial peer _ _) =>
      world.loop.pendingDials.get peer = none → peer ∈ world.swarm.attempts →
        peer ∈ world.swarm.peers
  | _ => True

variable [TextCodec PeerId] [TextCodec (Multiaddr PeerId)]

def World.newAnswers (world : World PeerId) (label : Label PeerId) :
    List (Sender × Answer PeerId) :=
  (world.next label).answers.drop world.answers.length

/-- Every dial the step answers with success is to a peer with an open connection. -/
def OkConnected (world : World PeerId) (label : Label PeerId) : Prop :=
  ∀ sender peer, (sender, peer) ∈ (world.next label).dials →
    (sender, .ok) ∈ world.newAnswers label → peer ∈ (world.next label).swarm.peers

namespace World

variable {world : World PeerId} {label : Label PeerId}

theorem newAnswers_of_append {answers : List (Sender × Answer PeerId)}
    (appended : (world.next label).answers = world.answers ++ answers) :
    world.newAnswers label = answers := by
  rw [newAnswers, appended, List.drop_left]

theorem okConnected_of_silent (same : (world.next label).answers = world.answers) :
    OkConnected world label := by
  intro sender peer _ member
  rw [newAnswers_of_append (same.trans (List.append_nil _).symm)] at member
  cases member

theorem connected_of_outcome {peer : PeerId} (matched : world.Matched label)
    (outcome : label.outcome = some (peer, .ok)) : peer ∈ (world.next label).swarm.peers := by
  cases World.step matched with
  | established now q endpoint id step =>
      rw [Label.outcome] at outcome
      split_ifs at outcome
      cases outcome
      rw [Swarm.mem_peers, step.connections]
      exact ⟨_, Finset.mem_insert_self _ _, rfl⟩
  | closed => cases outcome
  | installed => cases outcome
  | quiet label is_quiet _ =>
      unfold Label.outcome at outcome
      split at outcome
      · simp [Label.quiet] at is_quiet
      · simp at outcome
      · cases outcome

end World

theorem Accounted.okConnected_iff {world : World PeerId} (accounted : Accounted world)
    {label : Label PeerId} (enabled : (exactDialSystem PeerId).enabled world label) :
    OkConnected world label ↔ NoForeignAttempt world label := by
  obtain ⟨⟨matched, dialsMatched⟩, exact_condition⟩ := enabled
  have matched : world.Matched label := matched
  cases World.dialStep matched with
  | queued view peer addrs sender waiting step =>
      refine iff_of_true (World.okConnected_of_silent step.answers) fun vacant => ?_
      rw [step.occupied] at vacant
      cases vacant
  | started view peer addrs sender reply step =>
      refine iff_of_true (World.okConnected_of_silent step.answers) fun _ inFlight => ?_
      exact absurd inFlight (dialsMatched reply).2
  | refused view peer addrs sender error reply step =>
      have told := World.newAnswers_of_append step.answers
      have asked : (sender, peer) ∈ (world.next (.command view (.dial peer addrs sender))).dials := by
        rw [step.dials]
        exact List.mem_append_right _ (List.mem_singleton_self _)
      have same_peers : (world.next (.command view (.dial peer addrs sender))).swarm.peers =
          world.swarm.peers := by
        rw [Swarm.peers, step.connections, Swarm.peers]
      by_cases condition : error = .dialPeerConditionFalse
      · -- the peer is connected or being dialed, and the dial is answered with success
        subst condition
        have busy : peer ∈ world.swarm.peers ∨ peer ∈ world.swarm.attempts := by
          have taken := exact_condition.mp reply
          rwa [Swarm.Free, not_and_or, not_not, not_not] at taken
        constructor
        · intro connected _ _
          rw [← same_peers]
          refine connected sender peer asked ?_
          rw [told, EventLoop.refusal, if_pos rfl]
          exact List.mem_singleton_self _
        · intro foreign s p member okay
          rw [told, List.mem_singleton] at okay
          cases okay
          rw [(accounted.next matched).unique member asked, same_peers]
          exact busy.elim id (foreign step.vacant)
      · have free : world.swarm.Free peer := by
          by_contra taken
          rw [exact_condition.mpr taken] at reply
          exact condition (Except.error.inj reply).symm
        refine iff_of_true (fun s p _ okay => ?_) fun _ inFlight => absurd inFlight free.2
        rw [told, EventLoop.refusal, if_neg condition, List.mem_singleton] at okay
        cases okay
  | ended label peer answer outcome step =>
      have foreign : NoForeignAttempt world label := by
        unfold NoForeignAttempt
        split
        · cases outcome
        · trivial
      refine iff_of_true (fun s p member okay => ?_) foreign
      rw [World.newAnswers_of_append step.answers, List.mem_map] at okay
      obtain ⟨sender, waits, answered⟩ := okay
      cases answered
      have asked : (s, peer) ∈ world.dials := accounted.asked s peer (List.count_pos_iff.mpr waits)
      rw [step.dials] at member
      rw [accounted.unique member asked]
      exact World.connected_of_outcome matched outcome
  | told view command answer other step =>
      have foreign : NoForeignAttempt world (.command view command) := by
        unfold NoForeignAttempt
        split
        · rename_i dial
          cases dial
          exact absurd rfl (other _ _ _)
        · trivial
      refine iff_of_true (fun s p member okay => ?_) foreign
      rw [World.newAnswers_of_append step.answers, List.mem_singleton] at okay
      rw [step.dials] at member
      have same : s = command.sender := congrArg Prod.fst okay
      rw [same] at member
      exact absurd member ((accounted.unknown _ step.fresh).2.2 p)
  | idle label _ other step =>
      refine iff_of_true (World.okConnected_of_silent step.answers) ?_
      unfold NoForeignAttempt
      split
      · exact absurd rfl (other _ _)
      · trivial

/-- In every run, every dial answered with success finds its peer connected exactly when no dial of
the run meets an attempt that nobody waits for. -/
theorem dial_ok_connected_iff {world : World PeerId}
    (start : (exactDialSystem PeerId).initial world) {labels : List (Label PeerId)}
    (legal : (exactDialSystem PeerId).Legal world labels) :
    (exactDialSystem PeerId).EachStep OkConnected world labels ↔
      (exactDialSystem PeerId).EachStep NoForeignAttempt world labels := by
  have keeps (world : World PeerId) (label : Label PeerId) (accounted : Accounted world)
      (enabled : (exactDialSystem PeerId).enabled world label) : Accounted (world.next label) :=
    accounted.next enabled.1.1
  obtain ⟨subscriptions, peerstore, settings, bootstrapPeers, rfl⟩ := start
  exact System.eachStep_iff_eachStep keeps
    (fun _ _ accounted enabled => Accounted.okConnected_iff accounted enabled)
    (.start subscriptions peerstore settings bootstrapPeers) legal

theorem dial_ok_connected_iff_own_attempt :
    (exactDialSystem Sample.Peer).EachStep OkConnected (Sample.node 4 4 1)
      [Sample.dial .bob (.ok ()) 0, Sample.outbound .bob (Sample.addr 10 0 0 2) 0] :=
  (dial_ok_connected_iff ⟨_, _, _, _, rfl⟩ (by decide)).mpr
    ⟨fun _ inFlight => absurd inFlight (by decide), trivial, trivial⟩

/-- A behaviour is dialing Bob. A client's dial is refused for that, and answered with success while
Bob is not connected. -/
theorem dial_ok_not_connected_foreign_attempt :
    ¬ ∀ world label, (exactDialSystem Sample.Peer).Reachable world →
      (exactDialSystem Sample.Peer).enabled world label → OkConnected world label := by
  intro always
  have started : (exactDialSystem Sample.Peer).Reachable (Sample.node 4 4 1) :=
    .initial ⟨_, _, _, _, rfl⟩
  have legal : (exactDialSystem Sample.Peer).Legal (Sample.node 4 4 1) [.behaviourDial .bob] := by
    decide
  have connected := always _ (Sample.dial .bob (.error .dialPeerConditionFalse) 0)
    (started.after legal) (by decide) 0 .bob (by decide) (List.mem_singleton_self _)
  exact absurd connected (by decide)

end P2pService
