import P2pService.Proof.Dials.Steps

/-!
# Every dial is answered once

A sender is accounted for when it has been answered once and waits nowhere, or has not been
answered and waits once, for its own peer, while an attempt to that peer is in flight. The two
numbers below say how often each happens, and each step moves a sender at most from one to the
other.
-/

namespace P2pService
open Library

variable {PeerId : Type}

theorem count_one (s sender : Sender) : [sender].count s = if s = sender then 1 else 0 := by
  by_cases same : s = sender
  · rw [same, List.count_singleton_self, if_pos rfl]
  · rw [if_neg same, List.count_eq_zero]
    simpa using same

namespace World

def answered (world : World PeerId) (sender : Sender) : Nat :=
  (world.answers.map Prod.fst).count sender

variable {before after : World PeerId} {peer : PeerId} {sender : Sender}

theorem answered_of_same (same : after.answers = before.answers) :
    after.answered = before.answered := by
  funext s
  rw [answered, answered, same]

theorem answered_of_answer {answer : Answer PeerId}
    (answers : after.answers = before.answers ++ [(sender, answer)]) (s : Sender) :
    after.answered s = before.answered s + if s = sender then 1 else 0 := by
  rw [answered, answers, List.map_append, List.count_append, answered]
  rw [List.map_singleton, count_one]

theorem reply_of_append {more : List (Sender × Answer PeerId)} (unanswered : before.answered sender = 0)
    (answers : after.answers = before.answers ++ more) :
    after.reply sender = (more.find? (·.1 = sender)).map Prod.snd := by
  have none_before : before.answers.find? (·.1 = sender) = none := by
    rw [List.find?_eq_none]
    intro entry member same
    have absent := List.count_eq_zero.mp unanswered
    exact absent (List.mem_map.mpr ⟨entry, member, of_decide_eq_true same⟩)
  rw [reply, answers, List.find?_append, none_before, Option.none_or]

variable [DecidableEq PeerId]

def waiting (world : World PeerId) (sender : Sender) (peer : PeerId) : Nat :=
  ((world.loop.pendingDials.get peer).getD []).count sender

structure Done (world : World PeerId) (sender : Sender) : Prop where
  answered : world.answered sender = 1
  waiting : ∀ q, world.waiting sender q = 0

structure Waits (world : World PeerId) (sender : Sender) (peer : PeerId) : Prop where
  answered : world.answered sender = 0
  waiting : ∀ q, world.waiting sender q = if q = peer then 1 else 0
  inFlight : peer ∈ world.swarm.attempts

theorem waiting_of_same (same : after.loop.pendingDials = before.loop.pendingDials) :
    after.waiting = before.waiting := by
  funext s q
  rw [waiting, waiting, same]

theorem waiting_of_joined (joined : after.loop.pendingDials = before.loop.pendingDials.insert peer
      ((before.loop.pendingDials.get peer).getD [] ++ [sender])) (s : Sender) (q : PeerId) :
    after.waiting s q = before.waiting s q + if s = sender ∧ q = peer then 1 else 0 := by
  rw [waiting, joined, HashMap.get_insert, waiting]
  by_cases same : q = peer
  · subst same
    rw [if_pos rfl, Option.getD_some, List.count_append, count_one]
    simp only [and_true]
  · simp [same]

theorem Ended.answered {answer : Answer PeerId} (step : Ended before after peer answer)
    (s : Sender) : after.answered s = before.answered s + before.waiting s peer := by
  rw [World.answered, step.answers, List.map_append, List.count_append, World.answered, waiting]
  simp [List.map_map, Function.comp_def]

theorem Ended.waiting {answer : Answer PeerId} (step : Ended before after peer answer)
    (s : Sender) (q : PeerId) :
    after.waiting s q = if q = peer then 0 else before.waiting s q := by
  rw [World.waiting, step.pendingDials, HashMap.get_remove, World.waiting]
  split_ifs <;> rfl

end World

variable [DecidableEq PeerId]

structure Accounted (world : World PeerId) : Prop where
  unknown : ∀ sender ∉ world.senders,
    world.answered sender = 0 ∧ (∀ q, world.waiting sender q = 0) ∧ ∀ q, (sender, q) ∉ world.dials
  distinct : (world.dials.map Prod.fst).Nodup
  asked : ∀ sender q, 0 < world.waiting sender q → (sender, q) ∈ world.dials
  attempted : ∀ q senders, world.loop.pendingDials.get q = some senders → q ∈ world.swarm.attempts
  settled : ∀ sender peer, (sender, peer) ∈ world.dials → world.Done sender ∨ world.Waits sender peer

namespace Accounted

variable {before after : World PeerId} {peer : PeerId} {sender : Sender}

theorem start (subscriptions : Subscriptions) (peerstore : PeerStore) (settings : NetworkSettings)
    (bootstrapPeers : Finset PeerId) :
    Accounted (World.start subscriptions peerstore settings bootstrapPeers) where
  unknown sender _ := by
    simp [World.answered, World.waiting, World.start, EventLoop.new]
  distinct := List.nodup_nil
  asked sender q waits := by simp [World.waiting, World.start, EventLoop.new] at waits
  attempted q senders pending := by simp [World.start, EventLoop.new] at pending
  settled sender peer member := by simp [World.start] at member

theorem unique (accounted : Accounted before) {p q : PeerId} (first : (sender, p) ∈ before.dials)
    (second : (sender, q) ∈ before.dials) : p = q :=
  congrArg Prod.snd (List.inj_on_of_nodup_map accounted.distinct first second rfl)

theorem distinct_of_asked (accounted : Accounted before)
    (asked : World.Asked before after peer sender) : (after.dials.map Prod.fst).Nodup := by
  rw [asked.dials, List.map_append, List.nodup_append]
  refine ⟨accounted.distinct, List.nodup_singleton _, fun s old t new => ?_⟩
  obtain ⟨⟨_, q⟩, member, rfl⟩ := List.mem_map.mp old
  rintro rfl
  cases List.mem_singleton.mp new
  exact (accounted.unknown sender asked.fresh).2.2 q member

theorem of_joined (accounted : Accounted before) (asked : World.Asked before after peer sender)
    (joined : after.loop.pendingDials = before.loop.pendingDials.insert peer
      ((before.loop.pendingDials.get peer).getD [] ++ [sender]))
    (attempts : before.swarm.attempts ⊆ after.swarm.attempts)
    (inFlight : peer ∈ after.swarm.attempts) (answers : after.answers = before.answers) :
    Accounted after := by
  obtain ⟨unanswered, unqueued, unasked⟩ := accounted.unknown sender asked.fresh
  have same := World.answered_of_same answers
  have waits := World.waiting_of_joined joined
  constructor
  · intro s unknown
    rw [asked.senders, Finset.mem_insert, not_or] at unknown
    obtain ⟨zero, nowhere, absent⟩ := accounted.unknown s unknown.2
    refine ⟨same ▸ zero, fun q => ?_, fun q member => ?_⟩
    · rw [waits, nowhere, if_neg fun joins => unknown.1 joins.1]
    · rw [asked.dials, List.mem_append, List.mem_singleton] at member
      rcases member with old | new
      · exact absent q old
      · exact unknown.1 (congrArg Prod.fst new)
  · exact accounted.distinct_of_asked asked
  · intro s q positive
    rw [waits] at positive
    rw [asked.dials, List.mem_append, List.mem_singleton]
    split_ifs at positive with joins
    · exact .inr (by rw [joins.1, joins.2])
    · exact .inl (accounted.asked s q positive)
  · intro q senders pending
    rw [joined, HashMap.get_insert] at pending
    split_ifs at pending with here
    · exact here ▸ inFlight
    · exact attempts (accounted.attempted q senders pending)
  · intro s p member
    rw [asked.dials, List.mem_append, List.mem_singleton] at member
    rcases member with old | new
    · have other : s ≠ sender := fun is_new => unasked p (is_new ▸ old)
      have unmoved (q : PeerId) : after.waiting s q = before.waiting s q := by
        rw [waits, if_neg fun joins => other joins.1, Nat.add_zero]
      rcases accounted.settled s p old with done | waiting
      · exact .inl ⟨same ▸ done.answered, fun q => (unmoved q).trans (done.waiting q)⟩
      · exact .inr ⟨same ▸ waiting.answered, fun q => (unmoved q).trans (waiting.waiting q),
          attempts waiting.inFlight⟩
    · cases new
      refine .inr ⟨same ▸ unanswered, fun q => ?_, inFlight⟩
      rw [waits, unqueued]
      simp

theorem of_refused (accounted : Accounted before) {error : DialError}
    (step : World.Refused before after peer sender error) : Accounted after := by
  obtain ⟨unanswered, unqueued, unasked⟩ := accounted.unknown sender step.fresh
  have same := World.waiting_of_same step.pendingDials
  have answered := World.answered_of_answer step.answers
  constructor
  · intro s unknown
    rw [step.senders, Finset.mem_insert, not_or] at unknown
    obtain ⟨zero, nowhere, absent⟩ := accounted.unknown s unknown.2
    refine ⟨by rw [answered, zero, if_neg unknown.1], same ▸ nowhere, fun q member => ?_⟩
    rw [step.dials, List.mem_append, List.mem_singleton] at member
    rcases member with old | new
    · exact absent q old
    · exact unknown.1 (congrArg Prod.fst new)
  · exact accounted.distinct_of_asked step.toAsked
  · intro s q positive
    rw [step.dials]
    exact List.mem_append_left _ (accounted.asked s q (same ▸ positive))
  · intro q senders pending
    rw [step.attempts]
    exact accounted.attempted q senders (step.pendingDials ▸ pending)
  · intro s p member
    rw [step.dials, List.mem_append, List.mem_singleton] at member
    rcases member with old | new
    · have other : s ≠ sender := fun is_new => unasked p (is_new ▸ old)
      have unmoved : after.answered s = before.answered s := by
        rw [answered, if_neg other, Nat.add_zero]
      rcases accounted.settled s p old with done | waiting
      · exact .inl ⟨unmoved.trans done.answered, same ▸ done.waiting⟩
      · exact .inr ⟨unmoved.trans waiting.answered, same ▸ waiting.waiting,
          step.attempts ▸ waiting.inFlight⟩
    · cases new
      exact .inl ⟨by rw [answered, unanswered, if_pos rfl], same ▸ unqueued⟩

theorem of_ended (accounted : Accounted before) {answer : Answer PeerId}
    (step : World.Ended before after peer answer) : Accounted after := by
  constructor
  · intro s unknown
    rw [step.senders] at unknown
    obtain ⟨zero, nowhere, absent⟩ := accounted.unknown s unknown
    refine ⟨by rw [step.answered, zero, nowhere], fun q => ?_, step.dials ▸ absent⟩
    rw [step.waiting]
    split_ifs
    · rfl
    · exact nowhere q
  · rw [step.dials]; exact accounted.distinct
  · intro s q positive
    rw [step.waiting] at positive
    rw [step.dials]
    split_ifs at positive
    · exact absurd positive (Nat.lt_irrefl 0)
    · exact accounted.asked s q positive
  · intro q senders pending
    rw [step.pendingDials, HashMap.get_remove] at pending
    split_ifs at pending with gone
    rw [step.attempts]
    exact Finset.mem_erase.mpr ⟨gone, accounted.attempted q senders pending⟩
  · intro s p member
    rw [step.dials] at member
    rcases accounted.settled s p member with done | waiting
    · refine .inl ⟨by rw [step.answered, done.answered, done.waiting], fun q => ?_⟩
      rw [step.waiting, done.waiting, ite_self]
    · by_cases here : p = peer
      · subst here
        refine .inl ⟨by rw [step.answered, waiting.answered, waiting.waiting, if_pos rfl], fun q => ?_⟩
        rw [step.waiting, waiting.waiting]
        split_ifs <;> rfl
      · refine .inr ⟨?_, fun q => ?_, ?_⟩
        · rw [step.answered, waiting.answered, waiting.waiting, if_neg (Ne.symm here)]
        · rw [step.waiting, waiting.waiting]
          split_ifs with ended own
          · exact absurd (own.symm.trans ended) here
          · rfl
          · rfl
          · rfl
        · rw [step.attempts]
          exact Finset.mem_erase.mpr ⟨here, waiting.inFlight⟩

theorem of_told (accounted : Accounted before) {answer : Answer PeerId}
    (step : World.Told before after sender answer) : Accounted after := by
  obtain ⟨_, _, unasked⟩ := accounted.unknown sender step.fresh
  have same := World.waiting_of_same step.pendingDials
  have answered := World.answered_of_answer step.answers
  constructor
  · intro s unknown
    rw [step.senders, Finset.mem_insert, not_or] at unknown
    obtain ⟨zero, nowhere, absent⟩ := accounted.unknown s unknown.2
    exact ⟨by rw [answered, zero, if_neg unknown.1], same ▸ nowhere, step.dials ▸ absent⟩
  · rw [step.dials]; exact accounted.distinct
  · intro s q positive
    rw [step.dials]
    exact accounted.asked s q (same ▸ positive)
  · intro q senders pending
    rw [step.attempts]
    exact accounted.attempted q senders (step.pendingDials ▸ pending)
  · intro s p member
    rw [step.dials] at member
    have other : s ≠ sender := fun is_new => unasked p (is_new ▸ member)
    have unmoved : after.answered s = before.answered s := by
      rw [answered, if_neg other, Nat.add_zero]
    rcases accounted.settled s p member with done | waiting
    · exact .inl ⟨unmoved.trans done.answered, same ▸ done.waiting⟩
    · exact .inr ⟨unmoved.trans waiting.answered, same ▸ waiting.waiting,
        step.attempts ▸ waiting.inFlight⟩

theorem of_idle (accounted : Accounted before) (step : World.Idle before after) :
    Accounted after := by
  have answered := World.answered_of_same step.answers
  have waiting := World.waiting_of_same step.pendingDials
  constructor
  · rw [step.senders, answered, waiting, step.dials]; exact accounted.unknown
  · rw [step.dials]; exact accounted.distinct
  · rw [waiting, step.dials]; exact accounted.asked
  · intro q senders pending
    exact step.attempts (accounted.attempted q senders (step.pendingDials ▸ pending))
  · intro s p member
    rw [step.dials] at member
    rcases accounted.settled s p member with done | waits
    · exact .inl ⟨answered ▸ done.answered, waiting ▸ done.waiting⟩
    · exact .inr ⟨answered ▸ waits.answered, waiting ▸ waits.waiting, step.attempts waits.inFlight⟩

variable [TextCodec PeerId] [TextCodec (Multiaddr PeerId)]

theorem next (accounted : Accounted before) {label : Label PeerId}
    (matched : before.Matched label) : Accounted (before.next label) := by
  cases World.dialStep matched with
  | queued view peer addrs sender waiting step =>
      refine accounted.of_joined step.toAsked ?_ step.attempts.ge ?_ step.answers
      · rw [step.pendingDials, step.occupied]; rfl
      · rw [step.attempts]; exact accounted.attempted peer waiting step.occupied
  | started view peer addrs sender _ step =>
      refine accounted.of_joined step.toAsked ?_ ?_ ?_ step.answers
      · rw [step.pendingDials, step.vacant]; rfl
      · rw [step.attempts]; exact Finset.subset_insert _ _
      · rw [step.attempts]; exact Finset.mem_insert_self _ _
  | refused _ _ _ _ _ _ step => exact accounted.of_refused step
  | ended _ _ _ _ step => exact accounted.of_ended step
  | told _ _ _ _ step => exact accounted.of_told step
  | idle _ _ _ step => exact accounted.of_idle step

end Accounted

variable [TextCodec PeerId] [TextCodec (Multiaddr PeerId)]

theorem accounted_of_reachable {world : World PeerId}
    (reachable : (networkSystem PeerId).Reachable world) : Accounted world := by
  refine reachable.invariant ?_ fun _ _ _ accounted matched => accounted.next matched
  rintro _ ⟨subscriptions, peerstore, settings, bootstrapPeers, rfl⟩
  exact .start subscriptions peerstore settings bootstrapPeers

theorem World.ended_of_outcome {world : World PeerId} {label : Label PeerId} {peer : PeerId}
    {answer : Answer PeerId} (matched : world.Matched label)
    (outcome : label.outcome = some (peer, answer)) :
    World.Ended world (world.next label) peer answer := by
  cases World.dialStep matched with
  | ended label q _ ends step =>
      rw [outcome, Option.some.injEq, Prod.mk.injEq] at ends
      exact ends.1 ▸ ends.2 ▸ step
  | idle label none_ends _ step => rw [none_ends] at outcome; cases outcome
  | _ => simp [Label.outcome] at outcome

/--
Every dial received has been answered exactly once and waits nowhere, or has not been answered and
waits exactly once, for its own peer, with an attempt to that peer in flight. An event that ends an
attempt answers all that wait for it with its outcome, and leaves what waits for other peers.
-/
theorem dial_answered_once {world : World PeerId}
    (reachable : (dialSystem PeerId).Reachable world) :
    (∀ sender peer, (sender, peer) ∈ world.dials →
      Xor (world.Done sender) (world.Waits sender peer)) ∧
    ∀ label peer answer, (dialSystem PeerId).enabled world label →
      label.outcome = some (peer, answer) →
      (world.next label).answers =
        world.answers ++ ((world.loop.pendingDials.get peer).getD []).map (·, answer) ∧
      (world.next label).loop.pendingDials.get peer = none ∧
      ∀ other, other ≠ peer →
        (world.next label).loop.pendingDials.get other = world.loop.pendingDials.get other := by
  have accounted := accounted_of_reachable reachable.of_restrict
  refine ⟨fun sender peer member => ?_, fun label peer answer enabled outcome => ?_⟩
  · rcases accounted.settled sender peer member with done | waits
    · refine .inl ⟨done, fun waits => ?_⟩
      exact absurd (done.answered.symm.trans waits.answered) Nat.one_ne_zero
    · refine .inr ⟨waits, fun done => ?_⟩
      exact absurd (done.answered.symm.trans waits.answered) Nat.one_ne_zero
  · have step := World.ended_of_outcome enabled.1 outcome
    refine ⟨step.answers, ?_, fun other different => ?_⟩
    · rw [step.pendingDials, HashMap.get_remove_self]
    · rw [step.pendingDials, HashMap.get_remove, if_neg different]

/-- Two clients wait for one attempt, and its success answers both. -/
theorem dial_answered_once_two_clients :
    ((dialSystem Sample.Peer).after (Sample.node 4 4 1)
      [Sample.dial .bob (.ok ()) 0, Sample.dial .bob (.error .aborted) 1,
        Sample.outbound .bob (Sample.addr 10 0 0 2) 0]).answers = [(0, .ok), (1, .ok)] := by
  have started : (dialSystem Sample.Peer).Reachable (Sample.node 4 4 1) := .initial ⟨_, _, _, _, rfl⟩
  have legal : (dialSystem Sample.Peer).Legal (Sample.node 4 4 1)
    [Sample.dial .bob (.ok ()) 0, Sample.dial .bob (.error .aborted) 1] := by decide
  exact ((dial_answered_once (started.after legal)).2 (Sample.outbound .bob (Sample.addr 10 0 0 2) 0)
    .bob .ok (by decide) rfl).1

end P2pService
