import P2pService.Proof.Dials.Connected
import P2pService.Proof.Limits.Reference
import P2pService.World.Maintenance

/-!
# What the maintenance task makes of a refused connection

A dial is answered when its connection is established, and the limits are applied after that. So a
connection the limits refuse is a success for whoever asked for it, and the maintenance task drops
the peer's backoff for it.
-/

namespace P2pService
open Library

variable {PeerId : Type}

theorem World.Ended.reply [DecidableEq PeerId] {before after : World PeerId} {peer : PeerId}
    {answer : Answer PeerId} (step : Ended before after peer answer) {sender : Sender}
    (unanswered : before.answered sender = 0)
    (waits : sender ∈ (before.loop.pendingDials.get peer).getD []) :
    after.reply sender = some answer := by
  rw [reply_of_append unanswered step.answers]
  cases found : (((before.loop.pendingDials.get peer).getD []).map (·, answer)).find?
      (fun entry => decide (entry.1 = sender)) with
  | none =>
      have missing := List.find?_eq_none.mp found (sender, answer)
        (List.mem_map.mpr ⟨sender, waits, rfl⟩)
      simp at missing
  | some entry =>
      obtain ⟨_, _, rfl⟩ := List.mem_map.mp (List.mem_of_find?_eq_some found)
      rfl

/-! ## The steps of the task -/

def MaintenanceLabel.stopsWaiting : MaintenanceLabel PeerId → Bool
  | .conclude _ _ | .timeout _ _ => true
  | _ => false

namespace Maintained

def Fails (state : Maintained PeerId) (peer : PeerId) : MaintenanceLabel PeerId → Prop
  | .conclude _ _ => ∃ sender, state.awaited = some (sender, peer) ∧
      ∀ answer ∈ state.network.reply sender, answer ≠ .ok
  | .timeout _ _ => ∃ sender, state.awaited = some (sender, peer)
  | _ => False

theorem task_of_awaited {state : Maintained PeerId} {sender : Sender} {peer : PeerId}
    (awaited : state.awaited = some (sender, peer)) :
    ∃ connected candidates attempted,
      state.task = .awaiting sender peer connected candidates attempted := by
  unfold Maintained.awaited at awaited
  split at awaited
  · rename_i connected candidates attempted task
    cases awaited
    exact ⟨connected, candidates, attempted, task⟩
  · cases awaited

variable [DecidableEq PeerId]

def NotBackedOff (peer : PeerId) (state : Maintained PeerId) : Prop :=
  state.backoff.state.get peer = none

variable [TextCodec PeerId] [TextCodec (Multiaddr PeerId)]
  {state : Maintained PeerId} {sender : Sender} {peer : PeerId}

theorem conclude_success (awaited : state.awaited = some (sender, peer))
    (okay : state.network.reply sender = some .ok) (now : Instant) (jitter : ℚ) :
    (state.next (.conclude now jitter)).backoff = state.backoff.recordSuccess peer := by
  obtain ⟨connected, candidates, attempted, task⟩ := task_of_awaited awaited
  simp only [next, task, okay]

theorem conclude_failure (awaited : state.awaited = some (sender, peer)) {error : CommandError}
    (failed : state.network.reply sender = some (.error error)) (now : Instant) (jitter : ℚ) :
    (state.next (.conclude now jitter)).backoff =
      state.backoff.recordFailure peer now jitter := by
  obtain ⟨connected, candidates, attempted, task⟩ := task_of_awaited awaited
  simp only [next, task, failed]

theorem timeout_failure (awaited : state.awaited = some (sender, peer)) (now : Instant)
    (jitter : ℚ) : (state.next (.timeout now jitter)).backoff =
      state.backoff.recordFailure peer now jitter := by
  obtain ⟨connected, candidates, attempted, task⟩ := task_of_awaited awaited
  simp only [next, task]

theorem awaited_next (awaited : state.awaited = some (sender, peer))
    {label : MaintenanceLabel PeerId} (enabled : state.Enabled label)
    (waits : label.stopsWaiting = false) :
    (state.next label).awaited = some (sender, peer) ∧
      ∀ answer, state.network.reply sender = some answer →
        (state.next label).network.reply sender = some answer := by
  obtain ⟨connected, candidates, attempted, task⟩ := task_of_awaited awaited
  cases label with
  | network label => exact ⟨awaited, fun answer known => World.reply_next known label⟩
  | deliver view =>
      unfold next
      dsimp only
      split
      · exact ⟨awaited, fun answer known => known⟩
      · exact ⟨awaited, fun answer known => World.reply_next known _⟩
  | tick now s => cases task.symm.trans enabled.1
  | plan nowUnix preferred refill =>
      obtain ⟨_, _, asking, _⟩ := enabled
      cases task.symm.trans asking
  | attempt now s =>
      obtain ⟨⟨_, _, _, dialing⟩, _⟩ := enabled
      cases task.symm.trans dialing
  | conclude now jitter => cases waits
  | timeout now jitter => cases waits

theorem backoff_next (state : Maintained PeerId) (label : MaintenanceLabel PeerId) :
    (state.next label).backoff = state.backoff ∨
    (∃ now, (state.next label).backoff = state.backoff.prune now) ∨
    (∃ peer, (state.next label).backoff = state.backoff.recordSuccess peer) ∨
    ∃ peer now jitter, state.Fails peer label ∧
      (state.next label).backoff = state.backoff.recordFailure peer now jitter := by
  cases label with
  | network label => exact .inl rfl
  | deliver view =>
      simp only [next]
      split <;> exact .inl rfl
  | tick now s => exact .inr (.inl ⟨now, rfl⟩)
  | plan nowUnix preferred refill =>
      simp only [next]
      split
      · split <;> exact .inl rfl
      · exact .inl rfl
  | attempt now s =>
      simp only [next, attempt]
      split
      · exact .inl rfl
      · split <;> exact .inl rfl
      · exact .inl rfl
  | conclude now jitter =>
      simp only [next]
      split
      · rename_i s peer connected candidates attempted task
        have awaited : state.awaited = some (s, peer) := by simp only [Maintained.awaited, task]
        split
        · exact .inr (.inr (.inl ⟨peer, rfl⟩))
        · rename_i answer failed replied
          refine .inr (.inr (.inr ⟨peer, now, jitter, ⟨s, awaited, fun known same okay => ?_⟩, rfl⟩))
          exact failed (Option.some.inj (replied.symm.trans (same.trans (congrArg some okay))))
        · exact .inl rfl
      · exact .inl rfl
  | timeout now jitter =>
      simp only [next]
      split
      · rename_i s peer connected candidates attempted task
        have awaited : state.awaited = some (s, peer) := by simp only [Maintained.awaited, task]
        exact .inr (.inr (.inr ⟨peer, now, jitter, ⟨s, awaited⟩, rfl⟩))
      · exact .inl rfl

theorem notBackedOff_next (absent : NotBackedOff peer state)
    {label : MaintenanceLabel PeerId} (spared : ¬ state.Fails peer label) :
    NotBackedOff peer (state.next label) := by
  unfold NotBackedOff
  rcases state.backoff_next label with same | ⟨now, pruned⟩ | ⟨other, done⟩ |
    ⟨other, now, jitter, fails, failed⟩
  · rw [same]
    exact absent
  · rw [pruned]
    exact DialBackoff.get_prune_of_none absent now
  · rw [done]
    exact DialBackoff.get_recordSuccess_of_none absent other
  · rw [failed]
    have different : peer ≠ other := by
      rintro rfl
      exact spared fails
    exact (DialBackoff.get_recordFailure_of_ne state.backoff different now jitter).trans absent

theorem backoff_settings (reachable : (maintenanceSystem PeerId).Reachable state) :
    state.backoff.base = backoffBase ∧ state.backoff.cap = backoffCap := by
  induction reachable with
  | initial first =>
      obtain ⟨_, _, _, _, rfl⟩ := first
      exact ⟨rfl, rfl⟩
  | @next state label _ _ ih =>
      change (state.next label).backoff.base = _ ∧ (state.next label).backoff.cap = _
      rcases state.backoff_next label with same | ⟨now, pruned⟩ | ⟨other, done⟩ |
        ⟨other, now, jitter, _, failed⟩
      · rw [same]; exact ih
      · rw [pruned]; exact ih
      · rw [done]; exact ih
      · rw [failed]; exact ih

theorem not_ready_of_failure (reachable : (maintenanceSystem PeerId).Reachable state) (now : Instant)
    {jitter : ℚ} (drawn : Jitter jitter) :
    (state.backoff.recordFailure peer now jitter).ready peer now = false := by
  obtain ⟨base, cap⟩ := backoff_settings reachable
  apply DialBackoff.not_ready_recordFailure
  · exact lt_of_lt_of_le (by norm_num) drawn.1
  · exact DialBackoff.capped_pos _ _ (by rw [base]; decide) (by rw [cap]; decide)

abbrev waitingSystem (PeerId : Type) [DecidableEq PeerId] [TextCodec PeerId]
    [TextCodec (Multiaddr PeerId)] : System (Maintained PeerId) (MaintenanceLabel PeerId) :=
  (maintenanceSystem PeerId).restrict fun _ label => label.stopsWaiting = false

abbrev sparingSystem (peer : PeerId) : System (Maintained PeerId) (MaintenanceLabel PeerId) :=
  (maintenanceSystem PeerId).restrict fun state label => ¬ state.Fails peer label

theorem awaited_after (awaited : state.awaited = some (sender, peer))
    (known : state.network.reply sender = some .ok) {labels : List (MaintenanceLabel PeerId)}
    (legal : (waitingSystem PeerId).Legal state labels) :
    ((waitingSystem PeerId).after state labels).awaited = some (sender, peer) ∧
      ((waitingSystem PeerId).after state labels).network.reply sender = some .ok := by
  have step (state : Maintained PeerId) (label : MaintenanceLabel PeerId)
      (holds : state.awaited = some (sender, peer) ∧ state.network.reply sender = some .ok)
      (enabled : (waitingSystem PeerId).enabled state label) :
      (state.next label).awaited = some (sender, peer) ∧
        (state.next label).network.reply sender = some .ok := by
    obtain ⟨still, replies⟩ := awaited_next holds.1 enabled.1 enabled.2
    exact ⟨still, replies .ok holds.2⟩
  exact System.after_of_step step ⟨awaited, known⟩ legal

theorem ready_after (absent : NotBackedOff peer state)
    {labels : List (MaintenanceLabel PeerId)} (legal : (sparingSystem peer).Legal state labels)
    (moment : Instant) : ((sparingSystem peer).after state labels).backoff.ready peer moment := by
  have step (state : Maintained PeerId) (label : MaintenanceLabel PeerId)
      (absent : NotBackedOff peer state) (enabled : (sparingSystem peer).enabled state label) :
      NotBackedOff peer (state.next label) := notBackedOff_next absent enabled.2
  exact DialBackoff.ready_of_none (System.after_of_step step absent legal) moment

theorem network_reachable (reachable : (maintenanceSystem PeerId).Reachable state) :
    (networkSystem PeerId).Reachable state.network := by
  induction reachable with
  | initial first =>
      obtain ⟨network, _, _, started, rfl⟩ := first
      exact .initial started
  | @next state label _ enabled ih =>
      cases label with
      | network label => exact .next ih enabled.1
      | deliver view =>
          obtain ⟨command, first, matched⟩ := enabled
          obtain ⟨rest, requests⟩ := List.head?_eq_some_iff.mp first
          have handled : (networkSystem PeerId).enabled state.network (.command view command) :=
            matched
          simp only [maintenanceSystem, next, requests]
          exact .next ih handled
      | tick now s => exact ih
      | plan nowUnix preferred refill =>
          simp only [maintenanceSystem, next]
          split
          · split <;> exact ih
          · exact ih
      | attempt now s =>
          simp only [maintenanceSystem, next, attempt]
          split
          · exact ih
          · split <;> exact ih
          · exact ih
      | conclude now jitter =>
          simp only [maintenanceSystem, next]
          split
          · split <;> exact ih
          · exact ih
      | timeout now jitter =>
          simp only [maintenanceSystem, next]
          split <;> exact ih

end Maintained

/-! ## The limits and the answer -/

variable [DecidableEq PeerId] [TextCodec PeerId] [TextCodec (Multiaddr PeerId)]

theorem World.established_outcome {world : World PeerId}
    (reachable : (networkSystem PeerId).Reachable world) {now : Nat} {peer : PeerId}
    {endpoint : Endpoint PeerId} {id : ConnectionId} (dialer : endpoint.isDialer)
    (matched : world.Matched (.event now (.connectionEstablished peer endpoint id))) :
    world.newAnswers (.event now (.connectionEstablished peer endpoint id)) =
        ((world.loop.pendingDials.get peer).getD []).map (·, .ok) ∧
      (world.loop.handleEvent now
          (.connectionEstablished peer endpoint id)).effects.filter Effect.closes =
        (Reference.decide world.loop.settings world.loop.protectedPeers world.swarm.connections
          ⟨id, peer, endpoint.getRemoteAddress⟩).calls peer id := by
  have step : World.Ended world (world.next (.event now (.connectionEstablished peer endpoint id)))
      peer .ok := World.ended_of_outcome matched (by simp [Label.outcome, dialer])
  exact ⟨World.newAnswers_of_append step.answers,
    (tabled_of_reachable reachable).established_closes now peer endpoint id⟩

/--
A connection that is established answers every dial that waits for its peer with success, and in the
same event it is kept or closed as the limits decide, which the answers do not depend on. The
maintenance task records a failure when its dial is answered with an error or not in time, and does
not find the peer ready at once. When the connection it waits for is established it records a
success, whatever the limits decided, and the peer is ready until another failure of it is recorded.
-/
theorem dial_success_ignores_limits :
    (∀ (world : World PeerId) now peer endpoint id, (networkSystem PeerId).Reachable world →
      world.Matched (.event now (.connectionEstablished peer endpoint id)) → endpoint.isDialer →
      world.newAnswers (.event now (.connectionEstablished peer endpoint id)) =
          ((world.loop.pendingDials.get peer).getD []).map (·, .ok) ∧
        (world.loop.handleEvent now
            (.connectionEstablished peer endpoint id)).effects.filter Effect.closes =
          (Reference.decide world.loop.settings world.loop.protectedPeers world.swarm.connections
            ⟨id, peer, endpoint.getRemoteAddress⟩).calls peer id) ∧
    ∀ (state : Maintained PeerId) sender peer, (maintenanceSystem PeerId).Reachable state →
      state.awaited = some (sender, peer) →
      (∀ now jitter error, Maintained.Jitter jitter →
        state.network.reply sender = some (.error error) →
        (state.next (.conclude now jitter)).backoff =
            state.backoff.recordFailure peer now jitter ∧
          (state.next (.conclude now jitter)).backoff.ready peer now = false) ∧
      (∀ now jitter, Maintained.Jitter jitter →
        (state.next (.timeout now jitter)).backoff =
            state.backoff.recordFailure peer now jitter ∧
          (state.next (.timeout now jitter)).backoff.ready peer now = false) ∧
      ∀ now endpoint id, endpoint.isDialer →
        sender ∈ (state.network.loop.pendingDials.get peer).getD [] →
        state.Enabled (.network (.event now (.connectionEstablished peer endpoint id))) →
        ∀ waits, (Maintained.waitingSystem PeerId).Legal
            (state.next (.network (.event now (.connectionEstablished peer endpoint id)))) waits →
          let answered := (Maintained.waitingSystem PeerId).after
            (state.next (.network (.event now (.connectionEstablished peer endpoint id)))) waits
          ∀ later jitter rest, (Maintained.sparingSystem peer).Legal
              (answered.next (.conclude later jitter)) rest →
            ∀ moment, ((Maintained.sparingSystem peer).after
              (answered.next (.conclude later jitter)) rest).backoff.ready peer moment := by
  refine ⟨fun world now peer endpoint id reachable matched dialer =>
    World.established_outcome reachable dialer matched, ?_⟩
  intro state sender peer reachable awaited
  refine ⟨fun now jitter error drawn failed => ?_, fun now jitter drawn => ?_, ?_⟩
  · rw [Maintained.conclude_failure awaited failed now jitter]
    exact ⟨rfl, Maintained.not_ready_of_failure reachable now drawn⟩
  · rw [Maintained.timeout_failure awaited now jitter]
    exact ⟨rfl, Maintained.not_ready_of_failure reachable now drawn⟩
  intro now endpoint id dialer pending enabled waits legal answered later jitter rest sparing moment
  have accounted := accounted_of_reachable (Maintained.network_reachable reachable)
  have asked := accounted.asked sender peer (List.count_pos_iff.mpr pending)
  have unanswered : state.network.answered sender = 0 := by
    rcases accounted.settled sender peer asked with done | waiting
    · exact absurd (done.waiting peer) (List.count_pos_iff.mpr pending).ne'
    · exact waiting.answered
  have ended : World.Ended state.network _ peer .ok :=
    World.ended_of_outcome enabled.1 (by simp [Label.outcome, dialer])
  have awaits : (state.next
      (.network (.event now (.connectionEstablished peer endpoint id)))).awaited =
    some (sender, peer) := awaited
  obtain ⟨still, okay⟩ :=
    Maintained.awaited_after awaits (ended.reply unanswered pending) legal
  refine Maintained.ready_after ?_ sparing moment
  rw [Maintained.NotBackedOff, Maintained.conclude_success still okay]
  exact DialBackoff.recordSuccess_get _ peer

/-! ## Bob is refused and not backed off -/

namespace Sample

/-- Alice is connected at a high watermark of one, and Bob is a bootstrap peer that the task dials. -/
def dialingBob : Maintained Peer :=
  (maintenanceSystem Peer).after (.start (node 1 4 1) [addr 10 0 0 2 ++ [.p2p .bob]] 0)
    [.network (inbound .alice (addr 10 0 0 1) 0), .tick 0 0, .deliver (view (.ok ())), .plan 0 [] [],
      .attempt 0 1, .deliver (view (.ok ()))]

theorem dialingBob_reachable : (maintenanceSystem Peer).Reachable dialingBob := by
  refine System.Reachable.after (.initial ⟨_, _, _, ⟨_, _, _, _, rfl⟩, rfl⟩) ?_
  refine ⟨⟨by decide, by decide⟩, ⟨rfl, by decide, by decide⟩, ⟨_, rfl, by decide⟩,
    ⟨0, _, rfl, rfl, rfl, rfl⟩, ⟨⟨_, _, _, rfl⟩, by decide, by decide⟩, ⟨_, rfl, by decide⟩, trivial⟩

end Sample

/-- Bob's connection is refused for the high watermark, and he is ready to be dialed again. -/
theorem dial_success_ignores_limits_bob :
    (Sample.dialingBob.network.loop.handleEvent 0
        (.connectionEstablished Sample.Peer.bob (.dialer (Sample.addr 10 0 0 2)) 1)).effects.filter
          Effect.closes = [.disconnectPeerId .bob] ∧
      (((Sample.dialingBob.next (.network (Sample.outbound .bob (Sample.addr 10 0 0 2) 1))).next
        (.conclude 0 1)).backoff.ready .bob 0) := by
  have awaited : Sample.dialingBob.awaited = some (1, .bob) := rfl
  have settled := @dial_success_ignores_limits Sample.Peer _ _ _
  refine ⟨(settled.1 _ 0 .bob (.dialer (Sample.addr 10 0 0 2)) 1
      (Maintained.network_reachable Sample.dialingBob_reachable) (by decide) rfl).2.trans ?_, ?_⟩
  · rw [show Reference.decide _ _ _ _ = Reference.Decision.disconnectPeer by decide]
    rfl
  · exact (settled.2 _ 1 .bob Sample.dialingBob_reachable awaited).2.2 0
      (.dialer (Sample.addr 10 0 0 2)) 1 rfl (by decide) ⟨by decide, by decide⟩ [] trivial 0 1 []
      trivial 0

/-- So an event may answer a dial with success and close its connection. -/
theorem dial_success_refused :
    ¬ ∀ (world : World Sample.Peer) now peer endpoint id sender,
      (dialSystem Sample.Peer).Reachable world →
      (dialSystem Sample.Peer).enabled world
        (.event now (.connectionEstablished peer endpoint id)) →
      endpoint.isDialer →
      (sender, .ok) ∈ world.newAnswers (.event now (.connectionEstablished peer endpoint id)) →
      (world.loop.handleEvent now
        (.connectionEstablished peer endpoint id)).effects.filter Effect.closes = [] := by
  intro always
  have started : (dialSystem Sample.Peer).Reachable (Sample.node 1 4 1) := .initial ⟨_, _, _, _, rfl⟩
  have legal : (dialSystem Sample.Peer).Legal (Sample.node 1 4 1)
    [Sample.inbound .alice (Sample.addr 10 0 0 1) 0, Sample.dial .bob (.ok ()) 0] := by decide
  have kept := always _ 0 .bob (.dialer (Sample.addr 10 0 0 2)) 1 0 (started.after legal)
    (by decide) rfl (List.mem_singleton_self _)
  cases kept

end P2pService
