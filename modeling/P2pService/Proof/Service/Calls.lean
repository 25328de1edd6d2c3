import P2pService.Proof.Dials.Steps
import P2pService.World.Service

/-!
# No answer is lost between the clients and the loop

The event loop keeps the senders of its dials, and answers every other command at once. So it is
honest with the slots of its callers, and what holds of calls in general holds of its clients.
-/

namespace P2pService
open Library

variable {PeerId : Type}

theorem EventLoop.heldSenders_of_same {before after : EventLoop PeerId}
    (same : after.pendingDials = before.pendingDials) : after.heldSenders = before.heldSenders := by
  rw [heldSenders, same, heldSenders]

namespace World

def answeredSenders (world : World PeerId) : Multiset Sender := world.answers.map Prod.fst

theorem answeredSenders_of_append {before after : World PeerId}
    {more : List (Sender × Answer PeerId)} (answers : after.answers = before.answers ++ more) :
    after.answeredSenders = before.answeredSenders + more.map Prod.fst := by
  rw [answeredSenders, answers, List.map_append, ← Multiset.coe_add, answeredSenders]

theorem answeredSenders_of_same {before after : World PeerId}
    (answers : after.answers = before.answers) : after.answeredSenders = before.answeredSenders := by
  rw [answeredSenders, answers, answeredSenders]

end World

variable [DecidableEq PeerId]

namespace EventLoop

variable {before after : EventLoop PeerId} {peer : PeerId}

theorem heldSenders_of_get {waiting : List Sender}
    (found : before.pendingDials.get peer = some waiting) :
    before.heldSenders = waiting +
      (before.pendingDials.remove peer).iter.bind fun entry => (entry.2 : Multiset Sender) := by
  rw [heldSenders, HashMap.iter_of_get found, Multiset.cons_bind]

theorem heldSenders_joined (waiting : List Sender) {sender : Sender}
    (joined : after.pendingDials = before.pendingDials.insert peer (waiting ++ [sender]))
    (waits : (before.pendingDials.get peer).getD [] = waiting) :
    after.heldSenders = sender ::ₘ before.heldSenders := by
  have grown : after.heldSenders = ↑(waiting ++ [sender]) +
      (before.pendingDials.remove peer).iter.bind fun entry => (entry.2 : Multiset Sender) := by
    rw [heldSenders, joined, HashMap.iter_insert, Multiset.cons_bind]
  have last : (↑(waiting ++ [sender]) : Multiset Sender) = sender ::ₘ ↑waiting := by
    rw [← Multiset.coe_add, Multiset.coe_singleton, add_comm, Multiset.singleton_add]
  rw [grown, last, Multiset.cons_add]
  cases found : before.pendingDials.get peer with
  | some there =>
      rw [found, Option.getD_some] at waits
      rw [heldSenders_of_get found, waits]
  | none =>
      rw [found, Option.getD_none] at waits
      rw [← waits, HashMap.remove_of_none found]
      simp [heldSenders]

theorem heldSenders_ended (ended : after.pendingDials = before.pendingDials.remove peer) :
    before.heldSenders = after.heldSenders + ((before.pendingDials.get peer).getD [] : List Sender) := by
  rw [heldSenders.eq_1 after, ended]
  cases found : before.pendingDials.get peer with
  | some there => exact (heldSenders_of_get found).trans (add_comm _ _)
  | none =>
      rw [HashMap.remove_of_none found]
      simp [heldSenders]

end EventLoop

namespace World

variable [TextCodec PeerId] [TextCodec (Multiaddr PeerId)] {world : World PeerId}

/-- A command's sender is kept or answered, and no other sender is lost or answered again. -/
theorem senders_command {view : SwarmView PeerId} {command : Command PeerId}
    (matched : world.Matched (.command view command)) :
    (world.next (.command view command)).loop.heldSenders +
        (world.next (.command view command)).answeredSenders =
      command.sender ::ₘ (world.loop.heldSenders + world.answeredSenders) := by
  cases World.dialStep matched with
  | queued view peer addrs sender waiting step =>
      have joined := EventLoop.heldSenders_joined waiting step.pendingDials
        (by rw [step.occupied, Option.getD_some])
      rw [joined, answeredSenders_of_same step.answers, Multiset.cons_add]
      rfl
  | started view peer addrs sender _ step =>
      have joined := EventLoop.heldSenders_joined [] step.pendingDials
        (by rw [step.vacant, Option.getD_none])
      rw [joined, answeredSenders_of_same step.answers, Multiset.cons_add]
      rfl
  | refused view peer addrs sender error _ step =>
      rw [EventLoop.heldSenders_of_same step.pendingDials, answeredSenders_of_append step.answers,
        List.map_singleton, Multiset.coe_singleton, ← add_assoc, add_comm, Multiset.singleton_add]
      rfl
  | told view command answer _ step =>
      rw [EventLoop.heldSenders_of_same step.pendingDials, answeredSenders_of_append step.answers,
        List.map_singleton, Multiset.coe_singleton, ← add_assoc, add_comm, Multiset.singleton_add]
  | ended _ _ _ outcome _ => simp [Label.outcome] at outcome
  | idle _ _ other _ => exact absurd rfl (other view command)

theorem senders_event {label : Label PeerId} (matched : world.Matched label)
    (event : label.command? = none) :
    (world.next label).loop.heldSenders + (world.next label).answeredSenders =
      world.loop.heldSenders + world.answeredSenders := by
  cases World.dialStep matched with
  | ended label peer answer _ step =>
      have same (senders : List Sender) :
          (senders.map (·, answer)).map Prod.fst = senders := by simp [Function.comp_def]
      rw [answeredSenders_of_append step.answers, same, EventLoop.heldSenders_ended step.pendingDials,
        add_assoc, add_comm world.answeredSenders]
  | idle label _ _ step =>
      rw [EventLoop.heldSenders_of_same step.pendingDials, answeredSenders_of_same step.answers]
  | _ => cases event

end World

variable [TextCodec PeerId] [TextCodec (Multiaddr PeerId)]

theorem eventLoopServer_honest : (eventLoopServer PeerId).Honest := by
  constructor
  case initial =>
    rintro _ ⟨subscriptions, peerstore, settings, bootstrapPeers, rfl⟩
    exact ⟨rfl, rfl⟩
  case serves =>
    intro world label command enabled asks
    cases label with
    | command view asked =>
        cases asks
        exact World.senders_command enabled.1
    | _ => cases asks
  case reacts => exact fun world label enabled event => World.senders_event enabled.1 event
  case keeps => exact fun world label _ => world.answers_next label

variable {state : Service PeerId × CallLog}

theorem orderly_service (reachable : (serviceSystem PeerId).Reachable state) :
    (eventLoopServer PeerId).Orderly state.1 state.2 :=
  Server.orderly_of_reachable eventLoopServer_honest reachable

/-! ## One place -/

open Sample

/--
While the loop runs, a command that was sent is in one place: in the channel, or with the loop until
its dial ends, or answered. No command is answered twice, whether the loop runs or not.
-/
theorem command_in_one_place (reachable : (serviceSystem PeerId).Reachable state) :
    (state.1.running → ∀ sender ∈ state.2.sent,
      (state.1.channel.map Command.sender).count sender +
        state.1.server.loop.heldSenders.count sender +
        state.1.server.answeredSenders.count sender = 1) ∧
    ∀ sender, state.1.server.answeredSenders.count sender ≤ 1 := by
  have orderly := orderly_service reachable
  exact ⟨fun running sender sent => orderly.count_eq_one running sent, orderly.count_answered_le⟩

theorem command_in_one_place_dialed : dialedAndAsked.1.server.loop.heldSenders.count 0 = 1 := by
  have place := (command_in_one_place dialedAndAsked_reachable).1 rfl 0 (by decide)
  have channel : (dialedAndAsked.1.channel.map Command.sender).count 0 = 0 := rfl
  have answered : dialedAndAsked.1.server.answeredSenders.count 0 = 0 := rfl
  omega

/-! ## What a call returns -/

/--
A call that has returned has the answer to its own command, for good, or none because the loop has
ended without one. While the loop runs a call returns when it is answered, and once the loop has ended, every
call that is left returns.
-/
structure CallsReturn (service : Service PeerId) : Prop where
  own : ∀ (sender : Sender) call answer, service.calls[sender]? = some call →
    call.phase = .returned (some answer) →
      call.request.sender = sender ∧ (sender, answer) ∈ service.server.answers
  closed : ∀ (sender : Sender) call, service.calls[sender]? = some call →
    call.phase = .returned none → service.running = false ∧ service.server.reply sender = none
  final : ∀ (sender : Sender) call outcome labels, service.calls[sender]? = some call →
    call.phase = .returned outcome → (eventLoopServer PeerId).deskSystem.Legal service labels →
      ((eventLoopServer PeerId).deskSystem.after service labels).calls[sender]? = some call
  answered : service.running → ∀ (sender : Sender) call, service.calls[sender]? = some call →
    call.phase.active →
      (eventLoopServer PeerId).outcome? service sender = (service.server.reply sender).map some
  released : service.running = false → ∀ (sender : Sender) call,
    service.calls[sender]? = some call → call.phase.active →
      ((eventLoopServer PeerId).outcome? service sender).isSome

theorem calls_return (reachable : (serviceSystem PeerId).Reachable state) :
    CallsReturn state.1 := by
  have orderly := orderly_service reachable
  constructor
  case own =>
    intro sender call answer there returned
    have stands := orderly.stands sender call there
    rw [returned] at stands
    exact ⟨orderly.slots sender call there, stands⟩
  case closed =>
    intro sender call there returned
    have stands := orderly.stands sender call there
    rw [returned] at stands
    exact stands
  case final =>
    intro sender call outcome labels there returned legal
    exact Server.returned_after there returned legal
  case answered =>
    intro running sender call there active
    exact orderly.outcome_of_running running there active
  case released =>
    intro ended sender call there active
    exact Server.Orderly.completes_of_ended ended there active

theorem calls_return_hungUp : (0, .ok) ∈ hungUp.1.server.answers ∧ hungUp.1.running = false := by
  have calls := calls_return hungUp_reachable
  exact ⟨(calls.own 0 _ .ok rfl rfl).2, (calls.closed 1 _ rfl rfl).1⟩

end P2pService
