import P2pService.Proof.Steps

/-!
# What one step does to dials

`World.dialStep` lists what a step can do to the dial commands and the outgoing attempts: a dial is
queued behind another, starts an attempt or is answered at once; an attempt ends; another command
is answered; or nothing happens to them, except that a behaviour may start an attempt.
-/

namespace P2pService
open Library

variable {PeerId : Type}

def Effect.starts : Effect PeerId → Bool
  | .dial _ _ (.ok ()) => true
  | _ => false

/-- The attempt a label ends, and what those waiting for it are answered. -/
def Label.outcome : Label PeerId → Option (PeerId × Answer PeerId)
  | .event _ (.connectionEstablished peer endpoint _) =>
      if endpoint.isDialer then some (peer, .ok) else none
  | .event _ (.outgoingConnectionError (some peer) error) =>
      some (peer, .error (.dialFailed error))
  | _ => none

theorem filterMap_answerAll (senders : List Sender) (answer : Answer PeerId) :
    (answerAll senders answer).filterMap Effect.answer? = senders.map (·, answer) := by
  simp [answerAll, List.filterMap_map, Function.comp_def, Effect.answer?]

variable [DecidableEq PeerId]

namespace Swarm

theorem perform_attempts (swarm : Swarm PeerId) {effect : Effect PeerId}
    (keeps : effect.starts = false) : (swarm.perform effect).attempts = swarm.attempts := by
  unfold perform
  split <;> first | rfl | simp [Effect.starts] at keeps

theorem foldl_perform_attempts (swarm : Swarm PeerId) {effects : List (Effect PeerId)}
    (keeps : ∀ effect ∈ effects, effect.starts = false) :
    (effects.foldl perform swarm).attempts = swarm.attempts :=
  foldl_perform_of_same (·.attempts)
    (fun effect member swarm => swarm.perform_attempts (keeps effect member)) swarm

end Swarm

namespace EventLoop

/-! ## The three ways of a dial -/

theorem handleDial_occupied {loop : EventLoop PeerId} {peer : PeerId} {waiting : List Sender}
    (occupied : loop.pendingDials.get peer = some waiting) (view : SwarmView PeerId)
    (addrs : List (Multiaddr PeerId)) (sender : Sender) :
    loop.handleDial view peer addrs sender =
      ⟨{ loop with pendingDials := loop.pendingDials.insert peer (waiting ++ [sender]) }, []⟩ := by
  simp only [handleDial, occupied]

theorem handleDial_started {loop : EventLoop PeerId} {peer : PeerId}
    (vacant : loop.pendingDials.get peer = none) {view : SwarmView PeerId}
    {addrs : List (Multiaddr PeerId)} (started : view.dial peer addrs = .ok ()) (sender : Sender) :
    loop.handleDial view peer addrs sender =
      ⟨{ loop with pendingDials := loop.pendingDials.insert peer [sender] },
        [.dial peer addrs (.ok ())]⟩ := by
  simp only [handleDial, vacant, started]

def refusal (error : DialError) : Answer PeerId :=
  if error = .dialPeerConditionFalse then .ok else .error (.dial error)

theorem handleDial_refused {loop : EventLoop PeerId} {peer : PeerId}
    (vacant : loop.pendingDials.get peer = none) {view : SwarmView PeerId}
    {addrs : List (Multiaddr PeerId)} {error : DialError}
    (refused : view.dial peer addrs = .error error) (sender : Sender) :
    loop.handleDial view peer addrs sender =
      ⟨loop, [.dial peer addrs (.error error), .answer sender (refusal error)]⟩ := by
  simp only [handleDial, vacant, refused]
  split
  · rename_i started; cases started
  · rename_i same; cases same; rfl
  · rename_i other same
    cases same
    rw [refusal, if_neg other]

/-! ## Everything else -/

theorem handleCommand_answers (loop : EventLoop PeerId) (view : SwarmView PeerId)
    (command : Command PeerId) (other : ∀ peer addrs sender, command ≠ .dial peer addrs sender) :
    (loop.handleCommand view command).loop.pendingDials = loop.pendingDials ∧
    (∀ effect ∈ (loop.handleCommand view command).effects, effect.starts = false) ∧
    ∃ answer, (loop.handleCommand view command).effects.filterMap Effect.answer? =
      [(command.sender, answer)] := by
  cases command with
  | dial peer addrs sender => exact absurd rfl (other peer addrs sender)
  | setPreferredPeers peers sender =>
      refine ⟨rfl, fun effect member => ?_, _, loop.answers_handleSetPreferredPeers peers sender⟩
      rw [handleCommand, handleSetPreferredPeers_effects, List.mem_append, List.mem_cons,
        List.mem_map, List.mem_singleton] at member
      rcases member with (rfl | ⟨_, _, rfl⟩) | rfl <;> rfl
  | _ => exact ⟨rfl, by simp [handleCommand, Effect.starts], _, rfl⟩

theorem starts_enforceConnectionLimits (loop : EventLoop PeerId) (peer : PeerId)
    (id : ConnectionId) (addr : Multiaddr PeerId) :
    ∀ effect ∈ (loop.enforceConnectionLimits peer id addr).effects, effect.starts = false := by
  rw [enforceConnectionLimits_effects]
  split_ifs <;> simp [Effect.starts]

theorem answers_enforceConnectionLimits (loop : EventLoop PeerId) (peer : PeerId)
    (id : ConnectionId) (addr : Multiaddr PeerId) :
    (loop.enforceConnectionLimits peer id addr).effects.filterMap Effect.answer? = [] := by
  rw [enforceConnectionLimits_effects]
  split_ifs <;> rfl

end EventLoop

namespace World

structure Asked (before after : World PeerId) (peer : PeerId) (sender : Sender) : Prop where
  fresh : sender ∉ before.senders
  senders : after.senders = insert sender before.senders
  dials : after.dials = before.dials ++ [(sender, peer)]
  connections : after.swarm.connections = before.swarm.connections

structure Queued (before after : World PeerId) (peer : PeerId) (sender : Sender)
    (waiting : List Sender) : Prop extends Asked before after peer sender where
  occupied : before.loop.pendingDials.get peer = some waiting
  pendingDials :
    after.loop.pendingDials = before.loop.pendingDials.insert peer (waiting ++ [sender])
  attempts : after.swarm.attempts = before.swarm.attempts
  answers : after.answers = before.answers

structure Started (before after : World PeerId) (peer : PeerId) (sender : Sender) : Prop
    extends Asked before after peer sender where
  vacant : before.loop.pendingDials.get peer = none
  pendingDials : after.loop.pendingDials = before.loop.pendingDials.insert peer [sender]
  attempts : after.swarm.attempts = insert peer before.swarm.attempts
  answers : after.answers = before.answers

structure Refused (before after : World PeerId) (peer : PeerId) (sender : Sender)
    (error : DialError) : Prop extends Asked before after peer sender where
  vacant : before.loop.pendingDials.get peer = none
  pendingDials : after.loop.pendingDials = before.loop.pendingDials
  attempts : after.swarm.attempts = before.swarm.attempts
  answers : after.answers = before.answers ++ [(sender, EventLoop.refusal error)]

structure Ended (before after : World PeerId) (peer : PeerId) (answer : Answer PeerId) : Prop where
  senders : after.senders = before.senders
  dials : after.dials = before.dials
  pendingDials : after.loop.pendingDials = before.loop.pendingDials.remove peer
  attempts : after.swarm.attempts = before.swarm.attempts.erase peer
  answers : after.answers =
    before.answers ++ ((before.loop.pendingDials.get peer).getD []).map (·, answer)

structure Told (before after : World PeerId) (sender : Sender) (answer : Answer PeerId) :
    Prop where
  fresh : sender ∉ before.senders
  senders : after.senders = insert sender before.senders
  dials : after.dials = before.dials
  pendingDials : after.loop.pendingDials = before.loop.pendingDials
  attempts : after.swarm.attempts = before.swarm.attempts
  answers : after.answers = before.answers ++ [(sender, answer)]

structure Idle (before after : World PeerId) : Prop where
  senders : after.senders = before.senders
  dials : after.dials = before.dials
  pendingDials : after.loop.pendingDials = before.loop.pendingDials
  attempts : before.swarm.attempts ⊆ after.swarm.attempts
  answers : after.answers = before.answers

variable [TextCodec PeerId] [TextCodec (Multiaddr PeerId)]

inductive DialStep (world : World PeerId) : Label PeerId → Prop where
  | queued (view : SwarmView PeerId) (peer : PeerId) (addrs : List (Multiaddr PeerId))
      (sender : Sender) (waiting : List Sender) :
      Queued world (world.next (.command view (.dial peer addrs sender))) peer sender waiting →
      DialStep world (.command view (.dial peer addrs sender))
  | started (view : SwarmView PeerId) (peer : PeerId) (addrs : List (Multiaddr PeerId))
      (sender : Sender) : view.dial peer addrs = .ok () →
      Started world (world.next (.command view (.dial peer addrs sender))) peer sender →
      DialStep world (.command view (.dial peer addrs sender))
  | refused (view : SwarmView PeerId) (peer : PeerId) (addrs : List (Multiaddr PeerId))
      (sender : Sender) (error : DialError) : view.dial peer addrs = .error error →
      Refused world (world.next (.command view (.dial peer addrs sender))) peer sender error →
      DialStep world (.command view (.dial peer addrs sender))
  | ended (label : Label PeerId) (peer : PeerId) (answer : Answer PeerId) :
      label.outcome = some (peer, answer) → Ended world (world.next label) peer answer →
      DialStep world label
  | told (view : SwarmView PeerId) (command : Command PeerId) (answer : Answer PeerId) :
      (∀ peer addrs sender, command ≠ .dial peer addrs sender) →
      Told world (world.next (.command view command)) command.sender answer →
      DialStep world (.command view command)
  | idle (label : Label PeerId) : label.outcome = none →
      (∀ view command, label ≠ .command view command) → Idle world (world.next label) →
      DialStep world label

theorem next_dial {world : World PeerId} {view : SwarmView PeerId} {peer : PeerId}
    {addrs : List (Multiaddr PeerId)} {sender : Sender} (fresh : sender ∉ world.senders) :
    DialStep world (.command view (.dial peer addrs sender)) := by
  have asked : Asked world (world.next (.command view (.dial peer addrs sender))) peer sender :=
    ⟨fresh, rfl, rfl, settle_connections _ _⟩
  cases occupied : world.loop.pendingDials.get peer with
  | some waiting =>
      have turn := EventLoop.handleDial_occupied occupied view addrs sender
      refine .queued view peer addrs sender waiting ⟨asked, occupied, ?_, ?_, ?_⟩ <;>
        simp [next, settle, EventLoop.handleCommand, turn]
  | none =>
      cases reply : view.dial peer addrs with
      | ok _ =>
          have turn := EventLoop.handleDial_started occupied reply sender
          refine .started view peer addrs sender reply ⟨asked, occupied, ?_, ?_, ?_⟩ <;>
            simp [next, settle, EventLoop.handleCommand, turn, Swarm.perform, List.filterMap_cons,
              Effect.answer?]
      | error error =>
          have turn := EventLoop.handleDial_refused occupied reply sender
          refine .refused view peer addrs sender error reply ⟨asked, occupied, ?_, ?_, ?_⟩ <;>
            simp [next, settle, EventLoop.handleCommand, turn, Swarm.perform, List.filterMap_cons,
              Effect.answer?]

theorem next_told {world : World PeerId} {view : SwarmView PeerId} {command : Command PeerId}
    (other : ∀ peer addrs sender, command ≠ .dial peer addrs sender)
    (fresh : command.sender ∉ world.senders) : DialStep world (.command view command) := by
  obtain ⟨pendingDials, keeps, answer, answered⟩ :=
    world.loop.handleCommand_answers view command other
  refine .told view command answer other ⟨fresh, rfl, ?_, pendingDials,
    Swarm.foldl_perform_attempts _ keeps, congrArg (world.answers ++ ·) answered⟩
  cases command with
  | dial peer addrs sender => exact absurd rfl (other peer addrs sender)
  | _ => exact List.append_nil _

theorem established_answers (world : World PeerId) (now : Nat) (peer : PeerId)
    (endpoint : Endpoint PeerId) (id : ConnectionId) :
    (world.next (.event now (.connectionEstablished peer endpoint id))).answers =
      world.answers ++ if endpoint.isDialer
        then ((world.loop.pendingDials.get peer).getD []).map (·, .ok) else [] := by
  have granted (condition : Prop) [Decidable condition] :
      (if condition then [.setApplicationScore {peer} preferredPeerAppScore] else [] :
        List (Effect PeerId)).filterMap Effect.answer? = [] := by
    split_ifs <;> rfl
  simp only [next, settle, EventLoop.handleEvent, EventLoop.handleEstablished_effects,
    List.filterMap_append, granted, EventLoop.answers_enforceConnectionLimits, List.append_nil]
  split_ifs
  · rw [filterMap_answerAll]
  · rfl

theorem established_attempts (world : World PeerId) (now : Nat) (peer : PeerId)
    (endpoint : Endpoint PeerId) (id : ConnectionId) :
    (world.next (.event now (.connectionEstablished peer endpoint id))).swarm.attempts =
      if endpoint.isDialer then world.swarm.attempts.erase peer else world.swarm.attempts := by
  simp only [next, settle, EventLoop.handleEvent, EventLoop.handleEstablished_effects,
    List.foldl_append, Swarm.foldl_perform_answered,
    Swarm.foldl_perform_attempts _ (EventLoop.starts_enforceConnectionLimits _ _ _ _)]
  rw [Swarm.foldl_perform_attempts]
  · rfl
  · split_ifs <;> simp [Effect.starts]

theorem dialStep {world : World PeerId} {label : Label PeerId} (matched : world.Matched label) :
    DialStep world label := by
  cases label with
  | event now event =>
      cases event with
      | connectionEstablished peer endpoint id =>
          have loop_eq : (world.next (.event now (.connectionEstablished peer endpoint id))).loop =
              (world.loop.handleEstablished now peer endpoint id).loop := rfl
          rw [EventLoop.handleEstablished_loop] at loop_eq
          have answers := world.established_answers now peer endpoint id
          have attempts := world.established_attempts now peer endpoint id
          cases dialer : endpoint.isDialer with
          | true =>
              rw [dialer, if_pos rfl] at answers attempts
              exact .ended _ peer .ok (by simp [Label.outcome, dialer])
                ⟨rfl, rfl, by rw [loop_eq, dialer, if_pos rfl], attempts, answers⟩
          | false =>
              rw [dialer, if_neg Bool.false_ne_true] at answers attempts
              refine .idle _ (by simp [Label.outcome, dialer]) (by simp)
                ⟨rfl, rfl, by rw [loop_eq, dialer]; rfl, attempts.ge, ?_⟩
              rw [answers, List.append_nil]
      | outgoingConnectionError peer error =>
          cases peer with
          | none => exact .idle _ rfl (by simp) ⟨rfl, rfl, rfl, le_rfl, List.append_nil _⟩
          | some peer =>
              refine .ended _ peer _ rfl ⟨rfl, rfl, ?_, ?_, ?_⟩ <;>
                simp only [next, settle, EventLoop.handleEvent, EventLoop.resolvePendingDials_loop,
                  EventLoop.resolvePendingDials_effects, Swarm.foldl_perform_answerAll,
                  filterMap_answerAll]
              rfl
      | gossipsubMessage message =>
          refine .idle _ rfl (by simp) ⟨rfl, rfl, ?_, le_rfl, List.append_nil _⟩
          simp only [next, settle, EventLoop.handleEvent, EventLoop.handleMessage]
          split <;> rfl
      | identifyReceived peer addrs =>
          refine .idle _ rfl (by simp) ⟨rfl, rfl, ?_, le_rfl, List.append_nil _⟩
          simp only [next, settle, EventLoop.handleEvent, EventLoop.handleIdentify]
          split <;> rfl
      | _ => exact .idle _ rfl (by simp) ⟨rfl, rfl, rfl, le_rfl, List.append_nil _⟩
  | command view command =>
      cases command with
      | dial peer addrs sender => exact next_dial matched
      | _ => exact next_told (by simp) matched
  | behaviourDial peer => exact .idle _ rfl (by simp) ⟨rfl, rfl, rfl, Finset.subset_insert _ _, rfl⟩
  | forgetScore peer => exact .idle _ rfl (by simp) ⟨rfl, rfl, rfl, le_rfl, rfl⟩

theorem answers_next (world : World PeerId) (label : Label PeerId) :
    world.answers <+: (world.next label).answers := by
  cases label with
  | event => exact List.prefix_append _ _
  | command => exact List.prefix_append _ _
  | _ => exact List.prefix_refl _

theorem reply_next {world : World PeerId} {sender : Sender} {answer : Answer PeerId}
    (known : world.reply sender = some answer) (label : Label PeerId) :
    (world.next label).reply sender = some answer := by
  obtain ⟨entry, found, rfl⟩ := Option.map_eq_some_iff.mp known
  obtain ⟨more, appended⟩ := world.answers_next label
  rw [reply, ← appended, List.find?_append, found]
  rfl

end World
end P2pService
