import P2pService.Library.Lanes
import P2pService.Proof.Service.Calls

/-!
# In which order the loop answers

Dials to one peer wait in a list of their own, and whatever is not a dial is answered as soon as it
is taken. So the dials to a peer are a lane of the event loop, and everything else is one more.
-/

namespace P2pService
open Library

section

variable {PeerId : Type}

def Command.dialedPeer? : Command PeerId → Option PeerId
  | .dial peer _ _ => some peer
  | _ => none

theorem Command.dialedPeer?_of_other {command : Command PeerId}
    (other : ∀ peer addrs sender, command ≠ .dial peer addrs sender) : command.dialedPeer? = none := by
  cases command with
  | dial peer addrs sender => exact absurd rfl (other peer addrs sender)
  | _ => rfl

end

variable {PeerId : Type} [DecidableEq PeerId]

namespace EventLoop

/-- Those that wait in a lane, which is a peer or, for all other commands, nobody. -/
def waitsIn (loop : EventLoop PeerId) : Option PeerId → List Sender
  | some peer => (loop.pendingDials.get peer).getD []
  | none => []

variable {before after : EventLoop PeerId} {peer : PeerId} {waiting : List Sender}

theorem waitsIn_of_same (same : after.pendingDials = before.pendingDials) (lane : Option PeerId) :
    after.waitsIn lane = before.waitsIn lane := by
  cases lane with
  | none => rfl
  | some peer => rw [waitsIn, same, waitsIn]

theorem waitsIn_of_vacant (vacant : before.pendingDials.get peer = none) :
    before.waitsIn (some peer) = [] := by
  rw [waitsIn, vacant, Option.getD_none]

theorem waitsIn_of_insert (joined : after.pendingDials = before.pendingDials.insert peer waiting)
    (lane : Option PeerId) :
    after.waitsIn lane = if lane = some peer then waiting else before.waitsIn lane := by
  cases lane with
  | none => rfl
  | some other =>
      simp only [waitsIn, joined, HashMap.get_insert, Option.some.injEq]
      split_ifs <;> rfl

theorem waitsIn_of_remove (ended : after.pendingDials = before.pendingDials.remove peer)
    (lane : Option PeerId) :
    after.waitsIn lane = if lane = some peer then [] else before.waitsIn lane := by
  cases lane with
  | none => rfl
  | some other =>
      simp only [waitsIn, ended, HashMap.get_remove, Option.some.injEq]
      split_ifs <;> rfl

end EventLoop

variable [TextCodec PeerId] [TextCodec (Multiaddr PeerId)]

def dialLanes (PeerId : Type) [DecidableEq PeerId] [TextCodec PeerId]
    [TextCodec (Multiaddr PeerId)] : Lanes (eventLoopServer PeerId) (Option PeerId) where
  lane := Command.dialedPeer?
  waits world := world.loop.waitsIn

namespace World

variable {before after : World PeerId} {peer : PeerId} {sender : Sender} {lane : Option PeerId}

theorem moves_of_joined (joined : after.loop.pendingDials =
      before.loop.pendingDials.insert peer (before.loop.waitsIn (some peer) ++ [sender]))
    (answers : after.answers = before.answers) :
    (dialLanes PeerId).Moves before after (some peer) [sender] := by
  refine ⟨[], by rw [List.append_nil]; exact answers, ?_, fun other different => ?_⟩
  · exact ((EventLoop.waitsIn_of_insert joined (some peer)).trans (if_pos rfl)).symm
  · exact (EventLoop.waitsIn_of_insert joined other).trans (if_neg different)

/-- A command that is answered at once finds nobody in its lane. -/
theorem moves_of_answered {answer : Answer PeerId} (free : before.loop.waitsIn lane = [])
    (same : after.loop.pendingDials = before.loop.pendingDials)
    (answers : after.answers = before.answers ++ [(sender, answer)]) :
    (dialLanes PeerId).Moves before after lane [sender] := by
  refine ⟨_, answers, ?_, fun other _ => EventLoop.waitsIn_of_same same other⟩
  change before.loop.waitsIn lane ++ [sender] = [sender] ++ after.loop.waitsIn lane
  rw [EventLoop.waitsIn_of_same same, free, List.nil_append, List.append_nil]

theorem Ended.moves {answer : Answer PeerId} (step : Ended before after peer answer) :
    (dialLanes PeerId).Moves before after (some peer) [] := by
  refine ⟨_, step.answers, ?_, fun other different => ?_⟩
  · change before.loop.waitsIn (some peer) ++ [] = _ ++ after.loop.waitsIn (some peer)
    rw [EventLoop.waitsIn_of_remove step.pendingDials, if_pos rfl, EventLoop.waitsIn]
    simp [Function.comp_def]
  · exact (EventLoop.waitsIn_of_remove step.pendingDials other).trans (if_neg different)

theorem Idle.moves (step : Idle before after) : (dialLanes PeerId).Moves before after none [] := by
  refine ⟨[], by rw [List.append_nil]; exact step.answers, ?_,
    fun other _ => EventLoop.waitsIn_of_same step.pendingDials other⟩
  exact congrArg (· ++ []) (EventLoop.waitsIn_of_same step.pendingDials none).symm

end World

theorem dialLanes_lawful : (dialLanes PeerId).Lawful := by
  constructor
  case initial =>
    rintro _ ⟨subscriptions, peerstore, settings, bootstrapPeers, rfl⟩
    refine ⟨rfl, fun lane => ?_⟩
    cases lane <;> rfl
  case serves =>
    intro world label command enabled asks
    cases World.dialStep enabled.1 with
    | queued view peer addrs sender waiting step =>
        cases asks
        have waits : world.loop.waitsIn (some peer) = waiting := by
          rw [EventLoop.waitsIn, step.occupied, Option.getD_some]
        exact World.moves_of_joined (waits.symm ▸ step.pendingDials) step.answers
    | started view peer addrs sender _ step =>
        cases asks
        have waits := EventLoop.waitsIn_of_vacant step.vacant
        exact World.moves_of_joined (waits.symm ▸ step.pendingDials) step.answers
    | refused view peer addrs sender error _ step =>
        cases asks
        exact World.moves_of_answered (EventLoop.waitsIn_of_vacant step.vacant) step.pendingDials
          step.answers
    | told view asked answer other step =>
        cases asks
        have lane : (dialLanes PeerId).lane command = none := Command.dialedPeer?_of_other other
        rw [lane]
        exact World.moves_of_answered rfl step.pendingDials step.answers
    | ended _ peer answer outcome step =>
        cases label with
        | command view asked => simp [Label.outcome] at outcome
        | _ => cases asks
    | idle _ _ other step =>
        cases label with
        | command view asked => exact absurd rfl (other view asked)
        | _ => cases asks
  case reacts =>
    intro world label enabled event
    cases World.dialStep enabled.1 with
    | ended label peer answer _ step => exact ⟨some peer, step.moves⟩
    | idle label _ _ step => exact ⟨none, step.moves⟩
    | _ => cases event

/--
A dial is answered after every dial to the same peer that was sent before it, and no command is
answered before a command sent ahead of it that is not a dial. The dials to a peer that the loop has
taken are those answered, and after them those that wait; no other command waits.
-/
structure AnsweredInOrder (service : Service PeerId) (log : CallLog) : Prop where
  dials : ∀ peer, (dialLanes PeerId).within (Server.asked service) (some peer) log.served =
    (dialLanes PeerId).within (Server.asked service) (some peer)
        (service.server.answers.map Prod.fst) ++
      (service.server.loop.pendingDials.get peer).getD []
  others : (dialLanes PeerId).within (Server.asked service) none log.served =
    (dialLanes PeerId).within (Server.asked service) none (service.server.answers.map Prod.fst)
  order : ∀ first second command later, Before log.sent first second →
    Server.asked service first = some command → Server.asked service second = some later →
      command.dialedPeer? = none ∨ command.dialedPeer? = later.dialedPeer? →
        second ∈ service.server.answers.map Prod.fst →
          Before (service.server.answers.map Prod.fst) first second

theorem answered_in_order {state : Service PeerId × CallLog}
    (reachable : (serviceSystem PeerId).Reachable state) : AnsweredInOrder state.1 state.2 := by
  have ordered := Lanes.InOrder.of_reachable dialLanes_lawful eventLoopServer_honest reachable
  constructor
  case dials => exact fun peer => ordered.split (some peer)
  case others => exact (ordered.split none).trans (List.append_nil _)
  case order =>
    intro first second command later sent asked asked_later alike answered
    refine ordered.answered_before (orderly_service reachable) sent ?_ answered
    refine ⟨command.dialedPeer?, ?_, ?_⟩
    · rw [Lanes.laneOf, asked]
      rfl
    · rcases alike with prompt | same
      · rw [prompt]
        exact .inl fun _ => rfl
      · rw [same]
        refine .inr ?_
        rw [Lanes.laneOf, asked_later]
        rfl

namespace Sample

def bobAgain : Command Peer := .dial .bob [addr 10 0 0 2] 2

/-- The question behind the first dial is answered, and Bob is dialed twice when he connects. -/
def dialedTwice : Service Peer × CallLog :=
  (serviceSystem Peer).after dialedAndAsked
    [.serve (.command (view (.ok ())) (.identify 1)), .clone 0 2, .call 2 bobAgain, .send 2,
      .serve (.command (view (.ok ())) bobAgain), .event (outbound .bob (addr 10 0 0 2) 0)]

theorem dialedTwice_reachable : (serviceSystem Peer).Reachable dialedTwice := by
  apply dialedAndAsked_reachable.after
  refine ⟨?_, ?_, ?_, ⟨rfl, _, rfl, rfl⟩, ?_, ?_, trivial⟩
  · exact ⟨rfl, ⟨by decide, rfl⟩, .identify 1, rfl, rfl⟩
  · exact ⟨by decide, by decide⟩
  · exact ⟨by decide, rfl, by decide⟩
  · exact ⟨rfl, ⟨by decide, rfl⟩, bobAgain, rfl, rfl⟩
  · exact ⟨rfl, ⟨by decide, rfl⟩, rfl⟩

end Sample

section

open Sample

theorem answered_in_order_dialedTwice :
    Before (dialedTwice.1.server.answers.map Prod.fst) 0 2 ∧
      Before (dialedTwice.1.server.answers.map Prod.fst) 1 2 := by
  have ordered := answered_in_order dialedTwice_reachable
  constructor
  · exact ordered.order 0 2 askedBob bobAgain (by decide) rfl rfl (.inr rfl) (by decide)
  · exact ordered.order 1 2 (.identify 1) bobAgain (by decide) rfl rfl (.inl rfl) (by decide)

end

end P2pService
