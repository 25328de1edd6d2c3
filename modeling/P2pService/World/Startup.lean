import P2pService.Model.Startup
import P2pService.World.Fanout
import P2pService.World.Service

/-!
# From the first call to the open service

`main` makes its calls on the event loop while the loop already handles the events of its swarm, and
may end at any time. As long as there is a step left, `main` has the only client. When none is left,
the maintenance task and the gRPC server get theirs, and anything can happen that the service allows.
-/

namespace P2pService
open Library

def mainClient : ClientId := 0

/-- What the swarm has agreed to, in order. -/
structure JoinLog (PeerId : Type) where
  listening : List (Multiaddr PeerId)
  topics : List String

section

variable {PeerId : Type}

namespace JoinLog

def empty : JoinLog PeerId := ⟨[], []⟩

def add (joined : JoinLog PeerId) : StartupStep PeerId → JoinLog PeerId
  | .startListening addr => { joined with listening := joined.listening ++ [addr] }
  | .subscribe topic => { joined with topics := joined.topics ++ [topic] }

def record (joined : JoinLog PeerId) (view : SwarmView PeerId) : Command PeerId → JoinLog PeerId
  | .startListening addr _ =>
      match view.listenOn addr with
      | .ok () => joined.add (.startListening addr)
      | .error _ => joined
  | .subscribe topic _ =>
      match view.subscribe topic with
      | .ok () => joined.add (.subscribe topic)
      | .error _ => joined
  | _ => joined

end JoinLog

structure Startup (PeerId : Type) where
  service : Service PeerId × CallLog
  joined : JoinLog PeerId
  todo : List (StartupStep PeerId)
  /-- The slot of the call that `main` waits for. -/
  waiting : Option Slot
  exit : Option Exit

inductive StartupLabel (PeerId : Type) where
  | call
  | resume
  | service (label : ServiceLabel PeerId)

/-- What happens without a client's doing, or goes on with a call that was made. -/
def ServiceLabel.unprompted : ServiceLabel PeerId → Bool
  | .send _ | .serve _ | .event _ | .complete _ | .stop | .kill => true
  | .clone _ _ | .drop _ | .call _ _ | .abandon _ => false

end

variable {PeerId : Type} [DecidableEq PeerId] [TextCodec PeerId] [TextCodec (Multiaddr PeerId)]

namespace Startup

def startWith (service : Service PeerId × CallLog) (steps : List (StartupStep PeerId)) :
    Startup PeerId where
  service := service
  joined := .empty
  todo := steps
  waiting := none
  exit := none

def outcome? (startup : Startup PeerId) : Option (Option (Answer PeerId)) :=
  match startup.waiting.bind fun slot => startup.service.1.calls[slot]?.map Call.phase with
  | some (.returned outcome) => some outcome
  | _ => none

def call? (startup : Startup PeerId) : Option (ServiceLabel PeerId) :=
  startup.todo.head?.map fun step =>
    .call mainClient (step.command startup.service.1.calls.length)

def Enabled (startup : Startup PeerId) : StartupLabel PeerId → Prop
  | .call => startup.exit = none ∧ startup.waiting = none ∧
      ∃ label ∈ startup.call?, (serviceSystem PeerId).enabled startup.service label
  | .resume => startup.exit = none ∧ startup.outcome?.isSome
  | .service label => startup.exit = none ∧ (serviceSystem PeerId).enabled startup.service label ∧
      (startup.todo ≠ [] → ServiceLabel.unprompted label)

def joinedNext (startup : Startup PeerId) : ServiceLabel PeerId → JoinLog PeerId
  | .serve (.command view command) => startup.joined.record view command
  | _ => startup.joined

def serviceNext (startup : Startup PeerId) (label : ServiceLabel PeerId) : Startup PeerId :=
  { startup with
    service := (serviceSystem PeerId).next startup.service label
    joined := startup.joinedNext label }

def resumed [ToString CommandError] (startup : Startup PeerId) (step : StartupStep PeerId)
    (rest : List (StartupStep PeerId)) : Answer PeerId → Startup PeerId
  | .error error => { startup with exit := some (step.failed error) }
  | _ => { startup with todo := rest, waiting := none }

def next [ToString CommandError] (startup : Startup PeerId) : StartupLabel PeerId → Startup PeerId
  | .call =>
      match startup.call? with
      | some label =>
          { startup.serviceNext label with waiting := some startup.service.1.calls.length }
      | none => startup
  | .resume =>
      match startup.todo, startup.outcome? with
      | step :: rest, some outcome =>
          startup.resumed step rest (P2PClient.sendCommandAndWait outcome)
      | _, _ => startup
  | .service label => startup.serviceNext label

end Startup

def startupSystem (PeerId : Type) [DecidableEq PeerId] [TextCodec PeerId]
    [TextCodec (Multiaddr PeerId)] [ToString CommandError] (port : UInt16) (topics : List String) :
    System (Startup PeerId) (StartupLabel PeerId) where
  initial startup := ∃ service, (serviceSystem PeerId).initial service ∧
    service.1.clients = {mainClient} ∧ startup = .startWith service (startupSteps port topics)
  enabled := Startup.Enabled
  next := Startup.next

namespace Sample

def bindAny : Command Peer := .startListening (p2pBindMultiaddr 4025) 0

def joinAlive : Command Peer := .subscribe "ALIVE" 1

def starting : Startup Peer :=
  .startWith (⟨node 4 4 1, true, [], [], {mainClient}⟩, ⟨[], []⟩)
    (startupSteps 4025 ["ALIVE", "ALIVE"])

def startUp : List (StartupLabel Peer) :=
  [.call, .service (.send 0), .service (.serve (.command (view (.ok ())) bindAny)),
    .service (.complete 0), .resume, .call, .service (.send 1),
    .service (.serve (.command (view (.ok ())) joinAlive)), .service (.complete 1), .resume,
    .service (.clone mainClient 1)]

def opened : Startup Peer := (startupSystem Peer 4025 ["ALIVE", "ALIVE"]).after starting startUp

theorem opened_reachable : (startupSystem Peer 4025 ["ALIVE", "ALIVE"]).Reachable opened := by
  refine (System.Reachable.initial ?_).after ?_
  · exact ⟨_, ⟨⟨⟨_, _, _, _, rfl⟩, rfl, rfl, rfl⟩, rfl⟩, rfl, rfl⟩
  · refine ⟨?_, ?_, ?_, ?_, ?_, ?_, ?_, ?_, ?_, ?_, ?_, trivial⟩
    · exact ⟨rfl, rfl, _, rfl, by decide, rfl, by simp [starting, Startup.startWith]⟩
    · exact ⟨rfl, ⟨rfl, _, rfl, rfl⟩, fun _ => rfl⟩
    · exact ⟨rfl, ⟨rfl, ⟨by decide, rfl⟩, bindAny, rfl, rfl⟩, fun _ => rfl⟩
    · exact ⟨rfl, rfl, fun _ => rfl⟩
    · exact ⟨rfl, rfl⟩
    · exact ⟨rfl, rfl, _, rfl, by decide, rfl, by decide⟩
    · exact ⟨rfl, ⟨rfl, _, rfl, rfl⟩, fun _ => rfl⟩
    · exact ⟨rfl, ⟨rfl, ⟨by decide, rfl⟩, joinAlive, rfl, rfl⟩, fun _ => rfl⟩
    · exact ⟨rfl, rfl, fun _ => rfl⟩
    · exact ⟨rfl, rfl⟩
    · exact ⟨rfl, ⟨by decide, by decide⟩, fun pending => absurd rfl pending⟩

end Sample

end P2pService
