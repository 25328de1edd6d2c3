import P2pService.Library.System
import Mathlib.Data.Finset.Basic
import Mathlib.Data.Multiset.AddSub

/-!
# A server and its desk

Clients call a server through a channel. A request names the slot its reply goes to. The server
takes one request at a time, and fills the slot at once or keeps it for later. A caller waits until
its slot is filled, or until nobody is left who could fill it.
-/

namespace P2pService.Library

abbrev Slot := Nat

abbrev ClientId := Nat

structure Server (State Label Request Answer : Type*) extends System State Label where
  request? : Label → Option Request
  slot : Request → Slot
  /-- The slots that the server keeps for later. -/
  held : State → Multiset Slot
  answers : State → List (Slot × Answer)

inductive CallPhase (Answer : Type*) where
  | sending
  | waiting
  /-- `none` when the call ended without an answer. -/
  | returned (outcome : Option Answer)
  | abandoned

structure Call (Request Answer : Type*) where
  client : ClientId
  request : Request
  phase : CallPhase Answer

/-- A server, the channel in front of it, and the calls made on it, by their slots. -/
structure Desk (State Request Answer : Type*) where
  server : State
  running : Bool
  channel : List Request
  calls : List (Call Request Answer)
  clients : Finset ClientId

inductive DeskLabel (Label Request : Type*) where
  | clone (client copy : ClientId)
  | drop (client : ClientId)
  | call (client : ClientId) (request : Request)
  | send (slot : Slot)
  | serve (label : Label)
  | event (label : Label)
  | complete (slot : Slot)
  /-- The caller gives up, whether its request has been sent or not. -/
  | abandon (slot : Slot)
  /-- The server ends by itself. -/
  | stop
  | kill

structure CallLog where
  sent : List Slot
  served : List Slot

namespace CallPhase

variable {Answer : Type*}

def unsent : CallPhase Answer → Bool
  | .sending => true
  | _ => false

def active : CallPhase Answer → Bool
  | .sending | .waiting => true
  | .returned _ | .abandoned => false

theorem active_of_unsent {phase : CallPhase Answer} (unsent : phase.unsent) : phase.active := by
  cases phase with
  | sending => rfl
  | _ => cases unsent

end CallPhase

variable {State Label Request Answer : Type*}

namespace Server

variable (server : Server State Label Request Answer)

def answered (state : State) : Multiset Slot := (server.answers state).map Prod.fst

def reply (state : State) (slot : Slot) : Option Answer :=
  ((server.answers state).find? (·.1 = slot)).map Prod.snd

/-- A slot is neither lost nor filled twice. -/
structure Honest : Prop where
  initial : ∀ state, server.initial state → server.held state = 0 ∧ server.answers state = []
  serves : ∀ state label request, server.enabled state label →
    server.request? label = some request →
      server.held (server.next state label) + server.answered (server.next state label) =
        server.slot request ::ₘ (server.held state + server.answered state)
  reacts : ∀ state label, server.enabled state label → server.request? label = none →
    server.held (server.next state label) + server.answered (server.next state label) =
      server.held state + server.answered state
  keeps : ∀ state label, server.enabled state label →
    server.answers state <+: server.answers (server.next state label)

/-! ## The calls -/

def Pending (desk : Desk State Request Answer) (slot : Slot) : Prop :=
  desk.running ∧ (slot ∈ desk.channel.map server.slot ∨ slot ∈ server.held desk.server)

instance (desk : Desk State Request Answer) (slot : Slot) : Decidable (server.Pending desk slot) :=
  inferInstanceAs (Decidable (_ ∧ _))

/-- What a call returns if it is polled now, if it returns at all. -/
def outcome? (desk : Desk State Request Answer) (slot : Slot) : Option (Option Answer) :=
  match desk.calls[slot]?.map Call.phase with
  | some .sending => if desk.running then none else some none
  | some .waiting =>
      match server.reply desk.server slot with
      | some answer => some (some answer)
      | none => if server.Pending desk slot then none else some none
  | _ => none

def Enabled (desk : Desk State Request Answer) : DeskLabel Label Request → Prop
  | .clone client copy => client ∈ desk.clients ∧ copy ∉ desk.clients
  | .drop client =>
      client ∈ desk.clients ∧ ∀ call ∈ desk.calls, call.client = client → call.phase.active = false
  | .call client request =>
      client ∈ desk.clients ∧ server.slot request = desk.calls.length ∧
        ∀ call ∈ desk.calls, call.client = client → call.phase.active = false
  | .send slot => desk.running ∧ ∃ call ∈ desk.calls[slot]?, call.phase.unsent
  | .serve label =>
      desk.running ∧ server.enabled desk.server label ∧
        ∃ request ∈ desk.channel.head?, server.request? label = some request
  | .event label =>
      desk.running ∧ server.enabled desk.server label ∧ (server.request? label).isNone
  | .complete slot => (server.outcome? desk slot).isSome
  | .abandon slot => ∃ call ∈ desk.calls[slot]?, call.phase.active
  | .stop => desk.running ∧ desk.clients = ∅ ∧ desk.channel = []
  | .kill => desk.running

end Server

namespace Desk

def setPhase (desk : Desk State Request Answer) (slot : Slot) (phase : CallPhase Answer) :
    Desk State Request Answer :=
  { desk with calls := desk.calls.modify slot fun call => { call with phase := phase } }

def ended (desk : Desk State Request Answer) : Desk State Request Answer :=
  { desk with running := false, channel := [] }

end Desk

namespace Server

variable (server : Server State Label Request Answer)

def deskNext (desk : Desk State Request Answer) :
    DeskLabel Label Request → Desk State Request Answer
  | .clone _ copy => { desk with clients := insert copy desk.clients }
  | .drop client => { desk with clients := desk.clients.erase client }
  | .call client request => { desk with calls := desk.calls ++ [⟨client, request, .sending⟩] }
  | .send slot =>
      match desk.calls[slot]? with
      | some call => { desk.setPhase slot .waiting with channel := desk.channel ++ [call.request] }
      | none => desk
  | .serve label =>
      { desk with server := server.next desk.server label, channel := desk.channel.tail }
  | .event label => { desk with server := server.next desk.server label }
  | .complete slot =>
      match server.outcome? desk slot with
      | some outcome => desk.setPhase slot (.returned outcome)
      | none => desk
  | .abandon slot => desk.setPhase slot .abandoned
  | .stop | .kill => desk.ended

def recordCall (_ : Desk State Request Answer) (label : DeskLabel Label Request) (log : CallLog) :
    CallLog :=
  match label with
  | .send slot => { log with sent := log.sent ++ [slot] }
  | .serve label =>
      { log with served := log.served ++ ((server.request? label).map server.slot).toList }
  | _ => log

def deskSystem : System (Desk State Request Answer) (DeskLabel Label Request) where
  initial desk := server.initial desk.server ∧ desk.running ∧ desk.channel = [] ∧ desk.calls = []
  enabled := server.Enabled
  next := server.deskNext

def loggedDesk : System (Desk State Request Answer × CallLog) (DeskLabel Label Request) :=
  server.deskSystem.withHistory ⟨[], []⟩ server.recordCall

end Server
end P2pService.Library
