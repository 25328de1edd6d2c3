import P2pService.Library.Ledger
import P2pService.Library.System
import P2pService.Model.Grpc
import Mathlib.Logic.Function.Basic

/-!
# The fanout and its subscribers

A hub is what is left of the service when only messages count: the fanout, the streams that read
from it, and the count of lag events. The history beside it says, without any buffer, what each
subscriber is due.
-/

namespace P2pService
open Library

structure Subscriber where
  topic : String
  receiver : Receiver
  live : Bool
  yielded : List PubsubEnvelope

structure Hub where
  subscriptions : Subscriptions
  subscribers : List Subscriber
  lagEvents : Nat

inductive HubLabel where
  | send (envelope : Envelope)
  | attach (topic : String)
  | read (i : Nat)
  | detach (i : Nat)

def yields (received : Received Envelope) : List PubsubEnvelope :=
  received.toList.map Envelope.toPubsub

def lagEvent : Received Envelope → Nat
  | .lagged _ => 1
  | _ => 0

namespace Hub

def start (capacity : Nat) : Hub := ⟨.new capacity, [], 0⟩

def Enabled (hub : Hub) : HubLabel → Prop
  | .send _ | .attach _ => True
  | .read i | .detach i => ∃ subscriber, hub.subscribers[i]? = some subscriber ∧ subscriber.live

def attach (hub : Hub) (topic : String) : Hub :=
  match hub.subscriptions.subscribe topic with
  | some (subscriptions, receiver) =>
      { hub with
        subscriptions := subscriptions
        subscribers := hub.subscribers ++ [⟨topic, receiver, true, []⟩] }
  | none => hub

def readBy (hub : Hub) (i : Nat) (subscriber : Subscriber) : Hub :=
  match hub.subscriptions.recv subscriber.receiver with
  | some (received, receiver) =>
      { hub with
        subscribers := hub.subscribers.set i { subscriber with
          receiver := receiver, yielded := subscriber.yielded ++ yields received }
        lagEvents := hub.lagEvents + lagEvent received }
  | none => hub

def detachBy (hub : Hub) (i : Nat) (subscriber : Subscriber) : Hub :=
  { hub with
    subscriptions := hub.subscriptions.dropReceiver subscriber.receiver
    subscribers := hub.subscribers.set i { subscriber with live := false } }

def next (hub : Hub) : HubLabel → Hub
  | .send envelope => { hub with subscriptions := (hub.subscriptions.publish envelope).1 }
  | .attach topic => hub.attach topic
  | .read i =>
      match hub.subscribers[i]? with
      | some subscriber => hub.readBy i subscriber
      | none => hub
  | .detach i =>
      match hub.subscribers[i]? with
      | some subscriber => hub.detachBy i subscriber
      | none => hub

def mailbox (hub : Hub) (receiver : Receiver) : Mailbox Envelope :=
  match hub.subscriptions.channels[receiver.channel]? with
  | some channel => channel.mailbox receiver.next
  | none => ⟨0, []⟩

def listeners (hub : Hub) (topic : String) : Nat :=
  hub.subscribers.countP fun subscriber => subscriber.live && decide (subscriber.topic = topic)

end Hub

def hubSystem : System Hub HubLabel where
  initial hub := ∃ capacity, 0 < capacity ∧ hub = .start capacity
  enabled := Hub.Enabled
  next := Hub.next

/-! ## The history -/

structure HubHistory where
  /-- The envelopes given to `Subscriptions::publish`, in order. -/
  published : List Envelope
  /-- How many there were when a subscriber's receiver was created. -/
  since : Nat → Nat
  ledger : Nat → Ledger Envelope
  /-- The sum of the lags that were reported. -/
  reported : Nat

namespace HubHistory

def empty : HubHistory := ⟨[], fun _ => 0, fun _ => .empty, 0⟩

def readBy (history : HubHistory) (i : Nat) (received : Received Envelope) : HubHistory :=
  { history with
    ledger := Function.update history.ledger i ((history.ledger i).receive received)
    reported := history.reported + received.lag }

def sendTo (hub : Hub) (envelope : Envelope) (i : Nat) (ledger : Ledger Envelope) :
    Ledger Envelope :=
  match hub.subscribers[i]? with
  | some subscriber =>
      if subscriber.live ∧ subscriber.topic = envelope.topic then
        ledger.send (roundCapacity hub.subscriptions.capacity) envelope
      else ledger
  | none => ledger

def record (hub : Hub) (label : HubLabel) (history : HubHistory) : HubHistory :=
  match label with
  | .send envelope =>
      { history with
        published := history.published ++ [envelope]
        ledger := fun i => sendTo hub envelope i (history.ledger i) }
  | .attach _ =>
      { history with
        since := Function.update history.since hub.subscribers.length history.published.length
        ledger := Function.update history.ledger hub.subscribers.length .empty }
  | .read i =>
      match hub.subscribers[i]? with
      | some subscriber =>
          match hub.subscriptions.recv subscriber.receiver with
          | some (received, _) => history.readBy i received
          | none => history
      | none => history
  | .detach _ => history

end HubHistory

abbrev recordedHub : System (Hub × HubHistory) HubLabel :=
  hubSystem.withHistory .empty HubHistory.record

end P2pService
