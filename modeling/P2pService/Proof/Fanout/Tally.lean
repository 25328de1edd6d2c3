import P2pService.Proof.Fanout.Refinement
import P2pService.World.Tally

/-!
# The counters agree with what happened

Each step of the service counts what it records, and nothing else touches a counter.
-/

namespace P2pService
open Library

variable {PeerId : Type}

def GossipsubMessage.sourced (message : GossipsubMessage PeerId) : Bool := message.source.isSome

theorem Grpc.published_metrics [ToString CommandError] (metrics : Metrics) (request : PublishRequest)
    (localPeerId : String) (nowMillis : Nat) (answer : Answer PeerId) :
    (Grpc.published metrics request localPeerId nowMillis answer).2.1 =
      { metrics.incrementEvent answer.publishEvent with
        totalMessagesSent := metrics.totalMessagesSent +
          if answer.publishEvent = "message_published" then 1 else 0 } := by
  cases answer with
  | error error =>
      cases error with
      | publish error => cases error <;> rfl
      | _ => rfl
  | _ => rfl

theorem lagEvent_le_one (received : Received Envelope) : lagEvent received ≤ 1 := by
  cases received <;> simp [lagEvent]

/-- The counters of the service, by what happened. -/
structure Accounts (state : Fanout PeerId) (tally : Tally PeerId) : Prop where
  received : state.metrics.totalMessagesReceived = tally.arrived.countP GossipsubMessage.sourced
  sent : state.metrics.totalMessagesSent = state.metrics.event "message_published"
  events : ∀ name, state.metrics.event name =
    tally.answered.countP (fun publish => publish.answer.publishEvent = name) +
      if name = "subscriber_lagged" then tally.lags else 0
  waiting : tally.accepted.length = tally.answered.length + state.calls.length

namespace Accounts

variable {state after : Fanout PeerId} {tally : Tally PeerId}

theorem of_same (accounts : Accounts state tally) (metrics : after.metrics = state.metrics)
    (calls : after.calls.length = state.calls.length) : Accounts after tally := by
  obtain ⟨received, sent, events, waiting⟩ := accounts
  constructor
  · rw [metrics, received]
  · rw [metrics, sent]
  · intro name
    rw [metrics, events]
  · rw [calls, waiting]

theorem arrive (accounts : Accounts state tally) (message? : Option (GossipsubMessage PeerId))
    (received : after.metrics.totalMessagesReceived =
      state.metrics.totalMessagesReceived + message?.toList.countP GossipsubMessage.sourced)
    (sent : after.metrics.totalMessagesSent = state.metrics.totalMessagesSent)
    (events : after.metrics.p2pEvents = state.metrics.p2pEvents) (calls : after.calls = state.calls) :
    Accounts after { tally with arrived := tally.arrived ++ message?.toList } where
  received := by rw [received, accounts.received, List.countP_append]
  sent := by rw [sent, accounts.sent, Metrics.event, Metrics.event, events]
  events name := by
    rw [← accounts.events name, Metrics.event, Metrics.event, events]
  waiting := by rw [calls, accounts.waiting]

theorem lagged (accounts : Accounts state tally) {lag : Nat} (once : lag ≤ 1)
    (metrics : after.metrics =
      if lag = 0 then state.metrics else state.metrics.incrementEvent "subscriber_lagged")
    (calls : after.calls = state.calls) : Accounts after { tally with lags := tally.lags + lag } := by
  rcases Nat.le_one_iff_eq_zero_or_eq_one.mp once with rfl | rfl
  · exact accounts.of_same (metrics.trans (if_pos rfl)) (congrArg List.length calls)
  · rw [if_neg (by decide)] at metrics
    constructor
    · rw [metrics]
      exact accounts.received
    · rw [metrics, Metrics.event_incrementEvent, if_neg (by decide)]
      exact accounts.sent
    · intro name
      rw [metrics, Metrics.event_incrementEvent, accounts.events name]
      split_ifs <;> rfl
    · rw [calls]
      exact accounts.waiting

theorem answer (accounts : Accounts state tally) (publish : AnsweredPublish PeerId)
    (metrics : after.metrics = { state.metrics.incrementEvent publish.answer.publishEvent with
      totalMessagesSent := state.metrics.totalMessagesSent +
        if publish.answer.publishEvent = "message_published" then 1 else 0 })
    (calls : after.calls.length + 1 = state.calls.length) :
    Accounts after { tally with answered := tally.answered ++ [publish] } := by
  have event (name : String) : after.metrics.event name =
      state.metrics.event name + if name = publish.answer.publishEvent then 1 else 0 := by
    rw [← Metrics.event_incrementEvent, metrics]
    rfl
  constructor
  · rw [metrics]
    exact accounts.received
  · rw [event, metrics, ← accounts.sent]
    simp only [eq_comm]
  · intro name
    rw [event, accounts.events name, List.countP_append, List.countP_singleton, add_right_comm]
    simp only [decide_eq_true_eq, eq_comm (a := name)]
  · rw [List.length_append, List.length_singleton, accounts.waiting, ← calls]
    omega

theorem subscribe (accounts : Accounts state tally) (topic : String) :
    Accounts (state.subscribe topic) tally := by
  unfold Fanout.subscribe
  split_ifs
  · exact accounts
  · cases state.subscriptions.subscribe topic with
    | none => exact accounts
    | some opened => exact accounts.of_same rfl rfl

theorem respond (accounts : Accounts state tally) (i : Nat) (stream : Stream) :
    Accounts (state.respond i stream) tally := by
  unfold Fanout.respond
  split <;> first | exact accounts | exact accounts.of_same rfl rfl

theorem readStream (accounts : Accounts state tally) (i : Nat) {stream : Stream}
    (present : state.streams[i]? = some stream) :
    Accounts (state.readStream i stream)
      { tally with lags := tally.lags + ((state.received? i).map lagEvent).getD 0 } := by
  unfold Fanout.readStream
  cases received : state.subscriptions.recv stream.receiver with
  | none =>
      have nothing : state.received? i = none := by
        simp [Fanout.received?, present, received]
      rw [nothing]
      exact accounts
  | some got =>
      obtain ⟨got, receiver⟩ := got
      have read : state.received? i = some got := by
        simp [Fanout.received?, present, received]
      rw [read]
      refine accounts.lagged (lagEvent_le_one got) ?_ ?_
      · cases got <;> rfl
      · cases got <;> rfl

theorem finish [ToString CommandError] [TextCodec PeerId] (accounts : Accounts state tally) {i : Nat} {call : PublishCall}
    (present : state.calls[i]? = some call) (nowMillis : Nat) :
    Accounts (state.finish i call nowMillis)
      { tally with answered := tally.answered ++ (state.answered? i).toList } := by
  unfold Fanout.finish
  cases replied : state.network.reply call.sender with
  | none =>
      have nothing : state.answered? i = none := by simp [Fanout.answered?, present, replied]
      rw [nothing, Option.toList_none, List.append_nil]
      exact accounts
  | some answer =>
      have settled : state.answered? i = some ⟨call.request, answer⟩ := by
        simp [Fanout.answered?, present, replied]
      rw [settled]
      refine accounts.answer ⟨call.request, answer⟩ (Grpc.published_metrics _ _ _ _ _) ?_
      have bound := (List.getElem?_eq_some_iff.mp present).1
      simp only [List.length_eraseIdx_of_lt bound]
      omega

end Accounts

variable [DecidableEq PeerId] [TextCodec PeerId] [TextCodec (Multiaddr PeerId)]

theorem World.next_metrics (world : World PeerId) (label : Label PeerId) :
    (world.next label).loop.metrics.totalMessagesReceived =
        world.loop.metrics.totalMessagesReceived +
          label.arrival?.toList.countP GossipsubMessage.sourced ∧
      (world.next label).loop.metrics.totalMessagesSent = world.loop.metrics.totalMessagesSent := by
  cases label with
  | event now event =>
      change (world.loop.handleEvent now event).loop.metrics.totalMessagesReceived = _ ∧
        (world.loop.handleEvent now event).loop.metrics.totalMessagesSent = _
      cases event with
      | gossipsubMessage message =>
          simp only [EventLoop.handleEvent, EventLoop.handleMessage, Label.arrival?]
          cases source : message.source <;> simp [source, GossipsubMessage.sourced]
      | identifyReceived peer addrs =>
          simp only [EventLoop.handleEvent, EventLoop.handleIdentify]
          split <;> exact ⟨rfl, rfl⟩
      | connectionEstablished peer endpoint id =>
          rw [EventLoop.handleEvent, EventLoop.handleEstablished_loop]
          exact ⟨rfl, rfl⟩
      | connectionClosed peer endpoint id numEstablished => exact ⟨rfl, rfl⟩
      | outgoingConnectionError peer error =>
          cases peer with
          | none => exact ⟨rfl, rfl⟩
          | some peer =>
              rw [EventLoop.handleEvent, EventLoop.resolvePendingDials_loop]
              exact ⟨rfl, rfl⟩
      | other => exact ⟨rfl, rfl⟩
  | command view command =>
      obtain ⟨_, _, _, same⟩ := world.loop.handleCommand_loop view command
      change (world.loop.handleCommand view command).loop.metrics.totalMessagesReceived = _ ∧
        (world.loop.handleCommand view command).loop.metrics.totalMessagesSent = _
      rw [same]
      exact ⟨rfl, rfl⟩
  | behaviourDial peer => exact ⟨rfl, rfl⟩
  | forgetScore peer => exact ⟨rfl, rfl⟩

theorem World.next_command_metrics (world : World PeerId) (view : SwarmView PeerId)
    (command : Command PeerId) :
    (world.next (.command view command)).loop.metrics = world.loop.metrics := by
  obtain ⟨_, _, _, same⟩ := world.loop.handleCommand_loop view command
  exact congrArg (·.metrics) same

namespace Accounts

variable [ToString CommandError] {state : Fanout PeerId} {tally : Tally PeerId}

theorem next (accounts : Accounts state tally) {label : FanoutLabel PeerId}
    (enabled : state.Enabled label) : Accounts (state.next label) (Tally.record state label tally) := by
  cases label with
  | network label =>
      obtain ⟨received, sent⟩ := state.network.next_metrics label
      exact accounts.arrive label.arrival? received sent (state.network.next_fanout label).2 rfl
  | subscribe topic => exact accounts.subscribe topic
  | join i view sender =>
      obtain ⟨stream, present, _, _⟩ : ∃ stream, state.streams[i]? = some stream ∧ _ := enabled
      simp only [Fanout.next, present]
      exact accounts.of_same (state.network.next_command_metrics view _) rfl
  | respond i =>
      obtain ⟨stream, present, _⟩ : ∃ stream, state.streams[i]? = some stream ∧ _ := enabled
      simp only [Fanout.next, present]
      exact accounts.respond i stream
  | read i =>
      obtain ⟨stream, present, _⟩ : ∃ stream, state.streams[i]? = some stream ∧ _ := enabled
      simp only [Fanout.next, present]
      exact accounts.readStream i present
  | drop i =>
      obtain ⟨stream, present, _⟩ : ∃ stream, state.streams[i]? = some stream ∧ _ := enabled
      simp only [Fanout.next, present]
      exact accounts.of_same rfl rfl
  | publish request view sender =>
      simp only [Fanout.next, Grpc.publish, Tally.record]
      by_cases unnamed : request.topic = ""
      · simp only [if_pos unnamed]
        exact accounts
      · simp only [if_neg unnamed]
        obtain ⟨received, sent, events, waiting⟩ := accounts
        have metrics := state.network.next_command_metrics view
          (.publishMessage request.topic request.payload sender)
        refine ⟨?_, ?_, fun name => ?_, ?_⟩
        · exact (congrArg (·.totalMessagesReceived) metrics).trans received
        · exact (congrArg (·.totalMessagesSent) metrics).trans
            (sent.trans (congrArg (·.event "message_published") metrics.symm))
        · exact (congrArg (·.event name) metrics).trans (events name)
        · simp only [List.length_append, List.length_singleton, waiting, add_assoc]
  | finish i nowMillis =>
      obtain ⟨call, present, _⟩ : ∃ call, state.calls[i]? = some call ∧ _ := enabled
      simp only [Fanout.next, present]
      exact accounts.finish present nowMillis

end Accounts

omit [DecidableEq PeerId] [TextCodec PeerId] [TextCodec (Multiaddr PeerId)] in
theorem countP_publishEvent (answered : List (AnsweredPublish PeerId)) :
    answered.countP (fun publish => publish.answer.publishEvent = "message_published") +
        answered.countP (fun publish => publish.answer.publishEvent = "publish_no_peers") +
        answered.countP (fun publish => publish.answer.publishEvent = "publish_error") =
      answered.length := by
  induction answered with
  | nil => rfl
  | cons publish answered ih =>
      have one : publish.answer.publishEvent = "message_published" ∨
          publish.answer.publishEvent = "publish_no_peers" ∨
          publish.answer.publishEvent = "publish_error" := by
        unfold Answer.publishEvent
        split <;> simp
      simp only [List.countP_cons, List.length_cons, ← ih]
      rcases one with event | event | event <;> simp [event] <;> omega

namespace Sample

/-- Alice's message arrives, one publish has found no peers, and another is not answered yet. -/
def counted : Fanout Peer × Tally Peer :=
  (talliedFanout Peer).after (service 2, .empty)
    [gossip "blocks" 1,
      .publish ⟨"blocks", [2], true⟩ { view (.ok ()) with
        publish := fun _ _ => .error (.publish .noPeersSubscribedToTopic) } 0,
      .publish ⟨"blocks", [3], false⟩ (view (.ok ())) 1, .finish 0 5]

theorem counted_reachable : (talliedFanout Peer).Reachable counted := by
  refine (System.Reachable.initial ?_).after ?_
  · exact ⟨⟨2, _, _, _, _, by decide, rfl⟩, rfl⟩
  · exact System.Legal.withHistory (S := fanoutSystem Peer) (by decide) _

end Sample

section

open Sample

end

end P2pService
