import P2pService.Proof.Handlers
import P2pService.World.Fanout

/-!
# The service refines the hub

Of everything the service does, the hub sees a fanned-out envelope, a new receiver, a read and a
dropped receiver. All other steps leave the subscriptions, the streams' receivers and the count of
lag events as they were.
-/

namespace P2pService
open Library

variable {PeerId : Type}

theorem Stream.live_of_awaited {stream : Stream} {sender : Sender}
    (awaited : stream.awaited = some sender) : stream.live = true := by
  unfold Stream.awaited at awaited
  cases phase : stream.phase with
  | joining sender => simp [Stream.live, phase]
  | _ => simp [phase] at awaited

/-! ## The hub of a state -/

namespace Fanout

@[simp] theorem hub_share (state : Fanout PeerId) (subscriptions : Subscriptions) (metrics : Metrics) :
    (state.share subscriptions metrics).hub =
      { state.hub with
        subscriptions := subscriptions, lagEvents := metrics.event "subscriber_lagged" } := rfl

theorem hub_setStream (state : Fanout PeerId) (i : Nat) (stream : Stream) :
    (state.setStream i stream).hub =
      { state.hub with subscribers := state.hub.subscribers.set i stream.subscriber } := by
  simp only [hub, setStream, List.map_set]
  rfl

theorem hub_dropStream (state : Fanout PeerId) (i : Nat) (stream : Stream) :
    (state.dropStream i stream).hub = state.hub.detachBy i stream.subscriber := by
  rw [dropStream, hub_setStream]
  rfl

theorem hub_setStream_of_eq {state : Fanout PeerId} {i : Nat} {stream changed : Stream}
    (present : state.streams[i]? = some stream) (same : changed.subscriber = stream.subscriber) :
    (state.setStream i changed).hub = state.hub := by
  obtain ⟨bound, rfl⟩ := List.getElem?_eq_some_iff.mp present
  have unchanged : state.hub.subscribers.set i changed.subscriber = state.hub.subscribers := by
    rw [same]
    simp only [hub, ← List.map_set, List.set_getElem_self]
  rw [hub_setStream, unchanged]

theorem hub_subscribe {state : Fanout PeerId} {topic : String} (named : topic ≠ "") :
    (state.subscribe topic).hub = state.hub.attach topic := by
  rw [subscribe, if_neg named, Hub.attach, show state.hub.subscriptions = state.subscriptions from rfl]
  cases state.subscriptions.subscribe topic with
  | none => rfl
  | some opened => simp [hub, share, Fanout.subscriptions, Fanout.metrics, Stream.subscriber, Stream.live]

theorem hub_subscriber {state : Fanout PeerId} {i : Nat} {stream : Stream}
    (present : state.streams[i]? = some stream) :
    state.hub.subscribers[i]? = some stream.subscriber := by
  rw [hub, List.getElem?_map, present, Option.map_some]

theorem enabled_hub {state : Fanout PeerId} {i : Nat} {stream : Stream} {label : HubLabel}
    (present : state.streams[i]? = some stream) (live : stream.live)
    (reads : label = .read i ∨ label = .detach i) : state.hub.Enabled label := by
  have attached : ∃ subscriber, state.hub.subscribers[i]? = some subscriber ∧ subscriber.live :=
    ⟨stream.subscriber, hub_subscriber present, live⟩
  rcases reads with rfl | rfl <;> exact attached

theorem hub_detach {state : Fanout PeerId} {i : Nat} {stream : Stream}
    (present : state.streams[i]? = some stream) :
    state.hub.next (.detach i) = state.hub.detachBy i stream.subscriber := by
  simp only [Hub.next, hub_subscriber present]

end Fanout

theorem Subscriptions.recv_closed {subscriptions : Subscriptions} {receiver moved : Receiver}
    (closed : subscriptions.recv receiver = some (.closed, moved)) : moved = receiver := by
  unfold Subscriptions.recv at closed
  cases ring : subscriptions.channels[receiver.channel]? with
  | none => simp [ring] at closed
  | some channel =>
      rw [ring, Option.map_some, Option.some.injEq, Prod.mk.injEq] at closed
      obtain ⟨received, rfl⟩ := closed
      rcases channel.recv_eq receiver.next with ⟨n, _, lagged, _⟩ | ⟨x, rest, _, value, _⟩ | ⟨_, waiting⟩
      · rw [lagged] at received; cases received
      · rw [value] at received; cases received
      · rw [waiting]

def Hub.advance (hub : Hub) : Option HubLabel → Hub
  | some label => hub.next label
  | none => hub

def Subscriptions.fanOut (subscriptions : Subscriptions) : Option Envelope → Subscriptions
  | some envelope => (subscriptions.publish envelope).1
  | none => subscriptions

theorem Hub.advance_send (hub : Hub) (envelope : Option Envelope) :
    hub.advance (envelope.map .send) =
      { hub with subscriptions := hub.subscriptions.fanOut envelope } := by
  cases envelope <;> rfl

namespace Fanout

def respondImage (state : Fanout PeerId) (i : Nat) (stream : Stream) : Option HubLabel :=
  match stream.awaited.bind state.network.reply with
  | some .ok | none => none
  | some _ => some (.detach i)

def readImage (state : Fanout PeerId) (i : Nat) (stream : Stream) : Option HubLabel :=
  match state.subscriptions.recv stream.receiver with
  | some (.closed, _) => some (.detach i)
  | _ => some (.read i)

theorem hub_respond {state : Fanout PeerId} {i : Nat} {stream : Stream}
    (present : state.streams[i]? = some stream) :
    (state.respond i stream).hub = state.hub.advance (state.respondImage i stream) := by
  unfold respond respondImage
  cases answered : stream.awaited.bind state.network.reply with
  | none => rfl
  | some answer =>
      cases answer with
      | ok =>
          obtain ⟨sender, awaited, _⟩ := Option.bind_eq_some_iff.mp answered
          have live := Stream.live_of_awaited awaited
          apply hub_setStream_of_eq present
          rw [Stream.subscriber, Stream.subscriber, live]
          rfl
      | _ => exact (state.hub_dropStream i stream).trans (hub_detach present).symm

theorem hub_readStream {state : Fanout PeerId} {i : Nat} {stream : Stream}
    (present : state.streams[i]? = some stream) :
    (state.readStream i stream).hub = state.hub.advance (state.readImage i stream) := by
  have read : state.hub.next (.read i) = state.hub.readBy i stream.subscriber := by
    simp only [Hub.next, hub_subscriber present]
  have sameRecv : state.hub.subscriptions.recv stream.subscriber.receiver =
    state.subscriptions.recv stream.receiver := rfl
  unfold readStream readImage
  cases got : state.subscriptions.recv stream.receiver with
  | none => rw [Hub.advance, read, Hub.readBy, sameRecv, got]
  | some result =>
      obtain ⟨received, receiver⟩ := result
      cases received with
      | value envelope =>
          rw [Hub.advance, read, Hub.readBy, sameRecv, got]
          exact hub_setStream _ i _
      | lagged n =>
          rw [Hub.advance, read, Hub.readBy, sameRecv, got]
          dsimp only [Grpc.streamStep, lagEvent]
          rw [hub_setStream, hub_share, Metrics.event_incrementEvent, if_pos rfl,
            show yields (.lagged n) = [] from rfl, List.append_nil]
          rfl
      | pending =>
          rw [Hub.advance, read, Hub.readBy, sameRecv, got]
          dsimp only [Grpc.streamStep, lagEvent]
          rw [hub_setStream, show yields .pending = [] from rfl, List.append_nil]
          rfl
      | closed =>
          obtain rfl := Subscriptions.recv_closed got
          exact (hub_dropStream _ i _).trans (hub_detach present).symm

end Fanout

/-! ## What a publish counts -/

theorem Grpc.published_event [ToString CommandError] (metrics : Metrics) (request : PublishRequest)
    (localPeerId : String) (nowMillis : Nat) (answer : Answer PeerId) :
    (Grpc.published metrics request localPeerId nowMillis answer).2.1.event "subscriber_lagged" =
      metrics.event "subscriber_lagged" := by
  unfold Grpc.published
  dsimp only
  split <;> (rw [Metrics.event_incrementEvent, if_neg (by decide)]; rfl)

variable [TextCodec PeerId]

section

variable [ToString CommandError]

namespace Fanout

def echoed (state : Fanout PeerId) (call : PublishCall) (nowMillis : Nat) : Option Envelope :=
  (state.network.reply call.sender).bind fun answer =>
    (Grpc.published state.metrics call.request (TextCodec.toStr state.localPeerId) nowMillis
      answer).2.2

theorem hub_finish {state : Fanout PeerId} {i : Nat} {call : PublishCall} {nowMillis : Nat} :
    (state.finish i call nowMillis).hub =
      state.hub.advance ((state.echoed call nowMillis).map .send) := by
  rw [Hub.advance_send]
  unfold finish echoed
  cases state.network.reply call.sender with
  | none => rfl
  | some answer =>
      let result := Grpc.published state.metrics call.request (TextCodec.toStr state.localPeerId)
        nowMillis answer
      have counted : result.2.1.event "subscriber_lagged" = state.hub.lagEvents :=
        Grpc.published_event _ _ _ _ _
      calc _ = { state.hub with
              subscriptions := state.subscriptions.fanOut result.2.2
              lagEvents := result.2.1.event "subscriber_lagged" } := rfl
        _ = _ := by rw [counted]; rfl

end Fanout
end

/-! ## What the loop does to the fanout -/

def Label.fannedOut : Label PeerId → Option Envelope
  | .event now (.gossipsubMessage message) =>
      message.source.map fun source => ⟨message.topic, TextCodec.toStr source, message.data, now⟩
  | _ => none

variable [DecidableEq PeerId] [TextCodec (Multiaddr PeerId)]

theorem EventLoop.handleEvent_fanout (loop : EventLoop PeerId) (now : Nat) (event : SwarmEvent PeerId) :
    (loop.handleEvent now event).loop.subscriptions =
        loop.subscriptions.fanOut (Label.event now event).fannedOut ∧
      (loop.handleEvent now event).loop.metrics.p2pEvents = loop.metrics.p2pEvents := by
  cases event with
  | gossipsubMessage message =>
      simp only [handleEvent, handleMessage, Label.fannedOut]
      cases message.source with
      | none => exact ⟨rfl, rfl⟩
      | some source => exact ⟨rfl, rfl⟩
  | identifyReceived peer addrs =>
      simp only [handleEvent, handleIdentify]
      split <;> exact ⟨rfl, rfl⟩
  | connectionEstablished peer endpoint id =>
      rw [handleEvent, handleEstablished_loop]
      exact ⟨rfl, rfl⟩
  | connectionClosed peer endpoint id numEstablished => exact ⟨rfl, rfl⟩
  | outgoingConnectionError peer error =>
      cases peer with
      | none => exact ⟨rfl, rfl⟩
      | some peer =>
          rw [handleEvent, resolvePendingDials_loop]
          exact ⟨rfl, rfl⟩
  | other => exact ⟨rfl, rfl⟩

theorem World.next_fanout (world : World PeerId) (label : Label PeerId) :
    (world.next label).loop.subscriptions = world.loop.subscriptions.fanOut label.fannedOut ∧
      (world.next label).loop.metrics.p2pEvents = world.loop.metrics.p2pEvents := by
  cases label with
  | event now event => exact world.loop.handleEvent_fanout now event
  | command view command =>
      obtain ⟨_, _, _, same⟩ := world.loop.handleCommand_loop view command
      have left : (world.loop.handleCommand view command).loop.subscriptions =
          world.loop.subscriptions ∧
        (world.loop.handleCommand view command).loop.metrics.p2pEvents =
          world.loop.metrics.p2pEvents := by simp only [same, and_self]
      exact left
  | behaviourDial peer => exact ⟨rfl, rfl⟩
  | forgetScore peer => exact ⟨rfl, rfl⟩

namespace Fanout

theorem hub_network (state : Fanout PeerId) (label : Label PeerId) :
    { state with network := state.network.next label }.hub =
      { state.hub with subscriptions := state.subscriptions.fanOut label.fannedOut } := by
  obtain ⟨subscriptions, p2pEvents⟩ := state.network.next_fanout label
  simp only [hub, Fanout.subscriptions, Fanout.metrics, Metrics.event, subscriptions, p2pEvents]

/-! ## The step of the hub behind a step of the service -/

variable [ToString CommandError]

def image (state : Fanout PeerId) : FanoutLabel PeerId → Option HubLabel
  | .network label => label.fannedOut.map .send
  | .subscribe topic => if topic = "" then none else some (.attach topic)
  | .join _ _ _ | .publish _ _ _ => none
  | .respond i => state.streams[i]?.bind (state.respondImage i)
  | .read i => state.streams[i]?.bind (state.readImage i)
  | .drop i => some (.detach i)
  | .finish i nowMillis =>
      (state.calls[i]?.bind fun call => state.echoed call nowMillis).map .send

/-- Every step of the service is the step of the hub it stands for, or is not seen there. -/
theorem hub_next {state : Fanout PeerId} {label : FanoutLabel PeerId}
    (enabled : state.Enabled label) : (state.next label).hub = state.hub.advance (state.image label) := by
  cases label with
  | network label =>
      rw [image, Hub.advance_send]
      exact state.hub_network label
  | subscribe topic =>
      by_cases named : topic = ""
      · rw [image, if_pos named, next, subscribe, if_pos named]
        rfl
      · rw [image, if_neg named]
        exact hub_subscribe named
  | join i view sender =>
      obtain ⟨stream, present, created, _⟩ : ∃ stream, state.streams[i]? = some stream ∧ _ := enabled
      simp only [next, present]
      have joined : (state.setStream i { stream with phase := .joining sender }).hub = state.hub := by
        apply hub_setStream_of_eq present
        simp [Stream.subscriber, Stream.live, created]
      exact ((state.setStream i { stream with phase := .joining sender }).hub_network
        (.command view (.subscribe stream.topic sender))).trans joined
  | respond i =>
      obtain ⟨stream, present, _⟩ : ∃ stream, state.streams[i]? = some stream ∧ _ := enabled
      simp only [next, image, present, Option.bind_some]
      exact hub_respond present
  | read i =>
      obtain ⟨stream, present, _⟩ : ∃ stream, state.streams[i]? = some stream ∧ _ := enabled
      simp only [next, image, present, Option.bind_some]
      exact hub_readStream present
  | drop i =>
      obtain ⟨stream, present, _⟩ : ∃ stream, state.streams[i]? = some stream ∧ _ := enabled
      simp only [next, present]
      exact (state.hub_dropStream i stream).trans (hub_detach present).symm
  | publish request view sender =>
      by_cases named : request.topic = ""
      · simp only [next, Grpc.publish, if_pos named]
        rfl
      · simp only [next, Grpc.publish, if_neg named]
        exact state.hub_network (.command view (.publishMessage request.topic request.payload sender))
  | finish i nowMillis =>
      obtain ⟨call, present, _⟩ : ∃ call, state.calls[i]? = some call ∧ _ := enabled
      simp only [next, image, present, Option.bind_some]
      exact hub_finish

/-! ## The refinement -/

omit [TextCodec (Multiaddr PeerId)] in
theorem enabled_image {state : Fanout PeerId} {label : FanoutLabel PeerId} {seen : HubLabel}
    (enabled : state.Enabled label) (image : state.image label = some seen) :
    state.hub.Enabled seen := by
  cases label with
  | network label =>
      obtain ⟨envelope, _, rfl⟩ := Option.map_eq_some_iff.mp image
      trivial
  | subscribe topic =>
      rw [Fanout.image] at image
      split_ifs at image
      cases image
      trivial
  | join i view sender => cases image
  | respond i =>
      obtain ⟨stream, present, found⟩ := Option.bind_eq_some_iff.mp image
      unfold respondImage at found
      cases answered : stream.awaited.bind state.network.reply with
      | none => simp [answered] at found
      | some answer =>
          obtain ⟨sender, awaited, _⟩ := Option.bind_eq_some_iff.mp answered
          have live := Stream.live_of_awaited awaited
          rw [answered] at found
          cases answer <;> cases found <;> exact enabled_hub present live (.inr rfl)
  | read i =>
      obtain ⟨stream, present, found⟩ := Option.bind_eq_some_iff.mp image
      obtain ⟨other, same, streaming⟩ := enabled
      obtain rfl : stream = other := Option.some.inj (present.symm.trans same)
      have live : stream.live := by simp [Stream.live, streaming]
      apply enabled_hub present live
      unfold readImage at found
      split at found <;> cases found
      · exact .inr rfl
      · exact .inl rfl
  | drop i =>
      obtain ⟨stream, present, live⟩ := enabled
      cases image
      exact enabled_hub present live (.inr rfl)
  | publish request view sender => cases image
  | finish i nowMillis =>
      obtain ⟨envelope, _, rfl⟩ := Option.map_eq_some_iff.mp image
      trivial

end Fanout

def fanoutRefinement (PeerId : Type) [TextCodec PeerId] [DecidableEq PeerId]
    [TextCodec (Multiaddr PeerId)] [ToString CommandError] :
    Refinement (fanoutSystem PeerId) hubSystem where
  view := Fanout.hub
  image := Fanout.image
  initial := by
    rintro state ⟨capacity, peerstore, settings, bootstrapPeers, localPeerId, positive, rfl⟩
    refine ⟨capacity, positive, ?_⟩
    simp [Fanout.hub, Fanout.start, World.start, EventLoop.new, Fanout.subscriptions, Fanout.metrics,
      Hub.start]
  enabled _ _ _ := Fanout.enabled_image
  seen state label seen enabled image := by
    have step := Fanout.hub_next enabled
    rw [image] at step
    exact step
  unseen state label enabled image := by
    have step := Fanout.hub_next enabled
    rw [image] at step
    exact step

abbrev recordedFanout (PeerId : Type) [TextCodec PeerId] [DecidableEq PeerId]
    [TextCodec (Multiaddr PeerId)] [ToString CommandError] :
    System (Fanout PeerId × HubHistory) (FanoutLabel PeerId) :=
  (fanoutSystem PeerId).withHistory .empty ((fanoutRefinement PeerId).record HubHistory.record)

end P2pService
