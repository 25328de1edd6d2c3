import P2pService.Proof.Fanout.Delivery

/-!
# What the lag counter counts

Nothing vanishes: every message due to a live stream was yielded, is buffered, or was dropped. The
counter of lag events goes up by one for each report of a lag, however many messages the report
stands for, so it agrees with the number of dropped messages reported exactly as long as no report
stands for more than one.
-/

namespace P2pService
open Library

theorem lag_of_reads {before after : Mailbox Envelope} {received : Received Envelope}
    (reads : before.Reads received after) :
    received.lag = before.missed ∧ lagEvent received = min 1 before.missed := by
  cases reads with
  | lagged n queue =>
      refine ⟨rfl, ?_⟩
      simp [lagEvent]
  | value x rest => exact ⟨rfl, rfl⟩
  | pending => exact ⟨rfl, rfl⟩

namespace Hub

def missed (hub : Hub) : HubLabel → Nat
  | .read i => (hub.subscribers[i]?.map fun subscriber => (hub.mailbox subscriber.receiver).missed).getD 0
  | _ => 0

theorem Wired.lag_next {hub : Hub} (wired : hub.Wired) {label : HubLabel}
    (enabled : hub.Enabled label) (history : HubHistory) :
    (hub.next label).lagEvents = hub.lagEvents + min 1 (hub.missed label) ∧
      (HubHistory.record hub label history).reported = history.reported + hub.missed label := by
  cases label with
  | send envelope => exact ⟨rfl, rfl⟩
  | attach topic =>
      obtain ⟨opened, receiver, _, after, _⟩ := wired.attach topic
      rw [after]
      exact ⟨rfl, rfl⟩
  | read i =>
      obtain ⟨subscriber, present, live⟩ := enabled
      obtain ⟨received, receiver, recv, _, reads⟩ := wired.recv present live
      obtain ⟨lag, event⟩ := lag_of_reads reads
      simp only [Hub.next, HubHistory.record, missed, present, readBy, recv, HubHistory.readBy,
        Option.map_some, Option.getD_some, lag, event, and_self]
  | detach i =>
      obtain ⟨subscriber, present, _⟩ := enabled
      simp only [Hub.next, present]
      exact ⟨rfl, rfl⟩

end Hub

section

variable {PeerId : Type}

/-- Every message due to a live stream is accounted for, and the lag counter is the number of
dropped messages that were reported to the streams. -/
def Counted (state : Fanout PeerId × HubHistory) : Prop :=
  (∀ (i : Nat) (stream : Stream), state.1.streams[i]? = some stream → stream.live →
    (state.2.due i stream.topic).length = stream.yielded.length +
      (state.1.hub.mailbox stream.receiver).queue.length + (state.2.ledger i).lost.length) ∧
  state.1.metrics.event "subscriber_lagged" = state.2.reported

/-- How many messages the stream that a step reads from has missed since its last read. -/
def Fanout.missed (state : Fanout PeerId) : FanoutLabel PeerId → Nat
  | .read i =>
      (state.streams[i]?.map fun stream => (state.hub.mailbox stream.receiver).missed).getD 0
  | _ => 0

theorem HubHistory.Told.conservation {history : HubHistory} {hub : Hub} {i : Nat}
    {subscriber : Subscriber} (told : history.Told hub i subscriber) (live : subscriber.live) :
    (history.due i subscriber.topic).length = subscriber.yielded.length +
      (hub.mailbox subscriber.receiver).queue.length + (history.ledger i).lost.length := by
  have values := congrArg List.length (Ledger.map_some_values told.within)
  rw [List.length_map, List.length_map] at values
  rw [← told.complete live, told.yielded, List.length_map, values]
  exact (told.tracked live).conservation

variable [TextCodec PeerId] [DecidableEq PeerId] [TextCodec (Multiaddr PeerId)]
  [ToString CommandError]

omit [TextCodec (Multiaddr PeerId)] in
theorem Fanout.missed_image {state : Fanout PeerId} (wired : state.hub.Wired)
    {label : FanoutLabel PeerId} (enabled : state.Enabled label) :
    ((state.image label).map state.hub.missed).getD 0 = state.missed label := by
  cases label with
  | network label =>
      rw [image]
      cases label.fannedOut <;> rfl
  | subscribe topic =>
      rw [image]
      split_ifs <;> rfl
  | join i view sender => rfl
  | respond i =>
      rw [image]
      cases state.streams[i]? with
      | none => rfl
      | some stream =>
          rw [Option.bind_some, respondImage]
          split <;> rfl
  | read i =>
      obtain ⟨stream, present, streaming⟩ : ∃ stream, state.streams[i]? = some stream ∧ _ := enabled
      have attached := hub_subscriber present
      have live : stream.subscriber.live := by simp [Stream.subscriber, Stream.live, streaming]
      obtain ⟨received, receiver, recv, _, reads⟩ := wired.recv attached live
      have sees : state.readImage i stream = some (.read i) := by
        unfold readImage
        rw [show state.subscriptions.recv stream.receiver = some (received, receiver) from recv]
        have notClosed := reads.ne_closed
        cases received with
        | closed => exact absurd rfl notClosed
        | _ => rfl
      rw [image, present, Option.bind_some, sees, missed, present]
      simp only [Option.map_some, Option.getD_some, Hub.missed, attached]
      rfl
  | drop i => rfl
  | publish request view sender => rfl
  | finish i nowMillis =>
      rw [image]
      cases state.calls[i]?.bind fun call => state.echoed call nowMillis <;> rfl

theorem lag_next {state : Fanout PeerId × HubHistory} (wired : state.1.hub.Wired)
    {label : FanoutLabel PeerId} (enabled : state.1.Enabled label) :
    ((recordedFanout PeerId).next state label).1.metrics.event "subscriber_lagged" =
        state.1.metrics.event "subscriber_lagged" + min 1 (state.1.missed label) ∧
      ((recordedFanout PeerId).next state label).2.reported =
        state.2.reported + state.1.missed label := by
  have events := congrArg Hub.lagEvents (Fanout.hub_next enabled)
  have missed := Fanout.missed_image wired enabled
  change (state.1.next label).hub.lagEvents = state.1.hub.lagEvents + _ ∧
    ((fanoutRefinement PeerId).record HubHistory.record state.1 label state.2).reported = _
  cases image : state.1.image label with
  | none =>
      have unseen : (fanoutRefinement PeerId).image state.1 label = none := image
      rw [image] at events missed
      rw [events, Refinement.record_of_none unseen, ← missed]
      exact ⟨rfl, rfl⟩
  | some seen =>
      have found : (fanoutRefinement PeerId).image state.1 label = some seen := image
      obtain ⟨event, reported⟩ := wired.lag_next (Fanout.enabled_image enabled image) state.2
      rw [image] at events missed
      rw [events, Refinement.record_of_some found, ← missed]
      exact ⟨event, reported⟩

theorem conservation {state : Fanout PeerId × HubHistory}
    (reachable : (recordedFanout PeerId).Reachable state) (i : Nat) (stream : Stream)
    (present : state.1.streams[i]? = some stream) (live : stream.live) :
    (state.2.due i stream.topic).length = stream.yielded.length +
      (state.1.hub.mailbox stream.receiver).queue.length + (state.2.ledger i).lost.length := by
  have follows := HubHistory.follows_reachable
    ((fanoutRefinement PeerId).reachable_withHistory reachable)
  exact (follows i stream.subscriber (Fanout.hub_subscriber present)).conservation live

/-- Throughout a run every message due to a live stream is accounted for and the counter is the
number of dropped messages that were reported, exactly when every read of the run finds at most one
message missed. -/
theorem lag_counted_iff {state : Fanout PeerId × HubHistory} {labels : List (FanoutLabel PeerId)}
    (initial : (recordedFanout PeerId).initial state)
    (legal : (recordedFanout PeerId).Legal state labels) :
    (recordedFanout PeerId).Throughout Counted state labels ↔
      (recordedFanout PeerId).EachStep (fun state label => state.1.missed label ≤ 1) state labels := by
  have keeps (state : Fanout PeerId × HubHistory) (label : FanoutLabel PeerId)
      (reachable : (recordedFanout PeerId).Reachable state)
      (enabled : (recordedFanout PeerId).enabled state label) :
      (recordedFanout PeerId).Reachable ((recordedFanout PeerId).next state label) :=
    .next reachable enabled
  have step (state : Fanout PeerId × HubHistory) (label : FanoutLabel PeerId)
      (reachable : (recordedFanout PeerId).Reachable state) (counted : Counted state)
      (enabled : (recordedFanout PeerId).enabled state label) :
      Counted ((recordedFanout PeerId).next state label) ↔ state.1.missed label ≤ 1 := by
    have wired := Hub.wired_reachable
      ((fanoutRefinement PeerId).reachable_withHistory reachable).forget
    obtain ⟨event, reported⟩ := lag_next wired enabled
    rw [Counted, event, reported, counted.2]
    constructor
    · rintro ⟨_, same⟩
      omega
    · intro few
      exact ⟨conservation (keeps state label reachable enabled), by omega⟩
  have start : Counted state := by
    refine ⟨conservation (.initial initial), ?_⟩
    obtain ⟨⟨_, _, _, _, _, _, started⟩, recorded⟩ := initial
    rw [started, recorded]
    exact Metrics.new_event _
  exact System.throughout_iff_eachStep keeps step (.initial initial) start legal

end

section

open Sample

def overrun : List (FanoutLabel Peer) :=
  .subscribe "t" :: joined 0 10 ++
    [gossip "t" 1, gossip "t" 2, gossip "t" 3, gossip "t" 4, .read 0]

/-- Two messages are dropped, and the read that reports both is counted once. -/
theorem lag_not_counted : ¬ ∀ state, (recordedFanout Peer).Reachable state → Counted state := by
  intro counted
  have legal : (fanoutSystem Peer).Legal (service 2) overrun := by decide
  have reachable : (recordedFanout Peer).Reachable
      ((recordedFanout Peer).after (service 2, .empty) overrun) :=
    .after (.initial ⟨⟨_, _, _, _, _, by decide, rfl⟩, rfl⟩) (legal.withHistory _)
  have same := (counted _ reachable).2
  exact absurd same (by decide)

theorem lag_counted_one_at_a_time :
    let run : List (FanoutLabel Peer) := .subscribe "t" :: joined 0 10 ++
      [gossip "t" 1, gossip "t" 2, gossip "t" 3, .read 0, gossip "t" 4, .read 0, .read 0]
    (recordedFanout Peer).Throughout Counted (service 2, .empty) run := by
  intro run
  have legal : (fanoutSystem Peer).Legal (service 2) run := by decide
  exact (lag_counted_iff ⟨⟨_, _, _, _, _, by decide, rfl⟩, rfl⟩ (legal.withHistory _)).mpr (by decide)

end

end P2pService
