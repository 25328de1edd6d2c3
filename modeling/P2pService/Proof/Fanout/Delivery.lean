import P2pService.Proof.Fanout.Refinement
import P2pService.Proof.Fanout.Wiring

/-!
# What a stream delivers

The history counts a message as sent to a stream when it is published to the stream's topic while
the receiver exists, and as lost when it is the oldest of more than a bufferful unread. Told is the
invariant that ties a subscriber to that history; its steps rest on what the steps do to mailboxes.
-/

namespace P2pService
open Library

namespace HubHistory

/-- The messages published to a topic since a subscriber's receiver was created. -/
def due (history : HubHistory) (i : Nat) (topic : String) : List Envelope :=
  (history.published.drop (history.since i)).filter fun envelope => envelope.topic = topic

structure Told (history : HubHistory) (hub : Hub) (i : Nat) (subscriber : Subscriber) : Prop where
  early : history.since i ≤ history.published.length
  sent : (history.ledger i).sent <+: history.due i subscriber.topic
  complete : subscriber.live → (history.ledger i).sent = history.due i subscriber.topic
  yielded : subscriber.yielded = (history.ledger i).values.map Envelope.toPubsub
  ordered : (history.ledger i).read.Pairwise (· < ·)
  within : ∀ j ∈ (history.ledger i).read, j < (history.ledger i).sent.length
  tracked : subscriber.live →
    Ledger.Tracks (history.ledger i) (hub.mailbox subscriber.receiver)

def Follows (history : HubHistory) (hub : Hub) : Prop :=
  ∀ (i : Nat) (subscriber : Subscriber), hub.subscribers[i]? = some subscriber →
    history.Told hub i subscriber

/-! ## A publish -/

theorem due_append {history : HubHistory} {i : Nat} (early : history.since i ≤ history.published.length)
    (envelope : Envelope) (ledger : Nat → Ledger Envelope) (topic : String) :
    due { history with published := history.published ++ [envelope], ledger := ledger } i topic =
      history.due i topic ++ if topic = envelope.topic then [envelope] else [] := by
  unfold due
  rw [List.drop_append_of_le_length early, List.filter_append]
  congr 1
  by_cases same : topic = envelope.topic
  · simp [same]
  · have different : envelope.topic ≠ topic := fun equal => same equal.symm
    simp [same, different]

theorem Told.send {history : HubHistory} {hub : Hub} (wired : hub.Wired) {i : Nat}
    {subscriber : Subscriber} (present : hub.subscribers[i]? = some subscriber)
    (told : history.Told hub i subscriber) (envelope : Envelope) :
    (record hub (.send envelope) history).Told (hub.next (.send envelope)) i subscriber := by
  have due := due_append told.early envelope (fun i => sendTo hub envelope i (history.ledger i))
    subscriber.topic
  have early : (record hub (.send envelope) history).since i ≤
      (record hub (.send envelope) history).published.length := by
    have := told.early
    simp only [record, List.length_append]
    omega
  have ledger : (record hub (.send envelope) history).ledger i =
      if subscriber.live ∧ subscriber.topic = envelope.topic then
        (history.ledger i).send (roundCapacity hub.subscriptions.capacity) envelope
      else history.ledger i := by
    simp only [record, sendTo, present]
  by_cases reached : subscriber.live ∧ subscriber.topic = envelope.topic
  · obtain ⟨live, same⟩ := reached
    have tracks := told.tracked live
    have mailbox := wired.mailbox_send present live envelope
    rw [if_pos ⟨live, same⟩] at ledger
    rw [if_pos same] at due mailbox
    have complete : ((record hub (.send envelope) history).ledger i).sent =
        (record hub (.send envelope) history).due i subscriber.topic := by
      rw [ledger, Ledger.send_sent, told.complete live]
      exact due.symm
    exact
      { early
        sent := complete ▸ List.prefix_rfl
        complete := fun _ => complete
        yielded := by rw [ledger, tracks.values_send]; exact told.yielded
        ordered := by rw [ledger, Ledger.send_read]; exact told.ordered
        within := fun j member => by
          rw [ledger, Ledger.send_read] at member
          rw [ledger, Ledger.send_sent, List.length_append]
          exact Nat.lt_add_right _ (told.within j member)
        tracked := fun _ => by
          rw [ledger, mailbox]
          exact tracks.send (wired.mailbox_bounded present live) envelope }
  · -- nothing is sent to a subscriber that is gone or listens to another topic
    rw [if_neg reached] at ledger
    exact
      { early
        sent := by
          rw [ledger]
          exact told.sent.trans (due ▸ List.prefix_append _ _)
        complete := fun live => by
          have different : subscriber.topic ≠ envelope.topic := fun same => reached ⟨live, same⟩
          rw [if_neg different, List.append_nil] at due
          rw [ledger, told.complete live]
          exact due.symm
        yielded := by rw [ledger]; exact told.yielded
        ordered := by rw [ledger]; exact told.ordered
        within := by rw [ledger]; exact told.within
        tracked := fun live => by
          have different : subscriber.topic ≠ envelope.topic := fun same => reached ⟨live, same⟩
          have mailbox := wired.mailbox_send present live envelope
          rw [if_neg different] at mailbox
          rw [ledger, mailbox]
          exact told.tracked live }

/-! ## The other steps -/

section

variable {history : HubHistory} {hub : Hub} {i : Nat} {subscriber : Subscriber}

theorem Told.frame {later : HubHistory} {after : Hub} (told : history.Told hub i subscriber)
    (published : later.published = history.published) (since : later.since i = history.since i)
    (ledger : later.ledger i = history.ledger i)
    (mailbox : subscriber.live → after.mailbox subscriber.receiver = hub.mailbox subscriber.receiver) :
    later.Told after i subscriber := by
  have due : later.due i subscriber.topic = history.due i subscriber.topic := by
    rw [HubHistory.due, HubHistory.due, published, since]
  exact
    { early := by rw [published, since]; exact told.early
      sent := by rw [ledger, due]; exact told.sent
      complete := by rw [ledger, due]; exact told.complete
      yielded := by rw [ledger]; exact told.yielded
      ordered := by rw [ledger]; exact told.ordered
      within := by rw [ledger]; exact told.within
      tracked := fun live => by rw [ledger, mailbox live]; exact told.tracked live }

theorem Follows.attach (wired : hub.Wired) (follows : history.Follows hub) (topic : String) :
    (record hub (.attach topic) history).Follows (hub.next (.attach topic)) := by
  obtain ⟨opened, receiver, opening, after, wiredAfter⟩ := wired.attach topic
  intro j found at_j
  have at_j' := at_j
  rw [after, List.getElem?_append] at at_j
  split_ifs at at_j with old
  · have different : j ≠ hub.subscribers.length := Nat.ne_of_lt old
    apply (follows j found at_j).frame
    · rfl
    · exact Function.update_of_ne different _ _
    · exact Function.update_of_ne different _ _
    · exact fun live => wired.mailbox_attach at_j live topic
  · have last : j = hub.subscribers.length := by
      have := (List.getElem?_eq_some_iff.mp at_j).1
      rw [List.length_singleton] at this
      omega
    obtain rfl := List.mem_singleton.mp (List.mem_of_getElem? at_j)
    subst last
    have since : (record hub (.attach topic) history).since hub.subscribers.length =
        history.published.length := Function.update_self _ _ _
    have ledger : (record hub (.attach topic) history).ledger hub.subscribers.length = .empty :=
      Function.update_self _ _ _
    have due : (record hub (.attach topic) history).due hub.subscribers.length topic = [] := by
      rw [HubHistory.due, since]
      simp [record]
    have mailbox : (hub.next (.attach topic)).mailbox receiver = ⟨0, []⟩ := by
      obtain ⟨channel, ring, atTail⟩ := opening.atTail
      have found := @Hub.mailbox_of_ring (hub.next (.attach topic)) ⟨topic, receiver, true, []⟩ channel
        (by rw [after]; exact opening.sender) (by rw [after]; exact ring)
      rw [found, atTail]
      exact channel.mailbox_tail
    exact
      { early := le_of_eq since
        sent := by rw [ledger]; exact List.nil_prefix
        complete := fun _ => by rw [ledger, due]; rfl
        yielded := by rw [ledger]; rfl
        ordered := by rw [ledger]; exact List.Pairwise.nil
        within := by rw [ledger]; simp [Ledger.empty]
        tracked := fun _ => by rw [ledger, mailbox]; exact Ledger.tracks_empty }

theorem Follows.read (wired : hub.Wired) (follows : history.Follows hub)
    (present : hub.subscribers[i]? = some subscriber) (live : subscriber.live) :
    (record hub (.read i) history).Follows (hub.next (.read i)) := by
  obtain ⟨received, receiver, recv, _, reads⟩ := wired.recv present live
  have told := follows i subscriber present
  obtain ⟨tracks, values⟩ := (told.tracked live).receive reads
  have recorded : record hub (.read i) history = history.readBy i received := by
    simp only [record, present, recv]
  have after : hub.next (.read i) = { hub with
      subscribers := hub.subscribers.set i { subscriber with
        receiver := receiver, yielded := subscriber.yielded ++ yields received }
      lagEvents := hub.lagEvents + lagEvent received } := by
    simp only [Hub.next, present, Hub.readBy, recv]
  have mailbox (r : Receiver) : (hub.next (.read i)).mailbox r = hub.mailbox r := by
    rw [after]
    rfl
  intro j found at_j
  rw [after] at at_j
  rw [recorded]
  rcases Hub.getElem?_set_subscriber at_j with ⟨rfl, rfl⟩ | ⟨different, old⟩
  · have ledger : (history.readBy j received).ledger j = (history.ledger j).receive received :=
      Function.update_self _ _ _
    exact
      { early := told.early
        sent := by rw [ledger, Ledger.receive_sent]; exact told.sent
        complete := by rw [ledger, Ledger.receive_sent]; exact told.complete
        yielded := by rw [ledger, values, List.map_append, told.yielded]; rfl
        ordered := by rw [ledger]; exact tracks.readOrder
        within := fun j member => by rw [ledger] at member ⊢; exact tracks.read_lt member
        tracked := fun _ => by rw [ledger, mailbox]; exact tracks }
  · apply (follows j found old).frame
    · rfl
    · rfl
    · exact Function.update_of_ne different _ _
    · exact fun _ => mailbox _

theorem Follows.detach (follows : history.Follows hub)
    (present : hub.subscribers[i]? = some subscriber) :
    (record hub (.detach i) history).Follows (hub.next (.detach i)) := by
  have mailbox := Hub.mailbox_detach present
  intro j found at_j
  have after : (hub.next (.detach i)).subscribers =
      hub.subscribers.set i { subscriber with live := false } := by
    simp only [Hub.next, present, Hub.detachBy]
  rw [after] at at_j
  rcases Hub.getElem?_set_subscriber at_j with ⟨rfl, rfl⟩ | ⟨_, old⟩
  · have told := follows j subscriber present
    exact { told with
      complete := by intro live; cases live
      tracked := by intro live; cases live }
  · exact (follows j found old).frame rfl rfl rfl fun _ => mailbox _

end

theorem follows_reachable {state : Hub × HubHistory} (reachable : recordedHub.Reachable state) :
    state.2.Follows state.1 := by
  apply reachable.invariant
  · rintro ⟨_, _⟩ ⟨⟨capacity, _, rfl⟩, rfl⟩ i subscriber present
    simp [Hub.start] at present
  · rintro ⟨hub, history⟩ label reached follows enabled
    have wired := Hub.wired_reachable reached.forget
    cases label with
    | send envelope =>
        intro i subscriber present
        exact (follows i subscriber present).send wired present envelope
    | attach topic => exact Follows.attach wired follows topic
    | read i =>
        obtain ⟨subscriber, present, live⟩ := enabled
        exact Follows.read wired follows present live
    | detach i =>
        obtain ⟨subscriber, present, live⟩ := enabled
        exact Follows.detach follows present

end HubHistory
/-! ## Delivery -/

open HubHistory

section

variable {PeerId : Type}

/-- What a stream has yielded of the messages due to it, and what has become of the others. -/
structure Delivered (state : Fanout PeerId) (history : HubHistory) (i : Nat) (stream : Stream) :
    Prop where
  onTopic : ∀ envelope ∈ stream.yielded, envelope.topic = stream.topic
  inOrder : (history.ledger i).read.Pairwise (· < ·)
  yielded : stream.yielded.map some =
    (history.ledger i).read.map fun j => (history.due i stream.topic)[j]?.map Envelope.toPubsub
  buffered : stream.live → (history.due i stream.topic).drop
    ((history.due i stream.topic).length - (state.hub.mailbox stream.receiver).queue.length) =
      (state.hub.mailbox stream.receiver).queue
  /-- Whatever was due and is neither yielded nor buffered was overwritten, and nothing else was. -/
  overwritten : stream.live → ∀ j, j ∈ (history.ledger i).lost ↔
    j < (history.due i stream.topic).length ∧ j ∉ (history.ledger i).read ∧
      ¬ (history.due i stream.topic).length - (state.hub.mailbox stream.receiver).queue.length ≤ j
  attached : stream.live →
    state.subscriptions.senders.get stream.topic = some stream.receiver.channel
  neverClosed : stream.live → ∀ moved,
    state.subscriptions.recv stream.receiver ≠ some (.closed, moved)

theorem HubHistory.Told.yielded_at {history : HubHistory} {hub : Hub} {i : Nat}
    {subscriber : Subscriber} (told : history.Told hub i subscriber) :
    subscriber.yielded.map some = (history.ledger i).read.map fun j =>
      (history.due i subscriber.topic)[j]?.map Envelope.toPubsub := by
  have values := congrArg (List.map (Option.map Envelope.toPubsub))
    (Ledger.map_some_values told.within)
  rw [List.map_map, List.map_map] at values
  rw [told.yielded, List.map_map]
  refine values.trans (List.map_congr_left fun j member => ?_)
  obtain ⟨rest, due⟩ := told.sent
  rw [← due, List.getElem?_append_left (told.within j member)]
  rfl

theorem delivered_of_told {state : Fanout PeerId} {history : HubHistory} (wired : state.hub.Wired)
    {i : Nat} {stream : Stream} (present : state.hub.subscribers[i]? = some stream.subscriber)
    (told : history.Told state.hub i stream.subscriber) : Delivered state history i stream where
  onTopic envelope member := by
    have member : envelope ∈ stream.subscriber.yielded := member
    rw [told.yielded] at member
    obtain ⟨published, read, rfl⟩ := List.mem_map.mp member
    have due := told.sent.mem (Ledger.mem_sent_of_mem_values read)
    exact of_decide_eq_true (List.mem_filter.mp due).2
  inOrder := told.ordered
  yielded := told.yielded_at
  buffered live := by
    have queue := (told.tracked live).queue
    rw [told.complete live] at queue
    exact queue
  overwritten live j := by
    have disjoint := (told.tracked live).disjoint j
    have settled := (told.tracked live).settled j
    rw [told.complete live] at settled
    constructor
    · intro lost
      have early := settled.mp (.inr lost)
      exact ⟨Nat.lt_of_lt_of_le early (Nat.sub_le _ _), fun read => disjoint read lost,
        Nat.not_le_of_lt early⟩
    · rintro ⟨_, unread, early⟩
      exact (settled.mpr (Nat.lt_of_not_le early)).resolve_left unread
  attached live := (wired.attached present live).sender
  neverClosed live moved := by
    obtain ⟨received, receiver, recv, _, reads⟩ := wired.recv present live
    intro closed
    rw [show state.subscriptions.recv stream.receiver = some (received, receiver) from recv] at closed
    cases closed
    exact reads.ne_closed rfl

variable [TextCodec PeerId] [DecidableEq PeerId] [TextCodec (Multiaddr PeerId)]
  [ToString CommandError]

theorem fanout_delivers {state : Fanout PeerId × HubHistory}
    (reachable : (recordedFanout PeerId).Reachable state) :
    (∀ (i : Nat) (stream : Stream), state.1.streams[i]? = some stream →
      Delivered state.1 state.2 i stream) ∧
    ∀ envelope, (state.1.subscriptions.publish envelope).2 =
      state.1.streams.countP fun stream => stream.live && decide (stream.topic = envelope.topic) := by
  have abstract := (fanoutRefinement PeerId).reachable_withHistory reachable
  have wired := Hub.wired_reachable abstract.forget
  have follows := HubHistory.follows_reachable abstract
  constructor
  · intro i stream present
    have attached := Fanout.hub_subscriber present
    exact delivered_of_told wired attached (follows i stream.subscriber attached)
  · intro envelope
    have counted := (wired.sound.publish_count envelope).trans (wired.counted envelope.topic)
    refine counted.trans ?_
    exact List.countP_map

end

open Sample in
/-- A message arrives between the creation of a receiver and the join, a second stream opens on the
same topic, and the ring of two overruns the first. -/
theorem fanout_delivers_overrun :
    let run : List (FanoutLabel Peer) :=
      [.subscribe "t", gossip "t" 1] ++ joined 0 10 ++ [.subscribe "t", gossip "u" 9] ++
        joined 1 11 ++ [gossip "t" 2, gossip "t" 3, .read 0, .read 0, .read 1]
    let state := (recordedFanout Peer).after (service 2, .empty) run
    Delivered state.1 state.2 0 ⟨"t", ⟨0, 2⟩, .streaming, [⟨"t", TextCodec.toStr Peer.alice, [2], 0⟩]⟩ ∧
    (state.2.ledger 0).lost = [0] ∧
    (state.1.subscriptions.publish ⟨"t", "", [], 0⟩).2 = 2 := by
  intro run state
  have legal : (fanoutSystem Peer).Legal (service 2) run := by decide
  have reachable : (recordedFanout Peer).Reachable state :=
    .after (.initial ⟨⟨_, _, _, _, _, by decide, rfl⟩, rfl⟩) (legal.withHistory _)
  obtain ⟨delivered, count⟩ := fanout_delivers reachable
  exact ⟨delivered 0 _ (by decide), by decide, (count _).trans (by decide)⟩

end P2pService
