import P2pService.Proof.Fanout.Rings

/-!
# Every subscriber stays attached

In every run of the hub, a live subscriber's receiver listens on the ring its topic has now, and
the receivers of a ring are the live subscribers of its topic. What each step does to a
subscriber's mailbox follows.
-/

namespace P2pService
open Library

structure Attached (subscriptions : Subscriptions) (subscriber : Subscriber) : Prop where
  sender : subscriptions.senders.get subscriber.topic = some subscriber.receiver.channel
  behind : ∃ channel, subscriptions.ring subscriber.topic = some channel ∧
    subscriber.receiver.next ≤ channel.tail

theorem Attached.mono {before after : Subscriptions} {subscriber : Subscriber}
    (attached : Attached before subscriber)
    (sender : ∀ {id}, before.senders.get subscriber.topic = some id →
      after.senders.get subscriber.topic = some id)
    (ring : ∀ {channel}, before.ring subscriber.topic = some channel →
      ∃ later, after.ring subscriber.topic = some later ∧ channel.tail ≤ later.tail) :
    Attached after subscriber := by
  obtain ⟨channel, found, behind⟩ := attached.behind
  obtain ⟨later, laterFound, grown⟩ := ring found
  exact ⟨sender attached.sender, later, laterFound, behind.trans grown⟩

namespace Hub

structure Wired (hub : Hub) : Prop where
  sound : hub.subscriptions.Sound
  attached : ∀ {i : Nat} {subscriber}, hub.subscribers[i]? = some subscriber → subscriber.live →
    Attached hub.subscriptions subscriber
  counted : ∀ topic, hub.subscriptions.receivers topic = hub.listeners topic

def counts (topic : String) (subscriber : Subscriber) : Bool :=
  subscriber.live && decide (subscriber.topic = topic)

theorem listeners_eq (hub : Hub) (topic : String) :
    hub.listeners topic = hub.subscribers.countP (counts topic) := rfl

section

variable {hub : Hub} {i : Nat} {subscriber : Subscriber}

theorem counts_self (live : subscriber.live) : counts subscriber.topic subscriber = true := by
  simp [counts, live]

theorem listeners_pos (present : hub.subscribers[i]? = some subscriber) {topic : String}
    (counted : counts topic subscriber = true) : 0 < hub.listeners topic := by
  rw [listeners_eq, List.countP_pos_iff]
  exact ⟨subscriber, List.mem_of_getElem? present, counted⟩

theorem countP_set_subscriber (present : hub.subscribers[i]? = some subscriber)
    (changed : Subscriber) (topic : String) :
    (hub.subscribers.set i changed).countP (counts topic) =
      hub.listeners topic - (if counts topic subscriber then 1 else 0) +
        (if counts topic changed then 1 else 0) := by
  obtain ⟨bound, rfl⟩ := List.getElem?_eq_some_iff.mp present
  exact List.countP_set bound

theorem getElem?_set_subscriber {changed found : Subscriber} {j : Nat}
    (at_j : (hub.subscribers.set i changed)[j]? = some found) :
    j = i ∧ found = changed ∨ j ≠ i ∧ hub.subscribers[j]? = some found := by
  rw [List.getElem?_set] at at_j
  split_ifs at at_j with same bound
  · exact .inl ⟨same.symm, (Option.some.inj at_j).symm⟩
  · exact .inr ⟨fun other => same other.symm, at_j⟩

end

/-! ## The steps -/

theorem wired_start {capacity : Nat} (positive : 0 < capacity) : (start capacity).Wired where
  sound := Subscriptions.sound_new positive
  attached := by simp [start]
  counted topic := by simp [start, listeners, Subscriptions.receivers, Subscriptions.ring,
    Subscriptions.new]

theorem Wired.send {hub : Hub} (wired : hub.Wired) (envelope : Envelope) :
    (hub.next (.send envelope)).Wired where
  sound := wired.sound.publish envelope
  attached present live := by
    apply (wired.attached present live).mono
    · intro id sender
      change (hub.subscriptions.publish envelope).1.senders.get _ = some id
      rw [Subscriptions.publish_senders]
      exact sender
    · intro channel found
      change ∃ later, (hub.subscriptions.publish envelope).1.ring _ = _ ∧ _
      rw [wired.sound.publish_ring, found]
      split_ifs
      · exact ⟨_, rfl, channel.tail_le_send envelope⟩
      · exact ⟨_, rfl, le_rfl⟩
  counted topic := by
    change (hub.subscriptions.publish envelope).1.receivers topic = hub.listeners topic
    rw [← wired.counted, Subscriptions.receivers, wired.sound.publish_ring]
    split_ifs
    · rw [Option.map_map]
      congr 2
      funext channel
      exact channel.send_receivers envelope
    · rfl

theorem Wired.attach {hub : Hub} (wired : hub.Wired) (topic : String) :
    ∃ opened receiver, hub.subscriptions.Opened topic opened receiver ∧
      hub.next (.attach topic) = { hub with
        subscriptions := opened
        subscribers := hub.subscribers ++ [⟨topic, receiver, true, []⟩] } ∧
      (hub.next (.attach topic)).Wired := by
  obtain ⟨opened, receiver, subscribed, opening⟩ := wired.sound.subscribe topic
  have after : hub.next (.attach topic) = { hub with
      subscriptions := opened
      subscribers := hub.subscribers ++ [⟨topic, receiver, true, []⟩] } := by
    rw [next, Hub.attach, subscribed]
  refine ⟨opened, receiver, opening, after, ?_⟩
  rw [after]
  constructor
  case sound => exact opening.sound
  case attached =>
      intro i subscriber present live
      rw [List.getElem?_append] at present
      split_ifs at present with old
      · apply (wired.attached present live).mono opening.kept
        intro channel found
        by_cases same : subscriber.topic = topic
        · rw [same] at found ⊢
          exact ⟨_, opening.extended found, le_rfl⟩
        · exact ⟨channel, (opening.others same).trans found, le_rfl⟩
      · -- the new subscriber
        obtain rfl := List.mem_singleton.mp (List.mem_of_getElem? present)
        obtain ⟨channel, found, atTail⟩ := opening.atTail
        exact ⟨opening.sender, channel, found, le_of_eq atTail⟩
  case counted =>
      intro other
      rw [listeners_eq, List.countP_append, ← listeners_eq, ← wired.counted]
      by_cases same : other = topic
      · rw [same, opening.counted]
        simp [counts]
      · have different : topic ≠ other := fun equal => same equal.symm
        rw [Subscriptions.receivers, Subscriptions.receivers, opening.others same]
        simp [counts, different]

theorem mailbox_of_ring {hub : Hub} {subscriber : Subscriber} {channel : Channel Envelope}
    (sender : hub.subscriptions.senders.get subscriber.topic = some subscriber.receiver.channel)
    (found : hub.subscriptions.ring subscriber.topic = some channel) :
    hub.mailbox subscriber.receiver = channel.mailbox subscriber.receiver.next := by
  have stored : hub.subscriptions.channels[subscriber.receiver.channel]? = some channel := by
    rw [← Subscriptions.ring_of_sender sender, found]
  simp only [mailbox, stored]

theorem Wired.recv {hub : Hub} (wired : hub.Wired) {i : Nat} {subscriber : Subscriber}
    (present : hub.subscribers[i]? = some subscriber) (live : subscriber.live) :
    ∃ received receiver, hub.subscriptions.recv subscriber.receiver = some (received, receiver) ∧
      Attached hub.subscriptions { subscriber with receiver := receiver } ∧
      (hub.mailbox subscriber.receiver).Reads received (hub.mailbox receiver) := by
  have attached := wired.attached present live
  obtain ⟨channel, found, behind⟩ := attached.behind
  have stored : hub.subscriptions.channels[subscriber.receiver.channel]? = some channel := by
    rw [← Subscriptions.ring_of_sender attached.sender, found]
  let receiver := { subscriber.receiver with next := (channel.recv subscriber.receiver.next).2 }
  have held : channel.senders ≠ 0 := by
    rw [(wired.sound.sized_ring found).2]
    exact Nat.one_ne_zero
  refine ⟨(channel.recv subscriber.receiver.next).1, receiver, ?_, ?_, ?_⟩
  · rw [Subscriptions.recv, stored, Option.map_some]
  · exact ⟨attached.sender, channel, found, (channel.recv_next behind).2⟩
  · have after : hub.mailbox receiver = channel.mailbox receiver.next :=
      @mailbox_of_ring hub { subscriber with receiver := receiver } channel attached.sender found
    rw [mailbox_of_ring attached.sender found, after]
    exact Channel.recv_reads held subscriber.receiver.next

theorem Wired.read {hub : Hub} (wired : hub.Wired) {i : Nat} {subscriber : Subscriber}
    (present : hub.subscribers[i]? = some subscriber) (live : subscriber.live) :
    (hub.next (.read i)).Wired := by
  obtain ⟨received, receiver, recv, attached, _⟩ := wired.recv present live
  simp only [next, present, readBy, recv]
  constructor
  case sound => exact wired.sound
  case attached =>
      intro j other at_j liveOther
      rcases getElem?_set_subscriber at_j with ⟨_, rfl⟩ | ⟨_, old⟩
      · exact ⟨attached.sender, attached.behind⟩
      · exact wired.attached old liveOther
  case counted =>
      intro topic
      let moved : Subscriber := { subscriber with
        receiver := receiver, yielded := subscriber.yielded ++ yields received }
      have same : counts topic moved = counts topic subscriber := rfl
      have unchanged := countP_set_subscriber present moved topic
      rw [same] at unchanged
      rw [listeners_eq, wired.counted, unchanged]
      cases counted : counts topic subscriber with
      | false => rfl
      | true => exact (Nat.sub_add_cancel (listeners_pos present counted)).symm

theorem Wired.detach {hub : Hub} (wired : hub.Wired) {i : Nat} {subscriber : Subscriber}
    (present : hub.subscribers[i]? = some subscriber) (live : subscriber.live) :
    (hub.next (.detach i)).Wired := by
  have rings := wired.sound.dropReceiver_ring (wired.attached present live).sender
  simp only [next, present, detachBy]
  constructor
  case sound => exact wired.sound.dropReceiver _
  case attached =>
      intro j other at_j liveOther
      rcases getElem?_set_subscriber at_j with ⟨_, rfl⟩ | ⟨_, old⟩
      · cases liveOther
      · apply (wired.attached old liveOther).mono
        · exact fun sender => sender
        · intro channel found
          change ∃ later, (hub.subscriptions.dropReceiver subscriber.receiver).ring _ = _ ∧ _
          rw [rings, found]
          split_ifs
          · exact ⟨_, rfl, le_rfl⟩
          · exact ⟨_, rfl, le_rfl⟩
  case counted =>
      intro topic
      have gone : counts topic { subscriber with live := false } = false := rfl
      rw [listeners_eq, countP_set_subscriber present, ← wired.counted, Subscriptions.receivers,
        Subscriptions.receivers, rings, gone]
      by_cases same : topic = subscriber.topic
      · have counted : counts topic subscriber = true := same ▸ counts_self live
        rw [if_pos same, counted, Option.map_map]
        cases hub.subscriptions.ring topic <;> rfl
      · have others : counts topic subscriber = false := by
          have different : subscriber.topic ≠ topic := fun equal => same equal.symm
          simp [counts, different]
        rw [if_neg same, others]
        rfl

theorem Wired.next {hub : Hub} (wired : hub.Wired) {label : HubLabel} (enabled : hub.Enabled label) :
    (hub.next label).Wired := by
  cases label with
  | send envelope => exact wired.send envelope
  | attach topic =>
      obtain ⟨_, _, _, _, kept⟩ := wired.attach topic
      exact kept
  | read i =>
      obtain ⟨subscriber, present, live⟩ := enabled
      exact wired.read present live
  | detach i =>
      obtain ⟨subscriber, present, live⟩ := enabled
      exact wired.detach present live

theorem wired_reachable {hub : Hub} (reachable : hubSystem.Reachable hub) : hub.Wired := by
  apply reachable.invariant
  · rintro _ ⟨capacity, positive, rfl⟩
    exact wired_start positive
  · intro hub label _ wired enabled
    exact wired.next enabled

/-! ## What the steps do to mailboxes -/

section

variable {hub : Hub} {i : Nat} {subscriber : Subscriber}

theorem Wired.mailbox_bounded (wired : hub.Wired) (present : hub.subscribers[i]? = some subscriber)
    (live : subscriber.live) : (hub.mailbox subscriber.receiver).queue.length ≤
      roundCapacity hub.subscriptions.capacity := by
  have attached := wired.attached present live
  obtain ⟨channel, found, _⟩ := attached.behind
  rw [mailbox_of_ring attached.sender found, ← (wired.sound.sized_ring found).1]
  exact channel.mailbox_length_le _

theorem Wired.mailbox_send (wired : hub.Wired) (present : hub.subscribers[i]? = some subscriber)
    (live : subscriber.live) (envelope : Envelope) :
    (hub.next (.send envelope)).mailbox subscriber.receiver =
      if subscriber.topic = envelope.topic then
        (hub.mailbox subscriber.receiver).push (roundCapacity hub.subscriptions.capacity) envelope
      else hub.mailbox subscriber.receiver := by
  have attached := wired.attached present live
  obtain ⟨channel, found, behind⟩ := attached.behind
  have sender := ((wired.send envelope).attached present live).sender
  have ring := wired.sound.publish_ring envelope subscriber.topic
  simp only [found, Option.map_some] at ring
  rw [mailbox_of_ring attached.sender found]
  split_ifs at ring ⊢ with same
  · -- the subscriber itself makes the ring one that is listened to
    have listening : 0 < channel.receivers := by
      have positive := listeners_pos present (counts_self live)
      rw [← wired.counted, Subscriptions.receivers, found] at positive
      exact positive
    rw [mailbox_of_ring sender ring, Channel.send_of_pos listening, channel.mailbox_push behind,
      (wired.sound.sized_ring found).1]
  · exact mailbox_of_ring sender ring

theorem mailbox_detach (present : hub.subscribers[i]? = some subscriber) (receiver : Receiver) :
    (hub.next (.detach i)).mailbox receiver = hub.mailbox receiver := by
  simp only [next, present, detachBy, mailbox, Subscriptions.dropReceiver, List.getElem?_modify]
  cases hub.subscriptions.channels[receiver.channel]? with
  | none => rfl
  | some channel =>
      by_cases same : subscriber.receiver.channel = receiver.channel
      · -- a ring keeps its messages when a receiver of it goes
        simp only [same, if_true]
        rfl
      · simp [same]

theorem Wired.mailbox_attach (wired : hub.Wired) (present : hub.subscribers[i]? = some subscriber)
    (live : subscriber.live) (topic : String) :
    (hub.next (.attach topic)).mailbox subscriber.receiver = hub.mailbox subscriber.receiver := by
  have attached := wired.attached present live
  obtain ⟨channel, found, _⟩ := attached.behind
  obtain ⟨opened, receiver, opening, after, _⟩ := wired.attach topic
  have sender : (hub.next (.attach topic)).subscriptions.senders.get subscriber.topic =
      some subscriber.receiver.channel := by rw [after]; exact opening.kept attached.sender
  rw [mailbox_of_ring attached.sender found]
  by_cases same : subscriber.topic = topic
  · have ring : (hub.next (.attach topic)).subscriptions.ring subscriber.topic =
        some channel.subscribe.1 := by
      rw [after, same]
      exact opening.extended (same ▸ found)
    exact (mailbox_of_ring sender ring).trans (channel.mailbox_subscribe _)
  · have ring : (hub.next (.attach topic)).subscriptions.ring subscriber.topic = some channel := by
      rw [after]
      exact (opening.others same).trans found
    exact mailbox_of_ring sender ring

end

end Hub
end P2pService
