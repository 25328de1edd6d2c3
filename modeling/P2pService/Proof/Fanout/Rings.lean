import P2pService.World.Hub
import Mathlib.Data.List.Basic

/-!
# One ring for each topic

The map of senders and the list of rings behind it amount to one ring for each topic that was ever
subscribed to, and no operation takes a topic's ring away from it. Each live subscriber listens on
the ring of its topic, and a ring has as many receivers as its topic has live subscribers.
-/

namespace P2pService
open Library

namespace Subscriptions

/-- The ring of a topic, if it ever had a subscriber. -/
def ring (subscriptions : Subscriptions) (topic : String) : Option (Channel Envelope) :=
  (subscriptions.senders.get topic).bind fun id => subscriptions.channels[id]?

def receivers (subscriptions : Subscriptions) (topic : String) : Nat :=
  ((subscriptions.ring topic).map Channel.receivers).getD 0

/-- No two topics share a ring, and every ring has the capacity it was asked for and its sender. -/
structure Sound (subscriptions : Subscriptions) : Prop where
  positive : 0 < subscriptions.capacity
  valid : ∀ {topic id}, subscriptions.senders.get topic = some id → id < subscriptions.channels.length
  separate : ∀ {first second id}, subscriptions.senders.get first = some id →
    subscriptions.senders.get second = some id → first = second
  sized : ∀ channel ∈ subscriptions.channels,
    channel.capacity = roundCapacity subscriptions.capacity ∧ channel.senders = 1

theorem sound_new {capacity : Nat} (positive : 0 < capacity) : (new capacity).Sound where
  positive := positive
  valid := by simp [new]
  separate := by simp [new]
  sized := by simp [new]

section

variable {subscriptions : Subscriptions} {topic : String} {id : ChannelId}

theorem ring_of_sender (sender : subscriptions.senders.get topic = some id) :
    subscriptions.ring topic = subscriptions.channels[id]? := by
  rw [ring, sender, Option.bind_some]

theorem Sound.exists_ring (sound : subscriptions.Sound)
    (sender : subscriptions.senders.get topic = some id) :
    ∃ channel, subscriptions.ring topic = some channel ∧ subscriptions.channels[id]? = some channel := by
  have bound := sound.valid sender
  exact ⟨_, (ring_of_sender sender).trans (List.getElem?_eq_getElem bound),
    List.getElem?_eq_getElem bound⟩

theorem Sound.sized_ring (sound : subscriptions.Sound) {channel : Channel Envelope}
    (found : subscriptions.ring topic = some channel) :
    channel.capacity = roundCapacity subscriptions.capacity ∧ channel.senders = 1 := by
  obtain ⟨_, _, stored⟩ := Option.bind_eq_some_iff.mp found
  exact sound.sized channel (List.mem_of_getElem? stored)

/-! ## Changing one ring -/

def changeRing (subscriptions : Subscriptions) (id : ChannelId)
    (change : Channel Envelope → Channel Envelope) : Subscriptions :=
  { subscriptions with channels := subscriptions.channels.modify id change }

theorem Sound.changeRing (sound : subscriptions.Sound)
    {change : Channel Envelope → Channel Envelope}
    (same : ∀ channel, (change channel).capacity = channel.capacity ∧
      (change channel).senders = channel.senders) : (subscriptions.changeRing id change).Sound where
  positive := sound.positive
  valid sender := by
    rw [Subscriptions.changeRing, List.length_modify]
    exact sound.valid sender
  separate := sound.separate
  sized channel member := by
    obtain ⟨j, stored⟩ := List.mem_iff_getElem?.mp member
    rw [Subscriptions.changeRing, List.getElem?_modify] at stored
    obtain ⟨old, oldStored, rfl⟩ := Option.map_eq_some_iff.mp stored
    have oldSized := sound.sized old (List.mem_of_getElem? oldStored)
    split_ifs
    · rw [(same old).1, (same old).2]; exact oldSized
    · exact oldSized

theorem Sound.changeRing_ring (sound : subscriptions.Sound)
    (sender : subscriptions.senders.get topic = some id)
    (change : Channel Envelope → Channel Envelope) (other : String) :
    (subscriptions.changeRing id change).ring other =
      if other = topic then (subscriptions.ring other).map change else subscriptions.ring other := by
  unfold ring Subscriptions.changeRing
  cases found : subscriptions.senders.get other with
  | none => simp
  | some otherId =>
      have same : other = topic ↔ id = otherId := by
        constructor
        · rintro rfl; exact Option.some.inj (sender.symm.trans found)
        · rintro rfl; exact sound.separate found sender
      simp only [Option.bind_some, List.getElem?_modify, same]
      split_ifs <;> simp

theorem set_eq_changeRing {channel : Channel Envelope}
    (stored : subscriptions.channels[id]? = some channel)
    (change : Channel Envelope → Channel Envelope) :
    { subscriptions with channels := subscriptions.channels.set id (change channel) } =
      subscriptions.changeRing id change := by
  have : Inhabited (Channel Envelope) := ⟨channel⟩
  rw [changeRing, List.modify_eq_set, stored, Option.getD_some]

end

/-! ## The operations -/

variable {subscriptions : Subscriptions}

theorem publish_none {envelope : Envelope} (silent : subscriptions.senders.get envelope.topic = none) :
    subscriptions.publish envelope = (subscriptions, 0) := by
  rw [publish, silent]

theorem Sound.publish_eq (sound : subscriptions.Sound) {envelope : Envelope} {id : ChannelId}
    (sender : subscriptions.senders.get envelope.topic = some id) :
    (subscriptions.publish envelope).1 =
      subscriptions.changeRing id fun channel => (channel.send envelope).1 := by
  obtain ⟨channel, _, stored⟩ := sound.exists_ring sender
  rw [publish, sender]
  simp only [stored]
  exact set_eq_changeRing stored fun channel => (channel.send envelope).1

theorem Sound.publish (sound : subscriptions.Sound) (envelope : Envelope) :
    (subscriptions.publish envelope).1.Sound := by
  cases sender : subscriptions.senders.get envelope.topic with
  | none => rw [publish_none sender]; exact sound
  | some id =>
      rw [sound.publish_eq sender]
      apply sound.changeRing
      intro channel
      unfold Channel.send
      split_ifs <;> exact ⟨rfl, rfl⟩

@[simp] theorem publish_senders (subscriptions : Subscriptions) (envelope : Envelope) :
    (subscriptions.publish envelope).1.senders = subscriptions.senders := by
  unfold publish
  split
  · rfl
  · split <;> rfl

theorem Sound.publish_ring (sound : subscriptions.Sound) (envelope : Envelope) (topic : String) :
    (subscriptions.publish envelope).1.ring topic =
      if topic = envelope.topic then
        (subscriptions.ring topic).map fun channel => (channel.send envelope).1
      else subscriptions.ring topic := by
  cases sender : subscriptions.senders.get envelope.topic with
  | none =>
      rw [publish_none sender]
      split_ifs with same
      · rw [same, ring, sender]; rfl
      · rfl
  | some id =>
      rw [sound.publish_eq sender]
      exact sound.changeRing_ring sender _ topic

theorem Sound.publish_count (sound : subscriptions.Sound) (envelope : Envelope) :
    (subscriptions.publish envelope).2 = subscriptions.receivers envelope.topic := by
  cases sender : subscriptions.senders.get envelope.topic with
  | none => rw [publish_none sender, receivers, ring, sender]; rfl
  | some id =>
      obtain ⟨channel, found, stored⟩ := sound.exists_ring sender
      rw [receivers, found, Subscriptions.publish, sender]
      simp only [stored, Channel.send]
      split_ifs with silent
      · exact silent.symm
      · rfl

/-! ### Subscribing -/

/-- What a subscription finds and leaves: the ring of its topic, new or with one receiver more, and
every other ring as it was. -/
structure Opened (before : Subscriptions) (topic : String) (after : Subscriptions)
    (receiver : Receiver) : Prop where
  sound : after.Sound
  capacity : after.capacity = before.capacity
  kept : ∀ {other id}, before.senders.get other = some id → after.senders.get other = some id
  sender : after.senders.get topic = some receiver.channel
  others : ∀ {other}, other ≠ topic → after.ring other = before.ring other
  extended : ∀ {channel}, before.ring topic = some channel →
    after.ring topic = some channel.subscribe.1
  atTail : ∃ channel, after.ring topic = some channel ∧ receiver.next = channel.tail
  counted : after.receivers topic = before.receivers topic + 1

theorem Sound.addReceiver (sound : subscriptions.Sound) {topic : String} {id : ChannelId}
    (sender : subscriptions.senders.get topic = some id) :
    ∃ opened receiver, subscriptions.addReceiver id = some (opened, receiver) ∧
      subscriptions.Opened topic opened receiver := by
  obtain ⟨channel, found, stored⟩ := sound.exists_ring sender
  have changed := sound.changeRing_ring sender (fun channel => channel.subscribe.1)
  have atTopic : (subscriptions.changeRing id fun channel => channel.subscribe.1).ring topic =
      some channel.subscribe.1 := by rw [changed, if_pos rfl, found, Option.map_some]
  refine ⟨subscriptions.changeRing id fun channel => channel.subscribe.1, ⟨id, channel.tail⟩, ?_, ?_⟩
  · rw [Subscriptions.addReceiver, stored, Option.map_some,
      set_eq_changeRing stored fun channel => channel.subscribe.1]
    rfl
  · exact
      { sound := sound.changeRing fun _ => ⟨rfl, rfl⟩
        capacity := rfl
        kept := fun sender => sender
        sender := sender
        others := fun different => by rw [changed, if_neg different]
        extended := fun other => by rw [atTopic, ← Option.some.inj (found.symm.trans other)]
        atTail := ⟨_, atTopic, rfl⟩
        counted := by rw [receivers, receivers, atTopic, found]; rfl }

def grow (subscriptions : Subscriptions) (topic : String) (channel : Channel Envelope) :
    Subscriptions :=
  { subscriptions with
    senders := subscriptions.senders.insert topic subscriptions.channels.length
    channels := subscriptions.channels ++ [channel] }

section

variable {topic : String} {channel : Channel Envelope}

theorem grow_sender_self :
    (subscriptions.grow topic channel).senders.get topic = some subscriptions.channels.length :=
  HashMap.get_insert_self _ _ _

theorem grow_sender {other : String} (different : other ≠ topic) :
    (subscriptions.grow topic channel).senders.get other = subscriptions.senders.get other := by
  rw [grow, HashMap.get_insert, if_neg different]

theorem Sound.grow (sound : subscriptions.Sound)
    (sized : channel.capacity = roundCapacity subscriptions.capacity ∧ channel.senders = 1) :
    (subscriptions.grow topic channel).Sound where
  positive := sound.positive
  valid {other id} sender := by
    have length : (subscriptions.grow topic channel).channels.length =
      subscriptions.channels.length + 1 := List.length_append
    rw [length]
    by_cases same : other = topic
    · rw [same, grow_sender_self] at sender
      exact Option.some.inj sender ▸ Nat.lt_succ_self _
    · rw [grow_sender same] at sender
      exact Nat.lt_succ_of_lt (sound.valid sender)
  separate {first second id} one two := by
    by_cases isFirst : first = topic <;> by_cases isSecond : second = topic
    · rw [isFirst, isSecond]
    · rw [isFirst, grow_sender_self] at one
      rw [grow_sender isSecond] at two
      exact absurd (Option.some.inj one) (Nat.ne_of_gt (sound.valid two))
    · rw [isSecond, grow_sender_self] at two
      rw [grow_sender isFirst] at one
      exact absurd (Option.some.inj two) (Nat.ne_of_gt (sound.valid one))
    · rw [grow_sender isFirst] at one
      rw [grow_sender isSecond] at two
      exact sound.separate one two
  sized other member := by
    rcases List.mem_append.mp member with old | new
    · exact sound.sized other old
    · rw [List.mem_singleton.mp new]; exact sized

theorem Sound.grow_ring (sound : subscriptions.Sound) {other : String} (different : other ≠ topic) :
    (subscriptions.grow topic channel).ring other = subscriptions.ring other := by
  rw [ring, ring, grow_sender different]
  cases sender : subscriptions.senders.get other with
  | none => rfl
  | some id => exact List.getElem?_append_left (sound.valid sender)

theorem grow_ring_self : (subscriptions.grow topic channel).ring topic = some channel := by
  rw [ring_of_sender grow_sender_self, grow, List.getElem?_append_right (Nat.le_refl _),
    Nat.sub_self]
  rfl

end

theorem Sound.subscribe (sound : subscriptions.Sound) (topic : String) :
    ∃ opened receiver, subscriptions.subscribe topic = some (opened, receiver) ∧
      subscriptions.Opened topic opened receiver := by
  cases sender : subscriptions.senders.get topic with
  | some id =>
      rw [Subscriptions.subscribe, sender]
      exact sound.addReceiver sender
  | none =>
      obtain ⟨channel, new, capacity, receivers, senders⟩ := @Channel.new_of_pos Envelope _ sound.positive
      have sized : channel.dropReceiver.capacity = roundCapacity subscriptions.capacity ∧
        channel.dropReceiver.senders = 1 := ⟨capacity, senders⟩
      have grown : (subscriptions.grow topic channel.dropReceiver).Sound := sound.grow sized
      obtain ⟨opened, receiver, added, result⟩ := grown.addReceiver grow_sender_self
      have absent : subscriptions.ring topic = none := by rw [ring, sender]; rfl
      refine ⟨opened, receiver, ?_, ?_⟩
      · rw [Subscriptions.subscribe, sender, new]
        exact added
      · exact
          { sound := result.sound
            capacity := result.capacity
            kept := fun {other id} known => by
              apply result.kept
              rw [grow_sender ?_]
              · exact known
              · rintro rfl
                rw [sender] at known
                cases known
            sender := result.sender
            others := fun different => (result.others different).trans (sound.grow_ring different)
            extended := fun found => by rw [absent] at found; cases found
            atTail := result.atTail
            counted := by
              have counted := result.counted
              have alone : channel.dropReceiver.receivers = 0 := by
                rw [Channel.dropReceiver, receivers]
              rw [Subscriptions.receivers, Subscriptions.receivers, grow_ring_self, Option.map_some,
                Option.getD_some, alone] at counted
              rw [Subscriptions.receivers, Subscriptions.receivers, absent, counted]
              rfl }

/-! ### Dropping a receiver -/

theorem Sound.dropReceiver (sound : subscriptions.Sound) (receiver : Receiver) :
    (subscriptions.dropReceiver receiver).Sound := sound.changeRing fun _ => ⟨rfl, rfl⟩

theorem Sound.dropReceiver_ring (sound : subscriptions.Sound) {topic : String} {receiver : Receiver}
    (sender : subscriptions.senders.get topic = some receiver.channel) (other : String) :
    (subscriptions.dropReceiver receiver).ring other =
      if other = topic then (subscriptions.ring other).map Channel.dropReceiver
      else subscriptions.ring other := sound.changeRing_ring sender _ other

end Subscriptions
end P2pService
