import P2pService.Proof.Dials.Answered
import P2pService.Proof.Fanout.Refinement
import P2pService.World.Gossip

/-!
# Messages on different topics

The id of a message is made of its payload alone, so the duplicate cache knows payloads and not
topics: a message is taken for a duplicate when its payload was cached on any topic.
-/

namespace P2pService
open Library

theorem uint64_toString_inj {m n : UInt64} : toString m = toString n ↔ m = n := by
  refine ⟨fun same => ?_, congrArg _⟩
  have digits : Nat.toDigits 10 m.toNat = Nat.toDigits 10 n.toNat := by
    rw [← Nat.toList_repr, ← Nat.toList_repr]
    exact congrArg String.toList same
  have value (k : Nat) : Nat.ofDigitChars 10 (Nat.toDigits 10 k) 0 = k :=
    Nat.ofDigitChars_toDigits (by decide) (by decide)
  exact UInt64.toNat_inj.mp ((value m.toNat).symm.trans (digits ▸ value n.toNat))

namespace Gossip

/-- The ids in a duplicate cache are those of the cached arrivals. -/
def Holds (hasher : List UInt8 → UInt64) (cache : Finset String) (arrivals : List Arrival) : Prop :=
  ∀ id, id ∈ cache ↔ ∃ arrival ∈ arrivals, arrival.cached ∧ id = toString (hasher arrival.payload)

variable {PeerId : Type} [DecidableEq PeerId] [TextCodec PeerId] [TextCodec (Multiaddr PeerId)]
  [ToString CommandError] {hasher : List UInt8 → UInt64}

theorem next_cache (state : Gossip PeerId) (label : GossipLabel PeerId) :
    (state.next hasher label).duplicateCache =
      match label.arrival? with
      | some arrival =>
          if arrival.cached then insert (toString (hasher arrival.payload)) state.duplicateCache
          else state.duplicateCache
      | none => state.duplicateCache := by
  cases label with
  | publish request view sender cached =>
      by_cases named : request.topic = ""
      · simp [next, GossipLabel.arrival?, named]
      · simp only [next, GossipLabel.arrival?, named, ne_eq, not_false_eq_true, true_and, if_false]
        rfl
  | receive nowMillis message subscribed =>
      by_cases known : messageIdFn hasher message ∈ state.duplicateCache
      · simp only [next, GossipLabel.arrival?, known, if_true]
        exact (Finset.insert_eq_of_mem known).symm
      · simp only [next, GossipLabel.arrival?, known, if_true, if_false]
        rfl
  | service label => rfl

theorem Holds.next {state : Gossip PeerId} {arrivals : List Arrival}
    (holds : Holds hasher state.duplicateCache arrivals) (label : GossipLabel PeerId) :
    Holds hasher (state.next hasher label).duplicateCache (recordArrival state label arrivals) := by
  intro id
  rw [next_cache, recordArrival]
  cases label.arrival? with
  | none =>
      rw [Option.toList_none, List.append_nil]
      exact holds id
  | some arrival =>
      simp only [Option.toList_some, List.mem_append, List.mem_singleton]
      cases kept : arrival.cached with
      | true =>
          rw [if_pos rfl, Finset.mem_insert, holds id]
          constructor
          · rintro (rfl | ⟨earlier, member, cached, rfl⟩)
            · exact ⟨arrival, .inr rfl, kept, rfl⟩
            · exact ⟨earlier, .inl member, cached, rfl⟩
          · rintro ⟨earlier, member | rfl, cached, rfl⟩
            · exact .inr ⟨earlier, member, cached, rfl⟩
            · exact .inl rfl
      | false =>
          rw [if_neg Bool.false_ne_true, holds id]
          constructor
          · rintro ⟨earlier, member, cached, rfl⟩
            exact ⟨earlier, .inl member, cached, rfl⟩
          · rintro ⟨earlier, member | rfl, cached, rfl⟩
            · exact ⟨earlier, member, cached, rfl⟩
            · rw [kept] at cached
              cases cached

omit [TextCodec PeerId] [TextCodec (Multiaddr PeerId)] [ToString CommandError] in
theorem duplicate_iff {state : Gossip PeerId} {arrivals : List Arrival} {label : GossipLabel PeerId}
    (holds : Holds hasher state.duplicateCache arrivals) (enabled : state.Enabled hasher label) :
    state.Duplicate hasher label ↔ ∃ arrival ∈ label.arrival?, ∃ earlier ∈ arrivals,
      earlier.cached ∧ hasher arrival.payload = hasher earlier.payload := by
  have known (data : List UInt8) : toString (hasher data) ∈ state.duplicateCache ↔
      ∃ earlier ∈ arrivals, earlier.cached ∧ hasher data = hasher earlier.payload := by
    refine (holds _).trans ?_
    simp only [uint64_toString_inj]
  cases label with
  | publish request view sender cached =>
      by_cases named : request.topic = ""
      · simp [Duplicate, GossipLabel.arrival?, named]
      · simp only [Duplicate, GossipLabel.arrival?, named, ne_eq, not_false_eq_true, true_and,
          if_false, Option.mem_def, Option.some.injEq, exists_eq_left', enabled.2 named]
        exact known request.payload
  | receive nowMillis message subscribed =>
      simp only [Duplicate, GossipLabel.arrival?, Option.mem_def, Option.some.injEq, exists_eq_left']
      exact known message.data
  | service label => simp [Duplicate, GossipLabel.arrival?]

theorem service_next {state : Gossip PeerId} {label : GossipLabel PeerId}
    (enabled : state.Enabled hasher label) :
    (∃ own, state.service.Enabled own ∧
        (state.next hasher label).service = state.service.next own) ∨
      (state.next hasher label).service = state.service := by
  cases label with
  | publish request view sender cached => exact .inl ⟨_, enabled.1, rfl⟩
  | receive nowMillis message subscribed =>
      simp only [next]
      split_ifs
      · exact .inr rfl
      · exact .inl ⟨.network (.event nowMillis (.gossipsubMessage message)), trivial, rfl⟩
      · exact .inr rfl
  | service label => exact .inl ⟨label, enabled.1, rfl⟩

theorem service_reachable {state : Gossip PeerId}
    (reachable : (gossipSystem PeerId hasher).Reachable state) :
    (fanoutSystem PeerId).Reachable state.service := by
  induction reachable with
  | initial first => exact .initial first.1
  | @next state label _ enabled ih =>
      change (fanoutSystem PeerId).Reachable (state.next hasher label).service
      rcases service_next enabled with ⟨own, ready, same⟩ | same
      · rw [same]
        exact .next ih ready
      · rw [same]
        exact ih

end Gossip

/-! ## What becomes of a duplicate -/

namespace Fanout

variable {PeerId : Type} [DecidableEq PeerId] [TextCodec PeerId] [TextCodec (Multiaddr PeerId)]
  [ToString CommandError] {state : Fanout PeerId}

/-- A step of the service is a step of the loop, or leaves the answers alone. -/
theorem network_next {label : FanoutLabel PeerId} (enabled : state.Enabled label) :
    (∃ own, state.network.Matched own ∧ (state.next label).network = state.network.next own) ∨
      World.Idle state.network (state.next label).network := by
  have still : World.Idle state.network state.network := ⟨rfl, rfl, rfl, le_rfl, rfl⟩
  cases label with
  | network label => exact .inl ⟨label, enabled, rfl⟩
  | subscribe topic =>
      simp only [next, subscribe]
      split_ifs
      · exact .inr still
      · split
        · exact .inr still
        · exact .inr ⟨rfl, rfl, rfl, le_rfl, rfl⟩
  | join i view sender =>
      obtain ⟨stream, present, _, matched⟩ := enabled
      simp only [next, Option.mem_def.mp present]
      exact .inl ⟨_, matched, rfl⟩
  | respond i =>
      obtain ⟨stream, present, _⟩ := enabled
      simp only [next, Option.mem_def.mp present, respond]
      split <;> first | exact .inr still | exact .inr ⟨rfl, rfl, rfl, le_rfl, rfl⟩
  | read i =>
      obtain ⟨stream, present, _⟩ := enabled
      simp only [next, Option.mem_def.mp present, readStream]
      split
      · exact .inr still
      · split <;> exact .inr ⟨rfl, rfl, rfl, le_rfl, rfl⟩
  | drop i =>
      obtain ⟨stream, present, _⟩ := enabled
      simp only [next, Option.mem_def.mp present]
      exact .inr ⟨rfl, rfl, rfl, le_rfl, rfl⟩
  | publish request view sender =>
      by_cases named : request.topic = ""
      · simp only [next, Grpc.publish, if_pos named]
        exact .inr still
      · simp only [next, Grpc.publish, if_neg named]
        exact .inl ⟨.command view (.publishMessage request.topic request.payload sender), enabled, rfl⟩
  | finish i nowMillis =>
      obtain ⟨call, present, _⟩ := enabled
      simp only [next, Option.mem_def.mp present, finish]
      split
      · exact .inr still
      · exact .inr ⟨rfl, rfl, rfl, le_rfl, rfl⟩

theorem accounted_of_reachable (reachable : (fanoutSystem PeerId).Reachable state) :
    Accounted state.network := by
  induction reachable with
  | initial first =>
      obtain ⟨capacity, peerstore, settings, bootstrapPeers, _, _, rfl⟩ := first
      exact .start (.new capacity) peerstore settings bootstrapPeers
  | @next state label _ enabled ih =>
      change Accounted (state.next label).network
      rcases network_next enabled with ⟨own, matched, same⟩ | idle
      · rw [same]
        exact ih.next matched
      · exact ih.of_idle idle

theorem reply_next {label : FanoutLabel PeerId} (enabled : state.Enabled label) {sender : Sender}
    {answer : Answer PeerId} (known : state.network.reply sender = some answer) :
    (state.next label).network.reply sender = some answer := by
  rcases network_next enabled with ⟨own, _, same⟩ | idle
  · rw [same]
    exact World.reply_next known own
  · rw [World.reply, idle.answers]
    exact known

/-- What the caller of a publish is told if it ends now. -/
def publishStatus? (state : Fanout PeerId) (call : PublishCall) (nowMillis : Nat) :
    Option (Except Status Unit) :=
  (state.network.reply call.sender).map fun answer =>
    (Grpc.published state.metrics call.request (TextCodec.toStr state.localPeerId) nowMillis answer).1

/-- Whenever the publish of this sender ends, it fails and nothing is echoed. -/
def Refuses (state : Fanout PeerId) (sender : Sender) : Prop :=
  ∀ i call nowMillis, state.calls[i]? = some call → call.sender = sender →
    state.publishStatus? call nowMillis = some (.error (internal (.publish .duplicate))) ∧
      (state.next (.finish i nowMillis)).subscriptions = state.subscriptions

theorem refuses_of_reply {sender : Sender}
    (replied : state.network.reply sender = some (.error (.publish .duplicate))) :
    state.Refuses sender := by
  rintro i call nowMillis there rfl
  constructor
  · rw [publishStatus?, replied]
    rfl
  · simp only [next, there, finish, replied]
    rfl

end Fanout

namespace Gossip

variable {PeerId : Type} [DecidableEq PeerId] [TextCodec PeerId] [TextCodec (Multiaddr PeerId)]
  [ToString CommandError] {hasher : List UInt8 → UInt64}

/-- A message from the mesh changes nothing, or a publish is refused for good. -/
def Suppressed (hasher : List UInt8 → UInt64) (state : Gossip PeerId) : GossipLabel PeerId → Prop
  | .publish request view sender cached =>
      ∀ labels, (gossipSystem PeerId hasher).Legal state
          (.publish request view sender cached :: labels) →
        ((gossipSystem PeerId hasher).after state
          (.publish request view sender cached :: labels)).service.Refuses sender
  | .receive nowMillis message subscribed =>
      state.next hasher (.receive nowMillis message subscribed) = state
  | .service _ => False

theorem reply_next {state : Gossip PeerId} {label : GossipLabel PeerId}
    (enabled : state.Enabled hasher label) {sender : Sender} {answer : Answer PeerId}
    (known : state.service.network.reply sender = some answer) :
    (state.next hasher label).service.network.reply sender = some answer := by
  rcases service_next enabled with ⟨own, ready, same⟩ | same
  · rw [same]
    exact Fanout.reply_next ready known
  · rw [same]
    exact known

theorem reply_of_duplicate {state : Gossip PeerId} (accounted : Accounted state.service.network)
    {request : PublishRequest} {view : SwarmView PeerId} {sender : Sender} {cached : Bool}
    (enabled : state.Enabled hasher (.publish request view sender cached))
    (duplicate : state.Duplicate hasher (.publish request view sender cached)) :
    (state.next hasher (.publish request view sender cached)).service.network.reply sender =
      some (.error (.publish .duplicate)) := by
  have accepted : Grpc.publish request sender =
      .ok (.publishMessage request.topic request.payload sender : Command PeerId) := if_neg duplicate.1
  have answers : (state.next hasher (.publish request view sender cached)).service.network.answers =
      state.service.network.answers ++ [(sender, .error (.publish .duplicate))] := by
    simp only [next, Fanout.next, accepted, World.next, World.settle, EventLoop.handleCommand,
      duplicate.2]
    rfl
  rw [World.reply_of_append (accounted.unknown sender enabled.1).1 answers]
  simp

theorem suppressed_of_duplicate {state : Gossip PeerId}
    (reachable : (gossipSystem PeerId hasher).Reachable state) {label : GossipLabel PeerId}
    (enabled : state.Enabled hasher label) (duplicate : state.Duplicate hasher label) :
    state.Suppressed hasher label := by
  cases label with
  | publish request view sender cached =>
      intro labels legal
      have accounted := Fanout.accounted_of_reachable (service_reachable reachable)
      have step (state : Gossip PeerId) (label : GossipLabel PeerId)
          (known : state.service.network.reply sender = some (.error (.publish .duplicate)))
          (enabled : (gossipSystem PeerId hasher).enabled state label) :
          ((gossipSystem PeerId hasher).next state label).service.network.reply sender =
            some (.error (.publish .duplicate)) := reply_next enabled known
      rw [System.after_cons]
      apply Fanout.refuses_of_reply
      exact System.after_of_step step (reply_of_duplicate accounted enabled duplicate) legal.2
  | receive nowMillis message subscribed => exact if_pos duplicate
  | service label => exact duplicate

end Gossip

/-! ## Duplicates over a run -/

namespace Arrival

def Repeats (arrival : Arrival) (arrivals : List Arrival) : Prop :=
  ∃ earlier ∈ arrivals, earlier.topic = arrival.topic ∧ earlier.payload = arrival.payload

def Cached (arrival : Arrival) (arrivals : List Arrival) : Prop :=
  ∃ earlier ∈ arrivals, earlier.cached ∧ earlier.payload = arrival.payload

/-- The message was cached before, on its own topic. -/
def RepeatsCached (arrival : Arrival) (arrivals : List Arrival) : Prop :=
  ∃ earlier ∈ arrivals, earlier.cached ∧ earlier.topic = arrival.topic ∧
    earlier.payload = arrival.payload

instance (arrival : Arrival) (arrivals : List Arrival) : Decidable (arrival.Repeats arrivals) :=
  inferInstanceAs (Decidable (∃ earlier ∈ arrivals, _ ∧ _))

instance (arrival : Arrival) (arrivals : List Arrival) : Decidable (arrival.Cached arrivals) :=
  inferInstanceAs (Decidable (∃ earlier ∈ arrivals, _ ∧ _))

instance (arrival : Arrival) (arrivals : List Arrival) :
    Decidable (arrival.RepeatsCached arrivals) :=
  inferInstanceAs (Decidable (∃ earlier ∈ arrivals, _ ∧ _ ∧ _))

end Arrival

section

variable {PeerId : Type} [DecidableEq PeerId] [TextCodec PeerId] [TextCodec (Multiaddr PeerId)]
  [ToString CommandError] {hasher : List UInt8 → UInt64} {payloads : Set (List UInt8)}

/-- What holds of every duplicate of a run holds of every message whose payload was cached. -/
theorem eachStep_duplicate_iff (distinct : payloads.InjOn hasher)
    (seen : Arrival → List Arrival → Prop) {state : Gossip PeerId}
    {labels : List (GossipLabel PeerId)} (first : (gossipSystem PeerId hasher).initial state)
    (legal : (recordedGossip PeerId hasher payloads).Legal (state, []) labels) :
    (recordedGossip PeerId hasher payloads).EachStep (fun state label =>
        state.1.Duplicate hasher label → ∀ arrival ∈ label.arrival?, seen arrival state.2)
      (state, []) labels ↔
    (recordedGossip PeerId hasher payloads).EachStep (fun state label =>
        ∀ arrival ∈ label.arrival?, arrival.Cached state.2 → seen arrival state.2)
      (state, []) labels := by
  let support (state : Gossip PeerId × List Arrival) : Prop :=
    Gossip.Holds hasher state.1.duplicateCache state.2 ∧ ∀ arrival ∈ state.2, arrival.payload ∈ payloads
  have start : support (state, []) := by
    refine ⟨fun id => ?_, by simp⟩
    rw [first.2]
    simp
  refine System.eachStep_iff_eachStep (fun state label supported enabled => ?_)
    (fun state label supported enabled => ?_) start legal
  · refine ⟨supported.1.next label, fun arrival member => ?_⟩
    rcases List.mem_append.mp member with old | new
    · exact supported.2 arrival old
    · exact enabled.2 arrival (Option.mem_toList.mp new)
  · rw [Gossip.duplicate_iff supported.1 enabled.1]
    -- only one message arrives with a label, and its payload collides with none before
    constructor
    · rintro repeats arrival arrives ⟨earlier, member, cached, same⟩
      exact repeats ⟨arrival, arrives, earlier, member, cached, congrArg hasher same.symm⟩ arrival arrives
    · rintro repeats ⟨arrival, arrives, earlier, member, cached, collide⟩ other also
      have same := distinct (enabled.2 arrival arrives) (supported.2 earlier member) collide
      rw [Option.mem_unique also arrives]
      exact repeats arrival arrives ⟨earlier, member, cached, same.symm⟩

/--
While the payloads do not collide, only messages seen on their own topic are taken for duplicates in
a run exactly when no message comes with a payload that was cached before on other topics only. The
same holds when a message counts as seen only if it was cached. What is taken for a duplicate is
not fanned out, or refused and not echoed.
-/
theorem duplicates_on_own_topic_iff (distinct : payloads.InjOn hasher) {state : Gossip PeerId}
    {labels : List (GossipLabel PeerId)} (first : (gossipSystem PeerId hasher).initial state)
    (legal : (recordedGossip PeerId hasher payloads).Legal (state, []) labels) :
    ((recordedGossip PeerId hasher payloads).EachStep (fun state label =>
          state.1.Duplicate hasher label → ∀ arrival ∈ label.arrival?, arrival.Repeats state.2)
        (state, []) labels ↔
      (recordedGossip PeerId hasher payloads).EachStep (fun state label =>
          ∀ arrival ∈ label.arrival?, arrival.Cached state.2 → arrival.Repeats state.2)
        (state, []) labels) ∧
    ((recordedGossip PeerId hasher payloads).EachStep (fun state label =>
          state.1.Duplicate hasher label → ∀ arrival ∈ label.arrival?, arrival.RepeatsCached state.2)
        (state, []) labels ↔
      (recordedGossip PeerId hasher payloads).EachStep (fun state label =>
          ∀ arrival ∈ label.arrival?, arrival.Cached state.2 → arrival.RepeatsCached state.2)
        (state, []) labels) ∧
    (recordedGossip PeerId hasher payloads).EachStep (fun state label =>
        state.1.Duplicate hasher label → state.1.Suppressed hasher label)
      (state, []) labels := by
  refine ⟨eachStep_duplicate_iff distinct _ first legal,
    eachStep_duplicate_iff distinct _ first legal, ?_⟩
  have start : (recordedGossip PeerId hasher payloads).Reachable (state, []) :=
    .initial ⟨first, rfl⟩
  refine start.eachStep (fun state label reachable enabled duplicate => ?_) legal
  exact Gossip.suppressed_of_duplicate reachable.forget.of_restrict enabled.1 duplicate

end

namespace Sample

/-- What a `DefaultHasher` makes of two payloads of a single byte. -/
def byteHasher (bytes : List UInt8) : UInt64 :=
  if bytes = [1] then 14494360753792957044
  else if bytes = [2] then 16482863132411079682
  else 0

def gossipNode : Gossip Peer := ⟨service 4, ∅⟩

theorem gossipNode_initial : (gossipSystem Peer byteHasher).initial gossipNode :=
  ⟨⟨4, .default, ⟨0, 1, 4, 1⟩, ∅, .carol, by decide, rfl⟩, rfl⟩

def received (topic : String) (byte : UInt8) : GossipLabel Peer :=
  .receive 0 ⟨some .alice, [byte], topic⟩ true

def publish (topic : String) (byte : UInt8) (answer : Except CommandError Unit) (sender : Sender) :
    GossipLabel Peer :=
  .publish ⟨topic, [byte], true⟩ { view (.ok ()) with publish := fun _ _ => answer } sender false

end Sample

section

open Sample

theorem duplicates_on_own_topic_two_topics :
    (recordedGossip Peer byteHasher {[1], [2]}).EachStep (fun state label =>
        state.1.Duplicate byteHasher label →
          ∀ arrival ∈ label.arrival?, arrival.RepeatsCached state.2)
      (gossipNode, []) [received "a" 1, publish "b" 2 (.ok ()) 0, received "a" 1] := by
  have distinct : ({[1], [2]} : Set (List UInt8)).InjOn byteHasher := by
    rintro _ (rfl | rfl) _ (rfl | rfl) collide
    · rfl
    · exact absurd collide (by decide)
    · exact absurd collide (by decide)
    · rfl
  have legal : (recordedGossip Peer byteHasher {[1], [2]}).Legal (gossipNode, [])
      [received "a" 1, publish "b" 2 (.ok ()) 0, received "a" 1] := by
    refine ⟨⟨trivial, ?_⟩, ⟨⟨by decide, fun _ => ?_⟩, ?_⟩, ⟨trivial, ?_⟩, trivial⟩
    · rintro _ ⟨⟩
      exact .inl rfl
    · exact iff_of_false (by simp) (by decide +kernel)
    · rintro _ ⟨⟩
      exact .inr rfl
    · rintro _ ⟨⟩
      exact .inl rfl
  exact (duplicates_on_own_topic_iff distinct gossipNode_initial legal).2.1.mpr (by decide)

theorem duplicate_on_other_topic :
    ¬ ∀ (hasher : List UInt8 → UInt64) (payloads : Set (List UInt8)) (state : Gossip Peer) labels,
      payloads.InjOn hasher → (gossipSystem Peer hasher).initial state →
      (recordedGossip Peer hasher payloads).Legal (state, []) labels →
      (recordedGossip Peer hasher payloads).EachStep (fun state label =>
          state.1.Duplicate hasher label → ∀ arrival ∈ label.arrival?, arrival.Repeats state.2)
        (state, []) labels := by
  intro only
  have legal : (recordedGossip Peer byteHasher {[1]}).Legal (gossipNode, [])
      [received "a" 1, publish "b" 1 (.error (.publish .duplicate)) 0] := by
    refine ⟨⟨trivial, ?_⟩, ⟨⟨by decide, fun _ => ?_⟩, ?_⟩, trivial⟩
    · rintro _ ⟨⟩
      rfl
    · exact iff_of_true rfl (by decide +kernel)
    · rintro _ ⟨⟩
      rfl
  obtain ⟨_, repeats, _⟩ := only byteHasher {[1]} gossipNode _ (Set.injOn_singleton _ _)
    gossipNode_initial legal
  exact absurd (repeats ⟨by decide, rfl⟩ ⟨"b", [1], false⟩ rfl) (by decide)

end

end P2pService
