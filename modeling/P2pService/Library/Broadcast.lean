import Mathlib.Data.List.Basic
import Mathlib.Tactic.Linarith

/-!
# Bounded broadcast

One ring of values shared by senders and receivers, as tokio's `broadcast` documents it: a send is
seen by every receiver, the ring keeps the last `capacity` values, and a receiver that was
overrun is told how many values it missed before it continues with the oldest one kept.

A receiver is a position in the stream of sent values. `Mailbox` is what the ring amounts to for
one receiver: a queue of its own that drops its oldest entry when it is full. `mailbox_push` and
`recv_eq` are the two halves of that refinement.
-/

namespace P2pService.Library

structure Channel (α : Type*) where
  capacity : Nat
  tail : Nat
  buffer : List α
  receivers : Nat
  senders : Nat
  positive : 0 < capacity
  stored : buffer.length = min tail capacity

inductive Received (α : Type*) where
  | value (x : α)
  | lagged (n : Nat)
  | pending
  | closed

namespace Received

variable {α : Type*}

def toList : Received α → List α
  | .value x => [x]
  | _ => []

def lag : Received α → Nat
  | .lagged n => n
  | _ => 0

end Received

/-- A requested capacity is rounded up to a power of two. -/
def roundCapacity (capacity : Nat) : Nat :=
  if capacity ≤ 1 then 1 else 2 ^ ((capacity - 1).log2 + 1)

theorem roundCapacity_pos (capacity : Nat) : 0 < roundCapacity capacity := by
  unfold roundCapacity
  split_ifs
  · exact Nat.one_pos
  · exact Nat.two_pow_pos _

namespace Channel

variable {α : Type*}

/-- A new channel has one sender and one receiver. A capacity of zero panics. -/
def new (capacity : Nat) : Option (Channel α) :=
  if capacity = 0 then none
  else some ⟨roundCapacity capacity, 0, [], 1, 1, roundCapacity_pos capacity, by simp⟩

theorem new_of_pos {capacity : Nat} (positive : 0 < capacity) : ∃ channel : Channel α,
    new capacity = some channel ∧ channel.capacity = roundCapacity capacity ∧
      channel.receivers = 1 ∧ channel.senders = 1 :=
  ⟨_, if_neg (Nat.ne_of_gt positive), rfl, rfl, rfl⟩

def head (channel : Channel α) : Nat := channel.tail - channel.buffer.length

def subscribe (channel : Channel α) : Channel α × Nat :=
  ({ channel with receivers := channel.receivers + 1 }, channel.tail)

def dropReceiver (channel : Channel α) : Channel α :=
  { channel with receivers := channel.receivers - 1 }

def push (channel : Channel α) (x : α) : Channel α :=
  { channel with
    tail := channel.tail + 1
    buffer := (channel.buffer ++ [x]).drop (channel.buffer.length + 1 - channel.capacity)
    stored := by
      have positive := channel.positive
      have stored := channel.stored
      simp only [List.length_drop, List.length_append, List.length_singleton]
      omega }

/-- Without a receiver the value is handed back and nothing is sent. -/
def send (channel : Channel α) (x : α) : Channel α × Option Nat :=
  if channel.receivers = 0 then (channel, none) else (channel.push x, some channel.receivers)

def recv (channel : Channel α) (next : Nat) : Received α × Nat :=
  if next < channel.head then (.lagged (channel.head - next), channel.head)
  else
    match channel.buffer[next - channel.head]? with
    | some x => (.value x, next + 1)
    | none => (if channel.senders = 0 then .closed else .pending, next)

end Channel

/-! ## What one receiver sees -/

/-- The values a receiver can still read, and how many it lost since it last read. -/
structure Mailbox (α : Type*) where
  missed : Nat
  queue : List α

namespace Mailbox

variable {α : Type*}

def push (box : Mailbox α) (capacity : Nat) (x : α) : Mailbox α :=
  if box.queue.length < capacity then { box with queue := box.queue ++ [x] }
  else { missed := box.missed + 1, queue := (box.queue ++ [x]).tail }

/-- What a read of a mailbox gives while the sender exists, and what it leaves. -/
inductive Reads : Mailbox α → Received α → Mailbox α → Prop
  | lagged (n : Nat) (queue : List α) : Reads ⟨n + 1, queue⟩ (.lagged (n + 1)) ⟨0, queue⟩
  | value (x : α) (rest : List α) : Reads ⟨0, x :: rest⟩ (.value x) ⟨0, rest⟩
  | pending : Reads ⟨0, []⟩ .pending ⟨0, []⟩

theorem Reads.ne_closed {before after : Mailbox α} {received : Received α}
    (reads : Reads before received after) : received ≠ .closed := by
  intro closed
  cases reads <;> cases closed

end Mailbox

namespace Channel

variable {α : Type*}

def mailbox (channel : Channel α) (next : Nat) : Mailbox α :=
  ⟨channel.head - next, channel.buffer.drop (next - channel.head)⟩

theorem mailbox_subscribe (channel : Channel α) (next : Nat) :
    channel.subscribe.1.mailbox next = channel.mailbox next := rfl

theorem mailbox_tail (channel : Channel α) : channel.mailbox channel.tail = ⟨0, []⟩ := by
  have stored := channel.stored
  have kept : channel.buffer.length ≤ channel.tail - channel.head := by unfold head; omega
  simp only [mailbox, List.drop_eq_nil_of_le kept, Mailbox.mk.injEq, and_true]
  unfold head
  omega

theorem mailbox_length (channel : Channel α) (next : Nat) :
    (channel.mailbox next).queue.length = channel.tail - max next channel.head := by
  have stored := channel.stored
  simp only [mailbox, head, List.length_drop]
  omega

theorem mailbox_length_le (channel : Channel α) (next : Nat) :
    (channel.mailbox next).queue.length ≤ channel.capacity := by
  have stored := channel.stored
  simp only [mailbox, List.length_drop]
  omega

@[simp] theorem send_receivers (channel : Channel α) (x : α) :
    (channel.send x).1.receivers = channel.receivers := by
  unfold send
  split_ifs <;> rfl

theorem tail_le_send (channel : Channel α) (x : α) : channel.tail ≤ (channel.send x).1.tail := by
  unfold send
  split_ifs
  · exact le_rfl
  · exact Nat.le_succ _

theorem send_of_pos {channel : Channel α} (listening : 0 < channel.receivers) (x : α) :
    (channel.send x).1 = channel.push x := by
  rw [send, if_neg (Nat.ne_of_gt listening)]

theorem push_buffer (channel : Channel α) (x : α) : (channel.push x).buffer =
    (channel.buffer ++ [x]).drop (channel.buffer.length + 1 - channel.capacity) := rfl

theorem push_head (channel : Channel α) (x : α) : (channel.push x).head =
    if channel.buffer.length < channel.capacity then channel.head else channel.head + 1 := by
  have positive := channel.positive
  have stored := channel.stored
  simp only [head, push, List.length_drop, List.length_append, List.length_singleton]
  split_ifs <;> omega

theorem mailbox_push (channel : Channel α) {next : Nat} (behind : next ≤ channel.tail) (x : α) :
    (channel.push x).mailbox next = (channel.mailbox next).push channel.capacity x := by
  have stored := channel.stored
  have length := channel.mailbox_length next
  have head_eq : channel.head = channel.tail - channel.buffer.length := rfl
  by_cases full : channel.buffer.length < channel.capacity
  · -- nothing is overwritten, and the ring still holds the whole stream
    have room : (channel.mailbox next).queue.length < channel.capacity := by omega
    have shift : channel.buffer.length + 1 - channel.capacity = 0 := by omega
    rw [Mailbox.push, if_pos room, mailbox, mailbox, push_head, if_pos full, push_buffer, shift,
      List.drop_zero, List.drop_append_of_le_length (by omega)]
  · have shift : channel.buffer.length + 1 - channel.capacity = 1 := by omega
    rw [mailbox, push_head, if_neg full, push_buffer, shift]
    by_cases late : next ≤ channel.head
    · -- the overwritten value is one this receiver had not read
      have crowded : ¬ (channel.mailbox next).queue.length < channel.capacity := by omega
      have none_read : next - channel.head = 0 := by omega
      have still_none : next - (channel.head + 1) = 0 := by omega
      rw [Mailbox.push, if_neg crowded, mailbox, none_read, still_none, List.drop_zero,
        List.drop_zero, List.drop_one, show channel.head + 1 - next = channel.head - next + 1 by omega]
    · have room : (channel.mailbox next).queue.length < channel.capacity := by omega
      rw [Mailbox.push, if_pos room, mailbox, List.drop_drop,
        show 1 + (next - (channel.head + 1)) = next - channel.head by omega,
        show channel.head + 1 - next = channel.head - next by omega,
        List.drop_append_of_le_length (by omega)]

theorem recv_eq (channel : Channel α) (next : Nat) :
    (∃ n, (channel.mailbox next).missed = n + 1 ∧
      channel.recv next = (.lagged (n + 1), channel.head) ∧
      channel.mailbox channel.head = ⟨0, (channel.mailbox next).queue⟩) ∨
    (∃ x rest, channel.mailbox next = ⟨0, x :: rest⟩ ∧
      channel.recv next = (.value x, next + 1) ∧ channel.mailbox (next + 1) = ⟨0, rest⟩) ∨
    (channel.mailbox next = ⟨0, []⟩ ∧
      channel.recv next = (if channel.senders = 0 then .closed else .pending, next)) := by
  by_cases late : next < channel.head
  · refine .inl ⟨channel.head - next - 1, ?_, ?_, ?_⟩
    · simp only [mailbox]; omega
    · rw [recv, if_pos late, show channel.head - next - 1 + 1 = channel.head - next by omega]
    · simp [mailbox, show next - channel.head = 0 by omega]
  · have missed : channel.head - next = 0 := by omega
    refine .inr ?_
    cases oldest : channel.buffer[next - channel.head]? with
    | some x =>
        obtain ⟨bound, rfl⟩ := List.getElem?_eq_some_iff.mp oldest
        refine .inl ⟨channel.buffer[next - channel.head],
          channel.buffer.drop (next - channel.head + 1), ?_, ?_, ?_⟩
        · simp only [mailbox, missed, List.drop_eq_getElem_cons bound]
        · simp only [recv, if_neg late, oldest]
        · simp only [mailbox, Mailbox.mk.injEq]
          exact ⟨by omega, by rw [show next + 1 - channel.head = next - channel.head + 1 by omega]⟩
    | none =>
        refine .inr ⟨?_, by simp only [recv, if_neg late, oldest]⟩
        simp only [mailbox, missed, List.drop_eq_nil_of_le (List.getElem?_eq_none_iff.mp oldest)]

theorem recv_reads {channel : Channel α} (held : channel.senders ≠ 0) (next : Nat) :
    (channel.mailbox next).Reads (channel.recv next).1 (channel.mailbox (channel.recv next).2) := by
  rcases channel.recv_eq next with ⟨n, missed, recv, after⟩ | ⟨x, rest, box, recv, after⟩ | ⟨box, recv⟩
  · have box : channel.mailbox next = ⟨n + 1, (channel.mailbox next).queue⟩ := by rw [← missed]
    rw [recv, after, box]
    exact .lagged n _
  · rw [recv, after, box]
    exact .value x rest
  · rw [recv, if_neg held, box]
    exact .pending

theorem recv_next (channel : Channel α) {next : Nat} (behind : next ≤ channel.tail) :
    next ≤ (channel.recv next).2 ∧ (channel.recv next).2 ≤ channel.tail := by
  have stored := channel.stored
  have head_eq : channel.head = channel.tail - channel.buffer.length := rfl
  by_cases late : next < channel.head
  · rw [recv, if_pos late]
    exact ⟨le_of_lt late, by omega⟩
  · rw [recv, if_neg late]
    split
    · rename_i oldest
      obtain ⟨bound, _⟩ := List.getElem?_eq_some_iff.mp oldest
      exact ⟨Nat.le_succ next, by dsimp only; omega⟩
    · exact ⟨le_rfl, behind⟩

end Channel
end P2pService.Library
