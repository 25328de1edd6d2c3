import P2pService.Library.Broadcast
import Mathlib.Data.List.Nodup
import Mathlib.Data.List.Range
import Mathlib.Data.List.Perm.Basic

/-!
# The history of a bounded subscriber

A ledger says what a subscriber with a bounded buffer is due, without a buffer: the values sent
since it subscribed, and by position which it read and which were lost because more than
`capacity` were unread at once. `Tracks` ties a ledger to a mailbox; a send and a read keep it.
-/

namespace P2pService.Library

structure Ledger (α : Type*) where
  sent : List α
  /-- Positions in `sent`, in the order they were read. -/
  read : List Nat
  lost : List Nat
  /-- How many of the lost values the subscriber has been told about. -/
  reported : Nat

namespace Ledger

variable {α : Type*}

def empty : Ledger α := ⟨[], [], [], 0⟩

def unread (ledger : Ledger α) : List Nat :=
  (List.range ledger.sent.length).filter fun i => i ∉ ledger.read ∧ i ∉ ledger.lost

/-- One more value; the oldest unread one is lost when more than `capacity` are unread. -/
def send (ledger : Ledger α) (capacity : Nat) (x : α) : Ledger α :=
  let longer := { ledger with sent := ledger.sent ++ [x] }
  if capacity < longer.unread.length then
    { longer with lost := longer.lost ++ longer.unread.take 1 }
  else longer

def take (ledger : Ledger α) (position : Nat) : Ledger α :=
  { ledger with read := ledger.read ++ [position] }

def report (ledger : Ledger α) (n : Nat) : Ledger α :=
  { ledger with reported := ledger.reported + n }

def receive (ledger : Ledger α) : Received α → Ledger α
  | .value _ => ledger.take (ledger.unread.headD 0)
  | .lagged n => ledger.report n
  | _ => ledger

def values (ledger : Ledger α) : List α := ledger.read.filterMap (ledger.sent[·]?)

@[simp] theorem send_sent (ledger : Ledger α) (capacity : Nat) (x : α) :
    (ledger.send capacity x).sent = ledger.sent ++ [x] := by
  unfold send
  dsimp only
  split_ifs <;> rfl

@[simp] theorem send_read (ledger : Ledger α) (capacity : Nat) (x : α) :
    (ledger.send capacity x).read = ledger.read := by
  unfold send
  dsimp only
  split_ifs <;> rfl

@[simp] theorem receive_sent (ledger : Ledger α) (received : Received α) :
    (ledger.receive received).sent = ledger.sent := by
  cases received <;> rfl

/-- The mailbox holds exactly the unread values, and knows how many losses are still to report. -/
structure Tracks (ledger : Ledger α) (box : Mailbox α) : Prop where
  fits : box.queue.length ≤ ledger.sent.length
  queue : ledger.sent.drop (ledger.sent.length - box.queue.length) = box.queue
  settled : ∀ i, i ∈ ledger.read ∨ i ∈ ledger.lost ↔ i < ledger.sent.length - box.queue.length
  disjoint : ∀ i ∈ ledger.read, i ∉ ledger.lost
  readOrder : ledger.read.Pairwise (· < ·)
  lostOrder : ledger.lost.Pairwise (· < ·)
  missed : ledger.reported + box.missed = ledger.lost.length

theorem tracks_empty : Tracks (empty : Ledger α) ⟨0, []⟩ where
  fits := le_rfl
  queue := rfl
  settled := by simp [empty]
  disjoint := by simp [empty]
  readOrder := List.Pairwise.nil
  lostOrder := List.Pairwise.nil
  missed := rfl

theorem unread_eq {ledger : Ledger α} {past : Nat}
    (settled : ∀ i, i ∈ ledger.read ∨ i ∈ ledger.lost ↔ i < past) (within : past ≤ ledger.sent.length) :
    ledger.unread = List.range' past (ledger.sent.length - past) := by
  have choose (i : Nat) : decide (i ∉ ledger.read ∧ i ∉ ledger.lost) = decide (past ≤ i) := by
    have := settled i
    simp only [← not_or, this, not_lt]
  have split_at : List.range ledger.sent.length =
      List.range past ++ List.range' past (ledger.sent.length - past) := by
    have joined : List.range' 0 past ++ List.range' (0 + past) (ledger.sent.length - past) =
      List.range' 0 (past + (ledger.sent.length - past)) := List.range'_append_1
    rw [Nat.zero_add, Nat.add_sub_cancel' within] at joined
    rw [List.range_eq_range', List.range_eq_range', joined]
  unfold unread
  simp only [choose]
  rw [split_at, List.filter_append]
  have early : (List.range past).filter (fun i => decide (past ≤ i)) = [] := by
    apply List.filter_eq_nil_iff.mpr
    intro i member
    simpa using List.mem_range.mp member
  have late : (List.range' past (ledger.sent.length - past)).filter (fun i => decide (past ≤ i)) =
      List.range' past (ledger.sent.length - past) := by
    apply List.filter_eq_self.mpr
    intro i member
    simpa using (List.mem_range'_1.mp member).1
  rw [early, late, List.nil_append]

theorem Tracks.settled_perm {ledger : Ledger α} {box : Mailbox α} (tracks : Tracks ledger box) :
    (ledger.read ++ ledger.lost).Perm (List.range (ledger.sent.length - box.queue.length)) := by
  have nodup : (ledger.read ++ ledger.lost).Nodup := by
    refine List.Nodup.append tracks.readOrder.nodup tracks.lostOrder.nodup ?_
    exact fun i inRead inLost => tracks.disjoint i inRead inLost
  refine (List.perm_ext_iff_of_nodup nodup List.nodup_range).mpr fun i => ?_
  rw [List.mem_append, List.mem_range]
  exact tracks.settled i

theorem Tracks.conservation {ledger : Ledger α} {box : Mailbox α} (tracks : Tracks ledger box) :
    ledger.sent.length = ledger.read.length + box.queue.length + ledger.lost.length := by
  have lengths := tracks.settled_perm.length_eq
  have fits := tracks.fits
  rw [List.length_append, List.length_range] at lengths
  omega

theorem Tracks.send {ledger : Ledger α} {box : Mailbox α} (tracks : Tracks ledger box)
    {capacity : Nat} (bounded : box.queue.length ≤ capacity) (x : α) :
    Tracks (ledger.send capacity x) (box.push capacity x) := by
  obtain ⟨fits, queue, settled, disjoint, readOrder, lostOrder, missed⟩ := tracks
  have past_le : ledger.sent.length - box.queue.length ≤ (ledger.sent ++ [x]).length := by simp; omega
  have unread : ({ ledger with sent := ledger.sent ++ [x] } : Ledger α).unread =
      List.range' (ledger.sent.length - box.queue.length) (box.queue.length + 1) := by
    have longer := @unread_eq α { ledger with sent := ledger.sent ++ [x] } _ settled past_le
    rw [longer]
    congr 1
    simp
    omega
  have appended : (ledger.sent ++ [x]).drop (ledger.sent.length - box.queue.length) =
      box.queue ++ [x] := by
    rw [List.drop_append_of_le_length (by omega), queue]
  unfold Ledger.send Mailbox.push
  simp only [unread, List.length_range']
  by_cases room : box.queue.length < capacity
  · rw [if_neg (by omega), if_pos room]
    have same : (ledger.sent ++ [x]).length - (box.queue ++ [x]).length =
        ledger.sent.length - box.queue.length := by simp
    exact
      { fits := by simp; omega
        queue := by rw [same]; exact appended
        settled := fun i => by rw [same]; exact settled i
        disjoint, readOrder, lostOrder, missed }
  · -- the oldest unread position is overwritten
    rw [if_pos (by omega), if_neg room]
    have oldest : (List.range' (ledger.sent.length - box.queue.length) (box.queue.length + 1)).take 1 =
        [ledger.sent.length - box.queue.length] := by simp [List.range'_succ]
    have next : (ledger.sent ++ [x]).length - (box.queue ++ [x]).tail.length =
        ledger.sent.length - box.queue.length + 1 := by simp; omega
    simp only [oldest]
    exact
      { fits := by simp; omega
        queue := by
          rw [next, ← List.drop_drop, appended, List.drop_one]
        settled := fun i => by
          rw [next, List.mem_append, List.mem_singleton, ← or_assoc, settled i]
          omega
        disjoint := fun i inRead inLost => by
          rcases List.mem_append.mp inLost with before | now
          · exact disjoint i inRead before
          · have := (settled i).mp (.inl inRead)
            rw [List.mem_singleton] at now
            omega
        readOrder
        lostOrder := by
          refine List.pairwise_append.mpr ⟨lostOrder, List.pairwise_singleton _ _, ?_⟩
          intro i member j now
          have := (settled i).mp (.inr member)
          rw [List.mem_singleton] at now
          omega
        missed := by simp only [List.length_append, List.length_singleton]; omega }

theorem Tracks.take {ledger : Ledger α} {missed : Nat} {x : α} {rest : List α}
    (tracks : Tracks ledger ⟨missed, x :: rest⟩) :
    ledger.sent[ledger.sent.length - (rest.length + 1)]? = some x ∧
      Tracks (ledger.take (ledger.sent.length - (rest.length + 1))) ⟨missed, rest⟩ := by
  obtain ⟨fits, queue, settled, disjoint, readOrder, lostOrder, missed_eq⟩ := tracks
  simp only [List.length_cons] at fits queue settled
  have next : ledger.sent.length - rest.length = ledger.sent.length - (rest.length + 1) + 1 := by omega
  constructor
  · have := congrArg (·[0]?) queue
    simpa using this
  · exact
      { fits := by dsimp only [Ledger.take]; omega
        queue := by
          dsimp only [Ledger.take]
          rw [next, ← List.drop_drop, queue]
          rfl
        settled := fun i => by
          have := settled i
          simp only [Ledger.take, List.mem_append, List.mem_singleton]
          rw [or_right_comm, this]
          omega
        disjoint := fun i inRead => by
          rcases List.mem_append.mp inRead with before | now
          · exact disjoint i before
          · intro inLost
            have := (settled i).mp (.inr inLost)
            rw [List.mem_singleton] at now
            omega
        readOrder := by
          refine List.pairwise_append.mpr ⟨readOrder, List.pairwise_singleton _ _, ?_⟩
          intro i member j now
          have := (settled i).mp (.inl member)
          rw [List.mem_singleton] at now
          omega
        lostOrder
        missed := missed_eq }

theorem Tracks.report {ledger : Ledger α} {missed : Nat} {queue : List α}
    (tracks : Tracks ledger ⟨missed, queue⟩) : Tracks (ledger.report missed) ⟨0, queue⟩ :=
  { tracks with missed := by have := tracks.missed; simp only [Ledger.report] at this ⊢; omega }

theorem Tracks.read_lt {ledger : Ledger α} {box : Mailbox α} (tracks : Tracks ledger box)
    {i : Nat} (member : i ∈ ledger.read) : i < ledger.sent.length := by
  have := (tracks.settled i).mp (.inl member)
  omega

theorem mem_sent_of_mem_values {ledger : Ledger α} {x : α} (member : x ∈ ledger.values) :
    x ∈ ledger.sent := by
  obtain ⟨i, _, found⟩ := List.mem_filterMap.mp member
  exact List.mem_of_getElem? found

theorem map_some_values {ledger : Ledger α} (within : ∀ i ∈ ledger.read, i < ledger.sent.length) :
    ledger.values.map some = ledger.read.map (ledger.sent[·]?) := by
  unfold values
  revert within
  induction ledger.read with
  | nil => exact fun _ => rfl
  | cons i read ih =>
      intro within
      have found := List.getElem?_eq_getElem (within i List.mem_cons_self)
      simp only [List.filterMap_cons, List.map_cons, found,
        ih fun j member => within j (List.mem_cons_of_mem i member)]

theorem Tracks.values_send {ledger : Ledger α} {box : Mailbox α} (tracks : Tracks ledger box)
    (capacity : Nat) (x : α) : (ledger.send capacity x).values = ledger.values := by
  unfold values
  rw [send_read, send_sent]
  apply List.filterMap_congr
  intro i member
  exact List.getElem?_append_left (tracks.read_lt member)

theorem Tracks.receive {ledger : Ledger α} {box after : Mailbox α} {received : Received α}
    (tracks : Tracks ledger box) (reads : box.Reads received after) :
    Tracks (ledger.receive received) after ∧
      (ledger.receive received).values = ledger.values ++ received.toList := by
  cases reads with
  | lagged n queue => exact ⟨tracks.report, (List.append_nil _).symm⟩
  | value x rest =>
      have fits := tracks.fits
      rw [List.length_cons] at fits
      have oldest : ledger.unread.headD 0 = ledger.sent.length - (rest.length + 1) := by
        have settled := tracks.settled
        rw [List.length_cons] at settled
        rw [unread_eq settled (Nat.sub_le _ _),
          show ledger.sent.length - (ledger.sent.length - (rest.length + 1)) = rest.length + 1 by omega]
        rfl
      obtain ⟨found, taken⟩ := tracks.take
      rw [Ledger.receive, oldest]
      refine ⟨taken, ?_⟩
      simp only [values, Ledger.take, List.filterMap_append, List.filterMap_cons, found,
        List.filterMap_nil, Received.toList]
  | pending => exact ⟨tracks, (List.append_nil _).symm⟩

end Ledger
end P2pService.Library
