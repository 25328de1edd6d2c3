import Mathlib.Data.Finset.Card
import Mathlib.Data.Finset.Image
import Mathlib.Data.List.Nodup

/-!
# Bounded lists of distinct elements

A new element goes to the back of the list, and pushes out the front when there is no room left. An
element that is there already stays where it is.
-/

namespace P2pService.Library.Fifo

variable {α β : Type*} [DecidableEq α] [DecidableEq β]

def push (capacity : Nat) (xs : List α) (a : α) : List α :=
  if a ∈ xs then xs
  else if capacity < xs.length + 1 then (xs ++ [a]).tail
  else xs ++ [a]

def pushAll (capacity : Nat) (xs as : List α) : List α := as.foldl (push capacity) xs

@[simp] theorem pushAll_nil (capacity : Nat) (xs : List α) : pushAll capacity xs [] = xs := rfl

@[simp] theorem pushAll_cons (capacity : Nat) (xs as : List α) (a : α) :
    pushAll capacity xs (a :: as) = pushAll capacity (push capacity xs a) as := rfl

theorem pushAll_append (capacity : Nat) (xs as bs : List α) :
    pushAll capacity xs (as ++ bs) = pushAll capacity (pushAll capacity xs as) bs :=
  List.foldl_append

section Push

variable {capacity : Nat} {xs : List α} {a : α}

theorem push_of_mem (member : a ∈ xs) : push capacity xs a = xs := if_pos member

theorem push_of_notMem (absent : a ∉ xs) (bounded : xs.length ≤ capacity) :
    push capacity xs a = (xs ++ [a]).drop (xs.length + 1 - capacity) := by
  rw [push, if_neg absent]
  split_ifs with full
  · rw [show xs.length + 1 - capacity = 1 by omega, List.drop_one]
  · rw [Nat.sub_eq_zero_of_le (not_lt.mp full), List.drop_zero]

theorem length_push_le (bounded : xs.length ≤ capacity) : (push capacity xs a).length ≤ capacity := by
  by_cases present : a ∈ xs
  · rw [push_of_mem present]
    exact bounded
  · rw [push_of_notMem present bounded, List.length_drop, List.length_append, List.length_singleton]
    omega

theorem mem_push_self (positive : 0 < capacity) : a ∈ push capacity xs a := by
  unfold push
  split_ifs with present full
  · exact present
  · cases xs with
    | nil => exact absurd full (not_lt.mpr positive)
    | cons x xs => simp
  · simp

theorem mem_of_mem_push {b : α} (member : b ∈ push capacity xs a) : b ∈ xs ∨ b = a := by
  unfold push at member
  split_ifs at member
  · exact .inl member
  · simpa using List.mem_of_mem_tail member
  · simpa using member

end Push

theorem mem_of_mem_pushAll {capacity : Nat} {xs as : List α} {b : α}
    (member : b ∈ pushAll capacity xs as) : b ∈ xs ∨ b ∈ as := by
  induction as generalizing xs with
  | nil => exact .inl member
  | cons a as ih =>
      rcases ih member with held | later
      · rcases mem_of_mem_push held with before | rfl
        · exact .inl before
        · exact .inr List.mem_cons_self
      · exact .inr (List.mem_cons_of_mem a later)

theorem length_pushAll_le {capacity : Nat} {xs : List α} (bounded : xs.length ≤ capacity)
    (as : List α) : (pushAll capacity xs as).length ≤ capacity := by
  induction as generalizing xs with
  | nil => exact bounded
  | cons a as ih => exact ih (length_push_le bounded)

theorem mem_pushAll_last {capacity : Nat} (positive : 0 < capacity) {xs as : List α} {a : α}
    (last : as.getLast? = some a) : a ∈ pushAll capacity xs as := by
  obtain ⟨before, rfl⟩ := List.getLast?_eq_some_iff.mp last
  rw [pushAll_append]
  exact mem_push_self positive

/-! ## What is held of all there was -/

structure Holds (capacity : Nat) (seen : Finset α) (xs : List α) : Prop where
  nodup : xs.Nodup
  subset : ∀ x ∈ xs, x ∈ seen
  length : xs.length = min seen.card capacity

namespace Holds

variable {capacity : Nat} {seen : Finset α} {xs : List α}

omit [DecidableEq α] in
theorem nil (capacity : Nat) : Holds capacity (∅ : Finset α) [] := ⟨.nil, by simp, by simp⟩

omit [DecidableEq α] in
theorem bounded (holds : Holds capacity seen xs) : xs.length ≤ capacity :=
  holds.length ▸ min_le_right _ _

theorem toFinset_eq (holds : Holds capacity seen xs) (few : seen.card ≤ capacity) :
    xs.toFinset = seen := by
  apply Finset.eq_of_subset_of_card_le
  · exact fun x member => holds.subset x (List.mem_toFinset.mp member)
  · rw [List.toFinset_card_of_nodup holds.nodup, holds.length, min_eq_left few]

theorem push (holds : Holds capacity seen xs) (a : α) :
    Holds capacity (insert a seen) (push capacity xs a) := by
  by_cases present : a ∈ xs
  · rw [push_of_mem present, Finset.insert_eq_of_mem (holds.subset a present)]
    exact holds
  have longer : (xs ++ [a]).Nodup := List.nodup_append'.mpr
    ⟨holds.nodup, List.nodup_singleton a, List.disjoint_singleton.mpr present⟩
  refine ⟨?_, fun x member => ?_, ?_⟩
  · rw [push_of_notMem present holds.bounded]
    exact longer.sublist (List.drop_sublist _ _)
  · rcases mem_of_mem_push member with old | rfl
    · exact Finset.mem_insert_of_mem (holds.subset x old)
    · exact Finset.mem_insert_self _ _
  · rw [push_of_notMem present holds.bounded, List.length_drop, List.length_append,
      List.length_singleton]
    have length := holds.length
    by_cases known : a ∈ seen
    · -- an element that was pushed out comes back, so the list is full
      have lost : xs.toFinset ⊂ seen := by
        refine (Finset.ssubset_iff_of_subset fun x member => holds.subset x (List.mem_toFinset.mp member)).mpr ?_
        exact ⟨a, known, fun member => present (List.mem_toFinset.mp member)⟩
      have fewer := Finset.card_lt_card lost
      rw [List.toFinset_card_of_nodup holds.nodup] at fewer
      rw [Finset.insert_eq_of_mem known]
      omega
    · rw [Finset.card_insert_of_notMem known]
      omega

theorem pushAll (holds : Holds capacity seen xs) (as : List α) :
    Holds capacity (seen ∪ as.toFinset) (pushAll capacity xs as) := by
  induction as generalizing seen xs with
  | nil => simpa using holds
  | cons a as ih =>
      rw [pushAll_cons, List.toFinset_cons, Finset.union_insert, ← Finset.insert_union]
      exact ih (holds.push a)

end Holds

/-! ## What one batch does -/

theorem subset_pushAll {capacity : Nat} {xs as : List α}
    (room : xs.length + (as.toFinset \ xs.toFinset).card ≤ capacity) :
    ∀ x, x ∈ xs ∨ x ∈ as → x ∈ pushAll capacity xs as := by
  induction as generalizing xs with
  | nil => simp
  | cons a as ih =>
      intro x member
      rw [pushAll_cons]
      by_cases present : a ∈ xs
      · rw [push_of_mem present]
        have fewer : as.toFinset \ xs.toFinset ⊆ (a :: as).toFinset \ xs.toFinset := by
          rw [List.toFinset_cons]
          exact Finset.sdiff_subset_sdiff (Finset.subset_insert _ _) le_rfl
        have fewer := Finset.card_le_card fewer
        refine ih (by omega) x ?_
        rcases member with old | new
        · exact .inl old
        · rcases List.mem_cons.mp new with rfl | later
          · exact .inl present
          · exact .inr later
      · have rest : insert a (as.toFinset \ (xs ++ [a]).toFinset) ⊆ (a :: as).toFinset \ xs.toFinset := by
          intro b member
          simp only [Finset.mem_insert, Finset.mem_sdiff, List.mem_toFinset, List.mem_append,
            List.mem_cons] at member ⊢
          rcases member with rfl | ⟨later, new⟩
          · exact ⟨.inl rfl, present⟩
          · exact ⟨.inr later, fun old => new (.inl old)⟩
        have fewer := Finset.card_le_card rest
        rw [Finset.card_insert_of_notMem (by simp)] at fewer
        have grown : push capacity xs a = xs ++ [a] := by
          rw [push, if_neg present, if_neg (by omega)]
        rw [grown]
        refine ih (by rw [List.length_append, List.length_singleton]; omega) x ?_
        rcases member with old | new
        · exact .inl (List.mem_append_left _ old)
        · rcases List.mem_cons.mp new with rfl | later
          · exact .inl (List.mem_append_right _ (List.mem_singleton_self x))
          · exact .inr later

/-- A batch of no more distinct elements than fit leaves the list it found, less what no longer
fits, and behind it what the batch added. -/
theorem pushAll_eq_drop {capacity : Nat} {xs as : List α} (bounded : xs.length ≤ capacity)
    (few : as.toFinset.card ≤ capacity) :
    ∃ added : List α, added.Nodup ∧ (∀ a ∈ added, a ∈ as) ∧ (∀ a ∈ as, a ∉ xs → a ∈ added) ∧
      pushAll capacity xs as = xs.drop (xs.length + added.length - capacity) ++ added := by
  induction as using List.reverseRecOn with
  | nil => exact ⟨[], .nil, by simp, by simp, by simp [Nat.sub_eq_zero_of_le bounded]⟩
  | append_singleton as a ih =>
      have fewer : as.toFinset.card ≤ capacity :=
        (Finset.card_le_card (by simp)).trans few
      obtain ⟨added, nodup, from_batch, complete, eq⟩ := ih fewer
      rw [pushAll_append, eq, pushAll_cons, pushAll_nil]
      by_cases present : a ∈ xs.drop (xs.length + added.length - capacity) ++ added
      · refine ⟨added, nodup, fun b member => List.mem_append_left _ (from_batch b member), ?_,
          push_of_mem present⟩
        intro b member new
        rcases List.mem_append.mp member with before | last
        · exact complete b before new
        · obtain rfl := List.mem_singleton.mp last
          exact (List.mem_append.mp present).resolve_left fun old => new (List.mem_of_mem_drop old)
      · have new_to_batch : a ∉ added := fun member => present (List.mem_append_right _ member)
        have longer : (added ++ [a]).Nodup := List.nodup_append'.mpr
          ⟨nodup, List.nodup_singleton a, List.disjoint_singleton.mpr new_to_batch⟩
        have from_longer : ∀ b ∈ added ++ [a], b ∈ as ++ [a] := by
          intro b member
          rcases List.mem_append.mp member with before | last
          · exact List.mem_append_left _ (from_batch b before)
          · exact List.mem_append_right _ last
        have fits : (added ++ [a]).length ≤ capacity := by
          rw [← List.toFinset_card_of_nodup longer]
          refine (Finset.card_le_card fun b member => ?_).trans few
          exact List.mem_toFinset.mpr (from_longer b (List.mem_toFinset.mp member))
        refine ⟨added ++ [a], longer, from_longer, ?_, ?_⟩
        · intro b member new
          rcases List.mem_append.mp member with before | last
          · exact List.mem_append_left _ (complete b before new)
          · exact List.mem_append_right _ last
        · rw [List.length_append, List.length_singleton] at fits ⊢
          have length : (xs.drop (xs.length + added.length - capacity) ++ added).length =
              min (xs.length + added.length) capacity := by
            rw [List.length_append, List.length_drop]
            omega
          rw [push_of_notMem present (by omega), length, List.append_assoc,
            List.drop_append_of_le_length (by rw [List.length_drop]; omega), List.drop_drop]
          congr 2
          omega

/-! ## Lists of images -/

theorem push_map {capacity : Nat} {f : α → β} {xs : List α} {a : α}
    (distinct : ∀ x ∈ xs, f x = f a → x = a) :
    push capacity (xs.map f) (f a) = (push capacity xs a).map f := by
  have same : f a ∈ xs.map f ↔ a ∈ xs := by
    constructor
    · intro member
      obtain ⟨x, present, image⟩ := List.mem_map.mp member
      exact distinct x present image ▸ present
    · exact List.mem_map_of_mem
  unfold push
  simp only [same, List.length_map]
  split_ifs <;> simp

theorem pushAll_map {capacity : Nat} {f : α → β} {xs as : List α}
    (distinct : ∀ x ∈ xs ++ as, ∀ a ∈ as, f x = f a → x = a) :
    pushAll capacity (xs.map f) (as.map f) = (pushAll capacity xs as).map f := by
  induction as generalizing xs with
  | nil => rfl
  | cons a as ih =>
      rw [List.map_cons, pushAll_cons, pushAll_cons, push_map, ih]
      · intro x member b later
        refine distinct x ?_ b (List.mem_cons_of_mem a later)
        rcases List.mem_append.mp member with held | next
        · rcases mem_of_mem_push held with old | rfl
          · exact List.mem_append_left _ old
          · exact List.mem_append_right _ List.mem_cons_self
        · exact List.mem_append_right _ (List.mem_cons_of_mem a next)
      · exact fun x member => distinct x (List.mem_append_left _ member) a List.mem_cons_self

end P2pService.Library.Fifo
