import Mathlib.Data.Finset.Card
import Mathlib.Data.List.Nodup

/-!
# The first acceptable item of each key

One pass over a list takes an item when it is acceptable and no item of its key was taken before.
-/

namespace P2pService.Library

variable {α κ : Type*} [DecidableEq κ]

/-- `used` are the keys that are taken already. -/
def pick (key : α → κ) (ok : α → Bool) : Finset κ → List α → List α
  | _, [] => []
  | used, item :: items =>
      if ok item ∧ key item ∉ used then item :: pick key ok (insert (key item) used) items
      else pick key ok used items

def okKeys (key : α → κ) (ok : α → Bool) (items : List α) : Finset κ :=
  ((items.filter ok).map key).toFinset

variable {key : α → κ} {ok : α → Bool} {used : Finset κ}

theorem mem_okKeys {items : List α} {k : κ} :
    k ∈ okKeys key ok items ↔ ∃ item ∈ items, ok item ∧ key item = k := by
  simp [okKeys, and_assoc]

theorem pick_cons_of_taken {item : α} (acceptable : ok item) (fresh : key item ∉ used)
    (items : List α) :
    pick key ok used (item :: items) = item :: pick key ok (insert (key item) used) items :=
  if_pos ⟨acceptable, fresh⟩

theorem pick_cons_of_passed {item : α} (passed : ¬ (ok item ∧ key item ∉ used)) (items : List α) :
    pick key ok used (item :: items) = pick key ok used items := if_neg passed

theorem pick_eq_self {items : List α} (acceptable : ∀ item ∈ items, ok item)
    (distinct : (items.map key).Nodup) (fresh : ∀ item ∈ items, key item ∉ used) :
    pick key ok used items = items := by
  induction items generalizing used with
  | nil => rfl
  | cons item items ih =>
      rw [List.forall_mem_cons] at acceptable fresh
      rw [List.map_cons, List.nodup_cons] at distinct
      rw [pick_cons_of_taken acceptable.1 fresh.1, ih acceptable.2 distinct.2]
      intro later member
      rw [Finset.mem_insert, not_or]
      exact ⟨fun same => distinct.1 (same ▸ List.mem_map_of_mem member), fresh.2 later member⟩

theorem pick_eq_nil {items : List α} (passed : ∀ item ∈ items, ¬ (ok item ∧ key item ∉ used)) :
    pick key ok used items = [] := by
  induction items with
  | nil => rfl
  | cons item items ih =>
      rw [List.forall_mem_cons] at passed
      rw [pick_cons_of_passed passed.1, ih passed.2]

theorem pick_sublist (used : Finset κ) (items : List α) : (pick key ok used items).Sublist items := by
  induction items generalizing used with
  | nil => exact .slnil
  | cons item items ih =>
      by_cases taken : ok item ∧ key item ∉ used
      · rw [pick_cons_of_taken taken.1 taken.2]
        exact (ih _).cons_cons item
      · rw [pick_cons_of_passed taken]
        exact (ih used).cons item

theorem pick_append (used : Finset κ) (items later : List α) :
    pick key ok used (items ++ later) =
      pick key ok used items ++ pick key ok (used ∪ okKeys key ok items) later := by
  induction items generalizing used with
  | nil => simp [pick, okKeys]
  | cons item items ih =>
      by_cases acceptable : ok item
      · have keys : used ∪ okKeys key ok (item :: items) =
            insert (key item) used ∪ okKeys key ok items := by
          ext k
          simp [okKeys, acceptable]
        rw [keys, List.cons_append]
        by_cases fresh : key item ∈ used
        · have passed : ¬ (ok item ∧ key item ∉ used) := fun taken => taken.2 fresh
          rw [pick_cons_of_passed passed, pick_cons_of_passed passed, ih,
            Finset.insert_eq_of_mem fresh]
        · rw [pick_cons_of_taken acceptable fresh, pick_cons_of_taken acceptable fresh, ih,
            List.cons_append]
      · have passed : ¬ (ok item ∧ key item ∉ used) := fun taken => acceptable taken.1
        have keys : okKeys key ok (item :: items) = okKeys key ok items := by
          simp [okKeys, acceptable]
        rw [keys, List.cons_append, pick_cons_of_passed passed, pick_cons_of_passed passed, ih]

theorem mem_pick_iff {items : List α} {item : α} : item ∈ pick key ok used items ↔
    ∃ before after, items = before ++ item :: after ∧ ok item ∧ key item ∉ used ∧
      ∀ earlier ∈ before, key earlier = key item → ok earlier = false := by
  constructor
  · induction items generalizing used with
    | nil => simp [pick]
    | cons first items ih =>
        intro member
        by_cases taken : ok first ∧ key first ∉ used
        · rw [pick_cons_of_taken taken.1 taken.2, List.mem_cons] at member
          rcases member with rfl | later
          · exact ⟨[], items, rfl, taken.1, taken.2, by simp⟩
          · obtain ⟨before, after, rfl, acceptable, fresh, earliest⟩ := ih later
            rw [Finset.mem_insert, not_or] at fresh
            refine ⟨first :: before, after, rfl, acceptable, fresh.2, fun earlier member same => ?_⟩
            rcases List.mem_cons.mp member with rfl | later
            · exact absurd same.symm fresh.1
            · exact earliest earlier later same
        · rw [pick_cons_of_passed taken] at member
          obtain ⟨before, after, rfl, acceptable, fresh, earliest⟩ := ih member
          refine ⟨first :: before, after, rfl, acceptable, fresh, fun earlier member same => ?_⟩
          rcases List.mem_cons.mp member with rfl | later
          · by_contra accepted
            exact taken ⟨Bool.not_eq_false _ ▸ accepted, same ▸ fresh⟩
          · exact earliest earlier later same
  · rintro ⟨before, after, rfl, acceptable, fresh, earliest⟩
    have unused : key item ∉ used ∪ okKeys key ok before := by
      rw [Finset.mem_union, not_or]
      refine ⟨fresh, fun earlier_key => ?_⟩
      obtain ⟨earlier, member, accepted, same⟩ := mem_okKeys.mp earlier_key
      rw [earliest earlier member same] at accepted
      cases accepted
    rw [pick_append, pick_cons_of_taken acceptable unused]
    exact List.mem_append_right _ List.mem_cons_self

theorem mem_pick_iff_getElem? {items : List α} {item : α} : item ∈ pick key ok used items ↔
    ∃ k : Nat, items[k]? = some item ∧ ok item ∧ key item ∉ used ∧
      ∀ j < k, ∀ earlier, items[j]? = some earlier → key earlier = key item → ok earlier = false := by
  rw [mem_pick_iff]
  constructor
  · rintro ⟨before, after, rfl, acceptable, fresh, earliest⟩
    refine ⟨before.length, by simp, acceptable, fresh, fun j position earlier found => ?_⟩
    rw [List.getElem?_append_left position] at found
    exact earliest earlier (List.mem_of_getElem? found)
  · rintro ⟨k, found, acceptable, fresh, earliest⟩
    obtain ⟨inside, rfl⟩ := List.getElem?_eq_some_iff.mp found
    refine ⟨items.take k, items.drop (k + 1), ?_, acceptable, fresh, fun earlier member => ?_⟩
    · rw [List.cons_getElem_drop_succ, List.take_append_drop]
    · obtain ⟨j, position, rfl⟩ := List.mem_iff_getElem.mp member
      rw [List.length_take] at position
      refine earliest j (lt_of_lt_of_le position (min_le_left _ _)) _ ?_
      rw [List.getElem_take, List.getElem?_eq_getElem]

theorem ok_of_mem_pick {items : List α} {item : α} (taken : item ∈ pick key ok used items) :
    ok item := by
  obtain ⟨_, _, _, acceptable, _⟩ := mem_pick_iff.mp taken
  exact acceptable

theorem key_notMem_of_mem_pick {items : List α} {item : α} (taken : item ∈ pick key ok used items) :
    key item ∉ used := by
  obtain ⟨_, _, _, _, fresh, _⟩ := mem_pick_iff.mp taken
  exact fresh

theorem nodup_pick (used : Finset κ) (items : List α) : ((pick key ok used items).map key).Nodup := by
  induction items generalizing used with
  | nil => exact .nil
  | cons item items ih =>
      by_cases taken : ok item ∧ key item ∉ used
      · rw [pick_cons_of_taken taken.1 taken.2, List.map_cons, List.nodup_cons]
        refine ⟨fun again => ?_, ih _⟩
        obtain ⟨other, member, same⟩ := List.mem_map.mp again
        exact key_notMem_of_mem_pick member (same ▸ Finset.mem_insert_self _ _)
      · rw [pick_cons_of_passed taken]
        exact ih used

theorem keys_pick (used : Finset κ) (items : List α) :
    ((pick key ok used items).map key).toFinset = okKeys key ok items \ used := by
  induction items generalizing used with
  | nil => simp [pick, okKeys]
  | cons item items ih =>
      by_cases taken : ok item ∧ key item ∉ used
      · rw [pick_cons_of_taken taken.1 taken.2, List.map_cons, List.toFinset_cons, ih]
        have keys : okKeys key ok (item :: items) = insert (key item) (okKeys key ok items) := by
          simp [okKeys, taken.1]
        ext k
        rw [keys]
        simp only [Finset.mem_insert, Finset.mem_sdiff, not_or]
        by_cases same : k = key item
        · simp [same, taken.2]
        · simp [same]
      · rw [pick_cons_of_passed taken, ih]
        ext k
        simp only [Finset.mem_sdiff, mem_okKeys, List.mem_cons]
        constructor
        · rintro ⟨⟨other, member, acceptable⟩, fresh⟩
          exact ⟨⟨other, .inr member, acceptable⟩, fresh⟩
        · rintro ⟨⟨other, rfl | member, acceptable, same⟩, fresh⟩
          · exact absurd ⟨acceptable, same ▸ fresh⟩ taken
          · exact ⟨⟨other, member, acceptable, same⟩, fresh⟩

end P2pService.Library
