import Mathlib.Data.Finmap
import Mathlib.Data.Multiset.Bind

/-!
# Hash maps

A hash map is a finite map without an order: equal contents are equal maps, and what a program
gets by iterating is a multiset. The operations are those of `Finmap` under the names a program
uses, with a value type that does not depend on the key.
-/

namespace P2pService.Library

abbrev HashMap (K V : Type*) := Finmap (fun _ : K => V)

namespace HashMap

variable {K V : Type*} [DecidableEq K]

def get (m : HashMap K V) (k : K) : Option V := m.lookup k

def insert (m : HashMap K V) (k : K) (v : V) : HashMap K V := Finmap.insert k v m

def remove (m : HashMap K V) (k : K) : HashMap K V := Finmap.erase k m

def containsKey (m : HashMap K V) (k : K) : Bool := (m.get k).isSome

omit [DecidableEq K] in
def len (m : HashMap K V) : Nat := m.keys.card

omit [DecidableEq K] in
/-- Everything an iteration over the map yields, in no particular order. -/
def iter (m : HashMap K V) : Multiset (K × V) := m.entries.map fun entry => (entry.1, entry.2)

@[simp] theorem get_empty (k : K) : get (∅ : HashMap K V) k = none := Finmap.lookup_empty k

@[simp] theorem get_insert_self (m : HashMap K V) (k : K) (v : V) : (m.insert k v).get k = some v :=
  Finmap.lookup_insert m

theorem get_insert (m : HashMap K V) (k j : K) (v : V) :
    (m.insert k v).get j = if j = k then some v else m.get j := by
  split_ifs with same
  · subst same; exact get_insert_self m j v
  · exact Finmap.lookup_insert_of_ne m same

@[simp] theorem get_remove_self (m : HashMap K V) (k : K) : (m.remove k).get k = none :=
  Finmap.lookup_erase k m

theorem get_remove (m : HashMap K V) (k j : K) :
    (m.remove k).get j = if j = k then none else m.get j := by
  split_ifs with same
  · subst same; exact get_remove_self m j
  · exact Finmap.lookup_erase_ne same

theorem ext {m n : HashMap K V} (same : ∀ k, m.get k = n.get k) : m = n := Finmap.ext_lookup same

theorem mem_keys {m : HashMap K V} {k : K} : k ∈ m.keys ↔ (m.get k).isSome :=
  Finmap.mem_keys.trans Finmap.lookup_isSome.symm

theorem mem_keys_iff_exists {m : HashMap K V} {k : K} : k ∈ m.keys ↔ ∃ v, m.get k = some v := by
  rw [mem_keys, Option.isSome_iff_exists]

@[simp] theorem keys_insert (m : HashMap K V) (k : K) (v : V) :
    (m.insert k v).keys = Insert.insert k m.keys := by
  ext j
  rw [Finset.mem_insert, mem_keys, mem_keys, get_insert]
  split_ifs with same <;> simp [same]

@[simp] theorem keys_remove (m : HashMap K V) (k : K) : (m.remove k).keys = m.keys.erase k :=
  Finmap.keys_erase k m

theorem remove_of_none {m : HashMap K V} {k : K} (absent : m.get k = none) : m.remove k = m := by
  apply ext
  intro j
  rw [get_remove]
  split_ifs with same
  · rw [same, absent]
  · rfl

/-! ## Iterating -/

theorem mem_iter {m : HashMap K V} {k : K} {v : V} : (k, v) ∈ m.iter ↔ m.get k = some v := by
  unfold iter get
  rw [Multiset.mem_map, Finmap.lookup_eq_some_iff]
  constructor
  · rintro ⟨entry, member, same⟩
    cases same
    exact member
  · exact fun member => ⟨_, member, rfl⟩

omit [DecidableEq K] in
theorem iter_map_fst (m : HashMap K V) : m.iter.map Prod.fst = m.keys.val :=
  Multiset.map_map _ _ _

theorem bind_iter {W : Type*} {m : HashMap K V} {k : K} {f : K × V → Multiset W}
    (other : ∀ j v, m.get j = some v → j ≠ k → f (j, v) = 0) :
    m.iter.bind f = ((m.get k).map fun v => f (k, v)).getD 0 := by
  have keys_nodup : (m.iter.map Prod.fst).Nodup := by
    rw [iter_map_fst]
    exact m.keys.nodup
  have vanishes (entries : Multiset (K × V)) (part : entries ≤ m.iter)
      (missing : ∀ entry ∈ entries, entry.1 ≠ k) : entries.bind f = 0 := by
    refine (Multiset.bind_congr fun entry member => ?_).trans (Multiset.bind_zero entries)
    have present := mem_iter.mp (Multiset.mem_of_le part member)
    exact other entry.1 entry.2 present (missing entry member)
  cases found : m.get k with
  | none =>
      refine vanishes m.iter le_rfl fun entry member same => ?_
      have present := mem_iter.mp member
      rw [same, found] at present
      cases present
  | some v =>
      obtain ⟨others, split⟩ := Multiset.exists_cons_of_mem (mem_iter.mpr found)
      rw [split, Multiset.map_cons, Multiset.nodup_cons] at keys_nodup
      rw [split, Multiset.cons_bind, vanishes others (split ▸ Multiset.le_cons_self _ _), add_zero]
      · rfl
      · intro entry rest same
        exact keys_nodup.1 (Multiset.mem_map.mpr ⟨entry, rest, same⟩)

omit [DecidableEq K] in
theorem iter_nodup (m : HashMap K V) : m.iter.Nodup := by
  have keys : (m.iter.map Prod.fst).Nodup := by
    rw [iter_map_fst]
    exact m.keys.nodup
  exact keys.of_map

theorem remove_insert (m : HashMap K V) (k : K) (v : V) : (m.insert k v).remove k = m.remove k := by
  apply ext
  intro j
  rw [get_remove, get_insert, get_remove]
  split_ifs <;> rfl

theorem iter_of_get {m : HashMap K V} {k : K} {v : V} (found : m.get k = some v) :
    m.iter = (k, v) ::ₘ (m.remove k).iter := by
  have fresh : (k, v) ∉ (m.remove k).iter := by simp [mem_iter]
  refine (Multiset.Nodup.ext m.iter_nodup
    (Multiset.nodup_cons.mpr ⟨fresh, (m.remove k).iter_nodup⟩)).mpr ?_
  rintro ⟨j, w⟩
  rw [Multiset.mem_cons, mem_iter, mem_iter, get_remove, Prod.mk.injEq]
  split_ifs with same
  · simp [same, found, eq_comm]
  · simp [same]

theorem iter_insert (m : HashMap K V) (k : K) (v : V) :
    (m.insert k v).iter = (k, v) ::ₘ (m.remove k).iter := by
  rw [iter_of_get (get_insert_self m k v), remove_insert]

/-! ## Dropping entries -/

omit [DecidableEq K] in
def retain (m : HashMap K V) (keep : K → V → Bool) : HashMap K V where
  entries := m.entries.filter fun entry => keep entry.1 entry.2
  nodupKeys := by
    have nodup := Multiset.nodup_keys.mpr m.nodupKeys
    refine Multiset.nodup_keys.mp (Multiset.nodup_of_le ?_ nodup)
    exact Multiset.map_le_map (Multiset.filter_le _ _)

theorem get_retain (m : HashMap K V) (keep : K → V → Bool) (k : K) :
    (m.retain keep).get k = (m.get k).filter (keep k) := by
  ext v
  rw [Option.filter_eq_some_iff]
  unfold get
  rw [Finmap.lookup_eq_some_iff, Finmap.lookup_eq_some_iff]
  exact Multiset.mem_filter

/-! ## Maps built from lists -/

/-- Inserts the entries in order, so the last entry of a key wins. -/
def insertAll (m : HashMap K V) (entries : List (K × V)) : HashMap K V :=
  entries.foldl (fun m entry => m.insert entry.1 entry.2) m

theorem keys_insertAll (m : HashMap K V) (entries : List (K × V)) :
    (m.insertAll entries).keys = m.keys ∪ (entries.map Prod.fst).toFinset := by
  unfold insertAll
  induction entries generalizing m with
  | nil => simp
  | cons entry entries ih =>
      rw [List.foldl_cons, ih, keys_insert]
      ext k
      simp only [Finset.mem_union, Finset.mem_insert, List.map_cons, List.mem_toFinset, List.mem_cons]
      tauto

theorem get_insertAll_of_notMem {entries : List (K × V)} {k : K} (absent : k ∉ entries.map Prod.fst)
    (m : HashMap K V) : (m.insertAll entries).get k = m.get k := by
  unfold insertAll
  induction entries generalizing m with
  | nil => rfl
  | cons entry entries ih =>
      rw [List.map_cons, List.mem_cons, not_or] at absent
      rw [List.foldl_cons, ih absent.2, get_insert, if_neg absent.1]

theorem get_insertAll_of_nodup {entries : List (K × V)} (nodup : (entries.map Prod.fst).Nodup)
    {k : K} {v : V} (member : (k, v) ∈ entries) (m : HashMap K V) :
    (m.insertAll entries).get k = some v := by
  induction entries generalizing m with
  | nil => simp at member
  | cons entry entries ih =>
      rw [List.map_cons, List.nodup_cons] at nodup
      rcases List.mem_cons.mp member with rfl | later
      · exact (get_insertAll_of_notMem nodup.1 (m.insert k v)).trans (get_insert_self m k v)
      · exact ih nodup.2 later (m.insert entry.1 entry.2)

theorem get_insertAll_iff {entries : List (K × V)} (nodup : (entries.map Prod.fst).Nodup)
    (k : K) (v : V) : (insertAll ∅ entries).get k = some v ↔ (k, v) ∈ entries := by
  refine ⟨fun found => ?_, fun member => get_insertAll_of_nodup nodup member ∅⟩
  by_cases listed : k ∈ entries.map Prod.fst
  · obtain ⟨⟨_, w⟩, member, rfl⟩ := List.mem_map.mp listed
    rw [get_insertAll_of_nodup nodup member ∅] at found
    exact Option.some.inj found ▸ member
  · rw [get_insertAll_of_notMem listed, get_empty] at found
    cases found

end HashMap
end P2pService.Library
