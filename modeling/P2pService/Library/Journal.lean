import P2pService.Library.System
import Mathlib.Data.List.Induction

/-!
# A value in memory and on disk

A component keeps a value in memory while it runs, commits it to disk from time to time, and starts
again from what is on disk. The journal of a run says which operations have reached the disk and
which are only in memory.
-/

namespace P2pService.Library

structure Cell (Value : Type*) where
  durable : Value
  /-- The value in memory, while the component runs. -/
  volatile : Option Value

inductive CellLabel (Op : Type*) where
  | start
  | apply (op : Op)
  | commit
  | stop

/-- The operations that the value on disk has in it, and those that came after them. -/
structure Journal (Op : Type*) where
  committed : List Op
  pending : List Op

variable {Value Op : Type*}

namespace Cell

def Enabled (cell : Cell Value) : CellLabel Op → Prop
  | .start => cell.volatile = none
  | .apply _ | .commit | .stop => cell.volatile ≠ none

def next (act : Value → Op → Value) (cell : Cell Value) : CellLabel Op → Cell Value
  | .start => { cell with volatile := some cell.durable }
  | .apply op => { cell with volatile := cell.volatile.map (act · op) }
  | .commit => { cell with durable := cell.volatile.getD cell.durable }
  | .stop => { cell with volatile := none }

end Cell

def cellSystem (act : Value → Op → Value) (base : Value) : System (Cell Value) (CellLabel Op) where
  initial cell := cell = ⟨base, none⟩
  enabled := Cell.Enabled
  next := Cell.next act

namespace Journal

def empty : Journal Op := ⟨[], []⟩

def entries (journal : Journal Op) : List Op := journal.committed ++ journal.pending

def record (_ : Cell Value) : CellLabel Op → Journal Op → Journal Op
  | .start, journal => journal
  | .apply op, journal => { journal with pending := journal.pending ++ [op] }
  | .commit, journal => ⟨journal.entries, []⟩
  | .stop, journal => { journal with pending := [] }

theorem committed_prefix_record (cell : Cell Value) (label : CellLabel Op) (journal : Journal Op) :
    journal.committed <+: (record cell label journal).committed := by
  cases label with
  | commit => exact List.prefix_append _ _
  | start | apply | stop => exact List.prefix_rfl

/-- The cell is what its journal leads to from `base`, on disk and in memory. -/
structure Replays (act : Value → Op → Value) (base : Value) (cell : Cell Value)
    (journal : Journal Op) : Prop where
  durable : cell.durable = journal.committed.foldl act base
  volatile : ∀ value, cell.volatile = some value → value = journal.entries.foldl act base
  stopped : cell.volatile = none → journal.pending = []

namespace Replays

variable {act : Value → Op → Value} {base : Value} {cell : Cell Value} {journal : Journal Op}

theorem next (replays : Replays act base cell journal) {label : CellLabel Op}
    (enabled : cell.Enabled label) :
    Replays act base (cell.next act label) (record cell label journal) := by
  obtain ⟨durable, volatile, stopped⟩ := replays
  cases label with
  | start =>
      have nothing : journal.entries = journal.committed := by
        rw [entries, stopped enabled, List.append_nil]
      refine ⟨durable, fun value running => ?_, fun idle => nomatch idle⟩
      rw [← Option.some.inj running, record, nothing, durable]
  | apply op =>
      obtain ⟨value, running⟩ := Option.ne_none_iff_exists'.mp enabled
      refine ⟨durable, fun after applied => ?_, fun idle => ?_⟩
      · rw [Cell.next, running] at applied
        rw [← Option.some.inj applied, volatile value running]
        simp only [record, entries, ← List.append_assoc, List.foldl_append, List.foldl_cons,
          List.foldl_nil]
      · rw [Cell.next, running] at idle
        exact nomatch idle
  | commit =>
      obtain ⟨value, running⟩ := Option.ne_none_iff_exists'.mp enabled
      refine ⟨?_, fun after same => ?_, fun idle => rfl⟩
      · rw [Cell.next, running]
        exact volatile value running
      · rw [record, entries, List.append_nil]
        exact volatile after same
  | stop => exact ⟨durable, fun _ running => (nomatch running), fun _ => rfl⟩

theorem of_reachable {state : Cell Value × Journal Op}
    (reachable : ((cellSystem act base).withHistory empty record).Reachable state) :
    Replays act base state.1 state.2 := by
  induction reachable with
  | initial first =>
      obtain ⟨cell, journal⟩ := first
      rw [cell, journal]
      exact ⟨rfl, fun _ running => (nomatch running), fun _ => rfl⟩
  | next _ enabled ih => exact ih.next enabled

/-- What holds of `base` before any operation, and is kept by one more, holds on disk and in
memory. -/
theorem invariant (replays : Replays act base cell journal) {property : List Op → Value → Prop}
    (start : property [] base)
    (step : ∀ ops value op, property ops value → property (ops ++ [op]) (act value op)) :
    property journal.committed cell.durable ∧
      ∀ value, cell.volatile = some value → property journal.entries value := by
  have folded (ops : List Op) : property ops (ops.foldl act base) := by
    induction ops using List.reverseRecOn with
    | nil => exact start
    | append_singleton ops op ih =>
        rw [List.foldl_append, List.foldl_cons, List.foldl_nil]
        exact step ops _ op ih
  constructor
  · rw [replays.durable]
    exact folded _
  · intro value running
    rw [replays.volatile value running]
    exact folded _

end Replays
end Journal
end P2pService.Library
