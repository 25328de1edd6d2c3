import Mathlib.Data.List.Basic
import Mathlib.Logic.Basic

/-!
# Labelled systems

A system is driven by labels: a label is enabled in a state or not, and an enabled label leads to
one next state. Everything nondeterministic is in the label. A run is then a list of labels, so a
run can be replayed, and a property of runs is a property of lists.
-/

namespace P2pService.Library

structure System (State Label : Type*) where
  initial : State → Prop
  enabled : State → Label → Prop
  next : State → Label → State

namespace System

variable {State Label : Type*}

def after (S : System State Label) (state : State) (labels : List Label) : State :=
  labels.foldl S.next state

/-- `condition` holds of every step of the run, read in the state the step starts from. -/
def EachStep (S : System State Label) (condition : State → Label → Prop) : State → List Label → Prop
  | _, [] => True
  | state, label :: labels => condition state label ∧ S.EachStep condition (S.next state label) labels

abbrev Legal (S : System State Label) : State → List Label → Prop := S.EachStep S.enabled

/-- `property` holds of every state the run visits, both ends included. -/
def Throughout (S : System State Label) (property : State → Prop) : State → List Label → Prop
  | state, [] => property state
  | state, label :: labels => property state ∧ S.Throughout property (S.next state label) labels

inductive Reachable (S : System State Label) : State → Prop
  | initial {state : State} : S.initial state → S.Reachable state
  | next {state : State} {label : Label} :
      S.Reachable state → S.enabled state label → S.Reachable (S.next state label)

def restrict (S : System State Label) (condition : State → Label → Prop) : System State Label where
  initial := S.initial
  enabled state label := S.enabled state label ∧ condition state label
  next := S.next

variable {S : System State Label}

@[simp] theorem after_cons (state : State) (label : Label) (labels : List Label) :
    S.after state (label :: labels) = S.after (S.next state label) labels := rfl

instance decidableEachStep (condition : State → Label → Prop)
    [∀ state label, Decidable (condition state label)] :
    ∀ state labels, Decidable (S.EachStep condition state labels)
  | _, [] => isTrue trivial
  | state, label :: labels =>
      have := decidableEachStep condition (S.next state label) labels
      inferInstanceAs (Decidable (condition state label ∧ S.EachStep condition _ labels))

/-! ## Invariants -/

theorem Reachable.invariant {property : State → Prop}
    (start : ∀ state, S.initial state → property state)
    (step : ∀ state label, S.Reachable state → property state → S.enabled state label →
      property (S.next state label))
    {state : State} (reachable : S.Reachable state) : property state := by
  induction reachable with
  | initial first => exact start _ first
  | next before enabled ih => exact step _ _ before ih enabled

theorem Reachable.after {state : State} {labels : List Label}
    (reachable : S.Reachable state) (legal : S.Legal state labels) :
    S.Reachable (S.after state labels) := by
  induction labels generalizing state with
  | nil => exact reachable
  | cons label labels ih => exact ih (.next reachable legal.1) legal.2

theorem Reachable.eachStep {condition : State → Label → Prop}
    (step : ∀ state label, S.Reachable state → S.enabled state label → condition state label)
    {state : State} {labels : List Label} (reachable : S.Reachable state)
    (legal : S.Legal state labels) : S.EachStep condition state labels := by
  induction labels generalizing state with
  | nil => trivial
  | cons label labels ih => exact ⟨step _ _ reachable legal.1, ih (.next reachable legal.1) legal.2⟩

theorem Reachable.of_restrict {condition : State → Label → Prop} {state : State}
    (reachable : (S.restrict condition).Reachable state) : S.Reachable state := by
  induction reachable with
  | initial first => exact .initial first
  | next _ enabled ih => exact .next ih enabled.1

theorem after_of_step {property : State → Prop} {condition : State → Label → Prop}
    (step : ∀ state label, property state → condition state label → property (S.next state label))
    {state : State} {labels : List Label} (start : property state)
    (each : S.EachStep condition state labels) : property (S.after state labels) := by
  induction labels generalizing state with
  | nil => exact start
  | cons label labels ih => exact ih (step _ _ start each.1) each.2

/-! ## History variables -/

variable {History : Type*}

/-- The system beside a variable that records its run and never influences it. -/
def withHistory (S : System State Label) (start : History)
    (record : State → Label → History → History) : System (State × History) Label where
  initial state := S.initial state.1 ∧ state.2 = start
  enabled state label := S.enabled state.1 label
  next state label := (S.next state.1 label, record state.1 label state.2)

theorem Reachable.forget {start : History} {record : State → Label → History → History}
    {state : State × History} (reachable : (S.withHistory start record).Reachable state) :
    S.Reachable state.1 := by
  induction reachable with
  | initial first => exact .initial first.1
  | next _ enabled ih => exact .next ih enabled

theorem Legal.withHistory {start : History} {record : State → Label → History → History}
    {state : State} {labels : List Label} (legal : S.Legal state labels) (history : History) :
    (S.withHistory start record).Legal (state, history) labels := by
  induction labels generalizing state history with
  | nil => trivial
  | cons label labels ih => exact ⟨legal.1, ih legal.2 (record state label history)⟩

/-! ## Properties of whole runs -/

theorem Throughout.eachStep {property : State → Prop} {condition : State → Label → Prop}
    (implies : ∀ state label, property state → S.enabled state label → condition state label)
    {state : State} {labels : List Label} (throughout : S.Throughout property state labels)
    (legal : S.Legal state labels) : S.EachStep condition state labels := by
  induction labels generalizing state with
  | nil => trivial
  | cons label labels ih =>
      exact ⟨implies _ _ throughout.1 legal.1, ih throughout.2 legal.2⟩

theorem eachStep_iff_eachStep {support : State → Prop} {first second : State → Label → Prop}
    (keeps : ∀ state label, support state → S.enabled state label → support (S.next state label))
    (step : ∀ state label, support state → S.enabled state label →
      (first state label ↔ second state label))
    {state : State} {labels : List Label} (supported : support state)
    (legal : S.Legal state labels) :
    S.EachStep first state labels ↔ S.EachStep second state labels := by
  induction labels generalizing state with
  | nil => exact Iff.rfl
  | cons label labels ih =>
      exact and_congr (step _ _ supported legal.1) (ih (keeps _ _ supported legal.1) legal.2)

/--
A property of states that a step keeps exactly when the step meets a condition holds throughout a
run exactly when every step of the run meets the condition. `support` is an invariant that the
step lemma may use.
-/
theorem throughout_iff_eachStep {property support : State → Prop} {condition : State → Label → Prop}
    (keeps : ∀ state label, support state → S.enabled state label → support (S.next state label))
    (step : ∀ state label, support state → property state → S.enabled state label →
      (property (S.next state label) ↔ condition state label))
    {state : State} {labels : List Label} (supported : support state) (start : property state)
    (legal : S.Legal state labels) :
    S.Throughout property state labels ↔ S.EachStep condition state labels := by
  induction labels generalizing state with
  | nil => exact ⟨fun _ => trivial, fun _ => start⟩
  | cons label labels ih =>
      have exact_step := step state label supported start legal.1
      constructor
      · rintro ⟨_, rest⟩
        have kept : property (S.next state label) := by
          cases labels with
          | nil => exact rest
          | cons => exact rest.1
        exact ⟨exact_step.mp kept, (ih (keeps _ _ supported legal.1) kept legal.2).mp rest⟩
      · rintro ⟨met, rest⟩
        have kept := exact_step.mpr met
        exact ⟨start, (ih (keeps _ _ supported legal.1) kept legal.2).mpr rest⟩

end System

/-! ## Refinement -/

section

variable {State Label AbsState AbsLabel History : Type*}

/-- Every step of the concrete system is a step of the abstract one, or is not seen there. -/
structure Refinement (concrete : System State Label) (abstract : System AbsState AbsLabel) where
  view : State → AbsState
  image : State → Label → Option AbsLabel
  initial : ∀ state, concrete.initial state → abstract.initial (view state)
  enabled : ∀ state label absLabel, concrete.enabled state label →
    image state label = some absLabel → abstract.enabled (view state) absLabel
  seen : ∀ state label absLabel, concrete.enabled state label →
    image state label = some absLabel →
      view (concrete.next state label) = abstract.next (view state) absLabel
  unseen : ∀ state label, concrete.enabled state label → image state label = none →
    view (concrete.next state label) = view state

namespace Refinement

variable {concrete : System State Label} {abstract : System AbsState AbsLabel}

def record (refinement : Refinement concrete abstract)
    (absRecord : AbsState → AbsLabel → History → History) (state : State) (label : Label)
    (history : History) : History :=
  match refinement.image state label with
  | some absLabel => absRecord (refinement.view state) absLabel history
  | none => history

theorem record_of_some {refinement : Refinement concrete abstract} {state : State} {label : Label}
    {absLabel : AbsLabel} (image : refinement.image state label = some absLabel)
    (absRecord : AbsState → AbsLabel → History → History) (history : History) :
    refinement.record absRecord state label history =
      absRecord (refinement.view state) absLabel history := by
  rw [record, image]

theorem record_of_none {refinement : Refinement concrete abstract} {state : State} {label : Label}
    (image : refinement.image state label = none)
    (absRecord : AbsState → AbsLabel → History → History) (history : History) :
    refinement.record absRecord state label history = history := by
  rw [record, image]

theorem reachable_withHistory (refinement : Refinement concrete abstract) {start : History}
    {absRecord : AbsState → AbsLabel → History → History} {state : State × History}
    (reachable : (concrete.withHistory start (refinement.record absRecord)).Reachable state) :
    (abstract.withHistory start absRecord).Reachable (refinement.view state.1, state.2) := by
  induction reachable with
  | initial first => exact .initial ⟨refinement.initial _ first.1, first.2⟩
  | @next state label _ enabled ih =>
      cases image : refinement.image state.1 label with
      | some absLabel =>
          have step := System.Reachable.next ih (refinement.enabled _ _ _ enabled image)
          simp only [System.withHistory, record_of_some image, refinement.seen _ _ _ enabled image]
          exact step
      | none =>
          simp only [System.withHistory, record_of_none image, refinement.unseen _ _ enabled image]
          exact ih

end Refinement
end

end P2pService.Library
