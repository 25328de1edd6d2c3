import P2pService.Library.Calls

/-!
# Requests that are answered in order

The requests of a server fall into lanes, and each step fills slots of one lane, from the front of
those that wait there. So each lane is answered in the order in which its requests were sent, and a
request that never waits is answered before whatever was sent after it.
-/

namespace P2pService.Library

section

variable {α : Type*} {xs ys : List α} {x y : α}

/-- `x` occurs in the list, and `y` occurs after it. -/
def Before (xs : List α) (x y : α) : Prop := [x, y].Sublist xs

instance [DecidableEq α] (xs : List α) (x y : α) : Decidable (Before xs x y) :=
  inferInstanceAs (Decidable ([x, y].Sublist xs))

namespace Before

theorem mem_left (before : Before xs x y) : x ∈ xs := before.subset (by simp)

theorem append_right (before : Before xs x y) (ys : List α) : Before (xs ++ ys) x y :=
  before.trans (List.sublist_append_left xs ys)

theorem of_mem (first : x ∈ xs) (second : y ∈ ys) : Before (xs ++ ys) x y :=
  (List.singleton_sublist.mpr first).append (List.singleton_sublist.mpr second)

theorem filter {p : α → Bool} (before : Before xs x y) (first : p x) (second : p y) :
    Before (xs.filter p) x y := by
  have kept := List.Sublist.filter p before
  rwa [List.filter_cons_of_pos first, List.filter_cons_of_pos second, List.filter_nil] at kept

/-- If the later one is in the first part of the list, both are. -/
theorem of_append (before : Before (xs ++ ys) x y) (distinct : (xs ++ ys).Nodup) (inside : y ∈ xs) :
    Before xs x y := by
  obtain ⟨front, back, parts, front_sub, back_sub⟩ := List.sublist_append_iff.mp before
  rcases List.eq_nil_or_concat back with rfl | ⟨early, last, rfl⟩
  · rw [List.append_nil] at parts
    rw [Before, parts]
    exact front_sub
  · have same : y = last := by
      have ends := congrArg List.getLast? parts
      simpa using ends
    have outside : y ∈ ys := same ▸ back_sub.subset (by simp)
    exact absurd outside ((List.nodup_append'.mp distinct).2.2 inside)

theorem mem_of_concat {last : α} (before : Before (xs ++ [last]) x y) : x ∈ xs := by
  obtain ⟨front, back, parts, front_sub, back_sub⟩ := List.sublist_append_iff.mp before
  cases front with
  | nil =>
      have short := back_sub.length_le
      simp [← show [x, y] = back from parts] at short
  | cons first rest => exact (List.cons.inj parts).1 ▸ front_sub.subset (by simp)

end Before
end

variable {State Label Request Answer Lane : Type*}

structure Lanes (server : Server State Label Request Answer) (Lane : Type*) where
  lane : Request → Lane
  /-- The slots that wait in a lane, the first one in front. -/
  waits : State → Lane → List Slot

namespace Lanes

variable {server : Server State Label Request Answer} (lanes : Lanes server Lane)

/-- Some slots join the end of a lane, some at its front are filled, and other lanes stay. -/
def Moves (before after : State) (lane : Lane) (joined : List Slot) : Prop :=
  ∃ filled, server.answers after = server.answers before ++ filled ∧
    lanes.waits before lane ++ joined = filled.map Prod.fst ++ lanes.waits after lane ∧
    ∀ other, other ≠ lane → lanes.waits after other = lanes.waits before other

structure Lawful : Prop where
  initial : ∀ state, server.initial state →
    server.answers state = [] ∧ ∀ lane, lanes.waits state lane = []
  serves : ∀ state label request, server.enabled state label →
    server.request? label = some request →
      lanes.Moves state (server.next state label) (lanes.lane request) [server.slot request]
  reacts : ∀ state label, server.enabled state label → server.request? label = none →
    ∃ lane, lanes.Moves state (server.next state label) lane []

/-- Nothing ever waits in this lane. -/
def Prompt (lane : Lane) : Prop := ∀ state, lanes.waits state lane = []

def laneOf (asked : Slot → Option Request) (slot : Slot) : Option Lane :=
  (asked slot).map lanes.lane

/-- The first of the two has to be answered before the second. -/
def Ahead (asked : Slot → Option Request) (first second : Slot) : Prop :=
  ∃ lane, lanes.laneOf asked first = some lane ∧
    (lanes.Prompt lane ∨ lanes.laneOf asked second = some lane)

variable [DecidableEq Lane]

def within (asked : Slot → Option Request) (lane : Lane) (slots : List Slot) : List Slot :=
  slots.filter fun slot => lanes.laneOf asked slot = some lane

/-- What the server has taken is answered or waits, lane by lane and in order. -/
structure InOrder (asked : Slot → Option Request) (state : State) (served : List Slot) : Prop where
  known : ∀ entry ∈ server.answers state, entry.1 ∈ served
  split : ∀ lane, lanes.within asked lane served =
    lanes.within asked lane ((server.answers state).map Prod.fst) ++ lanes.waits state lane
  prompt : ∀ first second lane, Before served first second →
    lanes.laneOf asked first = some lane → lanes.Prompt lane →
      second ∈ (server.answers state).map Prod.fst →
        Before ((server.answers state).map Prod.fst) first second

variable {lanes} {asked : Slot → Option Request} {state after : State} {served : List Slot}
  {lane : Lane}

theorem mem_within {slot : Slot} {slots : List Slot} :
    slot ∈ lanes.within asked lane slots ↔ slot ∈ slots ∧ lanes.laneOf asked slot = some lane := by
  rw [within, List.mem_filter, decide_eq_true_eq]

theorem within_append (first second : List Slot) : lanes.within asked lane (first ++ second) =
    lanes.within asked lane first ++ lanes.within asked lane second :=
  List.filter_append ..

theorem within_of_all {slots : List Slot} (all : ∀ slot ∈ slots, lanes.laneOf asked slot = some lane) :
    lanes.within asked lane slots = slots :=
  List.filter_eq_self.mpr fun slot member => decide_eq_true (all slot member)

theorem within_of_other {other : Lane} (different : other ≠ lane) {slots : List Slot}
    (all : ∀ slot ∈ slots, lanes.laneOf asked slot = some lane) :
    lanes.within asked other slots = [] := by
  refine List.filter_eq_nil_iff.mpr fun slot member here => different ?_
  exact Option.some.inj ((of_decide_eq_true here).symm.trans (all slot member))

theorem within_congr {more : Slot → Option Request} {slots : List Slot}
    (same : ∀ slot ∈ slots, more slot = asked slot) :
    lanes.within more lane slots = lanes.within asked lane slots :=
  List.filter_congr fun slot member => by rw [laneOf, same slot member, laneOf]

namespace InOrder

theorem waiting (ordered : lanes.InOrder asked state served) {slot : Slot}
    (waits : slot ∈ lanes.waits state lane) : slot ∈ served ∧ lanes.laneOf asked slot = some lane := by
  rw [← mem_within, ordered.split]
  exact List.mem_append_right _ waits

theorem answered_of_prompt (ordered : lanes.InOrder asked state served) {slot : Slot}
    (taken : slot ∈ served) (here : lanes.laneOf asked slot = some lane) (prompt : lanes.Prompt lane) :
    slot ∈ (server.answers state).map Prod.fst := by
  have inside := mem_within.mpr ⟨taken, here⟩
  rw [ordered.split, prompt state, List.append_nil] at inside
  exact (mem_within.mp inside).1

theorem congr (ordered : lanes.InOrder asked state served) {more : Slot → Option Request}
    (same : ∀ slot ∈ served, more slot = asked slot) : lanes.InOrder more state served where
  known := ordered.known
  split lane := by
    have answered : ∀ slot ∈ (server.answers state).map Prod.fst, more slot = asked slot := by
      intro slot member
      obtain ⟨entry, filled, rfl⟩ := List.mem_map.mp member
      exact same entry.1 (ordered.known entry filled)
    rw [within_congr same, within_congr answered, ordered.split]
  prompt first second lane before here := by
    rw [laneOf, same first before.mem_left] at here
    exact ordered.prompt first second lane before here

/-- One step: at most one slot is taken, and slots are filled in its lane only. -/
theorem moves (ordered : lanes.InOrder asked state served) (joined : Option Slot)
    (moved : lanes.Moves state after lane joined.toList)
    (mine : ∀ slot ∈ joined, lanes.laneOf asked slot = some lane)
    (distinct : (served ++ joined.toList).Nodup) :
    lanes.InOrder asked after (served ++ joined.toList) := by
  obtain ⟨filled, answers, waits, others⟩ := moved
  have mine (slot : Slot) (member : slot ∈ joined.toList) : lanes.laneOf asked slot = some lane :=
    mine slot (Option.mem_toList.mp member)
  have from_lane (slot : Slot) (member : slot ∈ filled.map Prod.fst) :
      slot ∈ served ++ joined.toList ∧ lanes.laneOf asked slot = some lane := by
    have source : slot ∈ lanes.waits state lane ++ joined.toList :=
      waits ▸ List.mem_append_left _ member
    rcases List.mem_append.mp source with waited | new
    · exact ⟨List.mem_append_left _ (ordered.waiting waited).1, (ordered.waiting waited).2⟩
    · exact ⟨List.mem_append_right _ new, mine slot new⟩
  constructor
  case known =>
    intro entry member
    rw [answers] at member
    rcases List.mem_append.mp member with old | new
    · exact List.mem_append_left _ (ordered.known entry old)
    · exact (from_lane entry.1 (List.mem_map_of_mem new)).1
  case split =>
    intro other
    rw [within_append, ordered.split, answers, List.map_append, within_append]
    by_cases same : other = lane
    · subst same
      rw [within_of_all mine, within_of_all fun slot member => (from_lane slot member).2,
        List.append_assoc, List.append_assoc, waits]
    · rw [within_of_other same mine,
        within_of_other same fun slot member => (from_lane slot member).2, others other same,
        List.append_nil, List.append_nil]
  case prompt =>
    intro first second own before here prompt answered
    rw [answers, List.map_append] at answered ⊢
    rcases List.mem_append.mp answered with old | new
    · obtain ⟨entry, member, rfl⟩ := List.mem_map.mp old
      have earlier := before.of_append distinct (ordered.known entry member)
      exact (ordered.prompt first entry.1 own earlier here prompt old).append_right _
    · -- the second is only answered now, and the first was taken before it
      have taken : first ∈ served := by
        cases joined with
        | none => simpa using before.mem_left
        | some slot => exact before.mem_of_concat
      exact .of_mem (ordered.answered_of_prompt taken here prompt) new

theorem of_reachable (lawful : lanes.Lawful) (honest : server.Honest)
    {state : Desk State Request Answer × CallLog} (reachable : server.loggedDesk.Reachable state) :
    lanes.InOrder (Server.asked state.1) state.1.server state.2.served := by
  induction reachable with
  | @initial state first =>
      obtain ⟨desk, log⟩ := state
      obtain ⟨⟨fresh, _⟩, rfl⟩ := first
      obtain ⟨answers, waits⟩ := lawful.initial _ fresh
      constructor
      · simp [answers]
      · simp [answers, waits, within]
      · simp [answers]
  | @next state label before enabled ordered =>
      have orderly := Server.orderly_of_reachable honest before
      have orderly' := orderly.next honest enabled
      have distinct := orderly'.served.sublist.nodup orderly'.distinct
      have quiet := ordered.congr fun slot served => orderly.asked_next_of_served served label
      cases label with
      | serve label =>
          obtain ⟨_, ready, request, first, asks⟩ := enabled
          have moved := lawful.serves _ label request ready asks
          have mine : lanes.laneOf (Server.asked state.1) (server.slot request) =
              some (lanes.lane request) := by
            rw [laneOf, orderly.asked_of_queued (List.mem_of_head? first), Option.map_some]
          have taken : (server.request? label).map server.slot = some (server.slot request) := by
            rw [asks, Option.map_some]
          refine ordered.moves _ (by rw [taken]; exact moved) (fun slot member => ?_) distinct
          rw [taken] at member
          cases member
          exact mine
      | event label =>
          have own := Option.isNone_iff_eq_none.mp enabled.2.2
          obtain ⟨lane, moved⟩ := lawful.reacts _ label enabled.2.1 own
          have step := ordered.moves none moved nofun (by rwa [Option.toList_none, List.append_nil])
          rwa [Option.toList_none, List.append_nil] at step
      | _ =>
          change lanes.InOrder _ (server.deskNext state.1 _).server _
          rw [Server.server_next (by simp) (by simp)]
          exact quiet

/-- What was sent first is answered first, when it has to be. -/
theorem answered_before {desk : Desk State Request Answer} {log : CallLog}
    (ordered : lanes.InOrder (Server.asked desk) desk.server log.served)
    (orderly : server.Orderly desk log) {first second : Slot} (sent : Before log.sent first second)
    (ahead : lanes.Ahead (Server.asked desk) first second)
    (answered : second ∈ (server.answers desk.server).map Prod.fst) :
    Before ((server.answers desk.server).map Prod.fst) first second := by
  obtain ⟨entry, member, rfl⟩ := List.mem_map.mp answered
  have taken := ordered.known entry member
  have served : Before log.served first entry.1 := by
    obtain ⟨rest, whole⟩ := orderly.served
    rw [← whole] at sent
    exact sent.of_append (whole ▸ orderly.distinct) taken
  obtain ⟨lane, here, prompt | both⟩ := ahead
  · exact ordered.prompt first entry.1 lane served here prompt answered
  · have lined : Before (lanes.within (Server.asked desk) lane log.served) first entry.1 :=
      served.filter (decide_eq_true here) (decide_eq_true both)
    have distinct : (lanes.within (Server.asked desk) lane log.served).Nodup :=
      (orderly.served.sublist.nodup orderly.distinct).filter _
    rw [ordered.split] at lined distinct
    have front := lined.of_append distinct (mem_within.mpr ⟨answered, both⟩)
    exact front.trans List.filter_sublist

end InOrder
end Lanes
end P2pService.Library
