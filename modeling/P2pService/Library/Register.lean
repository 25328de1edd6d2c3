import P2pService.Library.Calls
import Mathlib.Data.List.Induction

/-!
# Reading what was written

Some requests replace a part of the server's state, and others are answered at once with what they
find there. A read that is called after a write has returned finds that write, or one that the
server took after it.
-/

namespace P2pService.Library

section

variable {α β : Type*} {f : α → Option β}

theorem exists_last_of_mem {xs : List α} {x : α} (member : x ∈ xs) (some_x : (f x).isSome) :
    ∃ before last between value, xs = before ++ last :: between ∧ x ∈ before ++ [last] ∧
      f last = some value ∧ (∀ y ∈ between, f y = none) ∧
      (xs.filterMap f).getLast? = some value := by
  induction xs using List.reverseRecOn with
  | nil => cases member
  | append_singleton xs y ih =>
      cases found : f y with
      | some value =>
          refine ⟨xs, y, [], value, rfl, member, found, by simp, ?_⟩
          rw [List.filterMap_append, List.filterMap_cons_some found, List.filterMap_nil,
            List.getLast?_concat]
      | none =>
          rcases List.mem_append.mp member with inside | last
          · obtain ⟨before, last, between, value, split, kept, wrote, quiet, latest⟩ := ih inside
            refine ⟨before, last, between ++ [y], value, ?_, kept, wrote, ?_, ?_⟩
            · rw [split, List.append_assoc, List.cons_append]
            · intro z later
              rcases List.mem_append.mp later with early | last
              · exact quiet z early
              · cases List.mem_singleton.mp last
                exact found
            · rw [List.filterMap_append, List.filterMap_cons_none found, List.filterMap_nil,
                List.append_nil]
              exact latest
          · cases List.mem_singleton.mp last
            simp [found] at some_x

end

variable {State Label Request Answer Value : Type*}

structure Register (server : Server State Label Request Answer) (Value : Type*) where
  start : Value
  write? : Request → Option Value
  reads : Request → Bool
  Shows : State → Value → Prop
  /-- What the answer to a read says about the value it found. -/
  Found : State → Request → Answer → Value → Prop

namespace Register

variable {server : Server State Label Request Answer} (register : Register server Value)

structure Lawful : Prop where
  initial : ∀ state, server.initial state → register.Shows state register.start
  writes : ∀ state label request old value, server.enabled state label →
    server.request? label = some request → register.Shows state old →
      register.write? request = some value → register.Shows (server.next state label) value
  keeps : ∀ state label value, server.enabled state label →
    (server.request? label).bind register.write? = none → register.Shows state value →
      register.Shows (server.next state label) value
  answers : ∀ state label request value, server.enabled state label →
    server.request? label = some request → register.reads request → register.Shows state value →
      ∃ answer, (server.slot request, answer) ∈ server.answers (server.next state label) ∧
        register.Found (server.next state label) request answer value
  stays : ∀ state label request answer value, server.enabled state label →
    register.Found state request answer value →
      register.Found (server.next state label) request answer value

/-- What the request of a slot writes. -/
def wrote (asked : Slot → Option Request) (slot : Slot) : Option Value :=
  (asked slot).bind register.write?

/-- The value after the server has taken the requests of these slots. -/
def written (asked : Slot → Option Request) (slots : List Slot) : Value :=
  (slots.filterMap (register.wrote asked)).getLast?.getD register.start

variable {asked : Slot → Option Request} {slots : List Slot} {slot : Slot}

theorem written_congr {more : Slot → Option Request}
    (same : ∀ slot ∈ slots, more slot = asked slot) :
    register.written more slots = register.written asked slots := by
  have writes : slots.filterMap (register.wrote more) = slots.filterMap (register.wrote asked) :=
    List.filterMap_congr fun slot member => by rw [wrote, same slot member, wrote]
  rw [written, writes, written]

theorem written_concat_of_write {value : Value} (writes : register.wrote asked slot = some value) :
    register.written asked (slots ++ [slot]) = value := by
  rw [written, List.filterMap_append, List.filterMap_cons_some writes, List.filterMap_nil,
    List.getLast?_concat, Option.getD_some]

theorem written_concat_of_none (quiet : register.wrote asked slot = none) :
    register.written asked (slots ++ [slot]) = register.written asked slots := by
  rw [written, List.filterMap_append, List.filterMap_cons_none quiet, List.filterMap_nil,
    List.append_nil, written]

/-! ## What has been written and what has been found -/

structure Traced (desk : Desk State Request Answer) (log : CallLog) : Prop where
  shows : register.Shows desk.server (register.written (Server.asked desk) log.served)
  found : ∀ before slot after request, log.served = before ++ slot :: after →
    Server.asked desk slot = some request → register.reads request →
      ∃ answer, (slot, answer) ∈ server.answers desk.server ∧
        register.Found desk.server request answer (register.written (Server.asked desk) before)

variable {register} {desk : Desk State Request Answer} {log : CallLog}

namespace Traced

/-- Whatever leaves the server and what it has taken alone. -/
theorem of_same (orderly : server.Orderly desk log) (traced : register.Traced desk log)
    (label : DeskLabel Label Request) (same : (server.deskNext desk label).server = desk.server)
    (served : (server.recordCall desk label log).served = log.served) :
    register.Traced (server.deskNext desk label) (server.recordCall desk label log) := by
  have kept (slots : List Slot) (within : slots ⊆ log.served) :
      register.written (Server.asked (server.deskNext desk label)) slots =
        register.written (Server.asked desk) slots :=
    register.written_congr fun slot member => orderly.asked_next_of_served (within member) label
  constructor
  · rw [same, served, kept _ (List.Subset.refl _)]
    exact traced.shows
  · intro before slot after request split asks reads
    rw [served] at split
    have here : slot ∈ log.served := by simp [split]
    rw [orderly.asked_next_of_served here] at asks
    rw [same, kept before (by simp [split])]
    exact traced.found before slot after request split asks reads

theorem event (lawful : register.Lawful) (honest : server.Honest) (traced : register.Traced desk log)
    {label : Label} (enabled : server.enabled desk.server label) (own : server.request? label = none) :
    register.Traced { desk with server := server.next desk.server label } log where
  shows := lawful.keeps _ label _ enabled (by rw [own]; rfl) traced.shows
  found before slot after request split asks reads := by
    obtain ⟨answer, filled, found⟩ := traced.found before slot after request split asks reads
    exact ⟨answer, (honest.keeps _ label enabled).subset filled,
      lawful.stays _ label request answer _ enabled found⟩

theorem serve (lawful : register.Lawful) (honest : server.Honest)
    (traced : register.Traced desk log) {label : Label} {request : Request}
    (enabled : server.enabled desk.server label) (asks : server.request? label = some request)
    (known : Server.asked desk (server.slot request) = some request) :
    register.Traced
      { desk with server := server.next desk.server label, channel := desk.channel.tail }
      { log with served := log.served ++ [server.slot request] } := by
  constructor
  · have wrote : register.wrote (Server.asked desk) (server.slot request) =
        register.write? request := by rw [Register.wrote, known, Option.bind_some]
    change register.Shows _ (register.written (Server.asked desk) _)
    cases writes : register.write? request with
    | some value =>
        rw [register.written_concat_of_write (wrote.trans writes)]
        exact lawful.writes _ label request _ value enabled asks traced.shows writes
    | none =>
        rw [register.written_concat_of_none (wrote.trans writes)]
        exact lawful.keeps _ label _ enabled (by rw [asks]; exact writes) traced.shows
  · intro before slot after other split asked reads
    change Server.asked desk slot = some other at asked
    rcases List.eq_nil_or_concat after with rfl | ⟨early, last, rfl⟩
    · obtain ⟨rfl, same⟩ := List.append_inj' split rfl
      cases List.singleton_inj.mp same
      cases Option.some.inj (known.symm.trans asked)
      exact lawful.answers _ label request _ enabled asks reads traced.shows
    · rw [List.concat_eq_append, ← List.cons_append, ← List.append_assoc] at split
      obtain ⟨split, _⟩ := List.append_inj' split rfl
      obtain ⟨answer, filled, found⟩ := traced.found before slot early other split asked reads
      exact ⟨answer, (honest.keeps _ label enabled).subset filled,
        lawful.stays _ label other answer _ enabled found⟩

theorem of_reachable (lawful : register.Lawful) (honest : server.Honest)
    {state : Desk State Request Answer × CallLog} (reachable : server.loggedDesk.Reachable state) :
    register.Traced state.1 state.2 := by
  induction reachable with
  | @initial state first =>
      obtain ⟨desk, log⟩ := state
      obtain ⟨⟨fresh, _⟩, rfl⟩ := first
      exact ⟨lawful.initial _ fresh, fun before slot after _ split => by simp at split⟩
  | @next state label before enabled traced =>
      have orderly := Server.orderly_of_reachable honest before
      have quiet := traced.of_same orderly label
      cases label with
      | serve label =>
          obtain ⟨_, ready, request, first, asks⟩ := enabled
          have known := orderly.asked_of_queued (List.mem_of_head? first)
          have step := traced.serve lawful honest ready asks known
          rw [← Option.toList_some (server.slot request), ← Option.map_some, ← asks] at step
          exact step
      | event label =>
          exact traced.event lawful honest enabled.2.1 (Option.isNone_iff_eq_none.mp enabled.2.2)
      | _ => exact quiet (Server.server_next (by simp) (by simp)) rfl

end Traced

/-! ## Reads after writes -/

theorem served_after {state : Desk State Request Answer × CallLog}
    {labels : List (DeskLabel Label Request)} (legal : server.loggedDesk.Legal state labels) :
    state.2.served <+: (server.loggedDesk.after state labels).2.served := by
  have step (later : Desk State Request Answer × CallLog) (label : DeskLabel Label Request)
      (before : state.2.served <+: later.2.served) (_ : server.loggedDesk.enabled later label) :
      state.2.served <+: (server.loggedDesk.next later label).2.served := by
    refine before.trans ?_
    cases label with
    | serve label => exact List.prefix_append _ _
    | _ => exact List.prefix_refl _
  exact System.after_of_step step List.prefix_rfl legal

/-- The read finds what the last write before it wrote, and this is the first write or a later one. -/
theorem finds_of_returned (lawful : register.Lawful) (honest : server.Honest)
    {state final : Desk State Request Answer × CallLog}
    (reachable : server.loggedDesk.Reachable state) {labels : List (DeskLabel Label Request)}
    (legal : server.loggedDesk.Legal state labels)
    (run : server.loggedDesk.after state labels = final) {first second : Slot}
    {writer reader : Call Request Answer} {outcome answer : Answer}
    (wrote : state.1.calls[first]? = some writer) (done : writer.phase = .returned (some outcome))
    (writes : (register.write? writer.request).isSome)
    (later : state.1.calls.length ≤ second) (read : final.1.calls[second]? = some reader)
    (returned : reader.phase = .returned (some answer)) (reads : register.reads reader.request) :
    ∃ before last between after value,
      final.2.served = before ++ last :: between ++ second :: after ∧ first ∈ before ++ [last] ∧
        register.wrote (Server.asked final.1) last = some value ∧
        (∀ slot ∈ between, register.wrote (Server.asked final.1) slot = none) ∧
        register.Found final.1.server reader.request answer value := by
  subst run
  have orderly := Server.orderly_of_reachable honest reachable
  have orderly' := Server.orderly_of_reachable honest (reachable.after legal)
  have traced := Traced.of_reachable lawful honest (reachable.after legal)
  have served_first : first ∈ state.2.served := by
    have stands := orderly.stands first writer wrote
    rw [done] at stands
    exact orderly.served_of_answer stands
  have unserved : second ∉ state.2.served := fun served =>
    Nat.not_lt.mpr later (orderly.known second (orderly.served.subset served))
  have filled := orderly'.stands second reader read
  rw [returned] at filled
  obtain ⟨earlier, after, split⟩ := List.append_of_mem (orderly'.served_of_answer filled)
  have asked : Server.asked (server.loggedDesk.after state labels).1 second = some reader.request :=
    congrArg _ read
  obtain ⟨other, again, found⟩ := traced.found earlier second after _ split asked reads
  cases orderly'.answer_unique filled again
  have member : first ∈ earlier := by
    have within : earlier ++ [second] <+: (server.loggedDesk.after state labels).2.served :=
      ⟨after, by rw [split, List.append_assoc, List.singleton_append]⟩
    rcases List.prefix_or_prefix_of_prefix (served_after legal) within with short | long
    · rcases List.prefix_concat_iff.mp short with same | inside
      · exact absurd (by simp [same]) unserved
      · exact inside.subset served_first
    · exact absurd (long.subset (by simp)) unserved
  have kept : Server.asked (server.loggedDesk.after state labels).1 first = some writer.request := by
    have step (before : Desk State Request Answer × CallLog) (label : DeskLabel Label Request)
        (known : Server.asked before.1 first = some writer.request)
        (_ : server.loggedDesk.enabled before label) :
        Server.asked (server.loggedDesk.next before label).1 first = some writer.request :=
      Server.asked_next known label
    exact System.after_of_step step (congrArg _ wrote) legal
  have some_first : (register.wrote (Server.asked (server.loggedDesk.after state labels).1)
      first).isSome := by
    rw [Register.wrote, kept, Option.bind_some]
    exact writes
  obtain ⟨before, last, between, value, shape, here, wrote_last, quiet, latest⟩ :=
    exists_last_of_mem member some_first
  refine ⟨before, last, between, after, value, ?_, here, wrote_last, quiet, ?_⟩
  · rw [split, shape, List.append_assoc]
  · rw [Register.written, latest, Option.getD_some] at found
    exact found

end Register
end P2pService.Library
