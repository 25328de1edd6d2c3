import P2pService.Library.Desk
import Mathlib.Data.List.Nodup

/-!
# Calls on a server

An honest server and the channel before it keep every slot in one place. So a call is answered at
most once, with the answer to its own request, and ends without one only when the server has ended.
-/

namespace P2pService.Library

variable {State Label Request Answer : Type*}

namespace Server

variable (server : Server State Label Request Answer)

def Stands (desk : Desk State Request Answer) (log : CallLog) (slot : Slot) :
    CallPhase Answer → Prop
  | .sending => slot ∉ log.sent
  | .waiting => slot ∈ log.sent
  | .returned (some answer) => (slot, answer) ∈ server.answers desk.server
  | .returned none => desk.running = false ∧ server.reply desk.server slot = none
  | .abandoned => True

structure Orderly (desk : Desk State Request Answer) (log : CallLog) : Prop where
  slots : ∀ slot call, desk.calls[slot]? = some call → server.slot call.request = slot
  stands : ∀ slot call, desk.calls[slot]? = some call → server.Stands desk log slot call.phase
  known : ∀ slot ∈ log.sent, slot < desk.calls.length
  distinct : log.sent.Nodup
  own : ∀ request ∈ desk.channel,
    ∃ call, desk.calls[server.slot request]? = some call ∧ call.request = request
  queued : desk.running → log.sent = log.served ++ desk.channel.map server.slot
  served : log.served <+: log.sent
  settled : server.held desk.server + server.answered desk.server = log.served

variable {server} {desk : Desk State Request Answer} {log : CallLog}

theorem eq_or_of_concat {α : Type*} {xs : List α} {last x : α} {i : Nat}
    (found : (xs ++ [last])[i]? = some x) : xs[i]? = some x ∨ i = xs.length ∧ x = last := by
  rw [List.getElem?_append, List.getElem?_singleton] at found
  split_ifs at found with before here
  · exact .inl found
  · cases found
    exact .inr ⟨by omega, rfl⟩

theorem getElem?_setPhase (slot : Slot) (phase : CallPhase Answer) (other : Slot) :
    (desk.setPhase slot phase).calls[other]? =
      desk.calls[other]?.map fun call => if other = slot then { call with phase := phase } else call := by
  rw [Desk.setPhase, List.getElem?_modify]
  by_cases same : slot = other
  · simp [same]
  · simp [same, Ne.symm same]

theorem Stands.mono {after : Desk State Request Answer} {later : CallLog} {slot : Slot}
    {phase : CallPhase Answer} (stands : server.Stands desk log slot phase)
    (sent : slot ∈ later.sent ↔ slot ∈ log.sent)
    (answers : server.answers desk.server ⊆ server.answers after.server)
    (ended : desk.running = false → after.running = false ∧ after.server = desk.server) :
    server.Stands after later slot phase := by
  cases phase with
  | sending => exact fun member => stands (sent.mp member)
  | waiting => exact sent.mpr stands
  | returned outcome =>
      cases outcome with
      | none =>
          obtain ⟨stopped, same⟩ := ended stands.1
          exact ⟨stopped, same ▸ stands.2⟩
      | some answer => exact answers stands
  | abandoned => trivial

theorem mem_answered {state : State} {slot : Slot} :
    slot ∈ server.answered state ↔ (server.reply state slot).isSome := by
  simp [answered, reply, List.find?_isSome]

theorem mem_answers_of_reply {state : State} {slot : Slot} {answer : Answer}
    (replied : server.reply state slot = some answer) : (slot, answer) ∈ server.answers state := by
  obtain ⟨⟨other, _⟩, found, rfl⟩ := Option.map_eq_some_iff.mp replied
  have member := List.mem_of_find?_eq_some found
  have same : other = slot := of_decide_eq_true (List.find?_some found :)
  exact same ▸ member

theorem reply_of_mem_answers {state : State} {slot : Slot} {answer : Answer}
    (filled : (slot, answer) ∈ server.answers state) : (server.reply state slot).isSome :=
  mem_answered.mp (Multiset.mem_coe.mpr (List.mem_map.mpr ⟨_, filled, rfl⟩))

namespace Orderly

theorem start (honest : server.Honest) (initial : server.deskSystem.initial desk) :
    server.Orderly desk ⟨[], []⟩ := by
  obtain ⟨fresh, running, channel, calls⟩ := initial
  obtain ⟨held, answers⟩ := honest.initial _ fresh
  constructor
  case settled => simp [answered, held, answers]
  all_goals simp [calls, channel]

theorem setPhase (orderly : server.Orderly desk log) {slot : Slot} {phase : CallPhase Answer}
    (stands : server.Stands desk log slot phase) :
    server.Orderly (desk.setPhase slot phase) log where
  slots other call found := by
    rw [getElem?_setPhase] at found
    obtain ⟨before, there, rfl⟩ := Option.map_eq_some_iff.mp found
    rw [apply_ite Call.request, ite_self]
    exact orderly.slots other before there
  stands other call found := by
    rw [getElem?_setPhase] at found
    obtain ⟨before, there, rfl⟩ := Option.map_eq_some_iff.mp found
    split_ifs with same
    · exact same ▸ stands
    · exact orderly.stands other before there
  known other sent := by
    rw [Desk.setPhase, List.length_modify]
    exact orderly.known other sent
  distinct := orderly.distinct
  own request queued := by
    obtain ⟨call, there, same⟩ := orderly.own request queued
    refine ⟨_, (getElem?_setPhase slot phase _).trans (congrArg _ there), ?_⟩
    rw [apply_ite Call.request, ite_self]
    exact same
  queued := orderly.queued
  served := orderly.served
  settled := orderly.settled

theorem call (orderly : server.Orderly desk log) (client : ClientId) {request : Request}
    (fresh : server.slot request = desk.calls.length) :
    server.Orderly { desk with calls := desk.calls ++ [⟨client, request, .sending⟩] } log where
  slots slot call found := by
    rcases eq_or_of_concat found with old | ⟨rfl, rfl⟩
    · exact orderly.slots slot call old
    · exact fresh
  stands slot call found := by
    rcases eq_or_of_concat found with old | ⟨rfl, rfl⟩
    · exact (orderly.stands slot call old).mono Iff.rfl (List.Subset.refl _) fun ended => ⟨ended, rfl⟩
    · exact fun sent => Nat.lt_irrefl _ (orderly.known _ sent)
  known slot sent := by
    rw [List.length_append]
    exact Nat.lt_add_right 1 (orderly.known slot sent)
  distinct := orderly.distinct
  own request queued := by
    obtain ⟨call, there, same⟩ := orderly.own request queued
    have within := (List.getElem?_eq_some_iff.mp there).1
    exact ⟨call, (List.getElem?_append_left within).trans there, same⟩
  queued := orderly.queued
  served := orderly.served
  settled := orderly.settled

theorem send (orderly : server.Orderly desk log) {slot : Slot} {call : Call Request Answer}
    (there : desk.calls[slot]? = some call) (unsent : call.phase.unsent) :
    server.Orderly { desk.setPhase slot .waiting with channel := desk.channel ++ [call.request] }
      { log with sent := log.sent ++ [slot] } := by
  have fresh : slot ∉ log.sent := by
    have stands := orderly.stands slot call there
    cases phase : call.phase with
    | sending =>
        rw [phase] at stands
        exact stands
    | _ => simp [phase, CallPhase.unsent] at unsent
  constructor
  case slots =>
    intro other found at_other
    rw [getElem?_setPhase] at at_other
    obtain ⟨before, there, rfl⟩ := Option.map_eq_some_iff.mp at_other
    rw [apply_ite Call.request, ite_self]
    exact orderly.slots other before there
  case stands =>
    intro other found at_other
    rw [getElem?_setPhase] at at_other
    obtain ⟨before, there, rfl⟩ := Option.map_eq_some_iff.mp at_other
    split_ifs with same
    · exact List.mem_append_right _ (List.mem_singleton.mpr same)
    · exact (orderly.stands other before there).mono (by simp [same]) (List.Subset.refl _) fun ended => ⟨ended, rfl⟩
  case known =>
    intro other sent
    rw [Desk.setPhase, List.length_modify]
    rcases List.mem_append.mp sent with old | new
    · exact orderly.known other old
    · exact List.mem_singleton.mp new ▸ (List.getElem?_eq_some_iff.mp there).1
  case distinct =>
    refine List.nodup_append'.mpr ⟨orderly.distinct, List.nodup_singleton slot, ?_⟩
    exact List.disjoint_singleton.mpr fresh
  case own =>
    intro request queued
    have kept {before : Call Request Answer}
        (at_slot : desk.calls[server.slot request]? = some before) (same : before.request = request) :
        ∃ call, (desk.setPhase slot .waiting).calls[server.slot request]? = some call ∧
          call.request = request := by
      refine ⟨_, (getElem?_setPhase slot .waiting _).trans (congrArg _ at_slot), ?_⟩
      rw [apply_ite Call.request, ite_self]
      exact same
    rcases List.mem_append.mp queued with old | new
    · obtain ⟨before, at_slot, same⟩ := orderly.own request old
      exact kept at_slot same
    · cases List.mem_singleton.mp new
      exact kept ((orderly.slots slot call there).symm ▸ there) rfl
  case queued =>
    intro running
    rw [orderly.queued running, List.map_append, List.append_assoc]
    simp [orderly.slots slot call there]
  case served => exact orderly.served.trans (List.prefix_append _ _)
  case settled => exact orderly.settled

theorem serve (honest : server.Honest) (orderly : server.Orderly desk log) {label : Label}
    {request : Request} (running : desk.running) (enabled : server.enabled desk.server label)
    (first : request ∈ desk.channel.head?) (asks : server.request? label = some request) :
    server.Orderly { desk with server := server.next desk.server label, channel := desk.channel.tail }
      { log with served := log.served ++ [server.slot request] } := by
  obtain ⟨rest, channel⟩ := List.head?_eq_some_iff.mp first
  have queued := orderly.queued running
  rw [channel, List.map_cons, ← List.singleton_append, ← List.append_assoc] at queued
  constructor
  case slots => exact orderly.slots
  case stands =>
    intro slot call there
    exact (orderly.stands slot call there).mono Iff.rfl
      (honest.keeps desk.server label enabled).subset
      fun ended => absurd running (Bool.eq_false_iff.mp ended)
  case known => exact orderly.known
  case distinct => exact orderly.distinct
  case own => exact fun later member => orderly.own later (List.mem_of_mem_tail member)
  case queued =>
    intro _
    rw [channel]
    exact queued
  case served => exact ⟨_, queued.symm⟩
  case settled =>
    rw [honest.serves desk.server label request enabled asks, orderly.settled, ← Multiset.coe_add,
      Multiset.coe_singleton, Multiset.add_comm, Multiset.singleton_add]

theorem event (honest : server.Honest) (orderly : server.Orderly desk log) {label : Label}
    (running : desk.running) (enabled : server.enabled desk.server label)
    (own : server.request? label = none) :
    server.Orderly { desk with server := server.next desk.server label } log where
  slots := orderly.slots
  stands slot call there := (orderly.stands slot call there).mono Iff.rfl
    (honest.keeps desk.server label enabled).subset
    fun ended => absurd running (Bool.eq_false_iff.mp ended)
  known := orderly.known
  distinct := orderly.distinct
  own := orderly.own
  queued := orderly.queued
  served := orderly.served
  settled := (honest.reacts desk.server label enabled own).trans orderly.settled

theorem ended (orderly : server.Orderly desk log) : server.Orderly desk.ended log where
  slots := orderly.slots
  stands slot call there := (orderly.stands slot call there).mono Iff.rfl (List.Subset.refl _)
    fun _ => ⟨rfl, rfl⟩
  known := orderly.known
  distinct := orderly.distinct
  own := by simp [Desk.ended]
  queued running := by simp [Desk.ended] at running
  served := orderly.served
  settled := orderly.settled

/-- While the server runs, every slot whose request was sent is still queued, or held, or filled. -/
theorem pending_or_answered (orderly : server.Orderly desk log) (running : desk.running)
    {slot : Slot} (sent : slot ∈ log.sent) :
    server.Pending desk slot ∨ (server.reply desk.server slot).isSome := by
  rw [orderly.queued running, List.mem_append] at sent
  rcases sent with served | queued
  · rw [← Multiset.mem_coe, ← orderly.settled, Multiset.mem_add] at served
    rcases served with held | answered
    · exact .inl ⟨running, .inr held⟩
    · exact .inr (mem_answered.mp answered)
  · exact .inl ⟨running, .inl queued⟩

theorem sent_of_reply (orderly : server.Orderly desk log) {slot : Slot}
    (replied : (server.reply desk.server slot).isSome) : slot ∈ log.sent := by
  have answered := mem_answered.mpr replied
  have served : slot ∈ server.held desk.server + server.answered desk.server :=
    Multiset.mem_add.mpr (.inr answered)
  rw [orderly.settled] at served
  exact orderly.served.subset served

theorem stands_of_outcome (orderly : server.Orderly desk log) {slot : Slot}
    {outcome : Option Answer} (polled : server.outcome? desk slot = some outcome) :
    server.Stands desk log slot (.returned outcome) := by
  unfold outcome? at polled
  split at polled
  · rename_i phase
    split_ifs at polled with running
    cases polled
    obtain ⟨call, there, sending⟩ := Option.map_eq_some_iff.mp phase
    have stands := orderly.stands slot call there
    rw [sending] at stands
    refine ⟨Bool.eq_false_iff.mpr running, Option.not_isSome_iff_eq_none.mp fun replied => ?_⟩
    exact stands (orderly.sent_of_reply replied)
  · rename_i phase
    obtain ⟨call, there, waiting⟩ := Option.map_eq_some_iff.mp phase
    have stands := orderly.stands slot call there
    rw [waiting] at stands
    split at polled
    · rename_i answer replied
      cases polled
      exact mem_answers_of_reply replied
    · rename_i unanswered
      split_ifs at polled with pending
      cases polled
      refine ⟨Bool.eq_false_iff.mpr fun running => ?_, unanswered⟩
      rcases orderly.pending_or_answered running stands with waits | answered
      · exact pending waits
      · simp [unanswered] at answered
  · cases polled

theorem next (honest : server.Honest) (orderly : server.Orderly desk log)
    {label : DeskLabel Label Request} (enabled : server.Enabled desk label) :
    server.Orderly (server.deskNext desk label) (server.recordCall desk label log) := by
  cases label with
  | clone client copy => exact { orderly with }
  | drop client => exact { orderly with }
  | call client request => exact orderly.call client enabled.2.1
  | send slot =>
      obtain ⟨_, call, there, unsent⟩ := enabled
      simp only [deskNext, Option.mem_def.mp there]
      exact orderly.send there unsent
  | serve label =>
      obtain ⟨running, ready, request, first, asks⟩ := enabled
      simp only [deskNext, recordCall, asks]
      exact orderly.serve honest running ready first asks
  | event label => exact orderly.event honest enabled.1 enabled.2.1 (Option.isNone_iff_eq_none.mp enabled.2.2)
  | complete slot =>
      obtain ⟨outcome, polled⟩ := Option.isSome_iff_exists.mp enabled
      simp only [deskNext, polled]
      exact orderly.setPhase (orderly.stands_of_outcome polled)
  | abandon slot => exact orderly.setPhase trivial
  | stop => exact orderly.ended
  | kill => exact orderly.ended

end Orderly

theorem orderly_of_reachable (honest : server.Honest) {state : Desk State Request Answer × CallLog}
    (reachable : server.loggedDesk.Reachable state) : server.Orderly state.1 state.2 := by
  induction reachable with
  | @initial state first =>
      obtain ⟨desk, log⟩ := state
      obtain ⟨initial, rfl⟩ := first
      exact .start honest initial
  | next _ enabled orderly => exact orderly.next honest enabled

/-! ## What callers can rely on -/

namespace Orderly

/-- A request that was sent is in one place: the channel, the server, or the answers. -/
theorem count_eq_one (orderly : server.Orderly desk log) (running : desk.running) {slot : Slot}
    (sent : slot ∈ log.sent) :
    (desk.channel.map server.slot).count slot + (server.held desk.server).count slot +
      (server.answered desk.server).count slot = 1 := by
  have served := congrArg (Multiset.count slot) orderly.settled
  have whole := List.count_eq_one_of_mem orderly.distinct sent
  rw [orderly.queued running, List.count_append] at whole
  rw [Multiset.count_add, Multiset.coe_count] at served
  omega

theorem count_answered_le (orderly : server.Orderly desk log) (slot : Slot) :
    (server.answered desk.server).count slot ≤ 1 := by
  have served := congrArg (Multiset.count slot) orderly.settled
  rw [Multiset.count_add, Multiset.coe_count] at served
  have most := orderly.served.sublist.count_le slot
  have once := List.nodup_iff_count_le_one.mp orderly.distinct slot
  omega

theorem answer_unique (orderly : server.Orderly desk log) {slot : Slot} {answer other : Answer}
    (filled : (slot, answer) ∈ server.answers desk.server)
    (again : (slot, other) ∈ server.answers desk.server) : answer = other := by
  have distinct : ((server.answers desk.server).map Prod.fst).Nodup :=
    Multiset.coe_nodup.mp (Multiset.nodup_iff_count_le_one.mpr orderly.count_answered_le)
  exact congrArg Prod.snd (List.inj_on_of_nodup_map distinct filled again rfl)

theorem served_of_answer (orderly : server.Orderly desk log) {slot : Slot} {answer : Answer}
    (filled : (slot, answer) ∈ server.answers desk.server) : slot ∈ log.served := by
  have answered : slot ∈ server.answered desk.server :=
    Multiset.mem_coe.mpr (List.mem_map.mpr ⟨_, filled, rfl⟩)
  rw [← Multiset.mem_coe, ← orderly.settled]
  exact Multiset.mem_add.mpr (.inr answered)

theorem unserved_of_queued (orderly : server.Orderly desk log) (running : desk.running)
    {request : Request} (queued : request ∈ desk.channel) : server.slot request ∉ log.served := by
  have distinct := orderly.distinct
  rw [orderly.queued running, List.nodup_append'] at distinct
  exact fun served => distinct.2.2 served (List.mem_map_of_mem queued)

/-- Once the server has ended, no call is left waiting. -/
theorem completes_of_ended (ended : desk.running = false) {slot : Slot}
    {call : Call Request Answer} (there : desk.calls[slot]? = some call)
    (active : call.phase.active) : (server.outcome? desk slot).isSome := by
  have quiet : ¬ server.Pending desk slot := by simp [Pending, ended]
  unfold outcome?
  rw [there, Option.map_some]
  cases phase : call.phase with
  | sending => simp [ended]
  | waiting =>
      simp only [quiet, if_false]
      split <;> rfl
  | _ => simp [phase, CallPhase.active] at active

/-- While the server runs, a call returns when its slot is filled, and with what it is filled. -/
theorem outcome_of_running (orderly : server.Orderly desk log) (running : desk.running)
    {slot : Slot} {call : Call Request Answer} (there : desk.calls[slot]? = some call)
    (active : call.phase.active) :
    server.outcome? desk slot = (server.reply desk.server slot).map some := by
  have stands := orderly.stands slot call there
  unfold outcome?
  rw [there, Option.map_some]
  cases phase : call.phase with
  | sending =>
      rw [phase] at stands
      have unanswered : server.reply desk.server slot = none := by
        rw [← Option.not_isSome_iff_eq_none]
        exact fun replied => stands (orderly.sent_of_reply replied)
      simp [unanswered, running]
  | waiting =>
      rw [phase] at stands
      cases replied : server.reply desk.server slot with
      | some answer => rfl
      | none =>
          have pending : server.Pending desk slot :=
            (orderly.pending_or_answered running stands).resolve_right (by simp [replied])
          simp [pending]
  | _ => simp [phase, CallPhase.active] at active

end Orderly

/-! ## Facts about a slot's request -/

section

def asked (desk : Desk State Request Answer) (slot : Slot) : Option Request :=
  desk.calls[slot]?.map Call.request

theorem asked_setPhase (slot : Slot) (phase : CallPhase Answer) (other : Slot) :
    asked (desk.setPhase slot phase) other = asked desk other := by
  rw [asked, getElem?_setPhase, Option.map_map, asked]
  congr 1
  ext call
  simp only [Function.comp_apply, apply_ite Call.request, ite_self]

theorem asked_next {slot : Slot} {request : Request} (there : asked desk slot = some request)
    (label : DeskLabel Label Request) : asked (server.deskNext desk label) slot = some request := by
  cases label with
  | call client other =>
      obtain ⟨call, at_slot, same⟩ := Option.map_eq_some_iff.mp there
      have within := (List.getElem?_eq_some_iff.mp at_slot).1
      rw [asked, deskNext, List.getElem?_append_left within]
      exact there
  | send other =>
      simp only [deskNext]
      split
      · exact (asked_setPhase other _ slot).trans there
      · exact there
  | complete other =>
      simp only [deskNext]
      split
      · exact (asked_setPhase other _ slot).trans there
      · exact there
  | abandon other => exact (asked_setPhase other _ slot).trans there
  | _ => exact there

namespace Orderly

theorem asked_of_queued (orderly : server.Orderly desk log) {request : Request}
    (queued : request ∈ desk.channel) : asked desk (server.slot request) = some request := by
  obtain ⟨call, there, same⟩ := orderly.own request queued
  rw [asked, there, Option.map_some, same]

theorem asked_of_served (orderly : server.Orderly desk log) {slot : Slot}
    (served : slot ∈ log.served) : ∃ request, asked desk slot = some request := by
  have known := orderly.known slot (orderly.served.subset served)
  exact ⟨_, congrArg _ (List.getElem?_eq_getElem known)⟩

theorem asked_next_of_served (orderly : server.Orderly desk log) {slot : Slot}
    (served : slot ∈ log.served) (label : DeskLabel Label Request) :
    asked (server.deskNext desk label) slot = asked desk slot := by
  obtain ⟨request, known⟩ := orderly.asked_of_served served
  rw [asked_next known, known]

end Orderly

/-- A fact about the server's state that rests on which request a slot belongs to. -/
structure Agrees (server : Server State Label Request Answer)
    (holds : (Slot → Option Request) → State → Prop) : Prop where
  initial : ∀ asked state, server.initial state → holds asked state
  mono : ∀ asked more state, (∀ slot request, asked slot = some request → more slot = some request) →
    holds asked state → holds more state
  serves : ∀ asked state label request, holds asked state → server.enabled state label →
    server.request? label = some request → asked (server.slot request) = some request →
      holds asked (server.next state label)
  reacts : ∀ asked state label, holds asked state → server.enabled state label →
    server.request? label = none → holds asked (server.next state label)

theorem server_next {label : DeskLabel Label Request} (serve : ∀ own, label ≠ .serve own)
    (event : ∀ own, label ≠ .event own) : (server.deskNext desk label).server = desk.server := by
  cases label with
  | send slot =>
      simp only [deskNext]
      split <;> rfl
  | serve own => exact absurd rfl (serve own)
  | event own => exact absurd rfl (event own)
  | complete slot =>
      simp only [deskNext]
      split <;> rfl
  | _ => rfl

theorem agrees_of_reachable {holds : (Slot → Option Request) → State → Prop} (honest : server.Honest)
    (agrees : server.Agrees holds) {state : Desk State Request Answer × CallLog}
    (reachable : server.loggedDesk.Reachable state) : holds (asked state.1) state.1.server := by
  induction reachable with
  | initial first => exact agrees.initial _ _ first.1.1
  | @next state label before enabled ih =>
      cases label with
      | serve label =>
          obtain ⟨_, ready, request, first, asks⟩ := enabled
          have orderly := orderly_of_reachable honest before
          have known := orderly.asked_of_queued (List.mem_of_head? first)
          exact agrees.serves (asked state.1) _ label request ih ready asks known
      | event label =>
          exact agrees.reacts _ _ label ih enabled.2.1 (Option.isNone_iff_eq_none.mp enabled.2.2)
      | _ =>
          refine agrees.mono (asked state.1) _ _ (fun slot request there => asked_next there _) ?_
          change holds _ (server.deskNext state.1 _).server
          rw [server_next (by simp) (by simp)]
          exact ih

end

/-! ## What a call has returned -/

theorem returned_next {slot : Slot} {call : Call Request Answer} {outcome : Option Answer}
    (there : desk.calls[slot]? = some call) (returned : call.phase = .returned outcome)
    {label : DeskLabel Label Request} (enabled : server.Enabled desk label) :
    (server.deskNext desk label).calls[slot]? = some call := by
  have elsewhere (other : Slot) (phase : CallPhase Answer) (different : slot ≠ other) :
      (desk.setPhase other phase).calls[slot]? = some call := by
    rw [getElem?_setPhase, there, Option.map_some, if_neg different]
  cases label with
  | call client request =>
      exact (List.getElem?_append_left (List.getElem?_eq_some_iff.mp there).1).trans there
  | send other =>
      obtain ⟨_, sending, at_other, unsent⟩ := enabled
      simp only [deskNext, Option.mem_def.mp at_other]
      refine elsewhere other .waiting fun same => ?_
      cases Option.some.inj (there.symm.trans (same ▸ at_other))
      simp [returned, CallPhase.unsent] at unsent
  | complete other =>
      obtain ⟨answer, polled⟩ := Option.isSome_iff_exists.mp enabled
      simp only [deskNext, polled]
      refine elsewhere other _ fun same => ?_
      cases same
      simp [outcome?, there, returned] at polled
  | abandon other =>
      obtain ⟨active, at_other, live⟩ := enabled
      refine elsewhere other _ fun same => ?_
      cases Option.some.inj (there.symm.trans (same ▸ at_other))
      simp [returned, CallPhase.active] at live
  | _ => exact there

theorem returned_after {slot : Slot} {call : Call Request Answer} {outcome : Option Answer}
    (there : desk.calls[slot]? = some call) (returned : call.phase = .returned outcome)
    {labels : List (DeskLabel Label Request)} (legal : server.deskSystem.Legal desk labels) :
    (server.deskSystem.after desk labels).calls[slot]? = some call := by
  induction labels generalizing desk with
  | nil => exact there
  | cons label labels ih => exact ih (returned_next there returned legal.1) legal.2

end Server
end P2pService.Library
