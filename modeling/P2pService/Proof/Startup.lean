import P2pService.Proof.Service.Calls
import P2pService.World.Startup
import Mathlib.Data.List.Induction

/-!
# A node that serves is not deaf

As long as `main` has a step left it is the only caller, so the commands that the loop takes are its
own, one at a time. What the swarm has agreed to is then what `main` has been answered.
-/

namespace P2pService
open Library

section

variable {PeerId : Type}

namespace JoinLog

def Within (joined more : JoinLog PeerId) : Prop :=
  joined.listening <+: more.listening ∧ joined.topics <+: more.topics

theorem Within.refl (joined : JoinLog PeerId) : joined.Within joined :=
  ⟨List.prefix_refl _, List.prefix_refl _⟩

theorem Within.trans {joined more most : JoinLog PeerId} (first : joined.Within more)
    (second : more.Within most) : joined.Within most :=
  ⟨first.1.trans second.1, first.2.trans second.2⟩

theorem within_add (joined : JoinLog PeerId) (step : StartupStep PeerId) :
    joined.Within (joined.add step) := by
  cases step with
  | startListening addr => exact ⟨List.prefix_append _ _, List.prefix_refl _⟩
  | subscribe topic => exact ⟨List.prefix_refl _, List.prefix_append _ _⟩

theorem within_record (joined : JoinLog PeerId) (view : SwarmView PeerId)
    (command : Command PeerId) : joined.Within (joined.record view command) := by
  unfold record
  split
  · split
    · exact joined.within_add _
    · exact .refl joined
  · split
    · exact joined.within_add _
    · exact .refl joined
  · exact .refl joined

def joinedBy (steps : List (StartupStep PeerId)) : JoinLog PeerId := steps.foldl add empty

theorem joinedBy_concat (steps : List (StartupStep PeerId)) (step : StartupStep PeerId) :
    joinedBy (steps ++ [step]) = (joinedBy steps).add step := by
  rw [joinedBy, List.foldl_append, List.foldl_cons, List.foldl_nil, joinedBy]

theorem joinedBy_within (steps rest : List (StartupStep PeerId)) :
    (joinedBy steps).Within (joinedBy (steps ++ rest)) := by
  induction rest generalizing steps with
  | nil =>
      rw [List.append_nil]
      exact .refl _
  | cons step rest ih =>
      rw [← List.singleton_append, ← List.append_assoc]
      exact (joinedBy_concat steps step ▸ within_add _ step).trans (ih (steps ++ [step]))

theorem joinedBy_subscribed (addr : Multiaddr PeerId) (topics : List String) :
    joinedBy (.startListening addr :: topics.map .subscribe) = ⟨[addr], topics⟩ := by
  induction topics using List.reverseRecOn with
  | nil => rfl
  | append_singleton topics topic ih =>
      rw [List.map_append, List.map_singleton, ← List.cons_append, joinedBy_concat, ih]
      rfl

def answered (joined : JoinLog PeerId) (step : StartupStep PeerId) : Answer PeerId → JoinLog PeerId
  | .error _ => joined
  | _ => joined.add step

end JoinLog

namespace Startup
open JoinLog

/-- Nobody but `main` calls, and `main` makes one call at a time. -/
structure Alone (startup : Startup PeerId) : Prop where
  clients : startup.service.1.clients = {mainClient}
  active : ∀ (slot : Slot) call, startup.service.1.calls[slot]? = some call → call.phase.active →
    startup.waiting = some slot
  queued : startup.service.1.running → ∀ command ∈ startup.service.1.channel,
    startup.waiting = some command.sender

/-- What has come of the call for a step, when `base` was agreed to before it. -/
inductive Heard (startup : Startup PeerId) (base : JoinLog PeerId) (step : StartupStep PeerId)
    (slot : Slot) : Prop
  | unserved : slot ∉ startup.service.2.served → startup.joined = base → Heard startup base step slot
  | served (answer : Answer PeerId) : (slot, answer) ∈ startup.service.1.server.answers →
      startup.joined = base.answered step answer → Heard startup base step slot

structure Underway (steps : List (StartupStep PeerId)) (startup : Startup PeerId)
    (done : List (StartupStep PeerId)) (step : StartupStep PeerId)
    (rest : List (StartupStep PeerId)) : Prop where
  split : steps = done ++ step :: rest
  todo : startup.todo = step :: rest
  clients : startup.service.1.clients = {mainClient}

inductive Stage [ToString CommandError] (steps : List (StartupStep PeerId))
    (startup : Startup PeerId) : Prop
  | between {done rest : List (StartupStep PeerId)} {step : StartupStep PeerId} :
      Underway steps startup done step rest → startup.exit = none → startup.waiting = none →
      Alone startup → startup.joined = joinedBy done → Stage steps startup
  | asked {done rest : List (StartupStep PeerId)} {step : StartupStep PeerId} {slot : Slot} :
      Underway steps startup done step rest → startup.exit = none → startup.waiting = some slot →
      Alone startup → Server.asked startup.service.1 slot = some (step.command slot) →
      Heard startup (joinedBy done) step slot → Stage steps startup
  | failed {done rest : List (StartupStep PeerId)} {step : StartupStep PeerId}
      {error : CommandError} : Underway steps startup done step rest →
      startup.exit = some (step.failed error) → startup.joined = joinedBy done →
      Stage steps startup
  | passed : startup.todo = [] → startup.exit = none →
      (joinedBy steps).Within startup.joined → Stage steps startup

variable {steps : List (StartupStep PeerId)} {startup : Startup PeerId}

theorem returned_of_outcome {slot : Slot} {outcome : Option (Answer PeerId)}
    (waits : startup.waiting = some slot) (returned : startup.outcome? = some outcome) :
    ∃ call, startup.service.1.calls[slot]? = some call ∧ call.phase = .returned outcome := by
  rw [outcome?, waits, Option.bind_some] at returned
  split at returned
  · rename_i phase
    cases returned
    exact Option.map_eq_some_iff.mp phase
  · cases returned

theorem Underway.within {done rest : List (StartupStep PeerId)} {step : StartupStep PeerId}
    (underway : Underway steps startup done step rest) :
    (joinedBy (done ++ [step])).Within (joinedBy steps) := by
  have split : steps = (done ++ [step]) ++ rest := by
    rw [underway.split, List.append_assoc, List.singleton_append]
  exact split ▸ joinedBy_within _ rest

variable [ToString CommandError]

theorem Stage.within (stage : Stage steps startup) (pending : startup.todo ≠ []) :
    startup.service.1.clients = {mainClient} ∧ startup.joined.Within (joinedBy steps) := by
  have before {done rest : List (StartupStep PeerId)} {step : StartupStep PeerId}
      (underway : Underway steps startup done step rest) :
      (joinedBy done).Within (joinedBy steps) :=
    (joinedBy_within done [step]).trans underway.within
  cases stage with
  | between underway _ _ _ joined => exact ⟨underway.clients, joined ▸ before underway⟩
  | asked underway _ _ _ _ heard =>
      refine ⟨underway.clients, ?_⟩
      cases heard with
      | unserved _ joined => exact joined ▸ before underway
      | served answer _ joined =>
          rw [joined]
          have within := underway.within
          rw [joinedBy_concat] at within
          cases answer with
          | error error => exact before underway
          | _ => exact within
  | failed underway _ joined => exact ⟨underway.clients, joined ▸ before underway⟩
  | passed todo => exact absurd todo pending

theorem Stage.joins (stage : Stage steps startup) (todo : startup.todo = []) :
    startup.exit = none ∧ (joinedBy steps).Within startup.joined := by
  cases stage with
  | between underway | asked underway | failed underway =>
      exact nomatch underway.todo.symm.trans todo
  | passed _ running within => exact ⟨running, within⟩

theorem Stage.exits {addr : Multiaddr PeerId} {topics : List String}
    (stage : Stage (.startListening addr :: topics.map .subscribe) startup) {exit : Exit}
    (exits : startup.exit = some exit) :
    exit = .panic ∧ startup.joined = .empty ∨
      ∃ (before : List String) (topic : String) (after : List String) (error : CommandError),
        topics = before ++ topic :: after ∧
        exit = (StartupStep.subscribe topic : StartupStep PeerId).failed error ∧
        startup.joined = ⟨[addr], before⟩ := by
  cases stage with
  | between _ running | asked _ running | passed _ running => exact nomatch running.symm.trans exits
  | @failed done rest step error underway failed joined =>
      cases Option.some.inj (failed.symm.trans exits)
      have split := underway.split
      cases done with
      | nil =>
          cases split
          exact .inl ⟨rfl, joined⟩
      | cons first done =>
          obtain ⟨rfl, subscribed⟩ := List.cons.inj split
          obtain ⟨before, left, rfl, rfl, remaining⟩ := List.map_eq_append_iff.mp subscribed
          obtain ⟨topic, after, rfl, rfl, rfl⟩ := List.map_eq_cons_iff.mp remaining
          have listened := joined.trans (joinedBy_subscribed addr before)
          exact .inr ⟨before, topic, after, error, rfl, rfl, listened⟩

end Startup
end

variable {PeerId : Type} [DecidableEq PeerId]

/-- The loop answers a step at once, with what the swarm says to it. -/
theorem StartupStep.answer (step : StartupStep PeerId) (loop : EventLoop PeerId)
    (view : SwarmView PeerId) (sender : Sender) (joined : JoinLog PeerId) :
    ∃ answer, (loop.handleCommand view (step.command sender)).effects.filterMap Effect.answer? =
        [(sender, answer)] ∧
      joined.record view (step.command sender) = joined.answered step answer := by
  cases step with
  | startListening addr =>
      refine ⟨_, rfl, ?_⟩
      cases reply : view.listenOn addr <;>
        simp [JoinLog.record, command, reply, replyAnswer, JoinLog.answered]
  | subscribe topic =>
      refine ⟨_, rfl, ?_⟩
      cases reply : view.subscribe topic <;>
        simp [JoinLog.record, command, reply, replyAnswer, JoinLog.answered]

variable [TextCodec PeerId] [TextCodec (Multiaddr PeerId)]

namespace Startup
open JoinLog

theorem Alone.unprompted {startup : Startup PeerId} (alone : Alone startup)
    (orderly : (eventLoopServer PeerId).Orderly startup.service.1 startup.service.2)
    {label : ServiceLabel PeerId} (enabled : (serviceSystem PeerId).enabled startup.service label)
    (calm : label.unprompted) : Alone (startup.serviceNext label) := by
  obtain ⟨clients, active, queued⟩ := alone
  have phased {slot : Slot} {phase : CallPhase (Answer PeerId)}
      (live : phase.active → startup.waiting = some slot) (other : Slot)
      (call : Call (Command PeerId) (Answer PeerId))
      (found : (startup.service.1.setPhase slot phase).calls[other]? = some call)
      (lives : call.phase.active) : startup.waiting = some other := by
    rw [Server.getElem?_setPhase] at found
    obtain ⟨before, there, rfl⟩ := Option.map_eq_some_iff.mp found
    split_ifs at lives with same
    · exact same ▸ live lives
    · exact active other before there lives
  cases label with
  | send slot =>
      obtain ⟨running, call, there, unsent⟩ := enabled
      have mine : startup.waiting = some slot :=
        active slot call there (CallPhase.active_of_unsent unsent)
      have next : (startup.serviceNext (.send slot)).service.1 =
          { startup.service.1.setPhase slot .waiting with
            channel := startup.service.1.channel ++ [call.request] } := by
        simp only [serviceNext, serviceSystem, Server.loggedDesk, System.withHistory,
          Server.deskSystem, Server.deskNext, Option.mem_def.mp there]
      refine ⟨?_, ?_, ?_⟩
      · rw [next]
        exact clients
      · rw [next]
        exact phased fun _ => mine
      · rw [next]
        rintro _ command member
        rcases List.mem_append.mp member with before | last
        · exact queued running command before
        · rw [List.mem_singleton.mp last]
          exact mine.trans (congrArg some (orderly.slots slot call there).symm)
  | serve label =>
      exact ⟨clients, active, fun running command member =>
        queued running command (List.mem_of_mem_tail member)⟩
  | event label => exact ⟨clients, active, queued⟩
  | complete slot =>
      obtain ⟨outcome, polled⟩ := Option.isSome_iff_exists.mp enabled
      have next : (startup.serviceNext (.complete slot)).service.1 =
          startup.service.1.setPhase slot (.returned outcome) := by
        simp only [serviceNext, serviceSystem, Server.loggedDesk, System.withHistory,
          Server.deskSystem, Server.deskNext, polled]
      refine ⟨?_, ?_, ?_⟩
      · rw [next]
        exact clients
      · rw [next]
        exact phased fun live => absurd live Bool.false_ne_true
      · rw [next]
        exact queued
  | stop => exact ⟨clients, active, fun running => absurd running Bool.false_ne_true⟩
  | kill => exact ⟨clients, active, fun running => absurd running Bool.false_ne_true⟩
  | _ => cases calm

/-- While `main` waits, the loop serves no command but its own. -/
theorem Heard.unprompted {startup : Startup PeerId} {base : JoinLog PeerId}
    {step : StartupStep PeerId} {slot : Slot} (heard : Heard startup base step slot)
    (alone : Alone startup) (waits : startup.waiting = some slot)
    (asked : Server.asked startup.service.1 slot = some (step.command slot))
    (orderly : (eventLoopServer PeerId).Orderly startup.service.1 startup.service.2)
    {label : ServiceLabel PeerId} (enabled : (serviceSystem PeerId).enabled startup.service label) :
    Heard (startup.serviceNext label) base step slot := by
  have kept (same : startup.joinedNext label = startup.joined)
      (served : ((serviceSystem PeerId).next startup.service label).2.served =
        startup.service.2.served)
      (answers : startup.service.1.server.answers ⊆
        ((serviceSystem PeerId).next startup.service label).1.server.answers) :
      Heard (startup.serviceNext label) base step slot := by
    cases heard with
    | unserved before joined =>
        refine .unserved ?_ (same.trans joined)
        rw [serviceNext, served]
        exact before
    | served answer filled joined => exact .served answer (answers filled) (same.trans joined)
  cases label with
  | serve label =>
      obtain ⟨running, _, command, first, asks⟩ := enabled
      have queued := List.mem_of_head? first
      have mine : (eventLoopServer PeerId).slot command = slot :=
        Option.some.inj ((alone.queued running command queued).symm.trans waits)
      have own : command = step.command slot := by
        obtain ⟨call, there, same⟩ := orderly.own command queued
        rw [Server.asked, ← mine, there, Option.map_some, Option.some.injEq, same, mine] at asked
        exact asked
      have unserved := mine ▸ orderly.unserved_of_queued running queued
      cases label with
      | command view command =>
          cases asks
          subst own
          obtain ⟨answer, answers, joined⟩ :=
            step.answer startup.service.1.server.loop view slot startup.joined
          refine .served answer ?_ ?_
          · change (slot, answer) ∈ startup.service.1.server.answers ++
              (startup.service.1.server.loop.handleCommand view (step.command slot)).effects.filterMap
                Effect.answer?
            rw [answers]
            exact List.mem_append_right _ (List.mem_singleton_self _)
          · change startup.joined.record view (step.command slot) = _
            rw [joined]
            cases heard with
            | unserved _ before => rw [before]
            | served _ filled _ => exact absurd (orderly.served_of_answer filled) unserved
      | _ => cases asks
  | event label => exact kept rfl rfl (World.answers_next _ label).subset
  | _ =>
      refine kept rfl rfl ?_
      change _ ⊆ ((eventLoopServer PeerId).deskNext startup.service.1 _).server.answers
      rw [Server.server_next (by simp) (by simp)]
      exact List.Subset.refl _

/-! ## One step -/

variable [ToString CommandError] {steps : List (StartupStep PeerId)} {startup : Startup PeerId}

theorem Stage.serviceNext (stage : Stage steps startup)
    (orderly : (eventLoopServer PeerId).Orderly startup.service.1 startup.service.2)
    {label : ServiceLabel PeerId} (enabled : startup.Enabled (.service label)) :
    Stage steps (startup.serviceNext label) := by
  obtain ⟨running, ready, calm⟩ := enabled
  cases stage with
  | between underway _ idle alone joined =>
      obtain ⟨split, todo, _⟩ := underway
      have still := alone.unprompted orderly ready (calm (by simp [todo]))
      have silent : startup.joinedNext label = startup.joined := by
        cases label with
        | serve label =>
            obtain ⟨alive, _, command, first, _⟩ := ready
            have waits := alone.queued alive command (List.mem_of_head? first)
            exact nomatch idle.symm.trans waits
        | _ => rfl
      exact .between ⟨split, todo, still.clients⟩ running idle still (silent.trans joined)
  | @asked done rest step slot underway _ waits alone asked heard =>
      obtain ⟨split, todo, _⟩ := underway
      have still := alone.unprompted orderly ready (calm (by simp [todo]))
      have known : Server.asked ((eventLoopServer PeerId).deskNext startup.service.1 label) slot =
          some (step.command slot) := Server.asked_next asked label
      exact .asked ⟨split, todo, still.clients⟩ running waits still known
        (heard.unprompted alone waits asked orderly ready)
  | failed _ exit _ => exact nomatch running.symm.trans exit
  | passed todo _ within =>
      refine .passed todo running (within.trans ?_)
      change startup.joined.Within (startup.joinedNext label)
      unfold joinedNext
      split
      · exact JoinLog.within_record _ _ _
      · exact .refl _

theorem Stage.call (stage : Stage steps startup)
    (orderly : (eventLoopServer PeerId).Orderly startup.service.1 startup.service.2)
    (enabled : startup.Enabled .call) : Stage steps (startup.next .call) := by
  obtain ⟨running, free, label, next, ready⟩ := enabled
  cases stage with
  | @between done rest step underway _ _ alone joined =>
      obtain ⟨split, todo, clients⟩ := underway
      set slot := startup.service.1.calls.length with slot_eq
      have call : startup.call? = some (.call mainClient (step.command slot)) := by
        rw [call?, todo, List.head?_cons, Option.map_some]
      have called : startup.next .call =
          { startup.serviceNext (.call mainClient (step.command slot)) with waiting := some slot } := by
        rw [Startup.next, call]
      rw [called]
      refine .asked ⟨split, todo, clients⟩ running rfl ⟨clients, ?_, ?_⟩ ?_ (.unserved ?_ joined)
      · intro other found there active
        rcases Server.eq_or_of_concat there with old | ⟨rfl, _⟩
        · exact nomatch free.symm.trans (alone.active other found old active)
        · rfl
      · intro alive command queued
        exact nomatch free.symm.trans (alone.queued alive command queued)
      · change Option.map _ (startup.service.1.calls ++ [_])[slot]? = _
        rw [List.getElem?_concat_length]
        rfl
      · intro served
        exact Nat.lt_irrefl slot (orderly.known slot (orderly.served.subset served))
  | asked _ _ waits => exact nomatch free.symm.trans waits
  | failed _ exit _ => exact nomatch running.symm.trans exit
  | passed todo =>
      rw [call?, todo] at next
      exact nomatch next

theorem Stage.proceed {done rest : List (StartupStep PeerId)} {step : StartupStep PeerId}
    {slot : Slot} {answer : Answer PeerId}
    (orderly : (eventLoopServer PeerId).Orderly startup.service.1 startup.service.2)
    (underway : Underway steps startup done step rest) (running : startup.exit = none)
    (waits : startup.waiting = some slot) (alone : Alone startup)
    {call : Call (Command PeerId) (Answer PeerId)}
    (there : startup.service.1.calls[slot]? = some call)
    (returned : call.phase = .returned (some answer))
    (filled : (slot, answer) ∈ startup.service.1.server.answers)
    (joined : startup.joined = (joinedBy done).add step) :
    Stage steps { startup with todo := rest, waiting := none } := by
  have further : joinedBy (done ++ [step]) = startup.joined := by
    rw [joined, joinedBy_concat]
  cases rest with
  | nil =>
      refine .passed rfl running ?_
      rw [underway.split, further]
      exact .refl _
  | cons following rest =>
      have split : steps = (done ++ [step]) ++ following :: rest := by
        rw [underway.split, List.append_assoc, List.singleton_append]
      refine .between ⟨split, rfl, alone.clients⟩ running rfl ⟨alone.clients, ?_, ?_⟩ further.symm
      · intro other before at_other active
        cases Option.some.inj (waits.symm.trans (alone.active other before at_other active))
        cases Option.some.inj (there.symm.trans at_other)
        rw [returned] at active
        exact nomatch active
      · intro alive command queued
        have mine := Option.some.inj (waits.symm.trans (alone.queued alive command queued))
        have unserved := orderly.unserved_of_queued alive queued
        exact absurd (orderly.served_of_answer filled) (mine.symm ▸ unserved)

theorem Stage.resume (stage : Stage steps startup)
    (orderly : (eventLoopServer PeerId).Orderly startup.service.1 startup.service.2)
    (enabled : startup.Enabled .resume) : Stage steps (startup.next .resume) := by
  obtain ⟨running, returned⟩ := enabled
  obtain ⟨outcome, returned⟩ := Option.isSome_iff_exists.mp returned
  cases stage with
  | between _ _ waits =>
      rw [outcome?, waits] at returned
      exact nomatch returned
  | @asked done rest step slot underway _ waits alone asked heard =>
      obtain ⟨call, there, phase⟩ := returned_of_outcome waits returned
      have stands := orderly.stands slot call there
      rw [phase] at stands
      rw [Startup.next, underway.todo, returned]
      cases outcome with
      | none =>
          have unanswered : startup.joined = joinedBy done := by
            cases heard with
            | unserved _ joined => exact joined
            | served answer filled _ =>
                have replied : ((eventLoopServer PeerId).reply startup.service.1.server slot).isSome :=
                  Server.reply_of_mem_answers filled
                exact absurd stands.2 (Option.isSome_iff_ne_none.mp replied)
          exact .failed ⟨underway.split, underway.todo, underway.clients⟩ rfl unanswered
      | some answer =>
          have joined : startup.joined = (joinedBy done).answered step answer := by
            cases heard with
            | unserved before _ => exact absurd (orderly.served_of_answer stands) before
            | served other filled joined => exact orderly.answer_unique stands filled ▸ joined
          cases answer with
          | error error => exact .failed ⟨underway.split, underway.todo, underway.clients⟩ rfl joined
          | _ => exact .proceed orderly underway running waits alone there phase stands joined
  | failed _ exit _ => exact nomatch running.symm.trans exit
  | passed todo _ within =>
      have same : startup.next .resume = startup := by rw [Startup.next, todo]
      exact same.symm ▸ .passed todo running within

/-! ## The whole run -/

variable {port : UInt16} {topics : List String}

theorem service_reachable (reachable : (startupSystem PeerId port topics).Reachable startup) :
    (serviceSystem PeerId).Reachable startup.service := by
  induction reachable with
  | initial first =>
      obtain ⟨service, initial, _, rfl⟩ := first
      exact .initial initial
  | @next startup label _ enabled ih =>
      cases label with
      | call =>
          obtain ⟨_, _, label, next, ready⟩ := enabled
          change (serviceSystem PeerId).Reachable (startup.next .call).service
          rw [Startup.next, Option.mem_def.mp next]
          exact .next ih ready
      | resume =>
          have same : (startup.next .resume).service = startup.service := by
            rw [Startup.next]
            split
            · unfold resumed
              split <;> rfl
            · rfl
          exact same.symm ▸ ih
      | service label => exact .next ih enabled.2.1

theorem stage_of_reachable (reachable : (startupSystem PeerId port topics).Reachable startup) :
    Stage (startupSteps port topics) startup := by
  induction reachable with
  | initial first =>
      obtain ⟨service, ⟨⟨_, _, channel, calls⟩, _⟩, clients, rfl⟩ := first
      have split : startupSteps port topics =
          ([] : List (StartupStep PeerId)) ++ startupSteps port topics := rfl
      refine .between ⟨split, rfl, clients⟩ rfl rfl ⟨clients, ?_, ?_⟩ rfl
      · intro slot call found
        simp [startWith, calls] at found
      · intro _ command queued
        simp [startWith, channel] at queued
  | @next startup label before enabled ih =>
      have orderly := orderly_service (service_reachable before)
      cases label with
      | call => exact ih.call orderly enabled
      | resume => exact ih.resume orderly enabled
      | service label => exact ih.serviceNext orderly enabled

end Startup

open JoinLog

/--
Nobody but `main` has a client before the swarm listens and is subscribed to every configured topic,
each once and in the order given. When `main` gives up, its error names the first topic that it was
not subscribed to, and the swarm has agreed to what comes before it and to nothing else.
-/
theorem startup_joins [ToString CommandError] {port : UInt16} {topics : List String}
    {startup : Startup PeerId} (reachable : (startupSystem PeerId port topics).Reachable startup) :
    (startup.todo ≠ [] → startup.service.1.clients = {mainClient} ∧
      startup.joined.Within ⟨[p2pBindMultiaddr port], distinctTopics topics⟩ ∧
      startup.joined.topics.Nodup) ∧
    (startup.todo = [] → startup.exit = none ∧
      Within ⟨[p2pBindMultiaddr port], distinctTopics topics⟩ startup.joined ∧
      ∀ t ∈ topics, t ∈ startup.joined.topics) ∧
    ∀ exit, startup.exit = some exit → exit = .panic ∧ startup.joined = .empty ∨
      ∃ (before : List String) (topic : String) (after : List String) (error : CommandError),
        distinctTopics topics = before ++ topic :: after ∧
        exit = .err ("could not subscribe to topic " ++ topic ++ ": " ++ toString error) ∧
        startup.joined = ⟨[p2pBindMultiaddr port], before⟩ := by
  have stage := Startup.stage_of_reachable reachable
  refine ⟨fun pending => ?_, fun todo => ?_, fun exit exits => stage.exits exits⟩
  · obtain ⟨clients, within⟩ := stage.within pending
    rw [startupSteps, joinedBy_subscribed] at within
    exact ⟨clients, within, within.2.sublist.nodup (distinctTopics_nodup topics)⟩
  · obtain ⟨running, within⟩ := stage.joins todo
    rw [startupSteps, joinedBy_subscribed] at within
    exact ⟨running, within, fun t given => within.2.subset (mem_distinctTopics.mpr given)⟩

section

open Sample

theorem startup_joins_opened : "ALIVE" ∈ opened.joined.topics :=
  ((startup_joins opened_reachable).2.1 rfl).2.2 "ALIVE" (by simp)

end

end P2pService
