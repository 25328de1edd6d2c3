import P2pService.Proof.Outcome
import P2pService.Proof.Tick.Safe
import P2pService.World.Schedule

/-!
# Every pass of the task is a tick

Beside the event loop the task goes through its candidates one step at a time, and anything can
happen between two steps. What it sends in a pass, and what it leaves in its backoff, is what a tick
by itself makes of the same inputs.
-/

namespace P2pService
open Library

variable {PeerId : Type}

def Candidate.asked (candidate : Candidate PeerId) : PeerId × List (Multiaddr PeerId) :=
  (candidate.peer, candidate.addrs)

def DialLoop.asked (loop : DialLoop PeerId) : List (PeerId × List (Multiaddr PeerId)) :=
  loop.dials.map (·.candidate.asked)

/-! ## Moments under a clock -/

/-- The moments came one after the other, between the start of the pass and now. -/
structure Paced (startedAt clock : Instant) (moments : List Moment) : Prop where
  started : startedAt ≤ clock
  inside : ∀ moment ∈ moments, startedAt ≤ moment.readyAt ∧ moment.readyAt ≤ moment.settledAt ∧
    moment.settledAt ≤ clock ∧ Maintained.Jitter moment.jitter
  ordered : moments.Pairwise fun earlier later => earlier.settledAt ≤ later.readyAt

def idleMoment (clock : Instant) : Moment := ⟨clock, .timedOut, clock, 1⟩

namespace Paced

variable {startedAt clock : Instant} {moments : List Moment}

theorem jitter_one : Maintained.Jitter 1 := by
  constructor <;> norm_num

theorem nil (started : startedAt ≤ clock) : Paced startedAt clock [] := ⟨started, by simp, .nil⟩

theorem mono (paced : Paced startedAt clock moments) {later : Instant} (passed : clock ≤ later) :
    Paced startedAt later moments where
  started := paced.started.trans passed
  inside moment member := by
    obtain ⟨first, second, third, jitter⟩ := paced.inside moment member
    exact ⟨first, second, third.trans passed, jitter⟩
  ordered := paced.ordered

theorem append (paced : Paced startedAt clock moments) (moment : Moment) {later : Instant}
    (ready : clock ≤ moment.readyAt) (settled : moment.readyAt ≤ moment.settledAt)
    (now : moment.settledAt ≤ later) (jitter : Maintained.Jitter moment.jitter) :
    Paced startedAt later (moments ++ [moment]) where
  started := paced.started.trans (ready.trans (settled.trans now))
  inside other member := by
    rcases List.mem_append.mp member with old | new
    · exact (paced.mono (ready.trans (settled.trans now))).inside other old
    · rw [List.mem_singleton.mp new]
      exact ⟨paced.started.trans ready, settled, now, jitter⟩
  ordered := by
    refine List.pairwise_append.mpr ⟨paced.ordered, List.pairwise_singleton _ _, ?_⟩
    intro earlier member later new
    rw [List.mem_singleton.mp new]
    exact (paced.inside earlier member).2.2.1.trans ready

def fill (clock : Instant) (moments : List Moment) (k : Nat) : Moment :=
  moments[k]?.getD (idleMoment clock)

theorem fill_of_lt {k : Nat} (here : k < moments.length) : fill clock moments k = moments[k] := by
  rw [fill, List.getElem?_eq_getElem here, Option.getD_some]

theorem fill_of_le {k : Nat} (past : moments.length ≤ k) :
    fill clock moments k = idleMoment clock := by
  rw [fill, List.getElem?_eq_none past, Option.getD_none]

theorem fill_clock (paced : Paced startedAt clock moments) (k : Nat) :
    startedAt ≤ (fill clock moments k).readyAt ∧
      (fill clock moments k).readyAt ≤ (fill clock moments k).settledAt ∧
      (fill clock moments k).settledAt ≤ (fill clock moments (k + 1)).readyAt := by
  rcases Nat.lt_or_ge k moments.length with here | past
  · rw [fill_of_lt here]
    obtain ⟨first, second, third, _⟩ := paced.inside _ (List.getElem_mem here)
    refine ⟨first, second, ?_⟩
    rcases Nat.lt_or_ge (k + 1) moments.length with next | last
    · rw [fill_of_lt next]
      exact List.pairwise_iff_getElem.mp paced.ordered k (k + 1) here next (Nat.lt_succ_self k)
    · rw [fill_of_le last]
      exact third
  · rw [fill_of_le past, fill_of_le (past.trans (Nat.le_succ k))]
    exact ⟨paced.started, le_rfl, le_rfl⟩

theorem fill_jitter (paced : Paced startedAt clock moments) (k : Nat) :
    Maintained.Jitter (fill clock moments k).jitter := by
  rcases Nat.lt_or_ge k moments.length with here | past
  · rw [fill_of_lt here]
    exact (paced.inside _ (List.getElem_mem here)).2.2.2
  · rw [fill_of_le past]
    exact jitter_one

end Paced

variable [DecidableEq PeerId]

/-! ## Turns of the loop, as a tick -/

def loopAfter (connected : Finset PeerId) (start : DialBackoff PeerId)
    (turns : List (Candidate PeerId × Moment)) : DialLoop PeerId :=
  DialLoop.run connected ⟨start, ∅, []⟩ turns

theorem loopAfter_append (connected : Finset PeerId) (start : DialBackoff PeerId)
    (turns : List (Candidate PeerId × Moment)) (candidate : Candidate PeerId) (moment : Moment) :
    loopAfter connected start (turns ++ [(candidate, moment)]) =
      (loopAfter connected start turns).turn connected candidate moment := by
  rw [loopAfter, DialLoop.run, List.foldl_append]
  rfl

theorem DialLoop.asked_prefix_turn (connected : Finset PeerId) (loop : DialLoop PeerId)
    (candidate : Candidate PeerId) (moment : Moment) :
    loop.asked <+: (loop.turn connected candidate moment).asked := by
  unfold DialLoop.turn asked
  dsimp only
  split_ifs
  · exact List.prefix_rfl
  · exact List.prefix_rfl
  · rw [List.map_append]
    exact List.prefix_append _ _

theorem asked_prefix_loopAfter (connected : Finset PeerId) (start : DialBackoff PeerId)
    (turns more : List (Candidate PeerId × Moment)) :
    (loopAfter connected start turns).asked <+: (loopAfter connected start (turns ++ more)).asked := by
  induction more using List.reverseRecOn with
  | nil => rw [List.append_nil]
  | append_singleton more turn ih =>
      rw [← List.append_assoc, loopAfter_append]
      exact ih.trans (DialLoop.asked_prefix_turn _ _ _ _)

variable [TextCodec PeerId] [TextCodec (Multiaddr PeerId)]

namespace Tick

variable {inputs : TickInputs PeerId}

/-- The same tick, had it gone on at other moments. -/
def retimed (tick : Tick inputs) {clock : Instant} {moments : List Moment}
    (paced : Paced tick.startedAt clock moments) : Tick inputs :=
  { tick with
    moments := Paced.fill clock moments
    clock := paced.fill_clock
    jitter := paced.fill_jitter }

theorem turns_retimed (tick : Tick inputs) {clock : Instant}
    {turns : List (Candidate PeerId × Moment)} {rest : List (Candidate PeerId)}
    (split : turns.map Prod.fst ++ rest = tick.candidates)
    (paced : Paced tick.startedAt clock (turns.map Prod.snd)) :
    (tick.retimed paced).turns = turns ++ rest.map fun candidate => (candidate, idleMoment clock) := by
  have candidates : (tick.retimed paced).candidates = turns.map Prod.fst ++ rest := split.symm
  rw [Tick.turns, candidates]
  apply List.ext_getElem?
  intro k
  rw [List.getElem?_map, List.getElem?_zipIdx]
  rcases Nat.lt_or_ge k turns.length with here | past
  · rw [List.getElem?_append_left (by rwa [List.length_map]), List.getElem?_append_left here,
      List.getElem?_map, List.getElem?_eq_getElem here]
    have moment : Paced.fill clock (turns.map Prod.snd) k = turns[k].2 := by
      rw [Paced.fill_of_lt (by rwa [List.length_map]), List.getElem_map]
    simp only [Option.map_some, Nat.zero_add, retimed, moment, Prod.mk.eta]
  · rw [List.getElem?_append_right (by rwa [List.length_map]), List.getElem?_append_right past,
      List.getElem?_map, List.length_map]
    have moment : Paced.fill clock (turns.map Prod.snd) k = idleMoment clock :=
      Paced.fill_of_le (by rwa [List.length_map])
    cases rest[k - turns.length]? with
    | none => rfl
    | some candidate => simp only [Option.map_some, Nat.zero_add, retimed, moment]

/-- Whatever the loop has done with a part of its candidates is what some tick does with them. -/
theorem exists_of_turns (tick : Tick inputs) {clock : Instant}
    {turns : List (Candidate PeerId × Moment)} {rest : List (Candidate PeerId)}
    (split : turns.map Prod.fst ++ rest = tick.candidates)
    (paced : Paced tick.startedAt clock (turns.map Prod.snd)) :
    ∃ other : Tick inputs, other.startedAt = tick.startedAt ∧ other.backoff = tick.backoff ∧
      (loopAfter inputs.connected tick.pruned turns).asked <+: other.finished.asked ∧
      (rest = [] → other.finished = loopAfter inputs.connected tick.pruned turns) := by
  have finished : (tick.retimed paced).finished = loopAfter inputs.connected tick.pruned
      (turns ++ rest.map fun candidate => (candidate, idleMoment clock)) := by
    rw [Tick.finished, tick.turns_retimed split paced]
    rfl
  refine ⟨tick.retimed paced, rfl, rfl, ?_, fun done => ?_⟩
  · rw [finished]
    exact asked_prefix_loopAfter _ _ _ _
  · rw [finished, done, List.map_nil, List.append_nil]

end Tick

/-! ## Where the task stands -/

section

omit [TextCodec PeerId] [TextCodec (Multiaddr PeerId)]

/-- The loop has taken some turns by now, and the task waits for the next candidate to come up, or
for what comes of dialing it. -/
inductive Stands (startedAt clock : Instant) (connected : Finset PeerId)
    (start : DialBackoff PeerId) (turns : List (Candidate PeerId × Moment)) :
    List (Candidate PeerId) → Task PeerId → List (PeerId × List (Multiaddr PeerId)) → Prop where
  | dialing (rest : List (Candidate PeerId))
      (paced : Paced startedAt clock (turns.map Prod.snd)) :
      Stands startedAt clock connected start turns rest
        (.dialing connected (rest.map Candidate.asked) (loopAfter connected start turns).attempted)
        (loopAfter connected start turns).asked
  | awaiting (candidate : Candidate PeerId) (rest : List (Candidate PeerId)) (sender : Sender)
      (now : Instant) (unconnected : candidate.peer ∉ connected)
      (fresh : candidate.peer ∉ (loopAfter connected start turns).attempted)
      (ready : (loopAfter connected start turns).backoff.ready candidate.peer now)
      (paced : Paced startedAt now (turns.map Prod.snd)) (past : now ≤ clock) :
      Stands startedAt clock connected start turns (candidate :: rest)
        (.awaiting sender candidate.peer connected (rest.map Candidate.asked)
          (insert candidate.peer (loopAfter connected start turns).attempted))
        ((loopAfter connected start turns).asked ++ [candidate.asked])
  | done (paced : Paced startedAt clock (turns.map Prod.snd)) :
      Stands startedAt clock connected start turns [] .sleeping
        (loopAfter connected start turns).asked

variable {startedAt clock : Instant} {connected : Finset PeerId} {start : DialBackoff PeerId}
  {turns : List (Candidate PeerId × Moment)}

theorem DialLoop.turn_of_taken {candidate : Candidate PeerId} (moment : Moment)
    (unconnected : candidate.peer ∉ connected)
    (fresh : candidate.peer ∉ (loopAfter connected start turns).attempted)
    (ready : (loopAfter connected start turns).backoff.ready candidate.peer moment.readyAt) :
    loopAfter connected start (turns ++ [(candidate, moment)]) =
      { backoff := settle (loopAfter connected start turns).backoff candidate.peer moment
        attempted := insert candidate.peer (loopAfter connected start turns).attempted
        dials := (loopAfter connected start turns).dials ++
          [⟨candidate, moment, (loopAfter connected start turns).backoff⟩] } := by
  have due : due connected (loopAfter connected start turns).backoff (candidate, moment) :=
    due_iff.mpr ⟨unconnected, ready⟩
  rw [loopAfter_append]
  exact turn_of_due due fresh

theorem DialLoop.asked_of_taken {candidate : Candidate PeerId} (moment : Moment)
    (unconnected : candidate.peer ∉ connected)
    (fresh : candidate.peer ∉ (loopAfter connected start turns).attempted)
    (ready : (loopAfter connected start turns).backoff.ready candidate.peer moment.readyAt) :
    (loopAfter connected start (turns ++ [(candidate, moment)])).asked =
      (loopAfter connected start turns).asked ++ [candidate.asked] := by
  rw [turn_of_taken moment unconnected fresh ready, asked, List.map_append]
  rfl

end

/-- The pass is on its way through the candidates of a tick. -/
def Underway {inputs : TickInputs PeerId} (tick : Tick inputs) (clock : Instant)
    (state : Maintained PeerId) (dials : List (PeerId × List (Multiaddr PeerId))) : Prop :=
  ∃ turns rest, turns.map Prod.fst ++ rest = tick.candidates ∧
    state.backoff = (loopAfter inputs.connected tick.pruned turns).backoff ∧
    Stands tick.startedAt clock inputs.connected tick.pruned turns rest state.task dials

namespace Underway

variable {inputs : TickInputs PeerId} {tick : Tick inputs} {clock : Instant}
  {state : Maintained PeerId} {dials : List (PeerId × List (Multiaddr PeerId))}

theorem of_same (underway : Underway tick clock state dials) {after : Maintained PeerId}
    (task : after.task = state.task) (backoff : after.backoff = state.backoff) :
    Underway tick clock after dials := by
  obtain ⟨turns, rest, split, same, stands⟩ := underway
  exact ⟨turns, rest, split, backoff.trans same, task ▸ stands⟩

theorem of_passed {turns : List (Candidate PeerId × Moment)} {candidate : Candidate PeerId}
    {rest : List (Candidate PeerId)} {now : Instant}
    (split : turns.map Prod.fst ++ candidate :: rest = tick.candidates)
    (paced : Paced tick.startedAt clock (turns.map Prod.snd)) (reached : clock ≤ now)
    (skipped : candidate.peer ∈ inputs.connected ∨
      candidate.peer ∈ (loopAfter inputs.connected tick.pruned turns).attempted ∨
      (loopAfter inputs.connected tick.pruned turns).backoff.ready candidate.peer now = false)
    (backoff : state.backoff = (loopAfter inputs.connected tick.pruned turns).backoff)
    (task : state.task = .dialing inputs.connected (rest.map Candidate.asked)
      (loopAfter inputs.connected tick.pruned turns).attempted) :
    Underway tick now state (loopAfter inputs.connected tick.pruned turns).asked := by
  have passed : ¬ (DialLoop.due inputs.connected
      (loopAfter inputs.connected tick.pruned turns).backoff (candidate, idleMoment now) ∧
      candidate.peer ∉ (loopAfter inputs.connected tick.pruned turns).attempted) := by
    rintro ⟨due, fresh⟩
    obtain ⟨unconnected, ready⟩ := DialLoop.due_iff.mp due
    rcases skipped with joined | tried | unready
    · exact unconnected joined
    · exact fresh tried
    · exact Bool.noConfusion (ready.symm.trans unready)
  have kept : loopAfter inputs.connected tick.pruned (turns ++ [(candidate, idleMoment now)]) =
      loopAfter inputs.connected tick.pruned turns :=
    (loopAfter_append _ _ turns candidate _).trans (DialLoop.turn_of_passed passed)
  have longer : Paced tick.startedAt now
      ((turns ++ [(candidate, idleMoment now)]).map Prod.snd) := by
    rw [List.map_append]
    exact paced.append (idleMoment now) reached le_rfl le_rfl Paced.jitter_one
  refine ⟨turns ++ [(candidate, idleMoment now)], rest, ?_, ?_, ?_⟩
  · rw [List.map_append, List.append_assoc]
    exact split
  · rw [kept]
    exact backoff
  · have stands : Stands tick.startedAt now inputs.connected tick.pruned
        (turns ++ [(candidate, idleMoment now)]) rest _ _ := .dialing rest longer
    rw [kept] at stands
    rw [task]
    exact stands

theorem newDials_of_requests {label : MaintenanceLabel PeerId}
    (same : (state.next label).requests = state.requests) : state.newDials label = [] := by
  rw [Maintained.newDials, same, List.drop_length]
  rfl

theorem attempt (underway : Underway tick clock state dials) {now : Instant} {sender : Sender}
    (enabled : state.Enabled (.attempt now sender))
    (onTime : Maintained.OnTime (state, clock) (.attempt now sender)) :
    Underway tick (state.advance (.attempt now sender) clock) (state.next (.attempt now sender))
      (dials ++ state.newDials (.attempt now sender)) := by
  obtain ⟨turns, rest, split, backoff, stands⟩ := underway
  obtain ⟨⟨_, _, _, dialing⟩, _⟩ := enabled
  generalize standing : state.task = task at stands
  cases stands with
  | awaiting => cases standing.symm.trans dialing
  | done => cases standing.symm.trans dialing
  | dialing rest paced =>
      cases rest with
      | nil =>
          have after : state.next (.attempt now sender) = { state with task := .sleeping } := by
            simp only [Maintained.next, Maintained.attempt, standing, List.map_nil]
          have same : state.advance (.attempt now sender) clock = clock := by
            simp only [Maintained.advance, Maintained.backoffCall?, standing, List.map_nil,
              Option.bind_none, Option.getD_none]
          rw [newDials_of_requests (by rw [after]), List.append_nil, after, same]
          exact ⟨turns, [], split, backoff, .done paced⟩
      | cons candidate rest =>
          by_cases skipped : candidate.peer ∈ inputs.connected ∨
              candidate.peer ∈ (loopAfter inputs.connected tick.pruned turns).attempted
          · have after : state.next (.attempt now sender) = { state with
                task := .dialing inputs.connected (rest.map Candidate.asked)
                  (loopAfter inputs.connected tick.pruned turns).attempted } := by
              have passed : candidate.peer ∈ inputs.connected ∨
                  candidate.peer ∈ (loopAfter inputs.connected tick.pruned turns).attempted ∨
                    state.backoff.ready candidate.peer now = false :=
                skipped.imp_right .inl
              simp only [Maintained.next, Maintained.attempt, standing, List.map_cons,
                Candidate.asked, passed, if_true]
            have same : state.advance (.attempt now sender) clock = clock := by
              simp only [Maintained.advance, Maintained.backoffCall?, standing, List.map_cons,
                Candidate.asked, skipped, if_true, Option.bind_none, Option.getD_none]
            rw [newDials_of_requests (by rw [after]), List.append_nil, after, same]
            exact of_passed split paced le_rfl (skipped.imp_right .inl) backoff rfl
          · -- the clock is read here
            have call : state.backoffCall? (.attempt now sender) = some (.ready candidate.peer now) := by
              simp only [Maintained.backoffCall?, standing, List.map_cons, Candidate.asked, skipped,
                if_false]
            have reached : clock ≤ now := onTime _ call now rfl
            have same : state.advance (.attempt now sender) clock = now := by
              rw [Maintained.advance, call]
              rfl
            rw [same]
            rw [not_or] at skipped
            by_cases unready : state.backoff.ready candidate.peer now = false
            · have after : state.next (.attempt now sender) = { state with
                  task := .dialing inputs.connected (rest.map Candidate.asked)
                    (loopAfter inputs.connected tick.pruned turns).attempted } := by
                simp only [Maintained.next, Maintained.attempt, standing, List.map_cons,
                  Candidate.asked, unready, or_true, if_true]
              rw [newDials_of_requests (by rw [after]), List.append_nil, after]
              exact of_passed split paced reached (.inr (.inr (backoff ▸ unready))) backoff rfl
            · have after : state.next (.attempt now sender) = { state with
                  requests := state.requests ++ [.dial candidate.peer candidate.addrs sender]
                  task := .awaiting sender candidate.peer inputs.connected
                    (rest.map Candidate.asked)
                    (insert candidate.peer
                      (loopAfter inputs.connected tick.pruned turns).attempted) } := by
                simp only [Maintained.next, Maintained.attempt, standing, List.map_cons,
                  Candidate.asked, skipped.1, skipped.2, unready, Bool.true_eq_false, or_self,
                  if_false]
              have sent : state.newDials (.attempt now sender) = [candidate.asked] := by
                rw [Maintained.newDials, after, List.drop_left]
                rfl
              rw [sent, after]
              refine ⟨turns, candidate :: rest, split, backoff, .awaiting candidate rest sender now
                skipped.1 skipped.2 ?_ (paced.mono reached) le_rfl⟩
              rw [← backoff]
              exact Bool.not_eq_false _ ▸ unready

theorem settled (underway : Underway tick clock state dials) {sender : Sender} {peer : PeerId}
    {connected : Finset PeerId} {candidatesLeft : List (PeerId × List (Multiaddr PeerId))}
    {attempted : Finset PeerId}
    (awaiting : state.task = .awaiting sender peer connected candidatesLeft attempted)
    (result : DialResult) {now : Instant} (reached : clock ≤ now) {jitter : ℚ}
    (spread : Maintained.Jitter jitter) {after : Maintained PeerId}
    (ended : after = { state with
      backoff := DialLoop.settle state.backoff peer ⟨now, result, now, jitter⟩
      task := .dialing connected candidatesLeft attempted }) : Underway tick now after dials := by
  obtain ⟨turns, rest, split, backoff, stands⟩ := underway
  rw [awaiting] at stands
  cases stands with
  | awaiting candidate rest _ readyAt unconnected fresh ready paced past =>
      let moment : Moment := ⟨readyAt, result, now, jitter⟩
      have taken := DialLoop.turn_of_taken moment unconnected fresh ready
      have asked := DialLoop.asked_of_taken moment unconnected fresh ready
      have longer : Paced tick.startedAt now ((turns ++ [(candidate, moment)]).map Prod.snd) := by
        rw [List.map_append]
        exact paced.append moment le_rfl (past.trans reached) le_rfl spread
      refine ⟨turns ++ [(candidate, moment)], rest, ?_, ?_, ?_⟩
      · rw [List.map_append, List.append_assoc]
        exact split
      · rw [ended, taken, backoff]
        rfl
      · have stands : Stands tick.startedAt now inputs.connected tick.pruned
            (turns ++ [(candidate, moment)]) rest _ _ := .dialing rest longer
        rw [asked, taken] at stands
        rw [ended]
        exact stands

theorem exists_tick (underway : Underway tick clock state dials) :
    ∃ other : Tick inputs, other.startedAt = tick.startedAt ∧ other.backoff = tick.backoff ∧
      dials <+: other.finished.asked ∧
      (state.task = .sleeping → dials = other.finished.asked ∧
        state.backoff = other.finished.backoff) := by
  obtain ⟨turns, rest, split, backoff, stands⟩ := underway
  generalize standing : state.task = task at stands ⊢
  cases stands with
  | dialing rest paced =>
      obtain ⟨other, startedAt, before, sent, _⟩ := tick.exists_of_turns split paced
      exact ⟨other, startedAt, before, sent, fun asleep => nomatch asleep⟩
  | done paced =>
      obtain ⟨other, startedAt, before, _, ended⟩ := tick.exists_of_turns split paced
      refine ⟨other, startedAt, before, ?_, fun _ => ⟨?_, ?_⟩⟩
      · rw [ended rfl]
      · rw [ended rfl]
      · rw [ended rfl, backoff]
  | awaiting candidate rest _ readyAt unconnected fresh ready paced past =>
      -- what comes of the dial is open, so let it time out now
      let moment : Moment := ⟨readyAt, .timedOut, clock, 1⟩
      have longer : Paced tick.startedAt clock ((turns ++ [(candidate, moment)]).map Prod.snd) := by
        rw [List.map_append]
        exact paced.append moment le_rfl past le_rfl Paced.jitter_one
      have split : (turns ++ [(candidate, moment)]).map Prod.fst ++ rest = tick.candidates := by
        rw [List.map_append, List.append_assoc]
        exact split
      obtain ⟨other, startedAt, before, sent, _⟩ := tick.exists_of_turns split longer
      rw [DialLoop.asked_of_taken moment unconnected fresh ready] at sent
      exact ⟨other, startedAt, before, sent, fun asleep => nomatch asleep⟩

end Underway

/-! ## Passes -/

/-- How far the task has come in its pass. -/
inductive Stage (state : (Maintained PeerId × Instant) × Pass PeerId) : Prop where
  | idle (task : state.1.1.task = .sleeping) (inputs : state.2.inputs = none)
      (dials : state.2.dials = [])
  | asking (sender : Sender) (task : state.1.1.task = .asking sender)
      (inputs : state.2.inputs = none) (dials : state.2.dials = [])
      (backoff : state.1.1.backoff = state.2.before.prune state.2.startedAt)
      (past : state.2.startedAt ≤ state.1.2)
  | planned {inputs : TickInputs PeerId} (tick : Tick inputs)
      (recorded : state.2.inputs = some inputs) (startedAt : tick.startedAt = state.2.startedAt)
      (before : tick.backoff = state.2.before)
      (underway : Underway tick state.1.2 state.1.1 state.2.dials)

namespace Stage

variable {state : (Maintained PeerId × Instant) × Pass PeerId}

theorem of_same (stage : Stage state) {after : Maintained PeerId}
    (task : after.task = state.1.1.task) (backoff : after.backoff = state.1.1.backoff) :
    Stage ((after, state.1.2), state.2) := by
  cases stage with
  | idle sleeping inputs dials => exact .idle (task.trans sleeping) inputs dials
  | asking sender asking inputs dials pruned past =>
      exact .asking sender (task.trans asking) inputs dials (backoff.trans pruned) past
  | planned tick recorded startedAt before underway =>
      exact .planned tick recorded startedAt before (underway.of_same task backoff)

theorem plan (stage : Stage state) {nowUnix : Nat}
    {preferred : List (PeerId × List (Multiaddr PeerId))} {refill : List (PeerId × Multiaddr PeerId)}
    (enabled : state.1.1.Enabled (.plan nowUnix preferred refill)) :
    Stage ((state.1.1.next (.plan nowUnix preferred refill), state.1.2),
      Pass.record state.1 (.plan nowUnix preferred refill) state.2) := by
  obtain ⟨sender, snapshot, asking, reply, shuffled, drawn⟩ := enabled
  cases stage with
  | idle sleeping => cases sleeping.symm.trans asking
  | planned tick _ _ _ underway =>
      obtain ⟨_, _, _, _, stands⟩ := underway
      rw [asking] at stands
      cases stands
  | asking _ _ _ dials pruned past =>
      let inputs : TickInputs PeerId :=
        { bootstrapMultiaddrs := state.1.1.bootstrap.map fun configured =>
            configured.2 ++ [.p2p configured.1]
          lowWater := state.1.1.lowWater
          snapshot := snapshot
          peerstore := state.1.1.network.loop.peerstore
          nowUnix := nowUnix }
      have recorded : state.1.1.tickInputs? nowUnix = some inputs := by
        simp only [Maintained.tickInputs?, asking, reply]
        rfl
      let tick : Tick inputs :=
        { backoff := state.2.before
          startedAt := state.2.startedAt
          preferred := preferred
          preferred_shuffled := shuffled
          refill := refill
          refill_shuffled := drawn
          moments := Paced.fill state.1.2 []
          clock := (Paced.nil past).fill_clock
          jitter := (Paced.nil past).fill_jitter }
      have bootstrap : inputs.bootstrap = state.1.1.bootstrap := by
        have split (configured : PeerId × Multiaddr PeerId) :
            Maintenance.splitPeerMultiaddr (configured.2 ++ [.p2p configured.1]) =
              some configured := by
          simp [Maintenance.splitPeerMultiaddr]
        rw [TickInputs.bootstrap, List.filterMap_map]
        exact (List.filterMap_congr fun configured _ => split configured).trans List.filterMap_some
      have candidates : tick.candidates.map Candidate.asked =
          Maintenance.candidates state.1.1.bootstrap state.1.1.lowWater snapshot.connected preferred
            refill := by
        rw [← bootstrap]
        exact tick.candidates_eq
      have after : state.1.1.next (.plan nowUnix preferred refill) = { state.1.1 with
          task := .dialing snapshot.connected (tick.candidates.map Candidate.asked) ∅ } := by
        simp only [Maintained.next, asking, reply, candidates]
      refine .planned tick recorded rfl rfl ⟨[], tick.candidates, rfl, ?_, ?_⟩
      · rw [after]
        exact pruned
      · rw [after]
        simp only [Pass.record, dials]
        exact .dialing tick.candidates (Paced.nil past)

theorem settled (stage : Stage state) {sender : Sender} {peer : PeerId}
    (awaited : state.1.1.awaited = some (sender, peer)) (result : DialResult) {now : Instant}
    (reached : state.1.2 ≤ now) {jitter : ℚ} (spread : Maintained.Jitter jitter)
    {after : Maintained PeerId}
    (ended : ∀ connected candidates attempted,
      state.1.1.task = .awaiting sender peer connected candidates attempted →
      after = { state.1.1 with
        backoff := DialLoop.settle state.1.1.backoff peer ⟨now, result, now, jitter⟩
        task := .dialing connected candidates attempted }) :
    Stage ((after, now), state.2) := by
  obtain ⟨connected, candidates, attempted, task⟩ := Maintained.task_of_awaited awaited
  cases stage with
  | idle sleeping => cases sleeping.symm.trans task
  | asking _ asking => cases asking.symm.trans task
  | planned tick recorded startedAt before underway =>
      exact .planned tick recorded startedAt before
        (underway.settled task result reached spread (ended _ _ _ task))

theorem conclude (stage : Stage state) {now : Instant} {jitter : ℚ}
    (enabled : state.1.1.Enabled (.conclude now jitter))
    (onTime : Maintained.OnTime state.1 (.conclude now jitter)) :
    Stage ((state.1.1.next (.conclude now jitter), state.1.1.advance (.conclude now jitter) state.1.2),
      state.2) := by
  obtain ⟨spread, sender, peer, awaited, answered⟩ := enabled
  obtain ⟨answer, reply⟩ := Option.isSome_iff_exists.mp answered
  obtain ⟨_, _, _, task⟩ := Maintained.task_of_awaited awaited
  by_cases connected : answer = .ok
  · subst connected
    have same : state.1.1.advance (.conclude now jitter) state.1.2 = state.1.2 := by
      simp only [Maintained.advance, Maintained.backoffCall?, task, reply]
      rfl
    rw [same]
    refine stage.settled awaited .connected le_rfl spread fun _ _ _ awaiting => ?_
    simp only [Maintained.next, awaiting, reply]
    rfl
  · have call : state.1.1.backoffCall? (.conclude now jitter) =
        some (.recordFailure peer now jitter) := by
      cases answer with
      | ok => exact absurd rfl connected
      | _ => simp only [Maintained.backoffCall?, task, reply]
    have same : state.1.1.advance (.conclude now jitter) state.1.2 = now := by
      rw [Maintained.advance, call]
      rfl
    rw [same]
    refine stage.settled awaited .failed (onTime _ call now rfl) spread fun _ _ _ awaiting => ?_
    cases answer with
    | ok => exact absurd rfl connected
    | _ =>
        simp only [Maintained.next, awaiting, reply]
        rfl

theorem timeout (stage : Stage state) {now : Instant} {jitter : ℚ}
    (enabled : state.1.1.Enabled (.timeout now jitter))
    (onTime : Maintained.OnTime state.1 (.timeout now jitter)) :
    Stage ((state.1.1.next (.timeout now jitter), state.1.1.advance (.timeout now jitter) state.1.2),
      state.2) := by
  obtain ⟨spread, waits⟩ := enabled
  obtain ⟨⟨sender, peer⟩, awaited⟩ := Option.isSome_iff_exists.mp waits
  obtain ⟨_, _, _, task⟩ := Maintained.task_of_awaited awaited
  have call : state.1.1.backoffCall? (.timeout now jitter) =
      some (.recordFailure peer now jitter) := by
    simp only [Maintained.backoffCall?, task]
  have same : state.1.1.advance (.timeout now jitter) state.1.2 = now := by
    rw [Maintained.advance, call]
    rfl
  rw [same]
  refine stage.settled awaited .timedOut (onTime _ call now rfl) spread fun _ _ _ awaiting => ?_
  simp only [Maintained.next, awaiting]
  rfl

theorem next (stage : Stage state) {label : MaintenanceLabel PeerId}
    (enabled : state.1.1.Enabled label) (onTime : Maintained.OnTime state.1 label) :
    Stage ((state.1.1.next label, state.1.1.advance label state.1.2),
      Pass.record state.1 label state.2) := by
  cases label with
  | network label => exact stage.of_same rfl rfl
  | deliver view =>
      obtain ⟨command, first, _⟩ := enabled
      obtain ⟨rest, requests⟩ := List.head?_eq_some_iff.mp first
      have handled : state.1.1.next (.deliver view) = { state.1.1 with
          network := state.1.1.network.next (.command view command), requests := rest } := by
        simp only [Maintained.next, requests]
      exact stage.of_same (by rw [handled]) (by rw [handled])
  | tick now sender => exact .asking sender rfl rfl rfl rfl le_rfl
  | plan nowUnix preferred refill => exact stage.plan enabled
  | attempt now sender =>
      obtain ⟨_, _, _, dialing⟩ := enabled.1
      cases stage with
      | idle sleeping => cases sleeping.symm.trans dialing
      | asking _ asking => cases asking.symm.trans dialing
      | planned tick recorded startedAt before underway =>
          exact .planned tick recorded startedAt before (underway.attempt enabled onTime)
  | conclude now jitter => exact stage.conclude enabled onTime
  | timeout now jitter => exact stage.timeout enabled onTime

theorem of_reachable (reachable : (passSystem PeerId).Reachable state) : Stage state := by
  induction reachable with
  | initial first =>
      obtain ⟨⟨⟨_, _, _, _, started⟩, clock⟩, pass⟩ := first
      exact .idle (by rw [started]; rfl) (by rw [pass]) (by rw [pass])
  | next _ enabled ih => exact ih.next enabled.1 enabled.2

end Stage

/-- The pass is the tick, or the first part of one that is not over. -/
structure Follows (state : (Maintained PeerId × Instant) × Pass PeerId) {inputs : TickInputs PeerId}
    (tick : Tick inputs) : Prop where
  startedAt : tick.startedAt = state.2.startedAt
  before : tick.backoff = state.2.before
  sent : state.2.dials <+: tick.dials.map (·.candidate.asked)
  ended : state.1.1.task = .sleeping → state.2.dials = tick.dials.map (·.candidate.asked) ∧
    state.1.1.backoff = tick.finished.backoff

/--
Whatever happens in between, and however often, what the task has sent in its pass by now is what a
tick sends that finds the same backoff and the same inputs: nothing before it has planned, then the
first of the tick's dials, and all of them at the end, when the backoff is the tick's as well. So it
has dialed no peer twice, and none that was connected when it asked.
-/
theorem pass_is_tick {state : (Maintained PeerId × Instant) × Pass PeerId}
    (reachable : (passSystem PeerId).Reachable state) :
    (state.2.inputs = none → state.2.dials = []) ∧
    ∀ inputs, state.2.inputs = some inputs →
      (∃ tick : Tick inputs, Follows state tick) ∧ (state.2.dials.map Prod.fst).Nodup ∧
        ∀ dial ∈ state.2.dials, dial.1 ∉ inputs.connected := by
  cases Stage.of_reachable reachable with
  | idle _ nothing dials =>
      exact ⟨fun _ => dials, fun inputs planned => nomatch nothing.symm.trans planned⟩
  | asking _ _ nothing dials =>
      exact ⟨fun _ => dials, fun inputs planned => nomatch nothing.symm.trans planned⟩
  | planned tick recorded startedAt before underway =>
      refine ⟨fun nothing => (nomatch recorded.symm.trans nothing), fun inputs planned => ?_⟩
      cases Option.some.inj (recorded.symm.trans planned)
      obtain ⟨other, same, found, sent, ended⟩ := underway.exists_tick
      refine ⟨⟨other, same.trans startedAt, found.trans before, sent, ended⟩, ?_, fun dial made => ?_⟩
      · have peers := (sent.map Prod.fst).sublist
        rw [DialLoop.asked, List.map_map] at peers
        exact other.nodup_dials.sublist peers
      · obtain ⟨from_tick, there, rfl⟩ := List.mem_map.mp (sent.subset made)
        exact other.unconnected_of_dial there

namespace Sample

/-- The task has one bootstrap peer, dials it, and is answered. -/
def passed : (Maintained Peer × Instant) × Pass Peer :=
  (passSystem Peer).after
    ((.start (node 4 4 1) [addr 10 0 0 2 ++ [.p2p .bob]] 1, 0), ⟨0, .new backoffBase backoffCap, none, []⟩)
    [.tick 1 0, .deliver (view (.ok ())), .plan 0 [] [], .attempt 2 1, .deliver (view (.ok ())),
      .network (outbound .bob (addr 10 0 0 2) 0), .conclude 3 1, .attempt 4 2]

theorem passed_reachable : (passSystem Peer).Reachable passed := by
  refine (System.Reachable.initial ?_).after ?_
  · exact ⟨⟨⟨_, _, _, ⟨_, _, _, _, rfl⟩, rfl⟩, rfl⟩, rfl⟩
  · refine ⟨⟨⟨rfl, by decide, by decide⟩, ?_⟩, ⟨⟨_, rfl, by decide⟩, nofun⟩,
      ⟨⟨0, _, rfl, rfl, rfl, rfl⟩, nofun⟩, ⟨⟨⟨_, _, _, rfl⟩, by decide, by decide⟩, ?_⟩,
      ⟨⟨_, rfl, by decide⟩, nofun⟩, ⟨⟨by decide, nofun⟩, nofun⟩,
      ⟨⟨Paced.jitter_one, 1, .bob, rfl, rfl⟩, ?_⟩, ⟨⟨⟨_, _, _, rfl⟩, by decide, by decide⟩, nofun⟩,
      trivial⟩
    · rintro _ ⟨⟩ _ ⟨⟩
      decide +kernel
    · rintro _ ⟨⟩ _ ⟨⟩
      decide +kernel
    · rintro _ ⟨⟩ _ ⟨⟩

end Sample

section

open Sample

theorem pass_is_tick_passed : ∃ (inputs : TickInputs Peer) (tick : Tick inputs),
    passed.2.inputs = some inputs ∧
      tick.dials.map (·.candidate.asked) = [(.bob, [addr 10 0 0 2])] := by
  obtain ⟨inputs, planned⟩ : ∃ inputs, passed.2.inputs = some inputs := ⟨_, rfl⟩
  obtain ⟨⟨tick, follows⟩, _⟩ := (pass_is_tick passed_reachable).2 inputs planned
  exact ⟨inputs, tick, planned, (follows.ended rfl).1.symm⟩

end

end P2pService
