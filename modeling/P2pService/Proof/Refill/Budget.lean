import P2pService.Proof.Backoff.Pruned
import P2pService.Proof.Refill.Openings
import P2pService.Proof.Tick.Slots

/-!
# The refill budget against the high watermark

The budget is two more than what is missing to the low watermark, so a refill stays under a high
watermark that is two above the low one. What can be dialed decides about the configurations between.
-/

namespace P2pService
open Library

variable {PeerId : Type}

def refillCandidate (pair : PeerId × Multiaddr PeerId) : Candidate PeerId :=
  ⟨.refill, pair.1, [pair.2]⟩

theorem map_eq_of_forall₂ {α β γ : Type} {R : α → β → Prop} {f : α → γ} {g : β → γ}
    (same : ∀ a b, R a b → f a = g b) {l : List α} {m : List β} (related : List.Forall₂ R l m) :
    l.map f = m.map g := by
  induction related with
  | nil => rfl
  | cons here _ ih => rw [List.map_cons, List.map_cons, same _ _ here, ih]

variable [DecidableEq PeerId] [TextCodec PeerId] [TextCodec (Multiaddr PeerId)]
  {inputs : TickInputs PeerId}

/-! ## What a refill run opens -/

namespace Tick

theorem candidates_of_onlyRefills (tick : Tick inputs) (only : inputs.OnlyRefills) :
    tick.candidates = (tick.refill.take inputs.refillBudget).map refillCandidate := by
  have preferred : tick.preferred = [] := by
    rw [← Multiset.coe_eq_zero, tick.preferred_shuffled, only.2]
  rw [candidates, only.1, preferredCandidates, preferred, List.take_nil]
  rfl

theorem exists_dialed (tick : Tick inputs) (only : inputs.OnlyRefills) :
    ∃ pairs : List (PeerId × Multiaddr PeerId),
      pairs.Sublist (tick.refill.take inputs.refillBudget) ∧
        tick.dials.map Dial.candidate = pairs.map refillCandidate := by
  have picked : (tick.dials.map fun dial => (dial.candidate, dial.moment)).Sublist tick.turns :=
    tick.ran.dials ▸ pick_sublist ∅ tick.turns
  have firsts := picked.map Prod.fst
  rw [List.map_map, show tick.turns.map Prod.fst = tick.candidates from tick.map_fst_timed 0 _,
    tick.candidates_of_onlyRefills only] at firsts
  exact List.sublist_map_iff.mp firsts

end Tick

theorem RefillRun.exists_refillable {world : World PeerId} {tick : Tick inputs}
    {labels : List (Label PeerId)} (run : RefillRun world tick labels) (only : inputs.OnlyRefills) :
    ∃ pairs : List (PeerId × Multiaddr PeerId), pairs.Nodup ∧
      Refillable world inputs pairs.toFinset ∧
      (Label.openings labels).map Prod.fst = pairs.map Prod.fst := by
  obtain ⟨pairs, listed, dialed⟩ := tick.exists_dialed only
  have opened := run.opened
  rw [dialed, List.forall₂_map_left_iff] at opened
  have peers : pairs.map Prod.fst = (Label.openings labels).map Prod.fst :=
    map_eq_of_forall₂ (fun _ _ opening => opening.1.symm) opened
  have subnets : pairs.map (fun pair => SubnetLimits.subnet pair.2) =
      (Label.openings labels).map fun opening => SubnetLimits.subnet opening.2.getRemoteAddress := by
    refine map_eq_of_forall₂ ?_ opened
    rintro _ _ ⟨_, _, addr, member, same⟩
    rw [same, List.mem_singleton.mp member]
  have distinct : (pairs.map Prod.fst).Nodup := by
    have nodup := tick.nodup_dials
    rw [show tick.dials.map (·.candidate.peer) = (tick.dials.map Dial.candidate).map Candidate.peer
      from List.map_map.symm, dialed, List.map_map] at nodup
    exact nodup
  refine ⟨pairs, distinct.of_map _, ⟨?_, ?_, ?_, ?_, ?_⟩, peers.symm⟩
  · intro pair member
    rw [← tick.refill_shuffled, Multiset.mem_coe]
    exact List.mem_of_mem_take (listed.mem (List.mem_toFinset.mp member))
  · rw [List.coe_toFinset]
    exact fun _ first _ second same => List.inj_on_of_nodup_map distinct first second same
  · rw [List.coe_toFinset]
    have apart := subnets ▸ run.apart
    exact fun _ first _ second same => List.inj_on_of_nodup_map apart first second same
  · intro pair member
    have there : SubnetLimits.subnet pair.2 ∈ pairs.map fun pair => SubnetLimits.subnet pair.2 :=
      List.mem_map_of_mem (List.mem_toFinset.mp member)
    rw [subnets] at there
    obtain ⟨opening, opening_mem, same⟩ := List.mem_map.mp there
    rw [← same]
    exact run.unused opening opening_mem
  · calc pairs.toFinset.card ≤ pairs.length := List.toFinset_card_le pairs
      _ ≤ (tick.refill.take inputs.refillBudget).length := listed.length_le
      _ ≤ inputs.refillBudget := List.length_take_le _ _

/-! ## A tick that dials what it is asked to -/

section

variable {chosen rest : List (PeerId × Multiaddr PeerId)}

def shunned (peers : List PeerId) : DialBackoff PeerId :=
  peers.foldl (fun backoff peer => backoff.recordFailure peer 0 1) (.new backoffBase backoffCap)

omit [TextCodec PeerId] [TextCodec (Multiaddr PeerId)] in
theorem shunned_append (peers : List PeerId) (peer : PeerId) :
    shunned (peers ++ [peer]) = (shunned peers).recordFailure peer 0 1 := List.foldl_append

omit [TextCodec PeerId] [TextCodec (Multiaddr PeerId)] in
theorem shunned_setup (peers : List PeerId) :
    (shunned peers).base = backoffBase ∧ (shunned peers).cap = backoffCap := by
  induction peers using List.reverseRecOn with
  | nil => exact ⟨rfl, rfl⟩
  | append_singleton peers peer ih =>
      rw [shunned_append]
      exact ih

omit [TextCodec PeerId] [TextCodec (Multiaddr PeerId)] in
theorem shunned_ready (peers : List PeerId) (peer : PeerId) :
    (shunned peers).ready peer 0 = decide (peer ∉ peers) := by
  induction peers using List.reverseRecOn with
  | nil => rfl
  | append_singleton peers other ih =>
      rw [shunned_append]
      by_cases same : peer = other
      · subst same
        obtain ⟨base, cap⟩ := shunned_setup peers
        have delayed := (shunned peers).capped_pos ((shunned peers).nextFailures peer)
          (by rw [base]; decide) (by rw [cap]; decide)
        rw [(shunned peers).not_ready_recordFailure peer 0 one_pos delayed]
        simp
      · rw [DialBackoff.ready_congr ((shunned peers).get_recordFailure_of_ne same 0 1), ih]
        simp [same]

def succeeding : Moment := ⟨0, .connected, 0, 1⟩

def succeedingTurn (pair : PeerId × Multiaddr PeerId) : Candidate PeerId × Moment :=
  (refillCandidate pair, succeeding)

/-- The chosen candidates are shuffled to the front, every dial succeeds at once, and no peer but
theirs is ready. -/
def chosenTick (shuffled : ((chosen ++ rest : List _) : Multiset _) = inputs.refill)
    (only : inputs.OnlyRefills) : Tick inputs where
  backoff := shunned ((rest.map Prod.fst).filter (· ∉ chosen.map Prod.fst))
  startedAt := 0
  preferred := []
  preferred_shuffled := only.2.symm
  refill := chosen ++ rest
  refill_shuffled := shuffled
  moments _ := succeeding
  clock _ := ⟨le_rfl, le_rfl, le_rfl⟩
  jitter _ := by
    unfold Maintained.Jitter succeeding
    norm_num

theorem due_chosenTick (shuffled : ((chosen ++ rest : List _) : Multiset _) = inputs.refill)
    (only : inputs.OnlyRefills) (pair : PeerId × Multiaddr PeerId) :
    DialLoop.due inputs.connected (chosenTick shuffled only).pruned (succeedingTurn pair) ↔
      pair.1 ∉ inputs.connected ∧
        ¬ (pair.1 ∈ rest.map Prod.fst ∧ pair.1 ∉ chosen.map Prod.fst) := by
  have due : DialLoop.due inputs.connected (chosenTick shuffled only).pruned (succeedingTurn pair) =
      (decide (pair.1 ∉ inputs.connected) &&
        decide (pair.1 ∉ (rest.map Prod.fst).filter (· ∉ chosen.map Prod.fst))) :=
    ((chosenTick shuffled only).due_eq 0 (refillCandidate pair)).trans
      (congrArg _ (shunned_ready _ pair.1))
  rw [due, Bool.and_eq_true, decide_eq_true_eq, decide_eq_true_eq, List.mem_filter,
    decide_eq_true_eq]

theorem turns_chosenTick (shuffled : ((chosen ++ rest : List _) : Multiset _) = inputs.refill)
    (only : inputs.OnlyRefills) (short : chosen.length ≤ inputs.refillBudget) :
    (chosenTick shuffled only).turns = chosen.map succeedingTurn ++
      (rest.take (inputs.refillBudget - chosen.length)).map succeedingTurn :=
  calc (chosenTick shuffled only).turns =
        ((chosenTick shuffled only).candidates.zipIdx.map Prod.fst).map
          fun candidate => (candidate, succeeding) := by
        rw [List.map_map]
        rfl
    _ = ((chosen ++ rest).take inputs.refillBudget).map succeedingTurn := by
        rw [List.zipIdx_map_fst, (chosenTick shuffled only).candidates_of_onlyRefills only,
          List.map_map]
        rfl
    _ = _ := by rw [List.take_append, List.take_of_length_le short, List.map_append]

theorem dials_chosenTick (shuffled : ((chosen ++ rest : List _) : Multiset _) = inputs.refill)
    (only : inputs.OnlyRefills) (unconnected : ∀ pair ∈ chosen, pair.1 ∉ inputs.connected)
    (distinct : (chosen.map Prod.fst).Nodup) (short : chosen.length ≤ inputs.refillBudget) :
    (chosenTick shuffled only).dials.map (fun dial => (dial.candidate, dial.moment)) =
      chosen.map succeedingTurn := by
  have ready (pair : PeerId × Multiaddr PeerId) (member : pair ∈ chosen) :
      DialLoop.due inputs.connected (chosenTick shuffled only).pruned (succeedingTurn pair) :=
    (due_chosenTick shuffled only pair).mpr ⟨unconnected pair member,
      fun shunned => shunned.2 (List.mem_map_of_mem member)⟩
  refine (chosenTick shuffled only).ran.dials.trans ?_
  rw [turns_chosenTick shuffled only short, pick_append, pick_eq_self, pick_eq_nil, List.append_nil]
  · intro turn listed
    obtain ⟨pair, member, rfl⟩ := List.mem_map.mp listed
    rintro ⟨due, fresh⟩
    -- a peer of the rest is one of the chosen or has just failed
    by_cases again : pair.1 ∈ chosen.map Prod.fst
    · obtain ⟨first, first_mem, same⟩ := List.mem_map.mp again
      exact fresh (Finset.mem_union_right _ (mem_okKeys.mpr
        ⟨_, List.mem_map_of_mem first_mem, ready first first_mem, same⟩))
    · exact ((due_chosenTick shuffled only pair).mp due).2
        ⟨List.mem_map_of_mem (List.mem_of_mem_take member), again⟩
  · intro turn listed
    obtain ⟨pair, member, rfl⟩ := List.mem_map.mp listed
    exact ready pair member
  · rw [List.map_map]
    exact distinct
  · exact fun _ _ => Finset.notMem_empty _

end

/-! ## A run that opens what it is asked to -/

omit [DecidableEq PeerId] [TextCodec PeerId] [TextCodec (Multiaddr PeerId)] in
def establishAll : ConnectionId → List (PeerId × Multiaddr PeerId) → List (Label PeerId)
  | _, [] => []
  | id, pair :: pairs =>
      .event 0 (.connectionEstablished pair.1 (.dialer pair.2) id) :: establishAll (id + 1) pairs

section

variable (id : ConnectionId) (pairs : List (PeerId × Multiaddr PeerId))

omit [DecidableEq PeerId] [TextCodec PeerId] [TextCodec (Multiaddr PeerId)] in
theorem openings_establishAll : Label.openings (establishAll id pairs) =
    pairs.map fun pair => (pair.1, .dialer pair.2) := by
  induction pairs generalizing id with
  | nil => rfl
  | cons pair pairs ih => exact congrArg _ (ih (id + 1))

omit [DecidableEq PeerId] [TextCodec PeerId] [TextCodec (Multiaddr PeerId)] in
theorem steady_establishAll : ∀ label ∈ establishAll id pairs, label.steady := by
  induction pairs generalizing id with
  | nil => exact fun _ member => nomatch member
  | cons pair pairs ih => exact List.forall_mem_cons.mpr ⟨rfl, ih (id + 1)⟩

theorem legal_establishAll {world : World PeerId}
    (unused : ∀ used ∈ world.swarm.established, used < id) :
    (networkSystem PeerId).Legal world (establishAll id pairs) := by
  induction pairs generalizing id world with
  | nil => trivial
  | cons pair pairs ih =>
      have fresh : id ∉ world.swarm.established := fun used => lt_irrefl id (unused id used)
      have step : World.Established world
          (world.next (.event 0 (.connectionEstablished pair.1 (.dialer pair.2) id)))
          pair.1 (.dialer pair.2) id := World.next_established fresh
      refine ⟨fresh, ih (id + 1) fun used member => ?_⟩
      rcases Finset.mem_insert.mp (step.established ▸ member) with rfl | old
      · exact Nat.lt_succ_self _
      · exact Nat.lt_succ_of_lt (unused used old)

end

theorem RefillRun.of_succeeding {world : World PeerId} {tick : Tick inputs}
    {pairs : List (PeerId × Multiaddr PeerId)}
    (dials : tick.dials.map (fun dial => (dial.candidate, dial.moment)) = pairs.map succeedingTurn)
    {labels : List (Label PeerId)} (legal : (networkSystem PeerId).Legal world labels)
    (steady : ∀ label ∈ labels, label.steady)
    (openings : Label.openings labels = pairs.map fun pair => (pair.1, .dialer pair.2))
    (apart : (pairs.map fun pair => SubnetLimits.subnet pair.2).Nodup)
    (unused : ∀ pair ∈ pairs, ∃ s, SubnetLimits.subnet pair.2 = some s ∧
      world.swarm.inSubnet s = ∅) : RefillRun world tick labels := by
  have candidates := congrArg (List.map Prod.fst) dials
  rw [List.map_map, List.map_map] at candidates
  refine ⟨legal, steady, fun dial made => ?_, ?_, ?_, ?_⟩
  · have picked := List.mem_map_of_mem (f := fun dial => (dial.candidate, dial.moment)) made
    rw [dials] at picked
    obtain ⟨pair, _, same⟩ := List.mem_map.mp picked
    rw [← (Prod.mk.inj same).2]
    rfl
  · rw [openings, show tick.dials.map Dial.candidate = pairs.map refillCandidate from candidates,
      List.forall₂_map_left_iff, List.forall₂_map_right_iff, List.forall₂_same]
    exact fun pair _ => ⟨rfl, rfl, pair.2, List.mem_singleton_self _, rfl⟩
  · rw [openings, List.map_map]
    exact apart
  · rw [openings, List.forall_mem_map]
    exact unused

theorem exists_refillRun {world : World PeerId} (only : inputs.OnlyRefills)
    {pairs : List (PeerId × Multiaddr PeerId)} (nodup : pairs.Nodup)
    (refillable : Refillable world inputs pairs.toFinset) :
    ∃ (tick : Tick inputs) (labels : List (Label PeerId)), RefillRun world tick labels ∧
      (Label.openings labels).map Prod.fst = pairs.map Prod.fst := by
  have listed (pair : PeerId × Multiaddr PeerId) (member : pair ∈ pairs) :
      pair ∈ (pairs.toFinset : Set (PeerId × Multiaddr PeerId)) := List.mem_toFinset.mpr member
  let part : Multiset (PeerId × Multiaddr PeerId) := pairs
  have stored : part ≤ inputs.refill :=
    (Multiset.le_iff_subset (Multiset.coe_nodup.mpr nodup)).mpr
      fun pair member => refillable.stored pair (listed pair member)
  obtain ⟨rest, rest_eq⟩ := Quot.exists_rep (inputs.refill - part)
  have shuffled : ((pairs ++ rest : List _) : Multiset _) = inputs.refill := by
    rw [← Multiset.coe_add, show (rest : Multiset _) = inputs.refill - part from rest_eq]
    exact add_tsub_cancel_of_le stored
  have dials := dials_chosenTick shuffled only
    (fun pair member => (TickInputs.mem_refill.mp (refillable.stored pair (listed pair member))).1)
    (nodup.map_on fun first one second two same =>
      refillable.peers (listed first one) (listed second two) same)
    (List.toFinset_card_of_nodup nodup ▸ refillable.budget)
  obtain ⟨id, unused⟩ := world.swarm.established.exists_nat_subset_range
  have openings := openings_establishAll id pairs
  have legal := legal_establishAll id pairs fun used member => Finset.mem_range.mp (unused member)
  refine ⟨chosenTick shuffled only, establishAll id pairs,
    .of_succeeding dials legal (steady_establishAll id pairs) openings ?_ ?_, ?_⟩
  · exact nodup.map_on fun first one second two same =>
      refillable.apart (listed first one) (listed second two) same
  · exact fun pair member => refillable.unused pair (listed pair member)
  · rw [openings, List.map_map]
    rfl

/-! ## The watermark -/

theorem Refillable.connected_add_card_le {config : P2PConfig PeerId} {snapshot : NetworkSnapshot PeerId}
    {peerstore : PeerStore} {nowUnix : Nat} {world : World PeerId}
    {pairs : Finset (PeerId × Multiaddr PeerId)}
    (refillable : Refillable world (config.tickInputs snapshot peerstore nowUnix) pairs)
    (some : pairs.Nonempty) : snapshot.connected.card + pairs.card ≤ config.lowWater + 2 := by
  obtain ⟨pair, member⟩ := some
  obtain ⟨_, low, _⟩ := TickInputs.mem_refill.mp (refillable.stored pair member)
  have short : pairs.card ≤ config.lowWater - snapshot.connected.card + 2 := refillable.budget
  have low : snapshot.connected.card < config.lowWater := low
  omega

theorem exists_last {α : Type} [DecidableEq α] {s : Finset α} {last : α} (member : last ∈ s) :
    ∃ before : List α, (before ++ [last]).Nodup ∧ (before ++ [last]).toFinset = s := by
  refine ⟨(s.erase last).toList, List.nodup_append.mpr ⟨Finset.nodup_toList _,
    List.nodup_singleton _, ?_⟩, ?_⟩
  · intro other before _ same
    rw [List.mem_singleton.mp same]
    exact (Finset.mem_erase.mp (Finset.mem_toList.mp before)).1
  · rw [List.toFinset_append, Finset.toList_toFinset, List.toFinset_cons, List.toFinset_nil,
      insert_empty_eq, Finset.union_comm, ← Finset.insert_eq, Finset.insert_erase member]

section

variable {world : World PeerId} (tabled : Tabled world)
  (snapshot : inputs.connected = world.swarm.peers) (only : inputs.OnlyRefills)

include tabled snapshot only

theorem room_of_spared (spared : ∀ (tick : Tick inputs) (labels : List (Label PeerId)),
      RefillRun world tick labels → (networkSystem PeerId).EachStep World.Spares world labels)
    {pairs : Finset (PeerId × Multiaddr PeerId)} (refillable : Refillable world inputs pairs)
    {last : PeerId × Multiaddr PeerId} (member : last ∈ pairs)
    (unprotected : last.1 ∉ world.loop.protectedPeers) :
    inputs.connected.card + pairs.card ≤ world.loop.settings.highWater := by
  -- the unprotected candidate is dialed last, when all the others are connected
  obtain ⟨before, nodup, rfl⟩ := exists_last member
  obtain ⟨tick, labels, run, peers⟩ := exists_refillRun only nodup refillable
  have fits := (tabled.spares_run_iff run.legal run.steady).mp (spared tick labels run)
  have distinct : ((before ++ [last]).map Prod.fst).Nodup :=
    nodup.map_on fun first one second two same =>
      refillable.peers (List.mem_toFinset.mpr one) (List.mem_toFinset.mpr two) same
  have new : ∀ peer ∈ (before ++ [last]).map Prod.fst, peer ∉ inputs.connected := by
    rw [List.forall_mem_map]
    exact fun pair listed =>
      (TickInputs.mem_refill.mp (refillable.stored pair (List.mem_toFinset.mpr listed))).1
  rw [peers, ← snapshot, List.map_append] at fits
  rw [List.map_append] at distinct new
  have room := fits.card_le_of_last distinct new unprotected
  rw [List.toFinset_card_of_nodup nodup, List.length_append]
  rw [List.length_map] at room
  exact room

theorem spared_of_room (room : ∀ pairs, Refillable world inputs pairs →
      (∃ pair ∈ pairs, pair.1 ∉ world.loop.protectedPeers) →
        inputs.connected.card + pairs.card ≤ world.loop.settings.highWater)
    {tick : Tick inputs} {labels : List (Label PeerId)} (run : RefillRun world tick labels) :
    (networkSystem PeerId).EachStep World.Spares world labels := by
  obtain ⟨pairs, nodup, refillable, peers⟩ := run.exists_refillable only
  rw [tabled.spares_run_iff run.legal run.steady, peers, ← snapshot]
  by_cases exposed : ∃ pair ∈ pairs.toFinset, pair.1 ∉ world.loop.protectedPeers
  · have fits := room _ refillable exposed
    rw [List.toFinset_card_of_nodup nodup, ← List.length_map Prod.fst] at fits
    exact Fits.of_card_add_length_le fits
  · refine Fits.of_protected fun peer listed => ?_
    obtain ⟨pair, member, rfl⟩ := List.mem_map.mp listed
    by_contra unprotected
    exact exposed ⟨pair, List.mem_toFinset.mpr member, unprotected⟩

end

/--
For a configuration that is accepted, no tick that only refills has a peer it dialed disconnected
for the high watermark exactly when that is neither the low watermark nor one above it, or the
stored candidates do not make enough peers to exceed it.
-/
theorem refill_spared_iff [ToString F32] {config : P2PConfig PeerId}
    (valid : config.validateConfig = .ok ()) {world : World PeerId}
    (reachable : (networkSystem PeerId).Reachable world) (configured : config.Configures world.loop)
    {peerstore : PeerStore} {nowUnix : Nat}
    (reads : inputs = config.tickInputs world.loop.networkSnapshot peerstore nowUnix)
    (only : inputs.OnlyRefills) :
    (∀ (tick : Tick inputs) (labels : List (Label PeerId)), RefillRun world tick labels →
        (networkSystem PeerId).EachStep World.Spares world labels) ↔
      (config.highWater ≠ config.lowWater ∧ config.highWater ≠ config.lowWater + 1) ∨
        ∀ pairs, Refillable world inputs pairs →
          (∃ pair ∈ pairs, pair.1 ∉ world.loop.protectedPeers) →
            inputs.connected.card + pairs.card ≤ config.highWater := by
  subst reads
  have tabled := tabled_of_reachable reachable
  have snapshot : (config.tickInputs world.loop.networkSnapshot peerstore nowUnix).connected =
    world.swarm.peers := tabled.keys
  have highWater : world.loop.settings.highWater = config.highWater := by
    obtain ⟨_, settings⟩ := configured.settings
    rw [settings]
    rfl
  rw [← highWater]
  constructor
  · intro spared
    refine .inr fun pairs refillable ⟨last, member, unprotected⟩ => ?_
    exact room_of_spared tabled snapshot only spared refillable member unprotected
  · intro condition tick labels run
    refine spared_of_room tabled snapshot only (fun pairs refillable exposed => ?_) run
    rcases condition with apart | room
    · have accepted := (config.validateConfig_eq_ok_iff.mp valid).1
      obtain ⟨pair, member, _⟩ := exposed
      have bound := refillable.connected_add_card_le ⟨pair, member⟩
      rw [← highWater] at accepted
      exact bound.trans (by omega)
    · exact room pairs refillable exposed

namespace Sample.Apart

/-- Reads back the addresses `10.0.0.1` and `10.0.1.1`, and no others. -/
scoped instance : TextCodec (Multiaddr Peer) where
  toStr address := String.join (address.map componentText)
  fromStr text :=
    if text = "/ip4/10.0.0.1/tcp/4025" then some (addr 10 0 0 1)
    else if text = "/ip4/10.0.1.1/tcp/4025" then some (addr 10 0 1 1)
    else none

scoped instance : ToString F32 where
  toString value := if value = .finite (1 / 2) then "0.5" else ""

def config (highWater : Nat) : P2PConfig Peer :=
  { P2PConfig.default [] with lowWater := 1, highWater := highWater }

def stored : PeerStore :=
  (PeerStore.default.record Peer.alice [addr 10 0 0 1] 0).record Peer.bob [addr 10 0 1 1] 0

def world (highWater : Nat) : World Peer :=
  .start (.new 1024) stored ((config highWater).networkSettings (highWater / 2))
    (config highWater).bootstrapPeerIds

theorem world_reachable (highWater : Nat) : (networkSystem Peer).Reachable (world highWater) :=
  .initial ⟨_, _, _, _, rfl⟩

theorem config_configures (highWater : Nat) :
    (config highWater).Configures (world highWater).loop := ⟨⟨_, rfl⟩, rfl⟩

def refillInputs : TickInputs Peer := (config 1).tickInputs (world 1).loop.networkSnapshot stored 0

theorem refillInputs_only : refillInputs.OnlyRefills := ⟨rfl, rfl⟩

def both : List (Peer × Multiaddr Peer) := [(.alice, addr 10 0 0 1), (.bob, addr 10 0 1 1)]

theorem both_shuffled : ((both ++ [] : List _) : Multiset _) = refillInputs.refill := by
  decide +kernel

def tick : Tick refillInputs := chosenTick both_shuffled refillInputs_only

def dialing (pair : Peer × Multiaddr Peer) (sender : Sender) : Label Peer :=
  .command (view (.ok ())) (.dial pair.1 [pair.2] sender)

def bothDialed : List (Label Peer) :=
  [dialing (.alice, addr 10 0 0 1) 0, outbound .alice (addr 10 0 0 1) 0,
    dialing (.bob, addr 10 0 1 1) 1, outbound .bob (addr 10 0 1 1) 1]

theorem bothDialed_run (highWater : Nat)
    (legal : (networkSystem Peer).Legal (world highWater) bothDialed) :
    RefillRun (world highWater) tick bothDialed := by
  have dials := dials_chosenTick both_shuffled refillInputs_only (by decide) (by decide) (by decide)
  refine .of_succeeding dials legal (by decide) rfl (by decide) ?_
  intro pair member
  rcases List.mem_pair.mp member with rfl | rfl
  · exact ⟨(10, 0, 0), rfl, rfl⟩
  · exact ⟨(10, 0, 1), rfl, rfl⟩

end Sample.Apart

section

open Sample Sample.Apart

theorem refill_spared_roomy :
    (networkSystem Peer).EachStep World.Spares (world 3) bothDialed := by
  have accepted : (config 3).validateConfig = .ok () := by decide +kernel
  have spared := (refill_spared_iff accepted (world_reachable 3) (config_configures 3) rfl
    refillInputs_only).mpr (.inl ⟨by decide, by decide⟩)
  exact spared tick bothDialed (bothDialed_run 3 (by decide))

/-- One peer is missing to the low watermark, three may be dialed, and the second is disconnected. -/
theorem refill_overshoots : ¬ ∀ (config : P2PConfig Peer) (world : World Peer)
    (peerstore : PeerStore) (nowUnix : Nat) (inputs : TickInputs Peer),
    config.validateConfig = .ok () → (networkSystem Peer).Reachable world →
    config.Configures world.loop →
    inputs = config.tickInputs world.loop.networkSnapshot peerstore nowUnix → inputs.OnlyRefills →
    ∀ (tick : Tick inputs) (labels : List (Label Peer)), RefillRun world tick labels →
      (networkSystem Peer).EachStep World.Spares world labels := by
  intro spares
  have legal : (networkSystem Peer).Legal (world 1) bothDialed := by decide
  have run := bothDialed_run 1 legal
  have accepted : (config 1).validateConfig = .ok () := by decide +kernel
  have spared := spares (config 1) (world 1) stored 0 refillInputs accepted (world_reachable 1)
    (config_configures 1) rfl refillInputs_only tick bothDialed run
  have fits := ((tabled_of_reachable (world_reachable 1)).spares_run_iff legal run.steady).mp spared
  exact absurd fits.2.1 (by decide)

end

end P2pService
