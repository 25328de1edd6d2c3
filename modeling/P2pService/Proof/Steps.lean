import P2pService.World.Network
import P2pService.Proof.Handlers

/-!
# What one step of the world can do

`World.step` lists what a step can do to the connection table and the protected set: a connection
is established, a connection is closed, a preferred set is installed, or nothing happens to them.
Every invariant about connections is proved from these cases.
-/

namespace P2pService
open Library

variable {PeerId : Type}

/-- The label establishes or closes no connection and installs no preferred set. -/
def Label.quiet : Label PeerId → Bool
  | .event _ (.connectionEstablished _ _ _) | .event _ (.connectionClosed _ _ _ _)
  | .command _ (.setPreferredPeers _ _) => false
  | _ => true

def Effect.closes : Effect PeerId → Bool
  | .disconnectPeerId _ | .closeConnection _ => true
  | _ => false

def Effect.rates : Effect PeerId → Bool
  | .setApplicationScore _ _ => true
  | _ => false

theorem closes_answerAll (senders : List Sender) (answer : Answer PeerId) :
    ∀ effect ∈ answerAll senders answer, effect.closes = false := by
  simp [answerAll, Effect.closes]

variable [DecidableEq PeerId]

theorem EventLoop.closes_handleCommand (loop : EventLoop PeerId) (view : SwarmView PeerId)
    (command : Command PeerId) :
    ∀ effect ∈ (loop.handleCommand view command).effects, effect.closes = false := by
  cases command with
  | dial peer addrs sender =>
      simp only [handleCommand, handleDial]
      split
      · simp
      · split <;> simp [Effect.closes]
  | setPreferredPeers peers sender =>
      intro effect member
      rw [handleCommand, handleSetPreferredPeers_effects, List.mem_append, List.mem_cons,
        List.mem_map, List.mem_singleton] at member
      rcases member with (rfl | ⟨_, _, rfl⟩) | rfl <;> rfl
  | _ => simp [handleCommand, Effect.closes]

theorem EventLoop.rates_handleCommand (loop : EventLoop PeerId) (view : SwarmView PeerId)
    (command : Command PeerId) (other : ∀ peers sender, command ≠ .setPreferredPeers peers sender) :
    ∀ effect ∈ (loop.handleCommand view command).effects, effect.rates = false := by
  cases command with
  | dial peer addrs sender =>
      simp only [handleCommand, handleDial]
      split
      · simp
      · split <;> simp [Effect.rates]
  | setPreferredPeers peers sender => exact absurd rfl (other peers sender)
  | _ => simp [handleCommand, Effect.rates]

theorem EventLoop.rates_enforceConnectionLimits (loop : EventLoop PeerId) (peer : PeerId)
    (id : ConnectionId) (addr : Multiaddr PeerId) :
    ∀ effect ∈ (loop.enforceConnectionLimits peer id addr).effects, effect.rates = false := by
  rw [enforceConnectionLimits_effects]
  split_ifs <;> simp [Effect.rates]

theorem EventLoop.answers_handleSetPreferredPeers (loop : EventLoop PeerId)
    (peers : List (PeerId × List (Multiaddr PeerId))) (sender : Sender) :
    (loop.handleSetPreferredPeers peers sender).effects.filterMap Effect.answer? =
      [(sender, .counts (loop.accepted peers).length.toUInt32
        (peers.length - loop.settings.protectedCap).toUInt32)] := by
  have silent : ((loop.accepted peers).map fun peer =>
      (.setApplicationScore {peer.1} preferredPeerAppScore : Effect PeerId)).filterMap
        Effect.answer? = [] := by
    simp [List.filterMap_map, Function.comp_def, Effect.answer?]
  simp only [handleSetPreferredPeers_effects, List.filterMap_append, List.filterMap_cons,
    Effect.answer?, silent, List.filterMap_nil, List.nil_append]

namespace Swarm

@[simp] theorem perform_connections (swarm : Swarm PeerId) (effect : Effect PeerId) :
    (swarm.perform effect).connections = swarm.connections := by
  unfold perform; split <;> rfl

@[simp] theorem perform_established (swarm : Swarm PeerId) (effect : Effect PeerId) :
    (swarm.perform effect).established = swarm.established := by
  unfold perform; split <;> rfl

theorem foldl_perform_of_same {α : Type} (field : Swarm PeerId → α) {effects : List (Effect PeerId)}
    (same : ∀ effect ∈ effects, ∀ swarm : Swarm PeerId, field (swarm.perform effect) = field swarm)
    (swarm : Swarm PeerId) : field (effects.foldl perform swarm) = field swarm := by
  induction effects generalizing swarm with
  | nil => rfl
  | cons effect effects ih =>
      rw [List.forall_mem_cons] at same
      rw [List.foldl_cons, ih same.2, same.1]

@[simp] theorem foldl_perform_connections (swarm : Swarm PeerId) (effects : List (Effect PeerId)) :
    (effects.foldl perform swarm).connections = swarm.connections :=
  foldl_perform_of_same (·.connections) (fun effect _ swarm => swarm.perform_connections effect) swarm

@[simp] theorem foldl_perform_established (swarm : Swarm PeerId) (effects : List (Effect PeerId)) :
    (effects.foldl perform swarm).established = swarm.established :=
  foldl_perform_of_same (·.established) (fun effect _ swarm => swarm.perform_established effect) swarm

@[simp] theorem foldl_perform_answerAll (swarm : Swarm PeerId) (senders : List Sender)
    (answer : Answer PeerId) : (answerAll senders answer).foldl perform swarm = swarm := by
  induction senders with
  | nil => rfl
  | cons sender senders ih => exact ih

theorem foldl_perform_answered (swarm : Swarm PeerId) (endpoint : Endpoint PeerId)
    (senders : List Sender) :
    (if endpoint.isDialer then answerAll senders .ok else []).foldl perform swarm = swarm := by
  split_ifs
  · exact foldl_perform_answerAll swarm senders .ok
  · rfl

theorem perform_closing (swarm : Swarm PeerId) {effect : Effect PeerId}
    (keeps : effect.closes = false) : (swarm.perform effect).closing = swarm.closing := by
  unfold perform
  split <;> first | rfl | simp [Effect.closes] at keeps

theorem foldl_perform_closing (swarm : Swarm PeerId) {effects : List (Effect PeerId)}
    (keeps : ∀ effect ∈ effects, effect.closes = false) :
    (effects.foldl perform swarm).closing = swarm.closing :=
  foldl_perform_of_same (·.closing)
    (fun effect member swarm => swarm.perform_closing (keeps effect member)) swarm

theorem perform_scores (swarm : Swarm PeerId) {effect : Effect PeerId}
    (keeps : effect.rates = false) : (swarm.perform effect).scores = swarm.scores := by
  unfold perform
  split <;> first | rfl | simp [Effect.rates] at keeps

theorem foldl_perform_scores (swarm : Swarm PeerId) {effects : List (Effect PeerId)}
    (keeps : ∀ effect ∈ effects, effect.rates = false) :
    (effects.foldl perform swarm).scores = swarm.scores :=
  foldl_perform_of_same (·.scores)
    (fun effect member swarm => swarm.perform_scores (keeps effect member)) swarm

theorem foldl_perform_granted {V : Type} (swarm : Swarm PeerId) (entries : List (PeerId × V))
    (score : Score) (q : PeerId) :
    ((entries.map fun entry => .setApplicationScore {entry.1} score).foldl perform swarm).scores q =
      if q ∈ entries.map Prod.fst then (swarm.scores q).map fun _ => score else swarm.scores q := by
  induction entries generalizing swarm with
  | nil => rfl
  | cons entry entries ih =>
      rw [List.map_cons, List.foldl_cons, ih]
      simp only [perform, List.map_cons, List.mem_cons, Finset.mem_singleton]
      by_cases later : q ∈ entries.map Prod.fst <;> by_cases now : q = entry.1 <;>
        simp [later, now, Option.map_map, Function.comp_def]

theorem report_other (swarm : Swarm PeerId) (event : SwarmEvent PeerId)
    (established : ∀ peer endpoint id, event ≠ .connectionEstablished peer endpoint id)
    (closed : ∀ peer endpoint id n, event ≠ .connectionClosed peer endpoint id n) :
    ∃ attempts, swarm.report event = { swarm with attempts := attempts } := by
  unfold report
  split
  · exact absurd rfl (established _ _ _)
  · exact absurd rfl (closed _ _ _ _)
  all_goals exact ⟨_, rfl⟩

theorem mem_peers {swarm : Swarm PeerId} {peer : PeerId} :
    peer ∈ swarm.peers ↔ ∃ connection ∈ swarm.connections, connection.peer = peer :=
  Finset.mem_image

end Swarm

namespace World

@[simp] theorem settle_connections (world : World PeerId) (turn : Turn PeerId) :
    (world.settle turn).swarm.connections = world.swarm.connections :=
  Swarm.foldl_perform_connections _ _

@[simp] theorem settle_established (world : World PeerId) (turn : Turn PeerId) :
    (world.settle turn).swarm.established = world.swarm.established :=
  Swarm.foldl_perform_established _ _

variable [TextCodec PeerId] [TextCodec (Multiaddr PeerId)]

/-- What is closed when a connection has been established: all connections of the peer, the new one
included, or the new one, or nothing. -/
def refused (world : World PeerId) (peer : PeerId) (endpoint : Endpoint PeerId) (id : ConnectionId) :
    Finset (Connection PeerId) :=
  let connections := insert ⟨id, peer, endpoint.getRemoteAddress⟩ world.swarm.connections
  if peer ∈ world.loop.protectedPeers then ∅
  else if world.loop.settings.highWater < (world.loop.tabled peer endpoint.getRemoteAddress).len then
    connections.filter (·.peer = peer)
  else if world.loop.subnetLimits.Full endpoint.getRemoteAddress then connections.filter (·.id = id)
  else ∅

structure SameSetup (before after : World PeerId) : Prop where
  settings : after.loop.settings = before.loop.settings
  bootstrapPeers : after.loop.bootstrapPeers = before.loop.bootstrapPeers

structure SamePreferred (before after : World PeerId) : Prop where
  protectedPeers : after.loop.protectedPeers = before.loop.protectedPeers
  dialHints : after.loop.dialHints = before.loop.dialHints

structure SameConnections (before after : World PeerId) : Prop where
  connected : after.loop.connected = before.loop.connected
  subnetLimits : after.loop.subnetLimits = before.loop.subnetLimits
  connectedPeers : after.loop.metrics.connectedPeers = before.loop.metrics.connectedPeers
  connections : after.swarm.connections = before.swarm.connections
  established : after.swarm.established = before.swarm.established
  closing : after.swarm.closing = before.swarm.closing

structure Established (before after : World PeerId) (peer : PeerId) (endpoint : Endpoint PeerId)
    (id : ConnectionId) : Prop extends SamePreferred before after where
  fresh : id ∉ before.swarm.established
  connected : after.loop.connected = before.loop.tabled peer endpoint.getRemoteAddress
  subnetLimits : after.loop.subnetLimits = (before.loop.subnetLimits.onConnection
    endpoint.getRemoteAddress (decide (peer ∈ before.loop.protectedPeers))).1
  connectedPeers :
    after.loop.metrics.connectedPeers = before.loop.metrics.connectedPeers + 1
  connections : after.swarm.connections = insert ⟨id, peer, endpoint.getRemoteAddress⟩ before.swarm.connections
  established : after.swarm.established = insert id before.swarm.established
  closing : after.swarm.closing = before.swarm.closing ∪ before.refused peer endpoint id
  scores : ∀ q, after.swarm.scores q =
    if q = peer then some
      (if before.loop.dialHints.containsKey peer ∨ peer ∈ before.loop.bootstrapPeers
        then preferredPeerAppScore else (before.swarm.scores q).getD 0)
    else before.swarm.scores q

structure Closed (before after : World PeerId) (peer : PeerId) (endpoint : Endpoint PeerId)
    (id : ConnectionId) (numEstablished : Nat) : Prop extends SamePreferred before after where
  opened : ⟨id, peer, endpoint.getRemoteAddress⟩ ∈ before.swarm.connections
  remaining : numEstablished + 1 = (before.swarm.connectionsOf peer).card
  connected : after.loop.connected =
    (before.loop.handleClosed peer endpoint numEstablished).connected
  subnetLimits :
    after.loop.subnetLimits = before.loop.subnetLimits.onDisconnection endpoint.getRemoteAddress
  connectedPeers :
    after.loop.metrics.connectedPeers = before.loop.metrics.connectedPeers - 1
  connections : after.swarm.connections = before.swarm.connections.erase ⟨id, peer, endpoint.getRemoteAddress⟩
  established : after.swarm.established = before.swarm.established
  closing : after.swarm.closing = before.swarm.closing
  scores : after.swarm.scores = before.swarm.scores

structure Installed (before after : World PeerId)
    (peers : List (PeerId × List (Multiaddr PeerId))) : Prop extends SameConnections before after where
  protectedPeers : after.loop.protectedPeers =
    (before.loop.protectedPeers \ before.loop.droppedSet peers) ∪ before.loop.acceptedSet peers
  dialHints : after.loop.dialHints = HashMap.insertAll ∅ (before.loop.accepted peers)
  scores : ∀ q, after.swarm.scores q =
    if q ∈ before.loop.acceptedSet peers then
      (before.swarm.scores q).map fun _ => preferredPeerAppScore
    else if q ∈ before.loop.droppedSet peers then (before.swarm.scores q).map fun _ => 0
    else before.swarm.scores q

structure Quiet (before after : World PeerId) : Prop
    extends SameConnections before after, SamePreferred before after where
  /-- A record is forgotten, or none is. -/
  scores : ∀ q, after.swarm.scores q = before.swarm.scores q ∨
    q ∉ before.swarm.peers ∧ after.swarm.scores q = none

/-! ## The cases -/

theorem next_established_closing (world : World PeerId) (now : Nat) (peer : PeerId)
    (endpoint : Endpoint PeerId) (id : ConnectionId) :
    (world.next (.event now (.connectionEstablished peer endpoint id))).swarm.closing =
      world.swarm.closing ∪ world.refused peer endpoint id := by
  simp only [next, settle, EventLoop.handleEvent, EventLoop.handleEstablished_effects,
    List.foldl_append, Swarm.foldl_perform_answered, EventLoop.enforceConnectionLimits_effects, refused]
  split_ifs <;> simp [Swarm.perform, Swarm.connectionsOf, Swarm.report]

theorem next_established_scores (world : World PeerId) (now : Nat) (peer : PeerId)
    (endpoint : Endpoint PeerId) (id : ConnectionId) (q : PeerId) :
    (world.next (.event now (.connectionEstablished peer endpoint id))).swarm.scores q =
      if q = peer then some
        (if world.loop.dialHints.containsKey peer ∨ peer ∈ world.loop.bootstrapPeers
          then preferredPeerAppScore else (world.swarm.scores q).getD 0)
      else world.swarm.scores q := by
  simp only [next, settle, EventLoop.handleEvent, EventLoop.handleEstablished_effects,
    List.foldl_append, Swarm.foldl_perform_answered,
    Swarm.foldl_perform_scores _ (EventLoop.rates_enforceConnectionLimits _ _ _ _)]
  by_cases same : q = peer
  · subst same
    rw [if_pos rfl]
    split_ifs <;> simp [Swarm.perform, Swarm.report]
  · split_ifs <;> simp [Swarm.perform, Swarm.report, same]

theorem next_established {world : World PeerId} {now : Nat} {peer : PeerId}
    {endpoint : Endpoint PeerId} {id : ConnectionId} (fresh : id ∉ world.swarm.established) :
    Established world (world.next (.event now (.connectionEstablished peer endpoint id)))
      peer endpoint id := by
  have loop_eq : (world.next (.event now (.connectionEstablished peer endpoint id))).loop =
      (world.loop.handleEstablished now peer endpoint id).loop := rfl
  rw [EventLoop.handleEstablished_loop] at loop_eq
  exact
    { fresh
      protectedPeers := by rw [loop_eq]
      dialHints := by rw [loop_eq]
      connected := by rw [loop_eq]
      subnetLimits := by rw [loop_eq]
      connectedPeers := by rw [loop_eq]
      connections := settle_connections _ _
      established := settle_established _ _
      closing := next_established_closing world now peer endpoint id
      scores := next_established_scores world now peer endpoint id }

theorem next_closed {world : World PeerId} {now : Nat} {peer : PeerId} {endpoint : Endpoint PeerId}
    {id : ConnectionId} {numEstablished : Nat}
    (opened : ⟨id, peer, endpoint.getRemoteAddress⟩ ∈ world.swarm.connections)
    (remaining : numEstablished + 1 = (world.swarm.connectionsOf peer).card) :
    Closed world (world.next (.event now (.connectionClosed peer endpoint id numEstablished)))
      peer endpoint id numEstablished :=
  { opened, remaining
    protectedPeers := rfl
    dialHints := rfl
    connected := rfl
    subnetLimits := rfl
    connectedPeers := rfl
    connections := rfl
    established := rfl
    closing := rfl
    scores := rfl }

theorem next_command (world : World PeerId) (view : SwarmView PeerId) (command : Command PeerId) :
    SameSetup world (world.next (.command view command)) ∧
      SameConnections world (world.next (.command view command)) := by
  obtain ⟨pendingDials, protectedPeers, dialHints, loop_eq⟩ :=
    world.loop.handleCommand_loop view command
  have after_eq : (world.next (.command view command)).loop =
      (world.loop.handleCommand view command).loop := rfl
  rw [loop_eq] at after_eq
  exact
    ⟨{ settings := by rw [after_eq]
       bootstrapPeers := by rw [after_eq] },
     { connected := by rw [after_eq]
       subnetLimits := by rw [after_eq]
       connectedPeers := by rw [after_eq]
       connections := settle_connections _ _
       established := settle_established _ _
       closing := Swarm.foldl_perform_closing _ (world.loop.closes_handleCommand view command) }⟩

theorem next_setPreferredPeers (world : World PeerId) (view : SwarmView PeerId)
    (peers : List (PeerId × List (Multiaddr PeerId))) (sender : Sender) :
    Installed world (world.next (.command view (.setPreferredPeers peers sender))) peers := by
  have loop_eq : (world.next (.command view (.setPreferredPeers peers sender))).loop =
      (world.loop.handleSetPreferredPeers peers sender).loop := rfl
  rw [EventLoop.handleSetPreferredPeers_loop] at loop_eq
  exact
    { (world.next_command view (.setPreferredPeers peers sender)).2 with
      protectedPeers := by rw [loop_eq]
      dialHints := by rw [loop_eq]
      scores := fun q => by
        simp only [next, settle, EventLoop.handleCommand, EventLoop.handleSetPreferredPeers_effects,
          List.foldl_append, List.foldl_cons, List.foldl_nil, Swarm.foldl_perform_granted,
          Swarm.perform, EventLoop.acceptedSet, List.mem_toFinset]
        split_ifs <;> simp [Option.map_map, Function.comp_def] }

theorem next_other_command (world : World PeerId) (view : SwarmView PeerId)
    (command : Command PeerId) (other : ∀ peers sender, command ≠ .setPreferredPeers peers sender) :
    Quiet world (world.next (.command view command)) := by
  refine ⟨(world.next_command view command).2, ?_, fun q => .inl (congrFun
    (Swarm.foldl_perform_scores _ (world.loop.rates_handleCommand view command other)) q)⟩
  have after_eq : (world.next (.command view command)).loop =
      (world.loop.handleCommand view command).loop := rfl
  cases command with
  | dial peer addrs sender =>
      obtain ⟨pendingDials, loop_eq⟩ := world.loop.handleDial_loop view peer addrs sender
      rw [EventLoop.handleCommand, loop_eq] at after_eq
      exact ⟨by rw [after_eq], by rw [after_eq]⟩
  | setPreferredPeers peers sender => exact absurd rfl (other peers sender)
  | _ => exact ⟨rfl, rfl⟩

theorem next_other_event (world : World PeerId) (now : Nat) (event : SwarmEvent PeerId)
    (established : ∀ peer endpoint id, event ≠ .connectionEstablished peer endpoint id)
    (closed : ∀ peer endpoint id n, event ≠ .connectionClosed peer endpoint id n) :
    SameSetup world (world.next (.event now event)) ∧ Quiet world (world.next (.event now event)) := by
  obtain ⟨⟨subscriptions, pendingDials, received, peerstore, loop_eq⟩, senders, answer, effects_eq⟩ :=
    world.loop.handleEvent_other now event established closed
  obtain ⟨attempts, report_eq⟩ := world.swarm.report_other event established closed
  have after_loop : (world.next (.event now event)).loop = (world.loop.handleEvent now event).loop :=
    rfl
  have after_swarm : (world.next (.event now event)).swarm =
      { world.swarm with attempts := attempts } := by
    simp only [next, settle, effects_eq, report_eq, Swarm.foldl_perform_answerAll]
  rw [loop_eq] at after_loop
  refine ⟨⟨by rw [after_loop], by rw [after_loop]⟩, ⟨⟨by rw [after_loop], by rw [after_loop],
    by rw [after_loop], by rw [after_swarm], by rw [after_swarm], by rw [after_swarm]⟩,
    ⟨by rw [after_loop], by rw [after_loop]⟩, fun q => .inl (by rw [after_swarm])⟩⟩

inductive Step (world : World PeerId) : Label PeerId → Prop where
  | established (now : Nat) (peer : PeerId) (endpoint : Endpoint PeerId) (id : ConnectionId) :
      Established world (world.next (.event now (.connectionEstablished peer endpoint id)))
        peer endpoint id →
      Step world (.event now (.connectionEstablished peer endpoint id))
  | closed (now : Nat) (peer : PeerId) (endpoint : Endpoint PeerId) (id : ConnectionId) (n : Nat) :
      Closed world (world.next (.event now (.connectionClosed peer endpoint id n)))
        peer endpoint id n →
      Step world (.event now (.connectionClosed peer endpoint id n))
  | installed (view : SwarmView PeerId) (peers : List (PeerId × List (Multiaddr PeerId)))
      (sender : Sender) :
      Installed world (world.next (.command view (.setPreferredPeers peers sender))) peers →
      Step world (.command view (.setPreferredPeers peers sender))
  | quiet (label : Label PeerId) :
      label.quiet → Quiet world (world.next label) → Step world label

theorem step {world : World PeerId} {label : Label PeerId} (matched : world.Matched label) :
    Step world label := by
  cases label with
  | event now event =>
      cases event with
      | connectionEstablished peer endpoint id =>
          exact .established now peer endpoint id (next_established matched)
      | connectionClosed peer endpoint id n =>
          exact .closed now peer endpoint id n (next_closed matched.1 matched.2)
      | _ =>
          refine .quiet _ (by rfl) ?_
          exact (world.next_other_event now _ (by simp) (by simp)).2
  | command view command =>
      cases command with
      | setPreferredPeers peers sender =>
          exact .installed view peers sender (world.next_setPreferredPeers view peers sender)
      | _ =>
          refine .quiet _ (by rfl) ?_
          exact world.next_other_command view _ (by simp)
  | behaviourDial peer =>
      exact .quiet _ rfl ⟨⟨rfl, rfl, rfl, rfl, rfl, rfl⟩, ⟨rfl, rfl⟩, fun _ => .inl rfl⟩
  | forgetScore peer =>
      refine .quiet _ rfl ⟨⟨rfl, rfl, rfl, rfl, rfl, rfl⟩, ⟨rfl, rfl⟩, fun q => ?_⟩
      by_cases same : q = peer
      · exact .inr ⟨same ▸ matched, if_pos same⟩
      · exact .inl (if_neg same)

theorem next_setup (world : World PeerId) (label : Label PeerId) :
    SameSetup world (world.next label) := by
  cases label with
  | event now event =>
      cases event with
      | connectionEstablished peer endpoint id =>
          have loop_eq : (world.next (.event now (.connectionEstablished peer endpoint id))).loop =
              (world.loop.handleEstablished now peer endpoint id).loop := rfl
          rw [EventLoop.handleEstablished_loop] at loop_eq
          exact ⟨by rw [loop_eq], by rw [loop_eq]⟩
      | connectionClosed => exact ⟨rfl, rfl⟩
      | _ => exact (world.next_other_event now _ (by simp) (by simp)).1
  | command view command => exact (world.next_command view command).1
  | _ => exact ⟨rfl, rfl⟩

end World
end P2pService
