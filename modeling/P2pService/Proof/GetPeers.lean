import P2pService.Proof.Limits.Table
import P2pService.Proof.Protection

/-!
# What `GetPeers` lists

The answer has an entry for each peer that is connected. The addresses of an entry are kept up from
the events: an address is added for each connection, and a close drops every address equal to that
of the connection. The flag of an entry is protection, which a bootstrap peer has too.
-/

namespace P2pService
open Library

variable {PeerId : Type} [DecidableEq PeerId]

theorem filter_ne_eq_erase_iff {α : Type} [DecidableEq α] (s : Multiset α) (a : α) :
    s.filter (· ≠ a) = s.erase a ↔ s.count a ≤ 1 := by
  constructor
  · intro same
    have counts := congrArg (Multiset.count a) same
    rw [Multiset.count_filter_of_neg (by simp), Multiset.count_erase_self] at counts
    omega
  · intro once
    ext b
    by_cases same : b = a
    · subst same
      rw [Multiset.count_filter_of_neg (by simp), Multiset.count_erase_self]
      omega
    · rw [Multiset.count_filter, if_pos same, Multiset.count_erase_of_ne same]

/-! ## Addresses -/

namespace Swarm

def addressesOf (swarm : Swarm PeerId) (peer : PeerId) : Multiset (Multiaddr PeerId) :=
  (swarm.connectionsOf peer).val.map (·.remoteAddr)

theorem addressesOf_eq_zero {swarm : Swarm PeerId} {peer : PeerId} :
    swarm.addressesOf peer = 0 ↔ peer ∉ swarm.peers := by
  rw [addressesOf, Multiset.map_eq_zero, Finset.val_eq_zero, connectionsOf,
    Finset.filter_eq_empty_iff, mem_peers]
  push Not
  rfl

end Swarm

def EventLoop.addresses (loop : EventLoop PeerId) (peer : PeerId) : Multiset (Multiaddr PeerId) :=
  (loop.connected.get peer).getD []

/-- The addresses that are kept and listed for a peer are those of its open connections, so there
is one when the peer is connected. -/
structure AddressesExact (world : World PeerId) : Prop where
  kept : ∀ peer, world.loop.addresses peer = world.swarm.addressesOf peer
  listed : ∀ view, ∀ entry ∈ world.loop.getPeers view,
    (entry.multiaddrs : Multiset (Multiaddr PeerId)) = world.swarm.addressesOf entry.peerId
  nonempty : ∀ peer ∈ world.swarm.peers, ∃ addrs, world.loop.connected.get peer = some addrs ∧ addrs ≠ []

/-- No connection is closed while its peer has another one with the same remote address. -/
def SoleAddress (world : World PeerId) : Label PeerId → Prop
  | .event _ (.connectionClosed peer endpoint id _) =>
      ∀ connection ∈ world.swarm.connectionsOf peer,
        connection.remoteAddr = endpoint.getRemoteAddress → connection.id = id
  | _ => True

instance (world : World PeerId) : (label : Label PeerId) → Decidable (SoleAddress world label)
  | .event _ (.connectionClosed _ _ _ _) => inferInstanceAs (Decidable (∀ _ ∈ _, _ → _))
  | .event _ (.connectionEstablished _ _ _) | .event _ (.gossipsubMessage _)
  | .event _ (.identifyReceived _ _) | .event _ (.outgoingConnectionError _ _) | .event _ .other
  | .command _ _ | .behaviourDial _ | .forgetScore _ => isTrue trivial

theorem EventLoop.get_of_mem_getPeers {loop : EventLoop PeerId} {view : SwarmView PeerId}
    {entry : PeerSnapshot PeerId} (member : entry ∈ loop.getPeers view) :
    loop.connected.get entry.peerId = some entry.multiaddrs := by
  obtain ⟨⟨peer, addrs⟩, present, rfl⟩ := Multiset.mem_map.mp member
  exact HashMap.mem_iter.mp present

theorem AddressesExact.iff_kept {world : World PeerId} :
    AddressesExact world ↔ ∀ peer, world.loop.addresses peer = world.swarm.addressesOf peer := by
  refine ⟨AddressesExact.kept, fun kept => ⟨kept, fun view entry member => ?_, fun peer connected => ?_⟩⟩
  · rw [← kept, EventLoop.addresses, EventLoop.get_of_mem_getPeers member, Option.getD_some]
  · have some_open := mt Swarm.addressesOf_eq_zero.mp (not_not.mpr connected)
    rw [← kept, EventLoop.addresses] at some_open
    cases present : world.loop.connected.get peer with
    | none => rw [present] at some_open; exact absurd rfl some_open
    | some addrs =>
        rw [present] at some_open
        exact ⟨addrs, rfl, fun none_left => some_open (by rw [none_left]; rfl)⟩

section Steps

variable {before after : World PeerId}

theorem World.Established.addressesOf {peer : PeerId} {endpoint : Endpoint PeerId} {id : ConnectionId}
    (step : World.Established before after peer endpoint id) (tabled : Tabled before) (q : PeerId) :
    after.swarm.addressesOf q =
      if q = peer then endpoint.getRemoteAddress ::ₘ before.swarm.addressesOf q
      else before.swarm.addressesOf q := by
  have fresh := tabled.notMem_of_fresh step.fresh peer endpoint.getRemoteAddress
  unfold Swarm.addressesOf Swarm.connectionsOf
  rw [step.connections, Finset.filter_insert]
  by_cases same : q = peer
  · have joins : (⟨id, peer, endpoint.getRemoteAddress⟩ : Connection PeerId) ∉
        before.swarm.connections.filter (·.peer = q) := fun member => fresh (Finset.mem_of_mem_filter _ member)
    rw [if_pos same.symm, if_pos same, Finset.insert_val_of_notMem joins, Multiset.map_cons]
  · rw [if_neg (Ne.symm same), if_neg same]

theorem World.Established.addresses {peer : PeerId} {endpoint : Endpoint PeerId} {id : ConnectionId}
    (step : World.Established before after peer endpoint id) (q : PeerId) :
    after.loop.addresses q =
      if q = peer then endpoint.getRemoteAddress ::ₘ before.loop.addresses q
      else before.loop.addresses q := by
  rw [EventLoop.addresses, step.connected, EventLoop.tabled, HashMap.get_insert]
  split_ifs with same
  · rw [Option.getD_some, same, ← Multiset.coe_add, add_comm]
    rfl
  · rfl

theorem World.Closed.addressesOf {peer : PeerId} {endpoint : Endpoint PeerId} {id : ConnectionId}
    {n : Nat} (step : World.Closed before after peer endpoint id n) (q : PeerId) :
    after.swarm.addressesOf q =
      if q = peer then (before.swarm.addressesOf q).erase endpoint.getRemoteAddress
      else before.swarm.addressesOf q := by
  unfold Swarm.addressesOf Swarm.connectionsOf
  rw [step.connections, Finset.filter_erase]
  split_ifs with same
  · have opened : (⟨id, peer, endpoint.getRemoteAddress⟩ : Connection PeerId) ∈
        before.swarm.connections.filter (·.peer = q) := Finset.mem_filter.mpr ⟨step.opened, same.symm⟩
    rw [Finset.erase_val, Multiset.map_erase_of_mem _ _ opened]
  · rw [Finset.erase_eq_of_notMem fun member => same (Finset.mem_filter.mp member).2.symm]

theorem World.Closed.addresses {peer : PeerId} {endpoint : Endpoint PeerId} {id : ConnectionId}
    {n : Nat} (step : World.Closed before after peer endpoint id n)
    (kept : ∀ q, before.loop.addresses q = before.swarm.addressesOf q) (q : PeerId) :
    after.loop.addresses q =
      if q = peer then (before.loop.addresses q).filter (· ≠ endpoint.getRemoteAddress)
      else before.loop.addresses q := by
  rw [EventLoop.addresses, step.connected, EventLoop.handleClosed]
  dsimp only
  by_cases last : n = 0
  · rw [if_pos last, HashMap.get_remove]
    split_ifs with same
    · -- the peer's only connection is closed, and it had its address
      have alone : (before.swarm.connectionsOf peer).card = 1 := by rw [← step.remaining, last]
      obtain ⟨connection, only⟩ := Finset.card_eq_one.mp alone
      have opened : ⟨id, peer, endpoint.getRemoteAddress⟩ ∈ before.swarm.connectionsOf peer :=
        Finset.mem_filter.mpr ⟨step.opened, rfl⟩
      rw [only, Finset.mem_singleton] at opened
      rw [kept, same, Swarm.addressesOf, only, ← opened]
      exact (Multiset.filter_eq_nil.mpr (by simp)).symm
    · rfl
  · rw [if_neg last]
    cases present : before.loop.connected.get peer with
    | none =>
        dsimp only
        split_ifs with same
        · rw [EventLoop.addresses, same, present]; rfl
        · rfl
    | some addrs =>
        dsimp only
        rw [HashMap.get_insert]
        split_ifs with same
        · rw [EventLoop.addresses, same, present, Option.getD_some, Option.getD_some,
            Multiset.filter_coe]
        · rfl

end Steps

theorem count_addressesOf_le_one {world : World PeerId} {now : Nat} {peer : PeerId}
    {endpoint : Endpoint PeerId} {id : ConnectionId} {n : Nat}
    (opened : ⟨id, peer, endpoint.getRemoteAddress⟩ ∈ world.swarm.connections) :
    (world.swarm.addressesOf peer).count endpoint.getRemoteAddress ≤ 1 ↔
      SoleAddress world (.event now (.connectionClosed peer endpoint id n)) := by
  have opened : ⟨id, peer, endpoint.getRemoteAddress⟩ ∈ world.swarm.connectionsOf peer :=
    Finset.mem_filter.mpr ⟨opened, rfl⟩
  have counted : (world.swarm.addressesOf peer).count endpoint.getRemoteAddress =
      ((world.swarm.connectionsOf peer).filter
        (endpoint.getRemoteAddress = ·.remoteAddr)).card := by
    rw [Swarm.addressesOf, Multiset.count_map]
    rfl
  rw [counted, Finset.card_le_one]
  constructor
  · intro unique connection member same
    have equal := unique connection (Finset.mem_filter.mpr ⟨member, same.symm⟩) _
      (Finset.mem_filter.mpr ⟨opened, rfl⟩)
    rw [equal]
  · intro sole first first_mem second second_mem
    have is_closed (connection : Connection PeerId) (member : connection ∈
        (world.swarm.connectionsOf peer).filter (endpoint.getRemoteAddress = ·.remoteAddr)) :
        connection = ⟨id, peer, endpoint.getRemoteAddress⟩ := by
      obtain ⟨mine, same⟩ := Finset.mem_filter.mp member
      have named := sole connection mine same.symm
      have owned := (Finset.mem_filter.mp mine).2
      cases connection
      simp_all
    rw [is_closed first first_mem, is_closed second second_mem]

variable [TextCodec PeerId] [TextCodec (Multiaddr PeerId)]

theorem AddressesExact.next {world : World PeerId} (tabled : Tabled world)
    (exact : AddressesExact world) {label : Label PeerId} (matched : world.Matched label) :
    AddressesExact (world.next label) ↔ SoleAddress world label := by
  have kept := exact.kept
  rw [iff_kept]
  cases World.step matched with
  | established now peer endpoint id step =>
      refine ⟨fun _ => trivial, fun _ q => ?_⟩
      rw [step.addresses, step.addressesOf tabled, kept]
  | closed now peer endpoint id n step =>
      rw [← count_addressesOf_le_one step.opened, ← filter_ne_eq_erase_iff]
      constructor
      · intro still
        have here := still peer
        rw [step.addresses kept, step.addressesOf, if_pos rfl, if_pos rfl, kept] at here
        exact here
      · intro once q
        rw [step.addresses kept, step.addressesOf, kept]
        split_ifs with same
        · rw [same, once]
        · rfl
  | installed _ _ _ step =>
      refine ⟨fun _ => trivial, fun _ q => ?_⟩
      rw [EventLoop.addresses, step.connected, Swarm.addressesOf, Swarm.connectionsOf,
        step.connections]
      exact kept q
  | quiet label is_quiet quiet =>
      constructor
      · intro _
        unfold SoleAddress
        split
        · simp [Label.quiet] at is_quiet
        · trivial
      · intro _ q
        rw [EventLoop.addresses, quiet.connected, Swarm.addressesOf, Swarm.connectionsOf,
          quiet.connections]
        exact kept q

/-- The addresses listed are those of the open connections throughout a run exactly when no
connection of the run is closed while its peer has another with the same remote address. -/
theorem addresses_exact_iff {world : World PeerId} (start : (networkSystem PeerId).initial world)
    {labels : List (Label PeerId)} (legal : (networkSystem PeerId).Legal world labels) :
    (networkSystem PeerId).Throughout AddressesExact world labels ↔
      (networkSystem PeerId).EachStep SoleAddress world labels := by
  obtain ⟨subscriptions, peerstore, settings, bootstrapPeers, rfl⟩ := start
  have none_yet : AddressesExact (World.start subscriptions peerstore settings bootstrapPeers) :=
    AddressesExact.iff_kept.mpr fun peer => rfl
  exact System.throughout_iff_eachStep (fun _ _ tabled matched => tabled.next matched)
    (fun _ _ tabled exact matched => AddressesExact.next tabled exact matched)
    (Tabled.start subscriptions peerstore settings bootstrapPeers) none_yet legal

theorem addresses_exact_iff_two_addresses :
    (networkSystem Sample.Peer).Throughout AddressesExact (Sample.node 4 4 1)
      [Sample.inbound .alice (Sample.addr 10 0 0 1) 0, Sample.inbound .alice (Sample.addr 10 0 0 2) 1,
        Sample.hangUp .alice (Sample.addr 10 0 0 1) 0 1] :=
  (addresses_exact_iff ⟨_, _, _, _, rfl⟩ (by decide)).mpr (by decide)

/-- Alice has two connections from one address. When one is closed she has none listed. -/
theorem addresses_not_exact_same_address :
    ¬ ∀ world, (networkSystem Sample.Peer).Reachable world → AddressesExact world := by
  intro always
  have legal : (networkSystem Sample.Peer).Legal (Sample.node 4 4 1)
      [Sample.inbound .alice (Sample.addr 10 0 0 1) 0, Sample.inbound .alice (Sample.addr 10 0 0 1) 1,
        Sample.hangUp .alice (Sample.addr 10 0 0 1) 0 1] := by decide
  have kept := (always _ ((Sample.node_reachable 4 4 1).after legal)).kept .alice
  exact absurd kept (by decide)

/-! ## The preferred flag -/

def recordAccepted (world : World PeerId) : Label PeerId → Finset PeerId → Finset PeerId
  | .command _ (.setPreferredPeers peers _), _ => world.loop.acceptedSet peers
  | _, latest => latest

def preferredSystem (PeerId : Type) [DecidableEq PeerId] [TextCodec PeerId]
    [TextCodec (Multiaddr PeerId)] : System (World PeerId × Finset PeerId) (Label PeerId) :=
  (networkSystem PeerId).withHistory ∅ recordAccepted

/-- An answer to `GetPeers` has one entry for each connected peer, flagged as preferred when the last
`SetPreferredPeers` accepted it. -/
def FlagFollows (state : World PeerId × Finset PeerId) : Label PeerId → Prop
  | .command view (.getPeers sender) =>
      ∃ peers, (state.1.loop.handleCommand view (.getPeers sender)).effects =
          [.answer sender (.peers peers)] ∧
        peers.map (·.peerId) = state.1.swarm.peers.val ∧
        ∀ entry ∈ peers, entry.preferred ↔ entry.peerId ∈ state.2
  | _ => True

/-- When `GetPeers` is handled, every connected bootstrap peer is preferred as well. -/
def BootstrapPreferred (state : World PeerId × Finset PeerId) : Label PeerId → Prop
  | .command _ (.getPeers _) =>
      ∀ peer ∈ state.1.loop.bootstrapPeers, peer ∈ state.1.swarm.peers → peer ∈ state.2
  | _ => True

instance (state : World PeerId × Finset PeerId) :
    (label : Label PeerId) → Decidable (BootstrapPreferred state label)
  | .command _ (.getPeers _) => inferInstanceAs (Decidable (∀ _ ∈ _, _ → _))
  | .command _ (.startListening _ _) | .command _ (.dial _ _ _) | .command _ (.identify _)
  | .command _ (.subscribe _ _) | .command _ (.publishMessage _ _ _)
  | .command _ (.networkSnapshot _) | .command _ (.setPreferredPeers _ _)
  | .event _ _ | .behaviourDial _ | .forgetScore _ => isTrue trivial

omit [TextCodec PeerId] [TextCodec (Multiaddr PeerId)] in
theorem Tabled.getPeers_peerId {world : World PeerId} (tabled : Tabled world)
    (view : SwarmView PeerId) :
    (world.loop.getPeers view).map (·.peerId) = world.swarm.peers.val := by
  rw [← tabled.keys, ← HashMap.iter_map_fst, EventLoop.getPeers, Multiset.map_map]
  rfl

theorem keys_dialHints {state : World PeerId × Finset PeerId}
    (reachable : (preferredSystem PeerId).Reachable state) :
    state.1.loop.dialHints.keys = state.2 := by
  induction reachable with
  | initial first =>
      obtain ⟨⟨_, _, _, _, started⟩, recorded⟩ := first
      rw [started, recorded]
      rfl
  | @next state label _ matched ih =>
      obtain ⟨world, latest⟩ := state
      change (world.next label).loop.dialHints.keys = recordAccepted world label latest
      cases World.step matched with
      | established now peer endpoint id step => rw [step.dialHints]; exact ih
      | closed now peer endpoint id n step => rw [step.dialHints]; exact ih
      | installed view peers sender step =>
          rw [step.dialHints, EventLoop.keys_accepted]
          rfl
      | quiet label is_quiet quiet =>
          have kept : recordAccepted world label latest = latest := by
            unfold recordAccepted
            split
            · simp [Label.quiet] at is_quiet
            · rfl
          rw [quiet.dialHints, kept]
          exact ih

theorem flagFollows_iff {state : World PeerId × Finset PeerId}
    (reachable : (preferredSystem PeerId).Reachable state) (label : Label PeerId) :
    FlagFollows state label ↔ BootstrapPreferred state label := by
  have tabled := tabled_of_reachable reachable.forget
  have agreed := agreed_of_reachable reachable.forget
  have protect : state.1.loop.protectedPeers = state.1.loop.bootstrapPeers ∪ state.2 := by
    rw [agreed.protectedPeers, keys_dialHints reachable]
  unfold FlagFollows BootstrapPreferred
  split
  · rename_i view sender
    have listed := tabled.getPeers_peerId view
    have flagged (entry : PeerSnapshot PeerId) (member : entry ∈ state.1.loop.getPeers view) :
        entry.preferred ↔ entry.peerId ∈ state.1.loop.bootstrapPeers ∪ state.2 := by
      obtain ⟨⟨peer, addrs⟩, _, rfl⟩ := Multiset.mem_map.mp member
      rw [← protect]
      exact decide_eq_true_iff
    constructor
    · rintro ⟨peers, answered, _, follows⟩ peer boot connected
      obtain rfl : state.1.loop.getPeers view = peers := by
        simpa only [EventLoop.handleCommand, List.cons.injEq, Effect.answer.injEq, Answer.peers.injEq,
          true_and, and_true] using answered
      have connected : peer ∈ (state.1.loop.getPeers view).map (·.peerId) := by
        rw [listed]; exact connected
      obtain ⟨entry, member, rfl⟩ := Multiset.mem_map.mp connected
      exact (follows entry member).mp ((flagged entry member).mpr (Finset.mem_union_left _ boot))
    · intro preferred
      refine ⟨_, rfl, listed, fun entry member => ?_⟩
      rw [flagged entry member, Finset.mem_union, or_iff_right_iff_imp]
      intro boot
      apply preferred entry.peerId boot
      have named := Multiset.mem_map_of_mem PeerSnapshot.peerId member
      rw [listed] at named
      exact named
  · exact Iff.rfl

/-- Every answer of a run flags the peers of the last preferred set exactly when every answer is
given while the connected bootstrap peers are preferred as well. -/
theorem preferred_flag_iff {state : World PeerId × Finset PeerId}
    (start : (preferredSystem PeerId).initial state) {labels : List (Label PeerId)}
    (legal : (preferredSystem PeerId).Legal state labels) :
    (preferredSystem PeerId).EachStep FlagFollows state labels ↔
      (preferredSystem PeerId).EachStep BootstrapPreferred state labels :=
  System.eachStep_iff_eachStep (fun _ _ reachable matched => .next reachable matched)
    (fun _ label reachable _ => flagFollows_iff reachable label) (.initial start) legal

namespace Sample

def anchored : World Peer × Finset Peer :=
  (.start (.new 1024) .default ⟨0, 4, 4, 1⟩ {.alice}, ∅)

theorem anchored_initial : (preferredSystem Peer).initial anchored := ⟨⟨_, _, _, _, rfl⟩, rfl⟩

def replaced : World Peer × Finset Peer :=
  (preferredSystem Peer).after anchored
    [prefer [.alice] 0, inbound .alice (addr 10 0 0 1) 0, prefer [.bob] 1]

theorem replaced_reachable : (preferredSystem Peer).Reachable replaced := by
  have legal : (networkSystem Peer).Legal anchored.1
    [prefer [.alice] 0, inbound .alice (addr 10 0 0 1) 0, prefer [.bob] 1] := by decide
  exact (System.Reachable.initial anchored_initial).after (legal.withHistory ∅)

def listPeers (sender : Sender) : Label Peer := .command (view (.ok ())) (.getPeers sender)

end Sample

theorem preferred_flag_iff_bootstrap_preferred :
    (preferredSystem Sample.Peer).EachStep FlagFollows Sample.anchored
      [Sample.prefer [.alice] 0, Sample.inbound .alice (Sample.addr 10 0 0 1) 0,
        Sample.inbound .bob (Sample.addr 10 0 0 2) 1, Sample.listPeers 1] :=
  (preferred_flag_iff Sample.anchored_initial
    (System.Legal.withHistory (by decide) ∅)).mpr ⟨trivial, trivial, trivial, by decide, trivial⟩

/-- Alice keeps the flag when Bob replaces her, since she is a bootstrap peer. -/
theorem preferred_flag_bootstrap_peer :
    ¬ ∀ state label, (preferredSystem Sample.Peer).Reachable state →
      (preferredSystem Sample.Peer).enabled state label → FlagFollows state label := by
  intro always
  have matched : (networkSystem Sample.Peer).enabled Sample.replaced.1 (Sample.listPeers 2) := by
    decide
  have follows := always _ (Sample.listPeers 2) Sample.replaced_reachable matched
  exact absurd ((flagFollows_iff Sample.replaced_reachable _).mp follows) (by decide)

end P2pService
