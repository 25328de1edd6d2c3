import P2pService.Proof.Peerstore
import P2pService.Proof.Save
import P2pService.Proof.Steps
import P2pService.World.Node

/-!
# The peerstore across crashes

The store and its file are a value in memory and on disk: the events of the swarm act on it, a save
that succeeds commits it, and a save that does not changes nothing that is ever read.
-/

namespace P2pService
open Library

variable {PeerId : Type} [DecidableEq PeerId] [TextCodec PeerId] [TextCodec (Multiaddr PeerId)]

/-! ## What a step means for the store -/

theorem EventLoop.handleEvent_peerstore (loop : EventLoop PeerId) (now : Nat)
    (event : SwarmEvent PeerId) :
    (loop.handleEvent now event).loop.peerstore = loop.peerstore.learn (now, event) := by
  cases event with
  | gossipsubMessage message =>
      simp only [handleEvent, handleMessage]
      split <;> rfl
  | identifyReceived peer listenAddrs =>
      have handled : loop.handleIdentify now peer listenAddrs =
          if (listenAddrs.filter Multiaddr.hasTcp).isEmpty then loop
          else { loop with
            peerstore := loop.peerstore.record peer (listenAddrs.filter Multiaddr.hasTcp) now } := rfl
      rw [handleEvent, handled, PeerStore.learn, SwarmEvent.recordCall?]
      cases listenAddrs.filter Multiaddr.hasTcp <;> rfl
  | connectionEstablished peer endpoint id =>
      rw [handleEvent, handleEstablished_loop]
      cases endpoint <;> rfl
  | connectionClosed peer endpoint id n => rfl
  | outgoingConnectionError peer error =>
      cases peer with
      | none => rfl
      | some peer => rw [handleEvent, resolvePendingDials_loop]; rfl
  | other => rfl

theorem World.next_event_peerstore (world : World PeerId) (now : Nat) (event : SwarmEvent PeerId) :
    (world.next (.event now event)).loop.peerstore = world.loop.peerstore.learn (now, event) :=
  world.loop.handleEvent_peerstore now event

theorem World.next_command_peerstore (world : World PeerId) (view : SwarmView PeerId)
    (command : Command PeerId) :
    (world.next (.command view command)).loop.peerstore = world.loop.peerstore := by
  obtain ⟨_, _, _, same⟩ := world.loop.handleCommand_loop view command
  exact congrArg (·.peerstore) same

section

variable [JsonCodec]

theorem PeerStore.load_save_cases {path : Path} (named : path.fileName.isSome)
    (readBack : JsonCodec.ReadsBack) (store : PeerStore) (files : FileSystem) (fate : SaveFate) :
    load (store.save files path fate).2 path =
      if (store.save files path fate).1 then store else load files path := by
  have apart : path ≠ path.withExtension (osString "json.tmp") :=
    (Path.withExtension_ne named (by decide)).symm
  split_ifs with done
  · exact load_save (readBack store) done
  · rcases store.save_cases files path fate with same | ⟨part, same⟩ | ⟨text, written, same⟩
    · rw [same]
    · rw [same]
      exact load_congr ((HashMap.get_insert _ _ _ _).trans (if_neg apart))
    · exact absurd (congrArg Prod.fst same) done

def journalRefinement (disk : FileSystem) {path : Path} (named : path.fileName.isSome)
    (readBack : JsonCodec.ReadsBack) :
    Refinement (nodeSystem PeerId disk path) (storeCell PeerId (.load disk path)) where
  view := Node.cell path
  image := Node.cellLabel? path
  initial node first := by rw [show node = ⟨disk, none⟩ from first]; rfl
  enabled node label meaning enabled image := by
    cases label with
    | start => cases image; exact congrArg (Option.map (·.loop.peerstore)) enabled
    | run label =>
        obtain ⟨world, running, _⟩ := enabled
        cases label with
        | event => cases image; simp [storeCell, cellSystem, Cell.Enabled, Node.cell, running]
        | command | behaviourDial | forgetScore => cases image
    | save fate =>
        rw [Node.cellLabel?] at image
        split_ifs at image
        cases image
        exact fun idle => enabled (Option.map_eq_none_iff.mp idle)
    | stop => cases image; exact fun idle => enabled (Option.map_eq_none_iff.mp idle)
  seen node label meaning enabled image := by
    cases label with
    | start => cases image; rfl
    | run label =>
        obtain ⟨world, running, _⟩ := enabled
        cases label with
        | event now event =>
            cases image
            simp only [storeCell, cellSystem, Node.cell, nodeSystem, Node.next, Cell.next, running,
              Option.map_some, World.next_event_peerstore]
        | command | behaviourDial | forgetScore => cases image
    | save fate =>
        obtain ⟨world, running⟩ := Option.ne_none_iff_exists'.mp enabled
        rw [Node.cellLabel?] at image
        split_ifs at image with done
        cases image
        simp only [Node.saved, running] at done
        simp only [storeCell, cellSystem, Node.cell, nodeSystem, Node.next, Node.saved, running,
          Cell.next, Option.map_some, PeerStore.load_save_cases named readBack, done, if_true,
          Option.getD_some]
    | stop => cases image; rfl
  unseen node label enabled image := by
    cases label with
    | start => cases image
    | run label =>
        obtain ⟨world, running, _⟩ := enabled
        cases label with
        | event now event => cases image
        | command view command =>
            simp only [Node.cell, nodeSystem, Node.next, running, Option.map_some,
              World.next_command_peerstore]
        | behaviourDial | forgetScore =>
            simp only [Node.cell, nodeSystem, Node.next, running, Option.map_some, World.next]
    | save fate =>
        obtain ⟨world, running⟩ := Option.ne_none_iff_exists'.mp enabled
        rw [Node.cellLabel?] at image
        split_ifs at image with done
        simp only [Node.saved, running, Bool.not_eq_true] at done
        simp only [Node.cell, nodeSystem, Node.next, Node.saved, running,
          PeerStore.load_save_cases named readBack, done, Bool.false_eq_true, if_false]
    | stop => cases image

theorem journaledNode_eq (disk : FileSystem) {path : Path} (named : path.fileName.isSome)
    (readBack : JsonCodec.ReadsBack) : journaledNode PeerId disk path =
      (nodeSystem PeerId disk path).withHistory .empty
        ((journalRefinement disk named readBack).record Journal.record) := by
  unfold journaledNode
  congr 1
  funext node label journal
  cases image : node.cellLabel? path label with
  | some meaning =>
      rw [Refinement.record_of_some image, Node.record, image]
      rfl
  | none => rw [Refinement.record_of_none image, Node.record, image]

theorem replays_of_reachable {disk : FileSystem} {path : Path} (named : path.fileName.isSome)
    (readBack : JsonCodec.ReadsBack) {state : Node PeerId × Journal (TimedEvent PeerId)}
    (reachable : (journaledNode PeerId disk path).Reachable state) :
    Journal.Replays PeerStore.learn (.load disk path) (state.1.cell path) state.2 := by
  rw [journaledNode_eq disk named readBack] at reachable
  exact .of_reachable ((journalRefinement disk named readBack).reachable_withHistory reachable)

/-! ## What survives -/

theorem elsewhere_of_reachable {disk : FileSystem} {path : Path} {node : Node PeerId}
    (reachable : (nodeSystem PeerId disk path).Reachable node) {other : Path} (target : other ≠ path)
    (away : other ≠ path.withExtension (osString "json.tmp")) :
    node.files.get other = disk.get other := by
  induction reachable with
  | initial first => rw [show _ = (⟨disk, none⟩ : Node PeerId) from first]
  | @next node label _ enabled ih =>
      cases label with
      | start | run | stop => exact ih
      | save fate =>
          obtain ⟨world, running⟩ := Option.ne_none_iff_exists'.mp enabled
          simp only [nodeSystem, Node.next, Node.saved, running]
          rcases world.loop.peerstore.get_save node.files path fate away with kept | ⟨same, _⟩
          · exact kept.trans ih
          · exact absurd same target

omit [DecidableEq PeerId] [TextCodec PeerId] [TextCodec (Multiaddr PeerId)] in
theorem Node.committed_prefix (path : Path) (node : Node PeerId) (label : NodeLabel PeerId)
    (journal : Journal (TimedEvent PeerId)) :
    journal.committed <+: (node.record path label journal).committed := by
  unfold record
  split
  · exact Journal.committed_prefix_record _ _ _
  · exact List.prefix_rfl

/-- The file and the memory of a node, by its journal. -/
structure Survives (disk : FileSystem) (path : Path) (node : Node PeerId)
    (journal : Journal (TimedEvent PeerId)) : Prop where
  file : PeerStore.load node.files path = journal.committed.foldl .learn (.load disk path)
  memory : ∀ world, node.process = some world →
    world.loop.peerstore = journal.entries.foldl .learn (.load disk path)
  elsewhere : ∀ other, other ≠ path → other ≠ path.withExtension (osString "json.tmp") →
    node.files.get other = disk.get other

/--
However often the process is killed and started again, and however far each of its saves gets, the
file holds the store it started with and the events handled before the last save that succeeded in
their process, in order, and the running store those and the events since. Once an event is in the
file, it stays.
-/
theorem peerstore_survives {disk : FileSystem} {path : Path} (named : path.fileName.isSome)
    (readBack : JsonCodec.ReadsBack) {state : Node PeerId × Journal (TimedEvent PeerId)}
    (reachable : (journaledNode PeerId disk path).Reachable state) :
    Survives disk path state.1 state.2 ∧
      ∀ labels, (journaledNode PeerId disk path).Legal state labels →
        state.2.committed <+: ((journaledNode PeerId disk path).after state labels).2.committed := by
  have replays := replays_of_reachable named readBack reachable
  refine ⟨⟨replays.durable, fun world running => ?_, fun other target away => ?_⟩, ?_⟩
  · have volatile : (state.1.cell path).volatile = some world.loop.peerstore := by
      rw [Node.cell, running, Option.map_some]
    exact replays.volatile _ volatile
  · exact elsewhere_of_reachable reachable.forget target away
  · intro labels legal
    have step (later : Node PeerId × Journal (TimedEvent PeerId)) (label : NodeLabel PeerId)
        (before : state.2.committed <+: later.2.committed)
        (_ : (journaledNode PeerId disk path).enabled later label) :
        state.2.committed <+: ((journaledNode PeerId disk path).next later label).2.committed :=
      before.trans (Node.committed_prefix path later.1 label later.2)
    exact System.after_of_step step List.prefix_rfl legal

end

namespace Sample

theorem readsBack : JsonCodec.ReadsBack := by
  intro store text written
  have known : store.peers = knownAlice.peers := by
    by_contra other
    exact nomatch (if_neg other).symm.trans written
  have same : store = knownAlice := congrArg PeerStore.mk known
  rw [same] at written ⊢
  exact if_pos (Option.some.inj ((if_pos rfl).symm.trans written)).symm

def dialedAlice : TimedEvent Peer :=
  (1000, .connectionEstablished .alice (.dialer (addr 10 0 0 1)) 0)

def dialedBob : TimedEvent Peer :=
  (2000, .connectionEstablished .bob (.dialer (addr 10 0 0 2)) 1)

/-- The process dies after it has dialed Bob, and before another save. -/
def crashed : Node Peer × Journal (TimedEvent Peer) :=
  (journaledNode Peer ∅ peerstoreFile).after (⟨∅, none⟩, .empty)
    [.start ⟨1, 4, 4, 1⟩ ∅, .run (.event dialedAlice.1 dialedAlice.2), .save .renamed,
      .run (.event dialedBob.1 dialedBob.2), .stop, .start ⟨1, 4, 4, 1⟩ ∅]

theorem crashed_reachable : (journaledNode Peer ∅ peerstoreFile).Reachable crashed := by
  refine (System.Reachable.initial ?_).after ?_
  · exact ⟨rfl, rfl⟩
  · exact ⟨rfl, ⟨_, rfl, by decide⟩, nofun, ⟨_, rfl, by decide⟩, nofun, rfl, trivial⟩

end Sample

section

open Sample

theorem peerstore_survives_crash : PeerStore.load crashed.1.files peerstoreFile = knownAlice ∧
    ∀ world, crashed.1.process = some world → world.loop.peerstore = knownAlice := by
  have survives := (peerstore_survives (by decide) readsBack crashed_reachable).1
  exact ⟨survives.file, survives.memory⟩

end

/-! ## Where addresses come from -/

/-- Every address was stored at the start, or learned from one of the events. -/
structure Sourced (base : PeerStore) (events : List (TimedEvent PeerId)) (store : PeerStore) :
    Prop where
  learned : ∀ key record, store.peers.get key = some record → ∀ text ∈ record.addrs,
    (∃ old, base.peers.get key = some old ∧ text ∈ old.addrs) ∨
    ∃ entry ∈ events, ∃ peer addr, entry.2.Teaches peer addr ∧
      key = TextCodec.toStr peer ∧ text = TextCodec.toStr addr
  bounded : (∀ key record, base.peers.get key = some record →
      record.addrs.length ≤ maxAddrsPerPeer) →
    ∀ key record, store.peers.get key = some record → record.addrs.length ≤ maxAddrsPerPeer

omit [DecidableEq PeerId] [TextCodec PeerId] [TextCodec (Multiaddr PeerId)] in
theorem SwarmEvent.teaches_of_recordCall {event : SwarmEvent PeerId} {now : Nat}
    {call : RecordCall PeerId} (made : event.recordCall? now = some call) :
    ∀ addr ∈ call.addrs, event.Teaches call.peer addr := by
  intro addr member
  cases event with
  | identifyReceived peer listenAddrs =>
      rw [recordCall?] at made
      split at made
      · cases made
      · cases made
        exact ⟨rfl, List.mem_filter.mp member⟩
  | connectionEstablished peer endpoint id =>
      cases endpoint with
      | dialer address =>
          cases made
          exact ⟨rfl, (List.mem_singleton.mp member).symm⟩
      | listener => cases made
  | gossipsubMessage | connectionClosed | outgoingConnectionError | other => cases made

namespace Sourced

variable {base store : PeerStore} {events : List (TimedEvent PeerId)}

omit [DecidableEq PeerId]

theorem start (base : PeerStore) : Sourced base ([] : List (TimedEvent PeerId)) base where
  learned _ record found _ held := .inl ⟨record, found, held⟩
  bounded small := small

theorem more (sourced : Sourced base events store) (entry : TimedEvent PeerId) :
    Sourced base (events ++ [entry]) store where
  learned key record found text held := by
    rcases sourced.learned key record found text held with old | ⟨before, member, taught⟩
    · exact .inl old
    · exact .inr ⟨before, List.mem_append_left _ member, taught⟩
  bounded := sourced.bounded

theorem record (sourced : Sourced base events store) {entry : TimedEvent PeerId} {peer : PeerId}
    {addrs : List (Multiaddr PeerId)} (taught : ∀ addr ∈ addrs, entry.2.Teaches peer addr)
    (now : Nat) : Sourced base (events ++ [entry]) (store.record peer addrs now) where
  learned key record found text held := by
    rw [PeerStore.get_record] at found
    split_ifs at found with mine
    · cases found
      rcases Fifo.mem_of_mem_pushAll held with before | new
      · rw [PeerStore.addrsOf, ← mine] at before
        cases known : store.peers.get key with
        | none => simp [known] at before
        | some old =>
            rw [known] at before
            exact (sourced.more entry).learned key old known text before
      · obtain ⟨addr, member, rfl⟩ := List.mem_map.mp new
        exact .inr ⟨entry, List.mem_append_right _ (List.mem_singleton_self entry), peer, addr,
          taught addr member, mine, rfl⟩
    · exact (sourced.more entry).learned key record found text held
  bounded small key record found := by
    rw [PeerStore.get_record] at found
    split_ifs at found
    · cases found
      apply Fifo.length_pushAll_le
      rw [PeerStore.addrsOf]
      cases known : store.peers.get (TextCodec.toStr peer) with
      | none => exact Nat.zero_le _
      | some old => exact sourced.bounded small _ old known
    · exact sourced.bounded small key record found

theorem learn (sourced : Sourced base events store) (entry : TimedEvent PeerId) :
    Sourced base (events ++ [entry]) (store.learn entry) := by
  unfold PeerStore.learn
  cases made : entry.2.recordCall? entry.1 with
  | none => exact sourced.more entry
  | some call => exact sourced.record (SwarmEvent.teaches_of_recordCall made) call.now

end Sourced

section

variable [JsonCodec]

/--
Whatever happens to the process, an address in the file or in memory was there at the start, or was
named by its peer through identify and has a TCP part, or is one that the service dialed: never the
address of an incoming connection. A file with at most eight addresses a peer stays so.
-/
theorem addresses_sourced {disk : FileSystem} {path : Path} (named : path.fileName.isSome)
    (readBack : JsonCodec.ReadsBack) {state : Node PeerId × Journal (TimedEvent PeerId)}
    (reachable : (journaledNode PeerId disk path).Reachable state) :
    Sourced (.load disk path) state.2.committed (.load state.1.files path) ∧
      ∀ world, state.1.process = some world →
        Sourced (.load disk path) state.2.entries world.loop.peerstore := by
  have replays := replays_of_reachable named readBack reachable
  obtain ⟨file, memory⟩ := replays.invariant (Sourced.start _)
    fun events store entry sourced => sourced.learn entry
  refine ⟨file, fun world running => memory _ ?_⟩
  rw [Node.cell, running, Option.map_some]

end

section

open Sample

theorem addresses_sourced_crash :
    Sourced .default [dialedAlice] (PeerStore.load crashed.1.files peerstoreFile) :=
  (addresses_sourced (by decide) readsBack crashed_reachable).1

end

/-! ## What is left to dial -/

/-- What the events had the service record can be read back from its text. -/
def PrintableEvents (events : List (TimedEvent PeerId)) : Prop :=
  ∀ call ∈ recordCalls events,
    TextCodec.RoundTrips call.peer ∧ ∀ addr ∈ call.addrs, TextCodec.RoundTrips addr

def RemembersEvents (events : List (TimedEvent PeerId)) (store : PeerStore) : Prop :=
  PrintableEvents events → Remembers store (recordCalls events)

theorem RemembersEvents.start : RemembersEvents ([] : List (TimedEvent PeerId)) .default :=
  fun _ => .start

theorem RemembersEvents.learn (events : List (TimedEvent PeerId)) (store : PeerStore)
    (entry : TimedEvent PeerId) (remembers : RemembersEvents events store) :
    RemembersEvents (events ++ [entry]) (store.learn entry) := by
  intro printable
  have calls : recordCalls (events ++ [entry]) =
      recordCalls events ++ (entry.2.recordCall? entry.1).toList := by
    rw [recordCalls, List.filterMap_append]
    cases made : entry.2.recordCall? entry.1 <;> simp [recordCalls, made]
  rw [PrintableEvents, calls] at printable
  have before := remembers fun call member => printable call (List.mem_append_left _ member)
  rw [calls, PeerStore.learn]
  cases made : entry.2.recordCall? entry.1 with
  | none => simpa using before
  | some call =>
      rw [made] at printable
      exact before.next (printable call (List.mem_append_right _ (List.mem_singleton_self call)))

theorem remembers_of_replays {cell : Cell PeerStore} {journal : Journal (TimedEvent PeerId)}
    (replays : Journal.Replays PeerStore.learn .default cell journal)
    (printable : PrintableEvents journal.entries) {store : PeerStore}
    (running : cell.volatile = some store) : Remembers store (recordCalls journal.entries) :=
  (replays.invariant RemembersEvents.start RemembersEvents.learn).2 store running printable

section

variable [JsonCodec]

/--
On a disk without a peerstore, after any number of crashes: the candidates of a peer are the last
eight addresses among the events that survived, provided that the last of these is recent enough.
-/
theorem candidates_survive {disk : FileSystem} {path : Path} (named : path.fileName.isSome)
    (readBack : JsonCodec.ReadsBack) (fresh : PeerStore.load disk path = .default)
    {state : Node PeerId × Journal (TimedEvent PeerId)}
    (reachable : (journaledNode PeerId disk path).Reachable state)
    (printable : PrintableEvents state.2.entries) {world : World PeerId}
    (running : state.1.process = some world) (maxAge now : Nat) :
    (world.loop.peerstore.dialCandidates maxAge now : Multiset (PeerId × Multiaddr PeerId)).Nodup ∧
      ∀ (peer : PeerId) (addr : Multiaddr PeerId),
        (peer, addr) ∈ world.loop.peerstore.dialCandidates maxAge now ↔
          ∃ seen, RecordCall.lastSeen (recordCalls state.2.entries) peer = some seen ∧
            now - seen ≤ maxAge ∧ addr ∈ Fifo.pushAll maxAddrsPerPeer []
              (RecordCall.recordedFor (recordCalls state.2.entries) peer) := by
  have replays := replays_of_reachable named readBack reachable
  rw [fresh] at replays
  have volatile : (state.1.cell path).volatile = some world.loop.peerstore := by
    rw [Node.cell, running, Option.map_some]
  have remembers := remembers_of_replays replays printable volatile
  exact ⟨remembers.nodup_candidates maxAge now, fun peer addr => remembers.mem_candidates⟩

end

section

open Sample

theorem candidates_survive_crash : ∃ world, crashed.1.process = some world ∧
    (Peer.alice, addr 10 0 0 1) ∈ world.loop.peerstore.dialCandidates 3600 2000 := by
  obtain ⟨world, running⟩ : ∃ world, crashed.1.process = some world := ⟨_, rfl⟩
  have printable : PrintableEvents crashed.2.entries := by
    intro call member
    cases List.mem_singleton.mp member
    refine ⟨rfl, fun addr listed => ?_⟩
    cases List.mem_singleton.mp listed
    rfl
  have survive := (candidates_survive (by decide) readsBack rfl crashed_reachable printable running
    3600 2000).2
  have recent : 2000 - 1000 ≤ 3600 := by decide
  have dialed := (survive .alice (addr 10 0 0 1)).mpr ⟨1000, rfl, recent, List.mem_singleton_self _⟩
  exact ⟨world, running, dialed⟩

end
end P2pService
