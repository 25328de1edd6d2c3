import P2pService.Library.Journal
import P2pService.World.Peerstore

/-!
# The service and its disk

The process loads the peerstore when it starts, runs the event loop, and saves the store every few
minutes and once more on the way out. It can end at any moment, in the middle of a save too, which
is then a save that got only so far, and be started again.
-/

namespace P2pService
open Library

structure Node (PeerId : Type) where
  files : FileSystem
  process : Option (World PeerId)

inductive NodeLabel (PeerId : Type) where
  | start (settings : NetworkSettings) (bootstrapPeers : Finset PeerId)
  | run (label : Label PeerId)
  | save (fate : SaveFate)
  | stop

abbrev TimedEvent (PeerId : Type) := Nat × SwarmEvent PeerId

section

variable {PeerId : Type}

def Multiaddr.hasTcp (addr : Multiaddr PeerId) : Bool :=
  addr.any fun
    | .tcp _ => true
    | _ => false

/-- Identify names the addresses a peer listens on; a connection that was dialed shows that its
address works. What an incoming connection comes from is no address to dial. -/
def SwarmEvent.Teaches (peer : PeerId) (addr : Multiaddr PeerId) : SwarmEvent PeerId → Prop
  | .identifyReceived sender listenAddrs => sender = peer ∧ addr ∈ listenAddrs ∧ addr.hasTcp
  | .connectionEstablished remote (.dialer address) _ => remote = peer ∧ address = addr
  | _ => False

def SwarmEvent.recordCall? (now : Nat) : SwarmEvent PeerId → Option (RecordCall PeerId)
  | .identifyReceived peer listenAddrs =>
      match listenAddrs.filter Multiaddr.hasTcp with
      | [] => none
      | tcpAddrs => some ⟨peer, tcpAddrs, now⟩
  | .connectionEstablished peer (.dialer address) _ => some ⟨peer, [address], now⟩
  | _ => none

def recordCalls (events : List (TimedEvent PeerId)) : List (RecordCall PeerId) :=
  events.filterMap fun entry => entry.2.recordCall? entry.1

def PeerStore.learn [TextCodec PeerId] [TextCodec (Multiaddr PeerId)] (store : PeerStore)
    (entry : TimedEvent PeerId) : PeerStore :=
  match entry.2.recordCall? entry.1 with
  | some call => store.record call.peer call.addrs call.now
  | none => store

end

namespace Node

variable {PeerId : Type} [DecidableEq PeerId] [JsonCodec]

def Enabled (node : Node PeerId) : NodeLabel PeerId → Prop
  | .start _ _ => node.process = none
  | .run label => ∃ world, node.process = some world ∧ world.Matched label
  | .save _ | .stop => node.process ≠ none

def saved (node : Node PeerId) (path : Path) (fate : SaveFate) : Bool × FileSystem :=
  match node.process with
  | some world => world.loop.peerstore.save node.files path fate
  | none => (false, node.files)

variable [TextCodec PeerId] [TextCodec (Multiaddr PeerId)]

def next (path : Path) (node : Node PeerId) : NodeLabel PeerId → Node PeerId
  | .start settings bootstrapPeers =>
      let peerstore := PeerStore.load node.files path
      { node with process := some (.start (.new 1024) peerstore settings bootstrapPeers) }
  | .run label => { node with process := node.process.map (·.next label) }
  | .save fate => { node with files := (node.saved path fate).2 }
  | .stop => { node with process := none }

/-- What a step means for the store and its file. -/
def cellLabel? (path : Path) (node : Node PeerId) :
    NodeLabel PeerId → Option (CellLabel (TimedEvent PeerId))
  | .start _ _ => some .start
  | .run (.event now event) => some (.apply (now, event))
  | .run _ => none
  | .save fate => if (node.saved path fate).1 then some .commit else none
  | .stop => some .stop

def cell (path : Path) (node : Node PeerId) : Cell PeerStore :=
  ⟨.load node.files path, node.process.map (·.loop.peerstore)⟩

def record (path : Path) (node : Node PeerId) (label : NodeLabel PeerId)
    (journal : Journal (TimedEvent PeerId)) : Journal (TimedEvent PeerId) :=
  match node.cellLabel? path label with
  | some meaning => Journal.record (node.cell path) meaning journal
  | none => journal

end Node

def nodeSystem (PeerId : Type) [DecidableEq PeerId] [TextCodec PeerId] [TextCodec (Multiaddr PeerId)]
    [JsonCodec] (disk : FileSystem) (path : Path) : System (Node PeerId) (NodeLabel PeerId) where
  initial node := node = ⟨disk, none⟩
  enabled := Node.Enabled
  next := Node.next path

def storeCell (PeerId : Type) [TextCodec PeerId] [TextCodec (Multiaddr PeerId)] (base : PeerStore) :
    System (Cell PeerStore) (CellLabel (TimedEvent PeerId)) :=
  cellSystem PeerStore.learn base

/-- The node beside its journal: which events are in the file, and which only in memory. -/
def journaledNode (PeerId : Type) [DecidableEq PeerId] [TextCodec PeerId]
    [TextCodec (Multiaddr PeerId)] [JsonCodec] (disk : FileSystem) (path : Path) :
    System (Node PeerId × Journal (TimedEvent PeerId)) (NodeLabel PeerId) :=
  (nodeSystem PeerId disk path).withHistory .empty (Node.record path)

def JsonCodec.ReadsBack [JsonCodec] : Prop :=
  ∀ store text, JsonCodec.toJson store = some text → JsonCodec.fromJson text = some store

end P2pService
