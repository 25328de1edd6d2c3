import P2pService.Library.System
import P2pService.Model.PeerstoreFile
import P2pService.World.Network

/-!
# The peerstore over the life of the service

The store is recorded into, saved from time to time, and loaded again after a restart, which finds
what the last save of the old process wrote.
-/

namespace P2pService
open Library

structure RecordCall (PeerId : Type) where
  peer : PeerId
  addrs : List (Multiaddr PeerId)
  now : Nat
  deriving DecidableEq, Repr

structure StoredPeers where
  store : PeerStore
  files : FileSystem
  path : Path

inductive StoreLabel (PeerId : Type) where
  | record (call : RecordCall PeerId)
  | flush (fate : SaveFate)
  /-- The process saves the store without an error, ends, and starts again. -/
  | restart

namespace TextCodec

def RoundTrips {α : Type} [TextCodec α] (x : α) : Prop := fromStr (toStr x) = some x

theorem RoundTrips.inj {α : Type} [TextCodec α] {x y : α} (first : RoundTrips x)
    (second : RoundTrips y) (same : toStr x = toStr y) : x = y := by
  unfold RoundTrips at first second
  rw [same, second] at first
  exact (Option.some.inj first).symm

end TextCodec

def PeerStore.JsonRoundTrips [JsonCodec] (store : PeerStore) : Prop :=
  ∃ text, JsonCodec.toJson store = some text ∧ JsonCodec.fromJson text = some store

namespace RecordCall

variable {PeerId : Type} [DecidableEq PeerId]

def recordedFor (calls : List (RecordCall PeerId)) (peer : PeerId) : List (Multiaddr PeerId) :=
  (calls.filter (·.peer = peer)).flatMap (·.addrs)

def lastSeen (calls : List (RecordCall PeerId)) (peer : PeerId) : Option Nat :=
  ((calls.filter (·.peer = peer)).getLast?).map (·.now)

end RecordCall

section

variable [JsonCodec]

namespace StoredPeers

variable {PeerId : Type} [TextCodec PeerId] [TextCodec (Multiaddr PeerId)]

def Enabled (state : StoredPeers) : StoreLabel PeerId → Prop
  | .record _ | .flush _ => True
  | .restart =>
      state.store.JsonRoundTrips ∧ (state.store.save state.files state.path .renamed).1

def next (state : StoredPeers) : StoreLabel PeerId → StoredPeers
  | .record call => { state with store := state.store.record call.peer call.addrs call.now }
  | .flush fate => { state with files := (state.store.save state.files state.path fate).2 }
  | .restart =>
      let files := (state.store.save state.files state.path .renamed).2
      { state with store := .load files state.path, files := files }

theorem next_store (state : StoredPeers) (label : StoreLabel PeerId) (enabled : state.Enabled label) :
    (state.next label).store =
      match label with
      | .record call => state.store.record call.peer call.addrs call.now
      | .flush _ | .restart => state.store := by
  cases label with
  | record call => rfl
  | flush fate => rfl
  | restart =>
      obtain ⟨⟨text, written, readBack⟩, done⟩ := enabled
      have back (other : String) (same : JsonCodec.toJson state.store = some other) :
          JsonCodec.fromJson other = some state.store := by
        cases Option.some.inj (written.symm.trans same)
        exact readBack
      exact PeerStore.load_save back done

end StoredPeers

def storeSystem (PeerId : Type) [TextCodec PeerId] [TextCodec (Multiaddr PeerId)] :
    System StoredPeers (StoreLabel PeerId) where
  initial state := state.store = .default
  enabled := StoredPeers.Enabled
  next := StoredPeers.next

/-- What is recorded can be read back from its text. -/
def StoreLabel.Printable {PeerId : Type} [TextCodec PeerId] [TextCodec (Multiaddr PeerId)] :
    StoreLabel PeerId → Prop
  | .record call =>
      TextCodec.RoundTrips call.peer ∧ ∀ addr ∈ call.addrs, TextCodec.RoundTrips addr
  | .flush _ | .restart => True

def recordCall {PeerId : Type} (_ : StoredPeers) :
    StoreLabel PeerId → List (RecordCall PeerId) → List (RecordCall PeerId)
  | .record call, calls => calls ++ [call]
  | .flush _, calls | .restart, calls => calls

def recordedStore (PeerId : Type) [TextCodec PeerId] [TextCodec (Multiaddr PeerId)] :
    System (StoredPeers × List (RecordCall PeerId)) (StoreLabel PeerId) :=
  ((storeSystem PeerId).restrict fun _ label => label.Printable).withHistory [] recordCall

end

namespace Sample

def knownAlice : PeerStore := PeerStore.default.record Peer.alice [addr 10 0 0 1] 1000

def knownAliceText : String :=
  "\x7b\"peers\":\x7b\"QmZkurbY2G2hWay59yiTgQNaQxHSNzKZFt2jbnwJhQcKgV\":\x7b\"addrs\":[" ++
    "\"/ip4/10.0.0.1/tcp/4025\"],\"last_seen_unix\":1000\x7d\x7d\x7d"

/-- Writes and reads back the store that knows Alice, and no other. -/
scoped instance : JsonCodec where
  toJson store := if store.peers = knownAlice.peers then some knownAliceText else none
  fromJson text := if text = knownAliceText then some knownAlice else none

theorem knownAlice_roundTrips : knownAlice.JsonRoundTrips :=
  ⟨knownAliceText, if_pos rfl, if_pos rfl⟩

def peerstoreFile : Path := ⟨[], some (osString "peerstore.json")⟩

theorem knownAlice_saved (files : FileSystem) :
    (knownAlice.save files peerstoreFile .renamed).1 := by
  have written : JsonCodec.toJson knownAlice = some knownAliceText := if_pos rfl
  rw [PeerStore.save, written]
  rfl

def emptyStore : StoredPeers := ⟨.default, ∅, peerstoreFile⟩

def recorded (peer : Peer) (addrs : List (Multiaddr Peer)) (now : Nat) : StoreLabel Peer :=
  .record ⟨peer, addrs, now⟩

end Sample

end P2pService
