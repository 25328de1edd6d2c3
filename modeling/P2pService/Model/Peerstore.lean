import P2pService.Library.HashMap
import P2pService.Model.Multiaddr
import Mathlib.Data.Multiset.Bind

namespace P2pService
open Library

structure PeerRecord where
  addrs : List String
  lastSeenUnix : Nat
  deriving DecidableEq, Repr

structure PeerStore where
  peers : HashMap String PeerRecord

def maxAddrsPerPeer : Nat := 8

/-- One round of the loop of `record`: a new address goes to the back, and pushes out the front
when the list is full. -/
def PeerRecord.addAddr (record : PeerRecord) (addr : String) : PeerRecord :=
  if addr ∈ record.addrs then record
  else
    let addrs := record.addrs ++ [addr]
    { record with addrs := if maxAddrsPerPeer < addrs.length then addrs.eraseIdx 0 else addrs }

namespace PeerStore

variable {PeerId : Type} [TextCodec PeerId] [TextCodec (Multiaddr PeerId)]

def default : PeerStore := ⟨∅⟩

def record (store : PeerStore) (peerId : PeerId) (addrs : List (Multiaddr PeerId)) (nowUnix : Nat) :
    PeerStore :=
  let key := TextCodec.toStr peerId
  let entry := (store.peers.get key).getD { addrs := [], lastSeenUnix := nowUnix }
  let seen := { entry with lastSeenUnix := nowUnix }
  let filled := addrs.foldl (fun record addr => record.addAddr (TextCodec.toStr addr)) seen
  { peers := store.peers.insert key filled }

/-- Every address of a peer seen within `maxAgeSecs`. An iteration over the map has no order. -/
def dialCandidates (store : PeerStore) (maxAgeSecs nowUnix : Nat) :
    Multiset (PeerId × Multiaddr PeerId) :=
  store.peers.iter.bind fun entry =>
    if maxAgeSecs < nowUnix - entry.2.lastSeenUnix then 0
    else
      match (TextCodec.fromStr entry.1 : Option PeerId) with
      | none => 0
      | some peerId =>
          let addrs : List (Multiaddr PeerId) := entry.2.addrs.filterMap TextCodec.fromStr
          ↑(addrs.map fun addr => (peerId, addr))

end PeerStore
end P2pService
