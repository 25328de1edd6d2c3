import P2pService.Library.Fifo
import P2pService.World.Peerstore

/-!
# What the peerstore remembers

The record of a peer is a bounded list fed with the addresses of its calls, so the store is a
function of the calls there were: their addresses, pushed one after the other, and the time of the
last one.
-/

namespace P2pService
open Library

section Records

theorem PeerRecord.addAddr_eq (record : PeerRecord) (addr : String) :
    record.addAddr addr = { record with addrs := Fifo.push maxAddrsPerPeer record.addrs addr } := by
  unfold addAddr Fifo.push
  simp only [List.length_append, List.length_singleton, List.eraseIdx_zero]
  split_ifs <;> rfl

theorem PeerRecord.foldl_addAddr (record : PeerRecord) (addrs : List String) :
    addrs.foldl addAddr record =
      { record with addrs := Fifo.pushAll maxAddrsPerPeer record.addrs addrs } := by
  induction addrs generalizing record with
  | nil => rfl
  | cons addr addrs ih => rw [List.foldl_cons, ih, addAddr_eq, Fifo.pushAll_cons]

end Records

variable {PeerId : Type} [TextCodec PeerId] [TextCodec (Multiaddr PeerId)]

namespace PeerStore

def addrsOf (store : PeerStore) (peer : PeerId) : List String :=
  ((store.peers.get (TextCodec.toStr peer)).map (·.addrs)).getD []

theorem get_record (store : PeerStore) (peer : PeerId) (addrs : List (Multiaddr PeerId)) (now : Nat)
    (key : String) : (store.record peer addrs now).peers.get key =
      if key = TextCodec.toStr peer then
        some ⟨Fifo.pushAll maxAddrsPerPeer (store.addrsOf peer) (addrs.map TextCodec.toStr), now⟩
      else store.peers.get key := by
  have folded (record : PeerRecord) :
      addrs.foldl (fun record addr => record.addAddr (TextCodec.toStr addr)) record =
        (addrs.map TextCodec.toStr).foldl PeerRecord.addAddr record :=
    List.foldl_map.symm
  rw [record, HashMap.get_insert]
  split_ifs
  · rw [folded, PeerRecord.foldl_addAddr, addrsOf]
    cases store.peers.get (TextCodec.toStr peer) <;> rfl
  · rfl

theorem addrsOf_record (store : PeerStore) (peer : PeerId) (addrs : List (Multiaddr PeerId))
    (now : Nat) : (store.record peer addrs now).addrsOf peer =
      Fifo.pushAll maxAddrsPerPeer (store.addrsOf peer) (addrs.map TextCodec.toStr) := by
  rw [addrsOf, get_record, if_pos rfl]
  rfl

end PeerStore

/-! ## The calls there were -/

namespace RecordCall

variable [DecidableEq PeerId]

def lastAddr (calls : List (RecordCall PeerId)) (peer : PeerId) : Option (Multiaddr PeerId) :=
  ((calls.filter fun call => call.peer = peer ∧ call.addrs ≠ []).getLast?).bind (·.addrs.getLast?)

variable {calls : List (RecordCall PeerId)} {call : RecordCall PeerId} {peer : PeerId}

omit [TextCodec PeerId] [TextCodec (Multiaddr PeerId)]

theorem recordedFor_append (calls : List (RecordCall PeerId)) (call : RecordCall PeerId)
    (peer : PeerId) : recordedFor (calls ++ [call]) peer =
      recordedFor calls peer ++ if call.peer = peer then call.addrs else [] := by
  unfold recordedFor
  rw [List.filter_append, List.flatMap_append]
  by_cases same : call.peer = peer <;> simp [same]

theorem lastSeen_append (calls : List (RecordCall PeerId)) (call : RecordCall PeerId)
    (peer : PeerId) : lastSeen (calls ++ [call]) peer =
      if call.peer = peer then some call.now else lastSeen calls peer := by
  unfold lastSeen
  rw [List.filter_append]
  by_cases same : call.peer = peer <;> simp [same]

theorem lastAddr_eq (calls : List (RecordCall PeerId)) (peer : PeerId) :
    lastAddr calls peer = (recordedFor calls peer).getLast? := by
  induction calls using List.reverseRecOn with
  | nil => rfl
  | append_singleton calls call ih =>
      rw [recordedFor_append, List.getLast?_append, ← ih]
      unfold lastAddr
      rw [List.filter_append, List.getLast?_append]
      by_cases same : call.peer = peer
      · cases addrs : call.addrs.getLast? with
        | none =>
            have empty := List.getLast?_eq_none_iff.mp addrs
            simp [same, empty]
        | some addr =>
            have filled : call.addrs ≠ [] := by
              intro empty
              rw [empty] at addrs
              cases addrs
            simp [same, filled, addrs]
      · simp [same]

theorem recordedFor_of_lastSeen (never : lastSeen calls peer = none) : recordedFor calls peer = [] := by
  unfold lastSeen at never
  rw [Option.map_eq_none_iff, List.getLast?_eq_none_iff] at never
  rw [recordedFor, never, List.flatMap_nil]

theorem mem_of_lastSeen {seen : Nat} (called : lastSeen calls peer = some seen) :
    ∃ call ∈ calls, call.peer = peer := by
  obtain ⟨call, last, _⟩ := Option.map_eq_some_iff.mp called
  have member := List.mem_of_getLast? last
  rw [List.mem_filter, decide_eq_true_iff] at member
  exact ⟨call, member⟩

theorem mem_recordedFor {addr : Multiaddr PeerId} (recorded : addr ∈ recordedFor calls peer) :
    ∃ call ∈ calls, addr ∈ call.addrs := by
  obtain ⟨call, member, listed⟩ := List.mem_flatMap.mp recorded
  exact ⟨call, List.mem_of_mem_filter member, listed⟩

end RecordCall

/-! ## The store as a function of the calls -/

structure Remembers [DecidableEq PeerId] (store : PeerStore) (calls : List (RecordCall PeerId)) :
    Prop where
  printable : ∀ call ∈ calls,
    TextCodec.RoundTrips call.peer ∧ ∀ addr ∈ call.addrs, TextCodec.RoundTrips addr
  known : ∀ key record, store.peers.get key = some record →
    ∃ call ∈ calls, key = TextCodec.toStr call.peer
  record : ∀ peer : PeerId, TextCodec.RoundTrips peer → store.peers.get (TextCodec.toStr peer) =
    (RecordCall.lastSeen calls peer).map fun seen => ⟨Fifo.pushAll maxAddrsPerPeer []
      ((RecordCall.recordedFor calls peer).map TextCodec.toStr), seen⟩

namespace Remembers

variable [DecidableEq PeerId] {store : PeerStore} {calls : List (RecordCall PeerId)}

theorem start : Remembers .default ([] : List (RecordCall PeerId)) where
  printable call member := by cases member
  known key record found := by simp [PeerStore.default] at found
  record peer _ := by simp [PeerStore.default, RecordCall.lastSeen]

theorem addrsOf (remembers : Remembers store calls) {peer : PeerId}
    (prints : TextCodec.RoundTrips peer) : store.addrsOf peer =
      Fifo.pushAll maxAddrsPerPeer [] ((RecordCall.recordedFor calls peer).map TextCodec.toStr) := by
  rw [PeerStore.addrsOf, remembers.record peer prints]
  cases called : RecordCall.lastSeen calls peer with
  | none => rw [RecordCall.recordedFor_of_lastSeen called]; rfl
  | some seen => rfl

theorem next (remembers : Remembers store calls) {call : RecordCall PeerId}
    (prints : TextCodec.RoundTrips call.peer ∧ ∀ addr ∈ call.addrs, TextCodec.RoundTrips addr) :
    Remembers (store.record call.peer call.addrs call.now) (calls ++ [call]) where
  printable := by
    intro other member
    rcases List.mem_append.mp member with old | new
    · exact remembers.printable other old
    · exact List.mem_singleton.mp new ▸ prints
  known := by
    intro key record found
    rw [PeerStore.get_record] at found
    split_ifs at found with same
    · exact ⟨call, List.mem_append_right _ (List.mem_singleton_self call), same⟩
    · obtain ⟨other, member, named⟩ := remembers.known key record found
      exact ⟨other, List.mem_append_left _ member, named⟩
  record := by
    intro peer printable
    rw [PeerStore.get_record, RecordCall.lastSeen_append, RecordCall.recordedFor_append]
    by_cases same : call.peer = peer
    · subst same
      rw [if_pos rfl, if_pos rfl, if_pos rfl, remembers.addrsOf prints.1, List.map_append,
        Fifo.pushAll_append]
      rfl
    · have other : TextCodec.toStr peer ≠ TextCodec.toStr call.peer :=
        fun text => same (printable.inj prints.1 text).symm
      rw [if_neg other, if_neg same, if_neg same, List.append_nil]
      exact remembers.record peer printable

end Remembers

/-! ## Candidates -/

namespace PeerStore

def paired (peer : PeerId) (addrs : List (Multiaddr PeerId)) : Multiset (PeerId × Multiaddr PeerId) :=
  addrs.map fun addr => (peer, addr)

omit [TextCodec PeerId] [TextCodec (Multiaddr PeerId)] in
theorem fst_of_mem_paired {peer : PeerId} {addrs : List (Multiaddr PeerId)}
    {candidate : PeerId × Multiaddr PeerId} (member : candidate ∈ paired peer addrs) :
    candidate.1 = peer := by
  obtain ⟨addr, _, rfl⟩ := List.mem_map.mp (Multiset.mem_coe.mp member)
  rfl

def entryCandidates (maxAgeSecs nowUnix : Nat) (entry : String × PeerRecord) :
    Multiset (PeerId × Multiaddr PeerId) :=
  if maxAgeSecs < nowUnix - entry.2.lastSeenUnix then 0
  else
    match (TextCodec.fromStr entry.1 : Option PeerId) with
    | none => 0
    | some peerId => paired peerId (entry.2.addrs.filterMap TextCodec.fromStr)

theorem dialCandidates_eq (store : PeerStore) (maxAge now : Nat) :
    (store.dialCandidates maxAge now : Multiset (PeerId × Multiaddr PeerId)) =
      store.peers.iter.bind (entryCandidates maxAge now) := rfl

theorem entryCandidates_of_named {peer : PeerId} {key : String}
    (named : TextCodec.fromStr key = some peer) (record : PeerRecord) (maxAge now : Nat) :
    (entryCandidates maxAge now (key, record) : Multiset (PeerId × Multiaddr PeerId)) =
      if maxAge < now - record.lastSeenUnix then 0
      else paired peer (record.addrs.filterMap TextCodec.fromStr) := by
  rw [entryCandidates, named]

theorem fst_of_mem_entryCandidates {peer : PeerId} {key : String}
    (named : TextCodec.fromStr key = some peer) {record : PeerRecord} {maxAge now : Nat}
    {candidate : PeerId × Multiaddr PeerId}
    (member : candidate ∈ entryCandidates maxAge now (key, record)) : candidate.1 = peer := by
  rw [entryCandidates_of_named named] at member
  split_ifs at member
  · simp at member
  · exact fst_of_mem_paired member

end PeerStore

namespace Remembers

variable [DecidableEq PeerId] {store : PeerStore} {calls : List (RecordCall PeerId)}

theorem named (remembers : Remembers store calls) {key : String} {record : PeerRecord}
    (found : store.peers.get key = some record) :
    ∃ peer : PeerId, TextCodec.RoundTrips peer ∧ key = TextCodec.toStr peer := by
  obtain ⟨call, member, same⟩ := remembers.known key record found
  exact ⟨call.peer, (remembers.printable call member).1, same⟩

theorem printable_recordedFor (remembers : Remembers store calls) {peer : PeerId}
    {addr : Multiaddr PeerId} (recorded : addr ∈ RecordCall.recordedFor calls peer) :
    TextCodec.RoundTrips addr := by
  obtain ⟨call, member, listed⟩ := RecordCall.mem_recordedFor recorded
  exact (remembers.printable call member).2 addr listed

omit [TextCodec PeerId] [TextCodec (Multiaddr PeerId)] in
theorem holds (calls : List (RecordCall PeerId)) (peer : PeerId) :
    Fifo.Holds maxAddrsPerPeer (RecordCall.recordedFor calls peer).toFinset
      (Fifo.pushAll maxAddrsPerPeer [] (RecordCall.recordedFor calls peer)) := by
  have holds := (Fifo.Holds.nil maxAddrsPerPeer).pushAll (RecordCall.recordedFor calls peer)
  rw [Finset.empty_union] at holds
  exact holds

theorem filterMap_addrs (remembers : Remembers store calls) (peer : PeerId) :
    (Fifo.pushAll maxAddrsPerPeer []
      ((RecordCall.recordedFor calls peer).map TextCodec.toStr)).filterMap TextCodec.fromStr =
      Fifo.pushAll maxAddrsPerPeer [] (RecordCall.recordedFor calls peer) := by
  have distinct : ∀ x ∈ [] ++ RecordCall.recordedFor calls peer,
      ∀ addr ∈ RecordCall.recordedFor calls peer, TextCodec.toStr x = TextCodec.toStr addr →
        x = addr :=
    fun x first addr second same => (remembers.printable_recordedFor first).inj
      (remembers.printable_recordedFor second) same
  have texts : Fifo.pushAll maxAddrsPerPeer ([].map TextCodec.toStr)
      ((RecordCall.recordedFor calls peer).map TextCodec.toStr) =
        (Fifo.pushAll maxAddrsPerPeer [] (RecordCall.recordedFor calls peer)).map TextCodec.toStr :=
    Fifo.pushAll_map distinct
  rw [List.map_nil] at texts
  rw [texts, List.filterMap_map]
  have reads : ∀ addr ∈ Fifo.pushAll maxAddrsPerPeer [] (RecordCall.recordedFor calls peer),
      (TextCodec.fromStr ∘ TextCodec.toStr) addr = some addr := by
    intro addr member
    have recorded := List.mem_toFinset.mp ((holds calls peer).subset addr member)
    exact remembers.printable_recordedFor recorded
  rw [List.filterMap_congr reads, List.filterMap_some]

theorem candidates_filter (remembers : Remembers store calls) (maxAge now : Nat) (peer : PeerId) :
    (store.dialCandidates maxAge now).filter (·.1 = peer) =
      match RecordCall.lastSeen calls peer with
      | none => 0
      | some seen =>
          if maxAge < now - seen then 0
          else PeerStore.paired peer
            (Fifo.pushAll maxAddrsPerPeer [] (RecordCall.recordedFor calls peer)) := by
  have other (key : String) (record : PeerRecord) (found : store.peers.get key = some record)
      (differs : ∀ q : PeerId, TextCodec.RoundTrips q → key = TextCodec.toStr q → q ≠ peer) :
      (PeerStore.entryCandidates maxAge now (key, record)).filter (·.1 = peer) = 0 := by
    obtain ⟨q, prints, rfl⟩ := remembers.named found
    refine Multiset.filter_eq_nil.mpr fun candidate member same => ?_
    rw [PeerStore.fst_of_mem_entryCandidates prints member] at same
    exact differs q prints rfl same
  rw [PeerStore.dialCandidates_eq, Multiset.filter_bind, HashMap.bind_iter (k := TextCodec.toStr peer)]
  · by_cases prints : TextCodec.RoundTrips peer
    · rw [remembers.record peer prints]
      cases RecordCall.lastSeen calls peer with
      | none => rfl
      | some seen =>
          rw [Option.map_some, Option.map_some, Option.getD_some,
            PeerStore.entryCandidates_of_named prints, remembers.filterMap_addrs]
          refine Multiset.filter_eq_self.mpr fun candidate member => ?_
          split_ifs at member
          · simp at member
          · exact PeerStore.fst_of_mem_paired member
    · have never : RecordCall.lastSeen calls peer = none := by
        by_contra called
        obtain ⟨seen, called⟩ := Option.ne_none_iff_exists'.mp called
        obtain ⟨call, member, rfl⟩ := RecordCall.mem_of_lastSeen called
        exact prints (remembers.printable call member).1
      rw [never]
      cases found : store.peers.get (TextCodec.toStr peer) with
      | none => rfl
      | some record =>
          refine other _ record found fun q named _ same => ?_
          exact prints (same ▸ named)
  · intro key record found differs
    refine other key record found fun q prints named same => ?_
    rw [named, same] at differs
    exact differs rfl

theorem card_candidates (remembers : Remembers store calls) {maxAge now seen : Nat} {peer : PeerId}
    (called : RecordCall.lastSeen calls peer = some seen) (recent : now - seen ≤ maxAge) :
    ((store.dialCandidates maxAge now).filter (·.1 = peer)).card =
      min (RecordCall.recordedFor calls peer).toFinset.card maxAddrsPerPeer := by
  rw [remembers.candidates_filter, called]
  dsimp only
  rw [if_neg (not_lt.mpr recent), PeerStore.paired, Multiset.coe_card, List.length_map]
  exact (holds calls peer).length

theorem mem_candidates (remembers : Remembers store calls) {maxAge now : Nat} {peer : PeerId}
    {addr : Multiaddr PeerId} : (peer, addr) ∈ store.dialCandidates maxAge now ↔
      ∃ seen, RecordCall.lastSeen calls peer = some seen ∧ now - seen ≤ maxAge ∧
        addr ∈ Fifo.pushAll maxAddrsPerPeer [] (RecordCall.recordedFor calls peer) := by
  have mine : (peer, addr) ∈ store.dialCandidates maxAge now ↔
      (peer, addr) ∈ (store.dialCandidates maxAge now).filter (·.1 = peer) := by
    simp [Multiset.mem_filter]
  rw [mine, remembers.candidates_filter]
  cases RecordCall.lastSeen calls peer with
  | none => simp
  | some seen =>
      dsimp only
      by_cases stale : maxAge < now - seen
      · rw [if_pos stale]
        constructor
        · intro member
          simp at member
        · rintro ⟨_, same, recent, _⟩
          cases same
          exact absurd stale (not_lt.mpr recent)
      · rw [if_neg stale, PeerStore.paired, Multiset.mem_coe, List.mem_map]
        constructor
        · rintro ⟨_, member, same⟩
          cases same
          exact ⟨seen, rfl, not_lt.mp stale, member⟩
        · rintro ⟨_, _, _, member⟩
          exact ⟨addr, member, rfl⟩

theorem nodup_candidates (remembers : Remembers store calls) (maxAge now : Nat) :
    (store.dialCandidates maxAge now : Multiset (PeerId × Multiaddr PeerId)).Nodup := by
  refine Multiset.nodup_iff_count_le_one.mpr fun ⟨peer, addr⟩ => ?_
  have mine : (store.dialCandidates maxAge now).count (peer, addr) =
      ((store.dialCandidates maxAge now).filter (·.1 = peer)).count (peer, addr) :=
    by rw [Multiset.count_filter, if_pos rfl]
  have once : ((store.dialCandidates maxAge now).filter (·.1 = peer)).Nodup := by
    rw [remembers.candidates_filter]
    cases RecordCall.lastSeen calls peer with
    | none => exact Multiset.nodup_zero
    | some seen =>
        dsimp only
        split_ifs
        · exact Multiset.nodup_zero
        · exact (holds calls peer).nodup.map fun _ _ same => (Prod.mk.inj same).2
  rw [mine]
  exact Multiset.nodup_iff_count_le_one.mp once _

end Remembers

/-! ## What the store returns -/

section

variable [JsonCodec] [DecidableEq PeerId]

theorem remembers_reachable {state : StoredPeers × List (RecordCall PeerId)}
    (reachable : (recordedStore PeerId).Reachable state) : Remembers state.1.store state.2 := by
  induction reachable with
  | initial first =>
      rw [first.1, first.2]
      exact .start
  | @next state label _ enabled ih =>
      have store := state.1.next_store label enabled.1
      change Remembers (state.1.next label).store (recordCall state.1 label state.2)
      rw [store]
      cases label with
      | record call => exact ih.next enabled.2
      | flush fate => exact ih
      | restart => exact ih

/--
The candidates are what was recorded. No pair occurs twice, and every address was recorded for its
peer, of which there are at most eight. A peer whose last record is too old has none; otherwise it
has all the addresses ever recorded for it, up to eight, and among them the last one. A record
changes nothing for other peers.
-/
theorem candidates_exact {state : StoredPeers × List (RecordCall PeerId)}
    (reachable : (recordedStore PeerId).Reachable state) (maxAge now : Nat) :
    let found := state.1.store.dialCandidates maxAge now
    found.Nodup ∧
    (∀ peer addr, (peer, addr) ∈ found → addr ∈ RecordCall.recordedFor state.2 peer) ∧
    (∀ peer : PeerId, (found.filter (·.1 = peer)).card ≤ maxAddrsPerPeer) ∧
    (∀ peer seen, RecordCall.lastSeen state.2 peer = some seen →
      (maxAge < now - seen → ∀ addr, (peer, addr) ∉ found) ∧
      (now - seen ≤ maxAge →
        (found.filter (·.1 = peer)).card =
            min (RecordCall.recordedFor state.2 peer).toFinset.card maxAddrsPerPeer ∧
        ((RecordCall.recordedFor state.2 peer).toFinset.card ≤ maxAddrsPerPeer →
          ∀ addr ∈ RecordCall.recordedFor state.2 peer, (peer, addr) ∈ found) ∧
        ∀ addr, RecordCall.lastAddr state.2 peer = some addr → (peer, addr) ∈ found)) ∧
    ∀ call : RecordCall PeerId, (StoreLabel.record call).Printable → ∀ peer, peer ≠ call.peer →
      ((state.1.store.record call.peer call.addrs call.now).dialCandidates maxAge now).filter
          (·.1 = peer) = found.filter (·.1 = peer) := by
  have remembers := remembers_reachable reachable
  have holds (peer : PeerId) := Remembers.holds state.2 peer
  refine ⟨remembers.nodup_candidates maxAge now, fun peer addr member => ?_, fun peer => ?_,
    fun peer seen called => ⟨fun stale addr member => ?_, fun recent => ⟨?_, fun few addr recorded => ?_,
      fun addr last => ?_⟩⟩, fun call prints peer other => ?_⟩
  · obtain ⟨_, _, _, held⟩ := remembers.mem_candidates.mp member
    exact List.mem_toFinset.mp ((holds peer).subset addr held)
  · rw [remembers.candidates_filter]
    cases RecordCall.lastSeen state.2 peer with
    | none => exact Nat.zero_le _
    | some seen =>
        dsimp only
        split_ifs
        · exact Nat.zero_le _
        · rw [PeerStore.paired, Multiset.coe_card, List.length_map]
          exact (holds peer).bounded
  · obtain ⟨_, same, recent, _⟩ := remembers.mem_candidates.mp member
    rw [called] at same
    cases same
    exact absurd stale (not_lt.mpr recent)
  · exact remembers.card_candidates called recent
  · refine remembers.mem_candidates.mpr ⟨seen, called, recent, ?_⟩
    rw [← List.mem_toFinset, (holds peer).toFinset_eq few]
    exact List.mem_toFinset.mpr recorded
  · rw [RecordCall.lastAddr_eq] at last
    exact remembers.mem_candidates.mpr
      ⟨seen, called, recent, Fifo.mem_pushAll_last (by decide) last⟩
  · have same : call.peer ≠ peer := Ne.symm other
    rw [(remembers.next prints).candidates_filter, remembers.candidates_filter,
      RecordCall.lastSeen_append, RecordCall.recordedFor_append, if_neg same, if_neg same,
      List.append_nil]

end

section

open Sample

theorem candidates_exact_restart :
    let state := (recordedStore Peer).after (emptyStore, [])
      [recorded .alice [addr 10 0 0 1] 1000, .restart, recorded .bob [addr 10 0 0 2] 1500]
    (.alice, addr 10 0 0 1) ∈ state.1.store.dialCandidates 3600 2000 ∧
      ((state.1.store.dialCandidates 3600 2000).filter (·.1 = Peer.bob)).card = 1 := by
  have alice_prints : (recorded .alice [addr 10 0 0 1] 1000).Printable :=
    ⟨rfl, fun _ listed => List.mem_singleton.mp listed ▸ rfl⟩
  have bob_prints : (recorded .bob [addr 10 0 0 2] 1500).Printable :=
    ⟨rfl, fun _ listed => List.mem_singleton.mp listed ▸ rfl⟩
  have legal : ((storeSystem Peer).restrict fun _ label => label.Printable).Legal emptyStore
      [recorded .alice [addr 10 0 0 1] 1000, .restart, recorded .bob [addr 10 0 0 2] 1500] :=
    ⟨⟨trivial, alice_prints⟩, ⟨⟨knownAlice_roundTrips, knownAlice_saved ∅⟩, trivial⟩,
      ⟨trivial, bob_prints⟩, trivial⟩
  intro state
  have reachable : (recordedStore Peer).Reachable state :=
    .after (.initial ⟨rfl, rfl⟩) (legal.withHistory [])
  have calls : state.2 = [⟨.alice, [addr 10 0 0 1], 1000⟩, ⟨.bob, [addr 10 0 0 2], 1500⟩] := rfl
  -- the proof reads the calls only, and never runs the file that the restart loads
  clear_value state
  obtain ⟨_, _, _, found, _⟩ := candidates_exact reachable 3600 2000
  rw [calls] at found
  have alice := (found .alice 1000 (by decide)).2 (by decide)
  have bob := (found .bob 1500 (by decide)).2 (by decide)
  exact ⟨alice.2.1 (by decide) _ (by decide), bob.1.trans (by decide)⟩

end

/-! ## What a record call keeps -/

section

variable [JsonCodec]

theorem length_addrsOf_le {state : StoredPeers} (reachable : (storeSystem PeerId).Reachable state)
    (peer : PeerId) : (state.store.addrsOf peer).length ≤ maxAddrsPerPeer := by
  have bounded : ∀ key record, state.store.peers.get key = some record →
      record.addrs.length ≤ maxAddrsPerPeer := by
    induction reachable with
    | initial first =>
        intro key record found
        rw [first] at found
        simp [PeerStore.default] at found
    | @next state label _ enabled ih =>
        intro key record found
        change (state.next label).store.peers.get key = some record at found
        rw [state.next_store label enabled] at found
        cases label with
        | record call =>
            dsimp only at found
            rw [PeerStore.get_record] at found
            split_ifs at found
            · cases found
              apply Fifo.length_pushAll_le
              rw [PeerStore.addrsOf]
              cases old : state.store.peers.get (TextCodec.toStr call.peer) with
              | none => exact Nat.zero_le _
              | some previous => exact ih _ previous old
            · exact ih key record found
        | flush fate => exact ih key record found
        | restart => exact ih key record found
  rw [PeerStore.addrsOf]
  cases found : state.store.peers.get (TextCodec.toStr peer) with
  | none => exact Nat.zero_le _
  | some record => exact bounded _ record found

/--
A call of at most eight distinct addresses stores each that was not stored before, and keeps
everything when there is room for all of it. It can push out an address that it mentions itself, but
only one of the oldest: the others of the call must leave no room behind it.
-/
theorem record_keeps [DecidableEq PeerId] {state : StoredPeers}
    (reachable : (storeSystem PeerId).Reachable state) (peer : PeerId)
    (addrs : List (Multiaddr PeerId)) (now : Nat) (few : addrs.toFinset.card ≤ maxAddrsPerPeer) :
    let texts := addrs.map TextCodec.toStr
    let before := state.store.addrsOf peer
    let after := (state.store.record peer addrs now).addrsOf peer
    (∀ text ∈ texts, text ∉ before → text ∈ after) ∧
    (before.length + (texts.toFinset \ before.toFinset).card ≤ maxAddrsPerPeer →
      ∀ text, text ∈ before ∨ text ∈ texts → text ∈ after) ∧
    ∀ i text, before[i]? = some text → text ∈ texts → text ∉ after →
      i + maxAddrsPerPeer < before.length + (texts.toFinset.erase text).card := by
  intro texts before after
  have few_texts : texts.toFinset.card ≤ maxAddrsPerPeer := by
    have image : texts.toFinset = addrs.toFinset.image TextCodec.toStr := by
      ext text
      simp [texts]
    rw [image]
    exact Finset.card_image_le.trans few
  have after_eq : after = Fifo.pushAll maxAddrsPerPeer before texts :=
    state.store.addrsOf_record peer addrs now
  obtain ⟨added, nodup, from_call, complete, held⟩ :=
    Fifo.pushAll_eq_drop (length_addrsOf_le reachable peer) few_texts
  have after_held : after = before.drop (before.length + added.length - maxAddrsPerPeer) ++ added :=
    after_eq.trans held
  refine ⟨fun text mentioned new => ?_, fun room text member => ?_, fun i text place _ lost => ?_⟩
  · rw [after_held]
    exact List.mem_append_right _ (complete text mentioned new)
  · rw [after_eq]
    exact Fifo.subset_pushAll room text member
  · rw [after_held, List.mem_append, not_or] at lost
    have others : added.length ≤ (texts.toFinset.erase text).card := by
      rw [← List.toFinset_card_of_nodup nodup]
      refine Finset.card_le_card fun other member => ?_
      rw [List.mem_toFinset] at member
      refine Finset.mem_erase.mpr ⟨?_, List.mem_toFinset.mpr (from_call other member)⟩
      rintro rfl
      exact lost.2 member
    have pushed_out : i < before.length + added.length - maxAddrsPerPeer := by
      by_contra stays
      refine lost.1 (List.mem_iff_getElem?.mpr
        ⟨i - (before.length + added.length - maxAddrsPerPeer), ?_⟩)
      rw [List.getElem?_drop, Nat.add_sub_cancel' (not_lt.mp stays)]
      exact place
    omega

end

section

open Sample

def fullOfAlice : StoredPeers :=
  (storeSystem Peer).after emptyStore
    [recorded .alice ((List.range 8).map fun i => addr 10 0 0 (UInt8.ofNat (i + 1))) 1000]

theorem fullOfAlice_reachable : (storeSystem Peer).Reachable fullOfAlice :=
  .after (.initial rfl) ⟨trivial, trivial⟩

theorem record_keeps_new_address :
    TextCodec.toStr (addr 10 0 0 9) ∈ (fullOfAlice.store.record Peer.alice
      [addr 10 0 0 1, addr 10 0 0 9] 2000).addrsOf Peer.alice :=
  (record_keeps fullOfAlice_reachable .alice [addr 10 0 0 1, addr 10 0 0 9] 2000 (by decide)).1 _
    (by decide) (by decide)

/-- Alice advertises her oldest address and a new one, and the new one pushes the oldest out. -/
theorem record_loses_known_address :
    ¬ ∀ state (peer : Peer) addrs now, (storeSystem Peer).Reachable state →
      addrs.toFinset.card ≤ maxAddrsPerPeer → ∀ address ∈ addrs,
        TextCodec.toStr address ∈ (state.store.record peer addrs now).addrsOf peer := by
  intro kept
  have first := kept fullOfAlice .alice [addr 10 0 0 1, addr 10 0 0 9] 2000 fullOfAlice_reachable
    (by decide) (addr 10 0 0 1) (by decide)
  exact absurd first (by decide)

end

end P2pService
