import P2pService.Proof.Limits.Watermark
import P2pService.World.Refill

/-!
# Connections opened in a row

Nothing but new peers changes the number of connected peers, so whether the loop disconnects one of
them is a matter of counting.
-/

namespace P2pService
open Library

variable {PeerId : Type} [DecidableEq PeerId]

/-- Each peer in turn is protected, or fits under the watermark beside those before it. -/
def Fits (highWater : Nat) (protectedPeers : Finset PeerId) : Finset PeerId → List PeerId → Prop
  | _, [] => True
  | connected, peer :: peers =>
      (peer ∈ protectedPeers ∨ (insert peer connected).card ≤ highWater) ∧
        Fits highWater protectedPeers (insert peer connected) peers

namespace Fits

variable {highWater : Nat} {protectedPeers connected : Finset PeerId} {peers : List PeerId}

theorem of_protected (all : ∀ peer ∈ peers, peer ∈ protectedPeers) :
    Fits highWater protectedPeers connected peers := by
  induction peers generalizing connected with
  | nil => trivial
  | cons peer peers ih =>
      rw [List.forall_mem_cons] at all
      exact ⟨.inl all.1, ih all.2⟩

theorem of_card_add_length_le (room : connected.card + peers.length ≤ highWater) :
    Fits highWater protectedPeers connected peers := by
  induction peers generalizing connected with
  | nil => trivial
  | cons peer peers ih =>
      have grown := Finset.card_insert_le peer connected
      rw [List.length_cons] at room
      exact ⟨.inr (by omega), ih (by omega)⟩

theorem card_le_of_last {peer : PeerId} (fits : Fits highWater protectedPeers connected (peers ++ [peer]))
    (distinct : (peers ++ [peer]).Nodup) (new : ∀ q ∈ peers ++ [peer], q ∉ connected)
    (unprotected : peer ∉ protectedPeers) : connected.card + (peers.length + 1) ≤ highWater := by
  induction peers generalizing connected with
  | nil =>
      have fits_one := fits.1.resolve_left unprotected
      rw [Finset.card_insert_of_notMem (new peer List.mem_cons_self)] at fits_one
      exact fits_one
  | cons first peers ih =>
      rw [List.cons_append, List.nodup_cons] at distinct
      rw [List.cons_append, List.forall_mem_cons] at new
      have rest := ih fits.2 distinct.2 fun q member => by
        rw [Finset.mem_insert, not_or]
        exact ⟨fun same => distinct.1 (same ▸ member), new.2 q member⟩
      rw [Finset.card_insert_of_notMem new.1] at rest
      rw [List.length_cons]
      omega

end Fits

namespace Label

omit [DecidableEq PeerId] in
theorem openings_cons (label : Label PeerId) (labels : List (Label PeerId)) :
    openings (label :: labels) = label.opening?.toList ++ openings labels := by
  unfold openings
  cases opening : label.opening? with
  | none => exact List.filterMap_cons_none opening
  | some opened => exact List.filterMap_cons_some opening

omit [DecidableEq PeerId] in
theorem opening?_of_quiet {label : Label PeerId} (quiet : label.quiet) : label.opening? = none := by
  cases label with
  | event now event => cases event <;> first | rfl | cases quiet
  | command | behaviourDial | forgetScore => rfl

end Label

variable [TextCodec PeerId] [TextCodec (Multiaddr PeerId)]

namespace World

theorem spares_of_quiet (world : World PeerId) {label : Label PeerId} (quiet : label.quiet) :
    world.Spares label := by
  cases label with
  | event now event => cases event <;> first | cases quiet; done | trivial
  | command | behaviourDial | forgetScore => trivial

omit [TextCodec PeerId] [TextCodec (Multiaddr PeerId)] in
theorem Established.peers {before after : World PeerId} {peer : PeerId} {endpoint : Endpoint PeerId}
    {id : ConnectionId} (step : Established before after peer endpoint id) :
    after.swarm.peers = insert peer before.swarm.peers := by
  rw [Swarm.peers, step.connections, Finset.image_insert]
  rfl

end World

theorem Tabled.spares_iff {world : World PeerId} (tabled : Tabled world) (now : Nat) (peer : PeerId)
    (endpoint : Endpoint PeerId) (id : ConnectionId) :
    world.Spares (.event now (.connectionEstablished peer endpoint id)) ↔
      peer ∈ world.loop.protectedPeers ∨
        (insert peer world.swarm.peers).card ≤ world.loop.settings.highWater := by
  constructor
  · intro spares
    by_contra exposed
    rw [not_or, not_le] at exposed
    exact spares peer ((tabled.disconnects_iff now peer peer endpoint id).mpr ⟨rfl, exposed⟩)
  · rintro safe q disconnected
    obtain ⟨_, unprotected, exceeds⟩ := (tabled.disconnects_iff now peer q endpoint id).mp disconnected
    exact safe.elim unprotected (not_le.mpr exceeds)

theorem Tabled.spares_run_iff {world : World PeerId} (tabled : Tabled world)
    {labels : List (Label PeerId)} (legal : (networkSystem PeerId).Legal world labels)
    (steady : ∀ label ∈ labels, label.steady) :
    (networkSystem PeerId).EachStep World.Spares world labels ↔
      Fits world.loop.settings.highWater world.loop.protectedPeers world.swarm.peers
        ((Label.openings labels).map Prod.fst) := by
  induction labels generalizing world with
  | nil => exact Iff.rfl
  | cons label labels ih =>
      obtain ⟨matched, later⟩ := legal
      rw [List.forall_mem_cons] at steady
      have rest := ih (tabled.next matched) later steady.2
      rw [(world.next_setup label).settings] at rest
      cases World.step matched with
      | established now peer endpoint id step =>
          rw [step.protectedPeers, step.peers] at rest
          exact and_congr (tabled.spares_iff now peer endpoint id) rest
      | closed => cases steady.1
      | installed => cases steady.1
      | quiet _ quiet step =>
          have peers : (world.next label).swarm.peers = world.swarm.peers :=
            congrArg (Finset.image _) step.connections
          rw [step.protectedPeers, peers] at rest
          rw [Label.openings_cons, Label.opening?_of_quiet quiet]
          exact (and_iff_right (world.spares_of_quiet quiet)).trans rest

end P2pService
