import P2pService.Proof.Limits.Reference
import P2pService.Proof.Protection

/-!
# The connections the limits leave open

Limits are applied to a connection when it is established, to a peer that is not protected then.
They hold for good of the connections they were applied to. Of the peers that are unprotected now
they hold until a request drops more connected peers than the limits have room for.
-/

namespace P2pService
open Library

variable {PeerId : Type} [DecidableEq PeerId]

/-- The connections are within the limits: as connections of that many peers, and in each subnet. -/
structure WithinLimits (settings : NetworkSettings) (connections : Finset (Connection PeerId)) :
    Prop where
  peers : (connections.image (·.peer)).card ≤ settings.highWater
  subnets : ∀ s, (connections.filter (·.subnet = some s)).card ≤ settings.perSubnetCap

theorem WithinLimits.mono {settings : NetworkSettings} {fewer more : Finset (Connection PeerId)}
    (within : WithinLimits settings more) (subset : fewer ⊆ more) : WithinLimits settings fewer where
  peers := (Finset.card_le_card (Finset.image_subset_image subset)).trans within.peers
  subnets s := (Finset.card_le_card (Finset.filter_subset_filter _ subset)).trans (within.subnets s)

def World.unprotected (world : World PeerId) : Finset (Connection PeerId) :=
  world.swarm.kept.filter (·.peer ∉ world.loop.protectedPeers)

def LimitsHold (world : World PeerId) : Prop :=
  WithinLimits world.loop.settings world.unprotected

/-- A preferred set is installed only when the connections it leaves unprotected are within the
limits. -/
def DropsWithinLimits (world : World PeerId) : Label PeerId → Prop
  | .command _ (.setPreferredPeers peers _) =>
      WithinLimits world.loop.settings (world.swarm.kept.filter
        (·.peer ∉ world.loop.bootstrapPeers ∪ world.loop.acceptedSet peers))
  | _ => True

def recordLimited (world : World PeerId) :
    Label PeerId → Finset (Connection PeerId) → Finset (Connection PeerId)
  | .event _ (.connectionEstablished peer endpoint id), limited =>
      if peer ∈ world.loop.protectedPeers then limited
      else insert ⟨id, peer, endpoint.getRemoteAddress⟩ limited
  | _, limited => limited

namespace World

variable {before after : World PeerId} {peer : PeerId} {endpoint : Endpoint PeerId}
  {id : ConnectionId}

theorem mem_refused (world : World PeerId) : ⟨id, peer, endpoint.getRemoteAddress⟩ ∈
      world.refused peer endpoint id ↔ peer ∉ world.loop.protectedPeers ∧
        (world.loop.settings.highWater < (world.loop.tabled peer endpoint.getRemoteAddress).len ∨
          world.loop.subnetLimits.Full endpoint.getRemoteAddress) := by
  unfold refused
  split_ifs <;> simp_all

theorem Established.kept_subset (step : Established before after peer endpoint id) :
    after.swarm.kept ⊆ insert ⟨id, peer, endpoint.getRemoteAddress⟩ before.swarm.kept := by
  intro connection member
  rw [Swarm.kept, step.connections, step.closing, Finset.mem_sdiff, Finset.mem_union, not_or] at member
  obtain ⟨opened, still, _⟩ := member
  rcases Finset.mem_insert.mp opened with rfl | old
  · exact Finset.mem_insert_self _ _
  · exact Finset.mem_insert_of_mem (Finset.mem_sdiff.mpr ⟨old, still⟩)

theorem Established.room (step : Established before after peer endpoint id)
    (limited : peer ∉ before.loop.protectedPeers)
    (kept : ⟨id, peer, endpoint.getRemoteAddress⟩ ∈ after.swarm.kept) :
    (before.loop.tabled peer endpoint.getRemoteAddress).len ≤ before.loop.settings.highWater ∧
      ¬ before.loop.subnetLimits.Full endpoint.getRemoteAddress := by
  rw [Swarm.kept, step.closing, Finset.mem_sdiff, Finset.mem_union, not_or] at kept
  have allowed := mt before.mem_refused.mpr kept.2.2
  rw [not_and, not_or, not_lt] at allowed
  exact allowed limited

end World

theorem WithinLimits.of_established {before after : World PeerId} {peer : PeerId}
    {endpoint : Endpoint PeerId} {id : ConnectionId} {group joined : Finset (Connection PeerId)}
    (tabled : Tabled before) (step : World.Established before after peer endpoint id)
    (within : WithinLimits before.loop.settings group)
    (grown : joined ⊆ insert ⟨id, peer, endpoint.getRemoteAddress⟩ group)
    (kept : joined ⊆ after.swarm.kept)
    (exempt : peer ∈ before.loop.protectedPeers →
      ⟨id, peer, endpoint.getRemoteAddress⟩ ∉ joined) :
    WithinLimits before.loop.settings joined := by
  by_cases joins : ⟨id, peer, endpoint.getRemoteAddress⟩ ∈ joined
  · have limited : peer ∉ before.loop.protectedPeers := fun protect => exempt protect joins
    obtain ⟨few, uncrowded⟩ := step.room limited (kept joins)
    have opened : joined ⊆ insert ⟨id, peer, endpoint.getRemoteAddress⟩ before.swarm.connections := by
      rw [← step.connections]
      exact kept.trans Finset.sdiff_subset
    constructor
    · calc (joined.image (·.peer)).card
          ≤ ((insert ⟨id, peer, endpoint.getRemoteAddress⟩ before.swarm.connections).image
              (·.peer)).card := Finset.card_le_card (Finset.image_subset_image opened)
        _ = (before.loop.tabled peer endpoint.getRemoteAddress).len := by
            rw [tabled.tabled_len, Finset.image_insert, Swarm.peers]
        _ ≤ before.loop.settings.highWater := few
    · intro s
      by_cases here : SubnetLimits.subnet endpoint.getRemoteAddress = some s
      · have below : (before.swarm.inSubnet s).card < before.loop.settings.perSubnetCap := by
          rw [← tabled.counts, ← tabled.cap]
          by_contra full
          exact uncrowded ((SubnetLimits.full_iff _ _).mpr ⟨s, here, not_lt.mp full⟩)
        have fresh := tabled.notMem_of_fresh step.fresh peer endpoint.getRemoteAddress
        calc (joined.filter (·.subnet = some s)).card
            ≤ ((insert ⟨id, peer, endpoint.getRemoteAddress⟩ before.swarm.connections).filter
                (·.subnet = some s)).card :=
              Finset.card_le_card (Finset.filter_subset_filter _ opened)
          _ ≤ (before.swarm.inSubnet s).card + 1 := by
              rw [card_filter_insert fresh, Swarm.inSubnet]
              split_ifs <;> omega
          _ ≤ before.loop.settings.perSubnetCap := below
      · refine (Finset.card_le_card fun connection member => ?_).trans (within.subnets s)
        rw [Finset.mem_filter] at member ⊢
        refine ⟨(Finset.mem_insert.mp (grown member.1)).resolve_left ?_, member.2⟩
        rintro rfl
        exact here member.2
  · exact within.mono ((Finset.subset_insert_iff_of_notMem joins).mp grown)

/-! ## Connections established to unprotected peers -/

section System

variable [TextCodec PeerId] [TextCodec (Multiaddr PeerId)]

def limitedSystem (PeerId : Type) [DecidableEq PeerId] [TextCodec PeerId]
    [TextCodec (Multiaddr PeerId)] :
    System (World PeerId × Finset (Connection PeerId)) (Label PeerId) :=
  (networkSystem PeerId).withHistory ∅ recordLimited

end System

structure Limited (state : World PeerId × Finset (Connection PeerId)) : Prop where
  within : WithinLimits state.1.loop.settings (state.1.swarm.kept ∩ state.2)
  ids : ∀ connection ∈ state.2, connection.id ∈ state.1.swarm.established

theorem Limited.of_fewer {before after : World PeerId} {limited : Finset (Connection PeerId)}
    (holds : Limited (before, limited)) (setup : World.SameSetup before after)
    (connections : after.swarm.connections ⊆ before.swarm.connections)
    (established : after.swarm.established = before.swarm.established)
    (closing : after.swarm.closing = before.swarm.closing) : Limited (after, limited) where
  within := by
    dsimp only
    rw [setup.settings]
    refine holds.within.mono (Finset.inter_subset_inter_right ?_)
    rw [Swarm.kept, closing]
    exact Finset.sdiff_subset_sdiff connections le_rfl
  ids := by dsimp only; rw [established]; exact holds.ids

variable [TextCodec PeerId] [TextCodec (Multiaddr PeerId)]

theorem Limited.next {world : World PeerId} {limited : Finset (Connection PeerId)}
    (holds : Limited (world, limited)) (tabled : Tabled world) {label : Label PeerId}
    (matched : world.Matched label) :
    Limited (world.next label, recordLimited world label limited) := by
  have setup := world.next_setup label
  cases World.step matched with
  | established now peer endpoint id step =>
      have unseen : ⟨id, peer, endpoint.getRemoteAddress⟩ ∉ limited :=
        fun member => step.fresh (holds.ids _ member)
      have grown : recordLimited world (.event now (.connectionEstablished peer endpoint id)) limited ⊆
          insert ⟨id, peer, endpoint.getRemoteAddress⟩ limited := by
        unfold recordLimited
        dsimp only
        split_ifs
        · exact Finset.subset_insert _ _
        · exact le_rfl
      constructor
      · dsimp only
        rw [setup.settings]
        refine holds.within.of_established tabled step ?_ Finset.inter_subset_left ?_
        · rw [Finset.insert_inter_distrib]
          exact Finset.inter_subset_inter step.kept_subset grown
        · intro protect member
          rw [recordLimited, if_pos protect] at member
          exact unseen (Finset.mem_inter.mp member).2
      · intro connection member
        dsimp only
        rw [step.established]
        rcases Finset.mem_insert.mp (grown member) with rfl | old
        · exact Finset.mem_insert_self _ _
        · exact Finset.mem_insert_of_mem (holds.ids connection old)
  | closed now peer endpoint id n step =>
      exact holds.of_fewer setup (step.connections ▸ Finset.erase_subset _ _) step.established
        step.closing
  | installed view peers sender step =>
      exact holds.of_fewer setup step.connections.le step.established step.closing
  | quiet label is_quiet quiet =>
      have same : recordLimited world label limited = limited := by
        unfold recordLimited
        split
        · simp [Label.quiet] at is_quiet
        · rfl
      rw [same]
      exact holds.of_fewer setup quiet.connections.le quiet.established quiet.closing

theorem limited_of_reachable {state : World PeerId × Finset (Connection PeerId)}
    (reachable : (limitedSystem PeerId).Reachable state) : Limited state := by
  refine reachable.invariant ?_ fun state label before holds matched =>
    holds.next (tabled_of_reachable before.forget) matched
  rintro ⟨_, _⟩ ⟨⟨subscriptions, peerstore, settings, bootstrapPeers, rfl⟩, rfl⟩
  exact ⟨⟨Nat.zero_le _, fun s => Nat.zero_le _⟩, by simp⟩

/-! ## Peers that are unprotected now -/

omit [TextCodec PeerId] [TextCodec (Multiaddr PeerId)] in
theorem LimitsHold.of_fewer {before after : World PeerId} (holds : LimitsHold before)
    (setup : World.SameSetup before after) (same : World.SamePreferred before after)
    (connections : after.swarm.connections ⊆ before.swarm.connections)
    (closing : after.swarm.closing = before.swarm.closing) : LimitsHold after := by
  unfold LimitsHold World.unprotected
  rw [setup.settings, same.protectedPeers]
  refine WithinLimits.mono holds (Finset.filter_subset_filter _ ?_)
  rw [Swarm.kept, closing]
  exact Finset.sdiff_subset_sdiff connections le_rfl

/-- Only a preferred set can break the limits, and it does when too many of the connections it
leaves unprotected are kept. -/
theorem LimitsHold.next {world : World PeerId} (holds : LimitsHold world) (tabled : Tabled world)
    (agreed : Agreed world) {label : Label PeerId} (matched : world.Matched label) :
    LimitsHold (world.next label) ↔ DropsWithinLimits world label := by
  have setup := world.next_setup label
  cases World.step matched with
  | established now peer endpoint id step =>
      refine ⟨fun _ => trivial, fun _ => ?_⟩
      unfold LimitsHold World.unprotected
      rw [setup.settings, step.protectedPeers]
      refine WithinLimits.of_established tabled step holds ?_ (Finset.filter_subset _ _) ?_
      · intro connection member
        rw [Finset.mem_filter] at member
        rcases Finset.mem_insert.mp (step.kept_subset member.1) with rfl | old
        · exact Finset.mem_insert_self _ _
        · exact Finset.mem_insert_of_mem (Finset.mem_filter.mpr ⟨old, member.2⟩)
      · exact fun protect member => (Finset.mem_filter.mp member).2 protect
  | closed now peer endpoint id n step =>
      exact ⟨fun _ => trivial, fun _ => holds.of_fewer setup step.toSamePreferred
        (step.connections ▸ Finset.erase_subset _ _) step.closing⟩
  | installed view peers sender step =>
      unfold LimitsHold World.unprotected DropsWithinLimits
      rw [setup.settings, step.protectedPeers, agreed.installed, Swarm.kept, step.connections,
        step.closing, Swarm.kept]
  | quiet label is_quiet quiet =>
      refine ⟨fun _ => ?_, fun _ => holds.of_fewer setup quiet.toSamePreferred
        quiet.connections.le quiet.closing⟩
      unfold DropsWithinLimits
      split
      · simp [Label.quiet] at is_quiet
      · trivial

/--
At the end of every run the limits hold for the kept connections that were established to
unprotected peers. For the peers unprotected at each moment they hold throughout the run exactly
when every preferred set of the run leaves connections unprotected that are within the limits.
-/
theorem limits_hold {world : World PeerId} (start : (networkSystem PeerId).initial world)
    {labels : List (Label PeerId)} (legal : (networkSystem PeerId).Legal world labels) :
    let final := (limitedSystem PeerId).after (world, ∅) labels
    WithinLimits final.1.loop.settings (final.1.swarm.kept ∩ final.2) ∧
    ((networkSystem PeerId).Throughout LimitsHold world labels ↔
      (networkSystem PeerId).EachStep DropsWithinLimits world labels) := by
  constructor
  · have reachable : (limitedSystem PeerId).Reachable (world, ∅) := .initial ⟨start, rfl⟩
    exact (limited_of_reachable (reachable.after (legal.withHistory ∅))).within
  · have keeps (world : World PeerId) (label : Label PeerId) (support : Tabled world ∧ Agreed world)
        (matched : (networkSystem PeerId).enabled world label) :
        Tabled (world.next label) ∧ Agreed (world.next label) :=
      ⟨support.1.next matched, support.2.next matched⟩
    obtain ⟨subscriptions, peerstore, settings, bootstrapPeers, rfl⟩ := start
    exact System.throughout_iff_eachStep keeps
      (fun _ _ support holds matched => LimitsHold.next holds support.1 support.2 matched)
      ⟨Tabled.start subscriptions peerstore settings bootstrapPeers,
        Agreed.start subscriptions peerstore settings bootstrapPeers⟩
      ⟨Nat.zero_le _, fun s => Nat.zero_le _⟩ legal

theorem limits_hold_room :
    (networkSystem Sample.Peer).Throughout LimitsHold (Sample.node 1 4 1)
      [Sample.prefer [.alice] 0, Sample.inbound .alice (Sample.addr 10 0 0 1) 0,
        Sample.prefer [] 1] :=
  (limits_hold ⟨_, _, _, _, rfl⟩ (by decide)).2.mpr
    ⟨⟨by decide, fun _ => (Finset.card_filter_le _ _).trans (by decide)⟩, trivial,
      ⟨by decide, fun _ => (Finset.card_filter_le _ _).trans (by decide)⟩, trivial⟩

/-- Alice and Bob connect while each is preferred. Once neither is, there are two unprotected peers
at a high watermark of one. -/
theorem limits_not_hold_rotated :
    ¬ ∀ world, (networkSystem Sample.Peer).Reachable world → LimitsHold world := by
  intro always
  have legal : (networkSystem Sample.Peer).Legal (Sample.node 1 4 1)
      [Sample.prefer [.alice] 0, Sample.inbound .alice (Sample.addr 10 0 0 1) 0,
        Sample.prefer [.bob] 1, Sample.inbound .bob (Sample.addr 10 0 0 2) 1,
        Sample.prefer [] 2] := by decide
  exact absurd (always _ ((Sample.node_reachable 1 4 1).after legal)).peers (by decide)

end P2pService
