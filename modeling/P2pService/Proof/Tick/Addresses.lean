import P2pService.Proof.Tick.Safe

/-!
# The addresses a tick dials

Which of the addresses known for a peer a dial carries, and whether one of them can lead back to the
node itself.
-/

namespace P2pService
open Library

variable {PeerId : Type} [DecidableEq PeerId] [TextCodec PeerId] [TextCodec (Multiaddr PeerId)]

/-! ## Ticks that reach an entry -/

section

variable {inputs : TickInputs PeerId}

def failedOnce (peer : PeerId) : DialBackoff PeerId :=
  (DialBackoff.new backoffBase backoffCap).recordFailure peer (1 - 10 ^ 9) 1

omit [TextCodec PeerId] [TextCodec (Multiaddr PeerId)] in
theorem failedOnce_ready (peer : PeerId) (now : Instant) :
    (failedOnce peer).ready peer now ↔ 1 ≤ now := by
  have delay : (DialBackoff.new backoffBase backoffCap : DialBackoff PeerId).capped 1 = 10 ^ 9 := by
    norm_num [DialBackoff.capped, DialBackoff.new, saturatingPowTwo, backoffBase, backoffCap,
      durationMax, show (1 : UInt32).toNat = 1 from rfl]
  have failures : (DialBackoff.new backoffBase backoffCap).nextFailures peer = 1 := by
    simp [DialBackoff.nextFailures, DialBackoff.new]
  simp only [DialBackoff.ready, failedOnce, DialBackoff.recordFailure, HashMap.get_insert_self,
    failures, delay, decide_eq_true_eq]
  norm_num

/-- Position `k` comes up when the peer is ready, and everything before it when it is not. -/
def lateTick (peer : PeerId) (k : Nat) {preferred : List (PeerId × List (Multiaddr PeerId))}
    (preferred_shuffled : preferred = inputs.preferred)
    {refill : List (PeerId × Multiaddr PeerId)} (refill_shuffled : refill = inputs.refill) :
    Tick inputs where
  backoff := failedOnce peer
  startedAt := 0
  preferred := preferred
  preferred_shuffled := preferred_shuffled
  refill := refill
  refill_shuffled := refill_shuffled
  moments j := if j < k then ⟨0, .failed, 0, 1⟩ else ⟨2, .failed, 2, 1⟩
  clock j := by
    split_ifs <;> norm_num
    omega
  jitter j := by
    unfold Maintained.Jitter
    split_ifs <;> norm_num

theorem first_lateTick {peer : PeerId} {k : Nat}
    {preferred : List (PeerId × List (Multiaddr PeerId))}
    (preferred_shuffled : preferred = inputs.preferred) {refill : List (PeerId × Multiaddr PeerId)}
    (refill_shuffled : refill = inputs.refill) (unconnected : peer ∉ inputs.connected)
    {candidate : Candidate PeerId} (same : candidate.peer = peer)
    (listed : (lateTick peer k preferred_shuffled refill_shuffled).candidates[k]? = some candidate) :
    (lateTick peer k preferred_shuffled refill_shuffled).First k candidate where
  listed := listed
  unconnected := same ▸ unconnected
  ready := by
    have on_time : (lateTick peer k preferred_shuffled refill_shuffled).moments k =
        ⟨2, .failed, 2, 1⟩ := if_neg (lt_irrefl k)
    rw [on_time, same]
    refine (failedOnce_ready peer 2).mpr ?_
    norm_num
  earliest := by
    intro j position _ _ _
    have early : (lateTick peer k preferred_shuffled refill_shuffled).moments j =
        ⟨0, .failed, 0, 1⟩ := if_pos position
    rw [early, same, Bool.eq_false_iff]
    refine fun ready => absurd ((failedOnce_ready peer 0).mp ready) ?_
    norm_num

theorem exists_shuffle {α : Type} (s : Multiset α) (p : α → Prop) :
    ∃ l : List α, (l : Multiset α) = s ∧
      ((∃ x ∈ s, p x) → ∀ n, 0 < n → ∃ x ∈ l.take n, p x) := by
  by_cases some_such : ∃ x ∈ s, p x
  · obtain ⟨x, member, holds⟩ := some_such
    obtain ⟨others, rfl⟩ := Multiset.exists_cons_of_mem member
    obtain ⟨rest, rfl⟩ := Quot.exists_rep others
    refine ⟨x :: rest, rfl, fun _ n positive => ⟨x, ?_, holds⟩⟩
    obtain ⟨n, rfl⟩ := Nat.exists_eq_succ_of_ne_zero positive.ne'
    exact List.mem_cons_self
  · obtain ⟨l, rfl⟩ := Quot.exists_rep s
    exact ⟨l, rfl, fun some_such' => absurd some_such' some_such⟩

/-- Every entry of a peer is dialed in some tick: the peer's entries are shuffled to the front, and
it is not ready before this one comes up. -/
theorem exists_entry_dialed {peer : PeerId} {addrs : List (Multiaddr PeerId)} {source : Source}
    (unconnected : peer ∉ inputs.connected) (entry : inputs.Entry peer addrs source) :
    ∃ tick : Tick inputs, (∃ dial ∈ tick.dials, dial.candidate = ⟨source, peer, addrs⟩) ∧
      ∀ addr, inputs.Hinted peer addr →
        peer ∈ (tick.preferred.take maxPreferredDialsPerTick).map Prod.fst := by
  obtain ⟨preferred, preferred_shuffled, preferred_front⟩ := exists_shuffle inputs.preferred
    fun offered => offered.1 = peer ∧ (source = .preferred → offered.2 = addrs)
  obtain ⟨refill, refill_shuffled, refill_front⟩ := exists_shuffle inputs.refill
    fun stored => stored.1 = peer ∧ addrs = [stored.2]
  have listed : (⟨source, peer, addrs⟩ : Candidate PeerId) ∈
      (lateTick peer 0 preferred_shuffled refill_shuffled).candidates := by
    unfold Tick.candidates
    rw [List.mem_append, List.mem_append]
    cases source with
    | bootstrap => exact .inl (.inl (Tick.mem_bootstrapCandidates.mpr ⟨rfl, entry⟩))
    | preferred =>
        refine .inl (.inr ((Tick.mem_preferredCandidates _).mpr ⟨rfl, ?_⟩))
        obtain ⟨_, taken, rfl, same⟩ := preferred_front
          ⟨_, TickInputs.mem_preferred.mpr ⟨unconnected, entry⟩, rfl, fun _ => rfl⟩
          maxPreferredDialsPerTick (by decide)
        cases same rfl
        exact taken
    | refill =>
        refine .inr ((Tick.mem_refillCandidates _).mpr ⟨rfl, ?_⟩)
        obtain ⟨low, addr, stored, dialable, rfl⟩ := entry
        obtain ⟨⟨_, addr'⟩, taken, rfl, same⟩ := refill_front
          ⟨_, TickInputs.mem_refill.mpr ⟨unconnected, low, addr, stored, dialable, rfl⟩, rfl, rfl⟩
          inputs.refillBudget (Nat.succ_pos _)
        exact ⟨addr', taken, same⟩
  obtain ⟨k, found⟩ := List.mem_iff_getElem?.mp listed
  let tick : Tick inputs := lateTick peer k preferred_shuffled refill_shuffled
  refine ⟨tick, (tick.dial_iff _).mpr ⟨k, first_lateTick _ _ unconnected rfl found⟩, ?_⟩
  intro addr hinted
  have listed_first : ∃ offered ∈ inputs.preferred,
      offered.1 = peer ∧ (source = .preferred → offered.2 = addrs) := by
    by_cases own : source = .preferred
    · subst own
      exact ⟨_, TickInputs.mem_preferred.mpr ⟨unconnected, entry⟩, rfl, fun _ => rfl⟩
    · obtain ⟨_, _, offered⟩ := hinted.entry
      have in_list := TickInputs.mem_preferred.mpr ⟨unconnected, offered⟩
      exact ⟨_, in_list, rfl, fun same => absurd same own⟩
  obtain ⟨offered, taken, same, _⟩ :=
    preferred_front listed_first maxPreferredDialsPerTick (by decide)
  exact List.mem_map.mpr ⟨offered, taken, same⟩

end

/-! ## All the addresses of a peer -/

/-- An address known for a peer of high priority: a configured one while no bootstrap peer is
connected, or a hint of a preferred peer that is among the selected ones. -/
def Tick.Known {inputs : TickInputs PeerId} (tick : Tick inputs) (peer : PeerId)
    (addr : Multiaddr PeerId) : Prop :=
  inputs.Configured peer addr ∨
    inputs.Hinted peer addr ∧ peer ∈ (tick.preferred.take maxPreferredDialsPerTick).map Prod.fst

def Tick.CarriesKnown {inputs : TickInputs PeerId} (tick : Tick inputs) : Prop :=
  ∀ dial ∈ tick.dials, ∀ addr, tick.Known dial.candidate.peer addr → addr ∈ dial.candidate.addrs

namespace Sample

def stopped : Moment := ⟨0, .timedOut, 0, 1⟩

def stoppedTick (inputs : TickInputs Peer) (backoff : DialBackoff Peer)
    (preferred : List (Peer × List (Multiaddr Peer))) (preferred_shuffled : preferred = inputs.preferred)
    (refill : List (Peer × Multiaddr Peer)) (refill_shuffled : refill = inputs.refill) :
    Tick inputs where
  backoff := backoff
  startedAt := 0
  preferred := preferred
  preferred_shuffled := preferred_shuffled
  refill := refill
  refill_shuffled := refill_shuffled
  moments _ := stopped
  clock _ := ⟨le_rfl, le_rfl, le_rfl⟩
  jitter _ := by
    unfold Maintained.Jitter stopped
    norm_num

def bobTwice : TickInputs Peer where
  bootstrapMultiaddrs := [addr 10 0 0 1 ++ [.p2p .bob], addr 10 0 0 2 ++ [.p2p .bob]]
  lowWater := 0
  snapshot := ⟨∅, 0⟩
  peerstore := .default
  nowUnix := 0

def bobTick : Tick bobTwice := stoppedTick bobTwice (.new backoffBase backoffCap) [] rfl [] rfl

end Sample

section

open Sample

end

/-! ## Addresses of the node itself -/

namespace Ipv6Addr

def octet (ip : Ipv6Addr) (k : Nat) : UInt8 := UInt8.ofNat (ip.toNat / 2 ^ (8 * k))

/-- `a.b.c.d` for `::ffff:a.b.c.d`. -/
def toIpv4Mapped (ip : Ipv6Addr) : Option Ipv4Addr :=
  if ip.toNat / 2 ^ 32 = 0xffff then some ⟨octet ip 3, octet ip 2, octet ip 1, octet ip 0⟩ else none

def MapsToSelf (ip : Ipv6Addr) : Prop :=
  ∃ mapped, toIpv4Mapped ip = some mapped ∧ (mapped.isLoopback ∨ mapped.isUnspecified)

end Ipv6Addr

omit [DecidableEq PeerId] [TextCodec PeerId] [TextCodec (Multiaddr PeerId)] in
/-- A component that names a loopback or unspecified host. -/
def Protocol.DenotesSelf : Protocol PeerId → Prop
  | .ip4 ip => ip.isLoopback ∨ ip.isUnspecified
  | .ip6 ip => Ipv6Addr.isLoopback ip ∨ Ipv6Addr.isUnspecified ip ∨ Ipv6Addr.MapsToSelf ip
  | _ => False

namespace Maintenance

omit [DecidableEq PeerId] [TextCodec PeerId] [TextCodec (Multiaddr PeerId)] in
/-- Of what passes the check, only the mapped addresses lead back. -/
theorem denotesSelf_iff {addr : Multiaddr PeerId} (dialable : isUndialable addr = false) :
    (∃ component ∈ addr, component.DenotesSelf) ↔ ∃ ip, .ip6 ip ∈ addr ∧ Ipv6Addr.MapsToSelf ip := by
  unfold isUndialable at dialable
  rw [List.any_eq_false] at dialable
  constructor
  · rintro ⟨component, member, self⟩
    have passed := dialable component member
    cases component with
    | ip4 ip => exact absurd self (by simpa [Protocol.DenotesSelf] using passed)
    | ip6 ip =>
        simp only [Bool.or_eq_true, not_or] at passed
        rcases self with loopback | unspecified | mapped
        · exact absurd loopback passed.1
        · exact absurd unspecified passed.2
        · exact ⟨ip, member, mapped⟩
    | tcp | dns | p2p | other => exact self.elim
  · rintro ⟨ip, member, mapped⟩
    exact ⟨.ip6 ip, member, .inr (.inr mapped)⟩

end Maintenance

namespace Sample

/-- `/ip6/::ffff:127.0.0.1/tcp/4025` -/
def mappedLoopback : Multiaddr Peer := [.ip6 0xffff7f000001, .tcp 4025]

def bobHinted : TickInputs Peer where
  bootstrapMultiaddrs := []
  lowWater := 0
  snapshot := ⟨∅, {(.bob, [mappedLoopback])}⟩
  peerstore := .default
  nowUnix := 0

def hintTick : Tick bobHinted :=
  stoppedTick bobHinted (.new backoffBase backoffCap) [(.bob, [mappedLoopback])] rfl [] rfl

end Sample

section

open Sample

end

end P2pService
