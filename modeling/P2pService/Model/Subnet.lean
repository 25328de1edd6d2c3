import P2pService.Library.HashMap
import P2pService.Model.Multiaddr

namespace P2pService
open Library

/-- The first three octets of an IPv4 address. -/
abbrev Subnet := UInt8 × UInt8 × UInt8

inductive Verdict where
  | allow
  | reject
  deriving DecidableEq, Repr

/-- A subnet without connections has no entry. -/
def NoZero (counts : HashMap Subnet Nat) : Prop := ∀ subnet, counts.get subnet ≠ some 0

theorem NoZero.insert {counts : HashMap Subnet Nat} (noZero : NoZero counts) (subnet : Subnet)
    {count : Nat} (positive : count ≠ 0) : NoZero (counts.insert subnet count) := by
  intro s
  rw [HashMap.get_insert]
  split_ifs
  · simpa using positive
  · exact noZero s

theorem NoZero.remove {counts : HashMap Subnet Nat} (noZero : NoZero counts) (subnet : Subnet) :
    NoZero (counts.remove subnet) := by
  intro s
  rw [HashMap.get_remove]
  split_ifs
  · simp
  · exact noZero s

structure SubnetLimits where
  cap : Nat
  counts : HashMap Subnet Nat
  noZero : NoZero counts

namespace SubnetLimits

variable {PeerId : Type}

def new (cap : Nat) : SubnetLimits := ⟨cap, ∅, fun _ => by simp⟩

def subnet (addr : Multiaddr PeerId) : Option Subnet :=
  addr.findSome? fun
    | .ip4 ip => some (ip.octets.1, ip.octets.2.1, ip.octets.2.2.1)
    | _ => none

def onConnection (limits : SubnetLimits) (addr : Multiaddr PeerId) (exempt : Bool) :
    SubnetLimits × Verdict :=
  match subnet addr with
  | none => (limits, .allow)
  | some subnet =>
      let count := (limits.counts.get subnet).getD 0
      let verdict := if !exempt && limits.cap ≤ count then Verdict.reject else Verdict.allow
      -- A rejected connection is counted too: its close will be reported as well.
      (⟨limits.cap, limits.counts.insert subnet (count + 1), limits.noZero.insert subnet (by simp)⟩,
        verdict)

def onDisconnection (limits : SubnetLimits) (addr : Multiaddr PeerId) : SubnetLimits :=
  match subnet addr with
  | none => limits
  | some subnet =>
      match limits.counts.get subnet with
      | none => limits
      | some count =>
          if zero : count - 1 = 0 then
            ⟨limits.cap, limits.counts.remove subnet, limits.noZero.remove subnet⟩
          else
            ⟨limits.cap, limits.counts.insert subnet (count - 1), limits.noZero.insert subnet zero⟩

def count (limits : SubnetLimits) (subnet : Subnet) : Nat := (limits.counts.get subnet).getD 0

def Full (limits : SubnetLimits) (addr : Multiaddr PeerId) : Prop :=
  (subnet addr).any fun subnet => limits.cap ≤ limits.count subnet

instance (limits : SubnetLimits) (addr : Multiaddr PeerId) : Decidable (limits.Full addr) :=
  inferInstanceAs (Decidable (_ = true))

theorem full_iff (limits : SubnetLimits) (addr : Multiaddr PeerId) :
    limits.Full addr ↔ ∃ s, subnet addr = some s ∧ limits.cap ≤ limits.count s := by
  simp [Full, Option.any_eq_true]

theorem counts_get (limits : SubnetLimits) (s : Subnet) :
    limits.counts.get s = if limits.count s = 0 then none else some (limits.count s) := by
  unfold count
  cases entry : limits.counts.get s with
  | none => simp
  | some n =>
      have positive : n ≠ 0 := fun zero => limits.noZero s (zero ▸ entry)
      simp [positive]

@[simp] theorem new_count (cap : Nat) (s : Subnet) : (new cap).count s = 0 := by
  simp [new, count]

@[simp] theorem onConnection_cap (limits : SubnetLimits) (addr : Multiaddr PeerId) (exempt : Bool) :
    (limits.onConnection addr exempt).1.cap = limits.cap := by
  unfold onConnection; split <;> rfl

@[simp] theorem onDisconnection_cap (limits : SubnetLimits) (addr : Multiaddr PeerId) :
    (limits.onDisconnection addr).cap = limits.cap := by
  unfold onDisconnection; split
  · rfl
  · split
    · rfl
    · split_ifs <;> rfl

theorem onConnection_count (limits : SubnetLimits) (addr : Multiaddr PeerId) (exempt : Bool)
    (s : Subnet) :
    (limits.onConnection addr exempt).1.count s =
      limits.count s + if subnet addr = some s then 1 else 0 := by
  unfold onConnection count
  split
  · rename_i none_eq; simp [none_eq]
  · rename_i t some_eq
    by_cases same : s = t
    · subst same; simp [some_eq]
    · have other : t ≠ s := fun h => same h.symm
      simp [some_eq, HashMap.get_insert, same, other]

theorem onConnection_verdict (limits : SubnetLimits) (addr : Multiaddr PeerId) (exempt : Bool) :
    (limits.onConnection addr exempt).2 = .reject ↔ exempt = false ∧ limits.Full addr := by
  unfold onConnection Full count
  split
  · rename_i none_eq; simp [none_eq]
  · rename_i s some_eq
    simp only [some_eq, Option.any_some]
    split_ifs with full <;> simp_all

theorem onDisconnection_count (limits : SubnetLimits) (addr : Multiaddr PeerId) (s : Subnet) :
    (limits.onDisconnection addr).count s =
      limits.count s - if subnet addr = some s then 1 else 0 := by
  unfold onDisconnection count
  split
  · rename_i none_eq; simp [none_eq]
  · rename_i t some_eq
    by_cases same : t = s
    · subst same
      cases entry : limits.counts.get t with
      | none => simp [entry]
      | some n =>
          simp only [some_eq, if_true, Option.getD_some]
          split_ifs with zero
          · simp [zero]
          · simp
    · have other : s ≠ t := fun h => same h.symm
      cases entry : limits.counts.get t with
      | none => simp [some_eq, same]
      | some n =>
          simp only [some_eq, Option.some.injEq, same, if_false, Nat.sub_zero]
          split_ifs <;> simp [HashMap.get_remove, HashMap.get_insert, other]

end SubnetLimits
end P2pService
