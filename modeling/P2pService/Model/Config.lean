import P2pService.Model.Maintenance
import P2pService.Model.Network

/-!
# The configuration

What the connection limits and the maintenance task are configured with, and which configurations
the service starts with.
-/

namespace P2pService
open Library

inductive F32 where
  | nan
  | infinite (negative : Bool)
  | finite (value : ℚ)
  deriving DecidableEq, Repr

/-- `(low..=high).contains`. -/
def F32.within (low high : ℚ) : F32 → Bool
  | .finite value => low ≤ value && value ≤ high
  | .nan | .infinite _ => false

structure P2PConfig (PeerId : Type) where
  peers : List (Multiaddr PeerId)
  lowWater : Nat
  highWater : Nat
  perSubnetCap : Nat
  maxProtectedShare : F32
  maintenanceIntervalSecs : Nat

namespace P2PConfig

variable {PeerId : Type}

def validateConfig [ToString F32] (config : P2PConfig PeerId) : Except String Unit :=
  if config.highWater < config.lowWater then
    .error ("Invalid p2p config: low_water (" ++ toString config.lowWater ++
      ") must not exceed high_water (" ++ toString config.highWater ++ ")")
  else if config.perSubnetCap = 0 then
    .error "Invalid p2p config: per_subnet_cap must be at least 1"
  else if !config.maxProtectedShare.within 0 1 then
    .error ("Invalid p2p config: max_protected_share (" ++ toString config.maxProtectedShare ++
      ") must be between 0.0 and 1.0")
  else if config.maintenanceIntervalSecs = 0 then
    .error ("Invalid p2p config: maintenance_interval_secs must be at least 1 " ++
      "(0 hot-spins the command channel)")
  else .ok ()

theorem validateConfig_eq_ok_iff [ToString F32] (config : P2PConfig PeerId) :
    config.validateConfig = .ok () ↔ config.lowWater ≤ config.highWater ∧
      config.perSubnetCap ≠ 0 ∧ config.maxProtectedShare.within 0 1 ∧
      config.maintenanceIntervalSecs ≠ 0 := by
  unfold validateConfig
  split_ifs <;> simp_all

def bootstrapPeerIds [DecidableEq PeerId] (config : P2PConfig PeerId) : Finset PeerId :=
  ((config.peers.filterMap Maintenance.splitPeerMultiaddr).map Prod.fst).toFinset

/-- The defaults, but for the bootstrap peers, which are parsed from their texts. -/
def default (peers : List (Multiaddr PeerId)) : P2PConfig PeerId where
  peers := peers
  lowWater := 80
  highWater := 160
  perSubnetCap := 4
  maxProtectedShare := .finite (1 / 2)
  maintenanceIntervalSecs := 30

theorem default_valid [ToString F32] (peers : List (Multiaddr PeerId)) :
    (default peers).validateConfig = .ok () := by
  rw [validateConfig_eq_ok_iff]
  have share : (F32.finite (1 / 2)).within 0 1 := by decide +kernel
  exact ⟨by norm_num [default], by norm_num [default], share, by norm_num [default]⟩

/-- `protectedCap` is what the event loop makes of `maxProtectedShare`. -/
def networkSettings (config : P2PConfig PeerId) (protectedCap : Nat) : NetworkSettings where
  lowWater := config.lowWater
  highWater := config.highWater
  perSubnetCap := config.perSubnetCap
  protectedCap := protectedCap

end P2PConfig
end P2pService
