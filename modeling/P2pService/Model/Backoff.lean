import P2pService.Library.HashMap
import Mathlib.Algebra.Order.Field.Rat

/-!
# Dial backoff

Durations are whole nanoseconds. A jittered delay need not be, so instants are rational.
-/

namespace P2pService
open Library

abbrev Duration := Nat

abbrev Instant := ℚ

def durationMax : Duration := 2 ^ 64 * 10 ^ 9 - 1

/-- `2u32.saturating_pow`. -/
def saturatingPowTwo (exponent : Nat) : Nat := if 32 ≤ exponent then 2 ^ 32 - 1 else 2 ^ exponent

structure BackoffState where
  failures : UInt32
  nextAttempt : Instant

structure DialBackoff (PeerId : Type) where
  base : Duration
  cap : Duration
  state : HashMap PeerId BackoffState

namespace DialBackoff

variable {PeerId : Type}

def new (base cap : Duration) : DialBackoff PeerId := ⟨base, cap, ∅⟩

def capped (backoff : DialBackoff PeerId) (failures : UInt32) : Duration :=
  min (min (backoff.base * saturatingPowTwo (failures.toNat - 1)) durationMax) backoff.cap

theorem capped_pos (backoff : DialBackoff PeerId) (failures : UInt32) (base : 0 < backoff.base)
    (cap : 0 < backoff.cap) : 0 < backoff.capped failures := by
  have power (exponent : Nat) : 0 < saturatingPowTwo exponent := by
    unfold saturatingPowTwo
    split_ifs
    · decide
    · exact Nat.two_pow_pos exponent
  exact lt_min (lt_min (Nat.mul_pos base (power _)) (by decide)) cap

variable [DecidableEq PeerId]

def ready (backoff : DialBackoff PeerId) (peer : PeerId) (now : Instant) : Bool :=
  match backoff.state.get peer with
  | none => true
  | some state => decide (state.nextAttempt ≤ now)

def nextFailures (backoff : DialBackoff PeerId) (peer : PeerId) : UInt32 :=
  ((backoff.state.get peer).map BackoffState.failures).getD 0 + 1

/-- `jitter` is the random factor of the delay. -/
def recordFailure (backoff : DialBackoff PeerId) (peer : PeerId) (now jitter : ℚ) :
    DialBackoff PeerId :=
  let failures := backoff.nextFailures peer
  { backoff with
    state := backoff.state.insert peer ⟨failures, now + backoff.capped failures * jitter⟩ }

def recordSuccess (backoff : DialBackoff PeerId) (peer : PeerId) : DialBackoff PeerId :=
  { backoff with state := backoff.state.remove peer }

def prune (backoff : DialBackoff PeerId) (now : Instant) : DialBackoff PeerId :=
  { backoff with
    state := backoff.state.retain fun _ state => decide (now < state.nextAttempt + backoff.cap) }

theorem ready_of_none {backoff : DialBackoff PeerId} {peer : PeerId}
    (absent : backoff.state.get peer = none) (now : Instant) : backoff.ready peer now := by
  simp only [ready, absent]

@[simp] theorem recordSuccess_get (backoff : DialBackoff PeerId) (peer : PeerId) :
    (backoff.recordSuccess peer).state.get peer = none :=
  HashMap.get_remove_self _ _

theorem get_recordSuccess_of_none {backoff : DialBackoff PeerId} {peer : PeerId}
    (absent : backoff.state.get peer = none) (other : PeerId) :
    (backoff.recordSuccess other).state.get peer = none := by
  rw [recordSuccess, HashMap.get_remove]
  split_ifs
  · rfl
  · exact absent

theorem get_recordFailure_of_ne (backoff : DialBackoff PeerId) {peer other : PeerId}
    (different : peer ≠ other) (now jitter : ℚ) :
    (backoff.recordFailure other now jitter).state.get peer = backoff.state.get peer := by
  rw [recordFailure, HashMap.get_insert, if_neg different]

theorem get_prune_of_none {backoff : DialBackoff PeerId} {peer : PeerId}
    (absent : backoff.state.get peer = none) (now : Instant) :
    (backoff.prune now).state.get peer = none := by
  rw [prune, HashMap.get_retain, absent, Option.filter_none]

theorem not_ready_recordFailure (backoff : DialBackoff PeerId) (peer : PeerId) (now : Instant)
    {jitter : ℚ} (spread : 0 < jitter)
    (delayed : 0 < backoff.capped (backoff.nextFailures peer)) :
    (backoff.recordFailure peer now jitter).ready peer now = false := by
  have later : now < now + backoff.capped (backoff.nextFailures peer) * jitter :=
    lt_add_of_pos_right now (mul_pos (Nat.cast_pos.mpr delayed) spread)
  simp only [ready, recordFailure, HashMap.get_insert_self]
  exact decide_eq_false (not_le.mpr later)

end DialBackoff
end P2pService
