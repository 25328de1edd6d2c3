import P2pService.Model.Network
import Mathlib.Data.List.Induction
import Mathlib.Data.List.Nodup

/-!
# Start-up

What `main` does before it spawns the tasks that others can reach: it listens, and subscribes to the
topics it is configured with, one after the other, each topic once.
-/

namespace P2pService
open Library

def distinctTopics (topics : List String) : List String :=
  topics.foldl (fun seen t => if t ∈ seen then seen else seen ++ [t]) []

theorem distinctTopics_concat (topics : List String) (t : String) :
    distinctTopics (topics ++ [t]) =
      if t ∈ distinctTopics topics then distinctTopics topics else distinctTopics topics ++ [t] := by
  rw [distinctTopics, List.foldl_append, List.foldl_cons, List.foldl_nil, ← distinctTopics]

theorem mem_distinctTopics {topics : List String} {t : String} :
    t ∈ distinctTopics topics ↔ t ∈ topics := by
  induction topics using List.reverseRecOn with
  | nil => rfl
  | append_singleton topics last ih =>
      rw [distinctTopics_concat, List.mem_append, ← ih, List.mem_singleton]
      split_ifs with known
      · exact ⟨.inl, fun either => either.elim id fun same => same ▸ known⟩
      · rw [List.mem_append, List.mem_singleton]

theorem distinctTopics_nodup (topics : List String) : (distinctTopics topics).Nodup := by
  induction topics using List.reverseRecOn with
  | nil => exact List.nodup_nil
  | append_singleton topics last ih =>
      rw [distinctTopics_concat]
      split_ifs with known
      · exact ih
      · exact List.nodup_append'.mpr
          ⟨ih, List.nodup_singleton last, List.disjoint_singleton.mpr known⟩

inductive Exit where
  | panic
  | err (message : String)
  deriving DecidableEq, Repr

inductive StartupStep (PeerId : Type) where
  | startListening (addr : Multiaddr PeerId)
  | subscribe (topic : String)
  deriving DecidableEq, Repr

variable {PeerId : Type}

namespace StartupStep

def command (step : StartupStep PeerId) (sender : Sender) : Command PeerId :=
  match step with
  | .startListening addr => .startListening addr sender
  | .subscribe topic => .subscribe topic sender

def failed [ToString CommandError] (error : CommandError) : StartupStep PeerId → Exit
  | .startListening _ => .panic
  | .subscribe topic =>
      .err ("could not subscribe to topic " ++ topic ++ ": " ++ toString error)

end StartupStep

def p2pBindMultiaddr (port : UInt16) : Multiaddr PeerId := [.ip4 ⟨0, 0, 0, 0⟩, .tcp port]

def startupSteps (port : UInt16) (topics : List String) : List (StartupStep PeerId) :=
  .startListening (p2pBindMultiaddr port) :: (distinctTopics topics).map .subscribe

end P2pService
