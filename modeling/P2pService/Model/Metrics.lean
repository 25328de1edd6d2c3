import P2pService.Library.HashMap

namespace P2pService
open Library

structure Metrics where
  connectedPeers : Int
  totalMessagesSent : Nat
  totalMessagesReceived : Nat
  p2pEvents : HashMap String Nat

namespace Metrics

def new : Metrics := ⟨0, 0, 0, ∅⟩

def event (metrics : Metrics) (eventType : String) : Nat := (metrics.p2pEvents.get eventType).getD 0

def incrementEvent (metrics : Metrics) (eventType : String) : Metrics :=
  { metrics with p2pEvents := metrics.p2pEvents.insert eventType (metrics.event eventType + 1) }

theorem event_incrementEvent (metrics : Metrics) (eventType other : String) :
    (metrics.incrementEvent eventType).event other =
      metrics.event other + if other = eventType then 1 else 0 := by
  simp only [incrementEvent, event, HashMap.get_insert]
  split_ifs with same
  · simp [same]
  · rfl

@[simp] theorem new_event (eventType : String) : new.event eventType = 0 := by simp [new, event]

end Metrics
end P2pService
