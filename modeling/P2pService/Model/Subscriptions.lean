import P2pService.Library.HashMap
import P2pService.Library.Broadcast

namespace P2pService
open Library

structure Envelope where
  topic : String
  sourcePeerId : String
  data : List UInt8
  receivedAtMillis : Nat
  deriving DecidableEq, Repr

abbrev ChannelId := Nat

/-- A receiver shares the ring of the sender it came from, whatever becomes of that sender. -/
structure Receiver where
  channel : ChannelId
  next : Nat
  deriving DecidableEq, Repr

/-- Per-topic fanout. The rings are shared by reference, so they stand apart from the map of
senders: a sender or a receiver names its ring by position. -/
structure Subscriptions where
  capacity : Nat
  senders : HashMap String ChannelId
  channels : List (Channel Envelope)

namespace Subscriptions

def new (capacity : Nat) : Subscriptions := ⟨capacity, ∅, []⟩

def addReceiver (subscriptions : Subscriptions) (channelId : ChannelId) :
    Option (Subscriptions × Receiver) :=
  subscriptions.channels[channelId]?.map fun channel =>
    ({ subscriptions with channels := subscriptions.channels.set channelId channel.subscribe.1 },
      ⟨channelId, channel.subscribe.2⟩)

/-- `none` when `broadcast::channel` panics. -/
def subscribe (subscriptions : Subscriptions) (topic : String) : Option (Subscriptions × Receiver) :=
  match subscriptions.senders.get topic with
  | some channelId => subscriptions.addReceiver channelId
  | none => do
      let channel ← Channel.new subscriptions.capacity
      -- only the sender of the pair is kept
      let grown : Subscriptions :=
        { subscriptions with
          senders := subscriptions.senders.insert topic subscriptions.channels.length
          channels := subscriptions.channels ++ [channel.dropReceiver] }
      grown.addReceiver subscriptions.channels.length

def publish (subscriptions : Subscriptions) (envelope : Envelope) : Subscriptions × Nat :=
  match subscriptions.senders.get envelope.topic with
  | none => (subscriptions, 0)
  | some channelId =>
      match subscriptions.channels[channelId]? with
      | none => (subscriptions, 0)
      | some channel =>
          ({ subscriptions with
              channels := subscriptions.channels.set channelId (channel.send envelope).1 },
            (channel.send envelope).2.getD 0)

def recv (subscriptions : Subscriptions) (receiver : Receiver) :
    Option (Received Envelope × Receiver) :=
  subscriptions.channels[receiver.channel]?.map fun channel =>
    ((channel.recv receiver.next).1, { receiver with next := (channel.recv receiver.next).2 })

def dropReceiver (subscriptions : Subscriptions) (receiver : Receiver) : Subscriptions :=
  { subscriptions with channels := subscriptions.channels.modify receiver.channel Channel.dropReceiver }

end Subscriptions
end P2pService
