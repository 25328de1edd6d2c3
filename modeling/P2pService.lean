import P2pService.Library.System
import P2pService.Library.HashMap
import P2pService.Model.Multiaddr
import P2pService.Model.Subnet
import P2pService.Model.Metrics
import P2pService.Model.Peerstore
import P2pService.Library.Broadcast
import P2pService.Library.Ledger
import P2pService.Library.Desk
import P2pService.Library.Calls
import P2pService.Library.Journal
import P2pService.Model.Subscriptions
import P2pService.Model.Network
import P2pService.Model.Grpc
import P2pService.Model.Backoff
import P2pService.Model.Maintenance
import P2pService.World.Network
import P2pService.World.Maintenance
import P2pService.World.Hub
import P2pService.World.Service
import P2pService.World.Startup
import P2pService.Proof.Handlers
import P2pService.Proof.Steps
import P2pService.Proof.Protection
import P2pService.Proof.Preferred
import P2pService.Proof.Limits.Table
import P2pService.Proof.Limits.Reference
import P2pService.Proof.Limits.Gauge
import P2pService.Proof.Limits.Kept
import P2pService.Proof.Dials.Steps
import P2pService.Proof.Dials.Answered
import P2pService.Proof.Dials.Connected
import P2pService.Proof.Outcome
import P2pService.World.Fanout
import P2pService.Proof.Fanout.Refinement
import P2pService.Proof.Fanout.Rings
import P2pService.Proof.Fanout.Wiring
import P2pService.Proof.Fanout.Delivery
import P2pService.Proof.Fanout.Lag
import P2pService.World.Tally
import P2pService.Proof.Fanout.Tally
import P2pService.Proof.Limits.Watermark
import P2pService.Proof.GetPeers
import P2pService.Proof.Service.Calls
import P2pService.Proof.Service.Order
import P2pService.Proof.Service.Contract
import P2pService.Proof.Service.Preferred
import P2pService.Proof.Startup
import P2pService.Library.Fifo
import P2pService.Library.Pick
import P2pService.Model.PeerstoreFile
import P2pService.World.Peerstore
import P2pService.World.Tick
import P2pService.World.Gossip
import P2pService.World.Backoff
import P2pService.Model.Config
import P2pService.World.Refill
import P2pService.World.Schedule
import P2pService.World.Node
import P2pService.Proof.Tick.Loop
import P2pService.Proof.Tick.Dials
import P2pService.Proof.Tick.Safe
import P2pService.Proof.Tick.Addresses
import P2pService.Proof.Tick.Slots
import P2pService.Proof.Tick.Task
import P2pService.Proof.Peerstore
import P2pService.Proof.Save
import P2pService.Proof.Node
import P2pService.Proof.Gossip
import P2pService.Proof.Backoff.Pruned
import P2pService.Proof.Backoff.Windows
import P2pService.Proof.Tick.Spacing
import P2pService.Proof.Refill.Openings
import P2pService.Proof.Refill.Budget
