import R2N.Lib.Run
import R2N.Lib.KeyMap
import R2N.Lib.Guarded
import R2N.Lib.SetLog
import R2N.Lib.Cell
import R2N.Lib.Checked
import R2N.Lib.OnesComplement
import R2N.Lib.Toml
import R2N.Lib.Text
import R2N.Lib.Adjacent
import R2N.Lib.Rotation
import R2N.Lib.AgedQueue
import R2N.Lib.StableSort
import R2N.Lib.ClassQueue
import R2N.Lib.Lending
import R2N.Lib.Postcard
import R2N.Common
import R2N.Crypto.Cipher
import R2N.Crypto.Replay
import R2N.Crypto.Noise
import R2N.Proto.Header
import R2N.Proto.Frame
import R2N.Transport
import R2N.Room
import R2N.AddressPool
import R2N.Leases
import R2N.Supernode.Supernode
import R2N.Supernode.Turns
import R2N.Supernode.Effects
import R2N.Supernode.Liveness
import R2N.Supernode.Pool
import R2N.Supernode.Requests
import R2N.Supernode.Registry
import R2N.Supernode.Reaper
import R2N.Supernode.Management
import R2N.Supernode.Tokens
import R2N.Policy
import R2N.Dataplane.Buffers
import R2N.Slab
import R2N.Supernode.Relay
import R2N.Dataplane.Path
import R2N.Dataplane.PathChoice
import R2N.Discovery
import R2N.Dataplane.Plane
import R2N.Dataplane.Send
import R2N.Dataplane.Receive
import R2N.Dataplane.Records
import R2N.Dataplane.Routes
import R2N.Dataplane.Firewall
import R2N.Dataplane.HeaderAad
import R2N.Dataplane.Switch
import R2N.Dataplane.Pipeline
import R2N.Dataplane.Slots
import R2N.Dataplane.Scheduling
import R2N.Dataplane.Forgery
import R2N.Dataplane.Floods
import R2N.Broadcast
import R2N.Dataplane.Defense
import R2N.Dataplane.Clamp
import R2N.Dataplane.ClampCorrect
import R2N.Layer3
import R2N.Dataplane.Rewrite
import R2N.Edge.Edge
import R2N.Edge.Pairs
import R2N.Edge.Candidates
import R2N.Edge.Prediction
import R2N.Edge.Activation
import R2N.Edge.Interface
import R2N.Edge.TunLoop
import R2N.Config.Records
import R2N.Config.Shared
import R2N.Config.Save
import R2N.PortSpec
import R2N.Edge.Run
import R2N.Edge.Tables
import R2N.Edge.Requests
import R2N.Edge.Authentication
import R2N.Edge.Evolution
import R2N.Edge.Nonces
import R2N.Edge.ClearText
import R2N.Edge.KeyAgreement
import R2N.Edge.Handshakes
import R2N.Edge.Ipc
import R2N.Edge.Views
import R2N.Edge.Agreement
import R2N.Edge.Relays
import R2N.Edge.Registration
import R2N.Edge.Invites
import R2N.Edge.Failover
import R2N.Edge.Callers
import R2N.Overlay.Overlay
import R2N.Overlay.Batches
import R2N.Overlay.Service
import R2N.Overlay.Membership
import R2N.Lib.Outstanding
import R2N.Observability
import R2N.Dataplane.Probing
import R2N.Dataplane.Estimates
import R2N.Proto.Wire
import R2N.Supernode.Forwarding
import R2N.Supernode.Rooms
import R2N.Supernode.Rosters
import R2N.Edge.Replays
import R2N.Lib.Watch
import R2N.Edge.PortMapping
import R2N.Edge.Mappings
import R2N.Lib.Recency
import R2N.Edge.History
import R2N.Config.Identity
import R2N.Edge.Delivery
import R2N.Edge.Supervision
import R2N.Edge.Provenance
import R2N.Overlay.Invitations
