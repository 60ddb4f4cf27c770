import LiveFlags.Flag.Setting
import LiveFlags.Proofs.Store.CatchUp
import LiveFlags.Proofs.Store.Delivery
import LiveFlags.Proofs.Sync.Convergence
import LiveFlags.Proofs.Sync.Fleet
import LiveFlags.Proofs.Sync.Handled
import LiveFlags.Proofs.Sync.Poison
import LiveFlags.Proofs.Sync.Relapse
import LiveFlags.Proofs.Sync.Writes
import LiveFlags.Store.Memory.Watch
import LiveFlags.Store.Metered
import LiveFlags.Store.Scripted
import LiveFlags.Sync.Timeline
import LiveFlags.Proofs.Store.Chronicle
import LiveFlags.Proofs.Store.Exchange
import LiveFlags.Proofs.Sync.InitialLoad
import LiveFlags.Proofs.Sync.Custody
import LiveFlags.Proofs.Json.Token
import LiveFlags.Proofs.Document.RoundTrip
import LiveFlags.Proofs.Flag.Input
import LiveFlags.Proofs.Flag.Shared
import LiveFlags.Proofs.Sync.Frozen
import LiveFlags.Proofs.Store.Lag
import LiveFlags.Proofs.Sync.Outcome
import LiveFlags.Proofs.Sync.Independence
import LiveFlags.Proofs.Sync.Stopping
import LiveFlags.Proofs.Store.Directory
import LiveFlags.Proofs.Flag.Integer
import LiveFlags.Proofs.Sync.Naming
import LiveFlags.Proofs.Sync.Rejection
