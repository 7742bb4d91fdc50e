import BtDaemon.Foundation.Transition
import BtDaemon.Foundation.Table
import BtDaemon.Foundation.EventLog
import BtDaemon.Foundation.TaskPool
import BtDaemon.Foundation.WriteThrough
import BtDaemon.Foundation.Loop
import BtDaemon.Foundation.Mac
import BtDaemon.Foundation.Transducer
import BtDaemon.Foundation.Endian
import BtDaemon.Foundation.Reader
import BtDaemon.Foundation.ShiftRegister
import BtDaemon.Foundation.Slice
import BtDaemon.Foundation.Window
import BtDaemon.Foundation.KeySort
import BtDaemon.Foundation.CompareSort
import BtDaemon.Foundation.Text
import BtDaemon.Foundation.UnixPath
import BtDaemon.Foundation.FileSystem
import BtDaemon.Foundation.JsonSchema
import BtDaemon.Foundation.Deadlines
import BtDaemon.Foundation.BoundedTable
import BtDaemon.Foundation.ExpiringTable
import BtDaemon.Foundation.Program
import BtDaemon.Foundation.Rules
import BtDaemon.Foundation.World
import BtDaemon.Foundation.Broadcast
import BtDaemon.Framing.Delimited
import BtDaemon.Framing.Recovery
import BtDaemon.RssiHelper.Mgmt
import BtDaemon.RssiHelper.Helper
import BtDaemon.RssiHelper.Limits
import BtDaemon.Sony.Protocol
import BtDaemon.Sony.Session
import BtDaemon.Sony.StopAndWait
import BtDaemon.Sony.NoiseControl
import BtDaemon.Sony.Control
import BtDaemon.Maestro.Varint
import BtDaemon.Maestro.Protobuf
import BtDaemon.Maestro.Packet
import BtDaemon.Maestro.Frame
import BtDaemon.Maestro.Checksum
import BtDaemon.Maestro.RuntimeInfo
import BtDaemon.Maestro.Session
import BtDaemon.Maestro.Delivery
import BtDaemon.Backend
import BtDaemon.Api.AdapterPatch
import BtDaemon.Api.AdapterSchema
import BtDaemon.Api.Adapter
import BtDaemon.Api.AdapterBatches
import BtDaemon.Daemon.Gates
import BtDaemon.Daemon.Operation
import BtDaemon.Daemon.OperationRuns
import BtDaemon.Daemon.OperationMoves
import BtDaemon.Daemon.OperationLifecycle
import BtDaemon.Daemon.OperationOwnership
import BtDaemon.Daemon.OperationSweeps
import BtDaemon.Daemon.Scan
import BtDaemon.Daemon.ScanRuns
import BtDaemon.Daemon.ScanLeases
import BtDaemon.Daemon.ScanSweeps
import BtDaemon.Daemon.ScanEvents
import BtDaemon.Bluez.Discovery
import BtDaemon.Daemon.ScanDiscovery
import BtDaemon.Daemon.RequestOwners
import BtDaemon.Daemon.OwnerLoss
import BtDaemon.Daemon.Published
import BtDaemon.Daemon.Refresh
import BtDaemon.Daemon.Subscription
import BtDaemon.Daemon.Observation
import BtDaemon.FastPair.Retry
import BtDaemon.FastPair.Connection
import BtDaemon.FastPair.OneReader
import BtDaemon.FastPair.Attempts
import BtDaemon.FastPair.AttemptFence
import BtDaemon.FastPair.Commands
import BtDaemon.FastPair.Stream
import BtDaemon.FastPair.Reservations
import BtDaemon.FastPair.Readers
import BtDaemon.FastPair.Teardown
import BtDaemon.FastPair.Backoff
import BtDaemon.FastPair.Advertisement
import BtDaemon.Pairing.Broker
import BtDaemon.Pairing.Interactions
import BtDaemon.Pairing.Endings
import BtDaemon.Pairing.Secrecy
import BtDaemon.Bluez.Recovery
import BtDaemon.Bluez.RecoveryOwner
import BtDaemon.Bluez.RecoveryWorkers
import BtDaemon.Bluez.LinkSignal
import BtDaemon.Bluez.LinkFence
import BtDaemon.Bluez.LinkPoll
import BtDaemon.Bluez.Snapshot
import BtDaemon.Bluez.SignalArbitration
import BtDaemon.Bluez.DiscoveryCache
import BtDaemon.Bluez.Disconnect
import BtDaemon.FastPair.Messages
import BtDaemon.FastPair.Session
import BtDaemon.FastPair.Crypto
import BtDaemon.FastPair.Catalog
import BtDaemon.FastPair.Provisioning
import BtDaemon.FastPair.ProvisioningOrder
import BtDaemon.FastPair.Controls
import BtDaemon.Bluez.Monitor
import BtDaemon.Bluez.Expiry
import BtDaemon.Bluez.Operations
import BtDaemon.Bluez.OperationOrder
import BtDaemon.Bluez.Reconnect
import BtDaemon.Obex.Transfer
import BtDaemon.Obex.TransferEnd
import BtDaemon.Obex.Authorization
import BtDaemon.Obex.AuthorizationLifecycle
import BtDaemon.Obex.FileName
import BtDaemon.Obex.Reservation
import BtDaemon.Identity.Registry
import BtDaemon.Identity.StableKeys
import BtDaemon.Identity.Persistence
import BtDaemon.Identity.Durability
import BtDaemon.Identity.Retryable
import BtDaemon.Identity.Presentation
import BtDaemon.Storage.JsonFile
import BtDaemon.Storage.Management
import BtDaemon.Storage.ManagementAgreement
import BtDaemon.Storage.AccountKeys
import BtDaemon.Storage.KeyAgreement
import BtDaemon.Storage.Agreement
import BtDaemon.VendorChannel.Links
import BtDaemon.VendorChannel.Sessions
import BtDaemon.VendorChannel.SessionFence
import BtDaemon.VendorChannel.Wire
import BtDaemon.VendorChannel.Backoff
import BtDaemon.Maestro.Provider
import BtDaemon.Audio.Device
import BtDaemon.Audio.Keys
import BtDaemon.Audio.Completion
import BtDaemon.Audio.ProfileChange
import BtDaemon.Audio.RouteChange
import BtDaemon.Audio.Finalization
import BtDaemon.Audio.Probe
import BtDaemon.Bluez.Capabilities
import BtDaemon.Bluez.Offers
