import Pardosa.Foundation.Bytes
import Pardosa.Encoding.Error
import Pardosa.Foundation.Program
import Pardosa.Store.Failure
import Pardosa.Encoding.Digest
import Pardosa.Encoding.Envelope
import Pardosa.Store.FiberHandle
import Pardosa.Store.SessionIndex
import Pardosa.Store.History
import Pardosa.Encoding.OwnershipRecord
import Pardosa.Foundation.Trace
import Pardosa.Store.Ownership
import Pardosa.File.Container
import Pardosa.Schema.Descriptor
import Pardosa.File.Scan
import Pardosa.Store.Engine
import Pardosa.Store.Pipeline
import Pardosa.Store.Write
import Pardosa.Store.InMemory
import Pardosa.Store.Atomicity
import Pardosa.Store.Recovery
import Pardosa.File.Files
import Pardosa.File.Reconcile
import Pardosa.File.MetaRecords
import Pardosa.File.FileEngine
import Pardosa.File.Adapter
import Pardosa.File.Append
import Pardosa.File.Opening
import Pardosa.File.CrashSafety
import Pardosa.Store.Reads
import Pardosa.Store.Session
import Pardosa.File.Session
import Pardosa.Nats.Broker
import Pardosa.Nats.NatsEngine
import Pardosa.Nats.Adapter
import Pardosa.Store.WholeHistory
import Pardosa.Store.ReadAgreement
import Pardosa.Store.RetainedBreak
import Pardosa.Store.FailedReads
import Pardosa.Schema.RoundTrip
import Pardosa.File.Creation
import Pardosa.File.Verdict
import Pardosa.File.Reopening
import Pardosa.Nats.Prompt
import Pardosa.Nats.Verdict
import Pardosa.Nats.Quiet
import Pardosa.Nats.Creation
import Pardosa.File.Permanence
import Pardosa.Foundation.Concurrent
import Pardosa.File.SharedFiles
import Pardosa.File.Processes
import Pardosa.File.Exclusion
import Pardosa.Foundation.Binding
import Pardosa.Schema.Canonical
import Pardosa.Schema.Length
import Pardosa.Store.FiberReplay
import Pardosa.Foundation.Interleaving
import Pardosa.Store.Consistent
import Pardosa.Store.TipBinding
import Pardosa.Store.FiberOrder
import Pardosa.Store.FiberRuns
import Pardosa.Store.FiberViews
import Pardosa.Store.BrokenFibers
import Pardosa.Store.CommitmentBinding
import Pardosa.Store.Lifecycle
import Pardosa.Store.ArtefactReader
import Pardosa.Store.ReaderAgreement
import Pardosa.File.Tenures
import Pardosa.File.MutualExclusion
import Pardosa.File.Snapshots
import Pardosa.Nats.BrokerLog
import Pardosa.Nats.Clients
import Pardosa.Nats.OneWinner
import Pardosa.Encoding.RecordGrammar
import Pardosa.Schema.Admission
import Pardosa.Store.Framing
import Pardosa.Store.FiberLifecycle
import Pardosa.Foundation.Codec
import Pardosa.Foundation.FloatFormat
import Pardosa.Schema.PardosaType
import Pardosa.Schema.Derive
import Pardosa.Schema.TypeLanguage
import Pardosa.Schema.PayloadCodec
import Pardosa.Schema.WireFormat
import Pardosa.Schema.DepthChecks
import Pardosa.Schema.NestingDepth
import Pardosa.Foundation.Loop
import Pardosa.Store.ChunkedRecovery
import Pardosa.Store.EngineRecovery
import Pardosa.Foundation.FloatOrder
import Pardosa.Schema.Floats
import Pardosa.Foundation.Separated
import Pardosa.Nats.Locator
import Pardosa.Foundation.Lossy
import Pardosa.Foundation.Paths
import Pardosa.File.ArtefactNames
import Pardosa.Store.Divergence
import Pardosa.Nats.Divergence
import Pardosa.Nats.Watching
import Pardosa.Nats.Fencing
import Pardosa.Nats.Following
import Pardosa.Nats.OneHistory
import Pardosa.Nats.RealTime
import Pardosa.File.SharedHistory
import Pardosa.Foundation.Simulation
import Pardosa.Store.EngineAgreement
import Pardosa.Store.AdapterAgreement
import Pardosa.Store.PrecursorLink
import Pardosa.File.Seeding
import Pardosa.File.PlannedCreation
import Pardosa.File.PlannedRuns
