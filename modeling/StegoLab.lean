import StegoLab.Library.Interleaving
import StegoLab.Library.Bits
import StegoLab.Library.Repetition
import StegoLab.Library.Utf8
import StegoLab.Library.EvaluationCode
import StegoLab.Library.Dictionary
import StegoLab.Library.Weights
import StegoLab.Library.CanonicalJson
import StegoLab.Library.UnionFind
import StegoLab.Library.Runs
import StegoLab.Library.Transactions
import StegoLab.Library.Contracts
import StegoLab.Library.Crashes
import StegoLab.Library.Text
import StegoLab.Library.Ranking
import StegoLab.Library.Decompression
import StegoLab.Failures
import StegoLab.Protocol.Context
import StegoLab.Protocol.Frame
import StegoLab.Protocol.Correction
import StegoLab.Protocol.ReedSolomon
import StegoLab.Protocol.PayloadMap
import StegoLab.Protocol.Voting
import StegoLab.Protocol.RoundTrip
import StegoLab.Protocol.Bursts
import StegoLab.Protocol.Authenticity
import StegoLab.Datasets.Records
import StegoLab.Datasets.Groups
import StegoLab.Datasets.GroupProperties
import StegoLab.Datasets.Leakage
import StegoLab.Datasets.Inventory
import StegoLab.Datasets.InventoryProperties
import StegoLab.Datasets.Manifest
import StegoLab.Datasets.ManifestProperties
import StegoLab.Datasets.Validation
import StegoLab.Datasets.Reuse
import StegoLab.Datasets.ReuseAgreement
import StegoLab.Datasets.Preparation
import StegoLab.Datasets.Paths
import StegoLab.Datasets.PreparationProperties
import StegoLab.Datasets.PreparationAgreement
import StegoLab.Budget.Ledger
import StegoLab.Budget.Operations
import StegoLab.Budget.OperationProperties
import StegoLab.Budget.LedgerProperties
import StegoLab.Budget.History
import StegoLab.Budget.Limits
import StegoLab.Budget.Closing
import StegoLab.Sources.Specifications
import StegoLab.Sources.Plans
import StegoLab.Uploads.Records
import StegoLab.Storage.DiskReserve
import StegoLab.Storage.AtomicFiles
import StegoLab.Sources.CacheFiles
import StegoLab.Sources.Transfer
import StegoLab.Sources.TransferProperties
import StegoLab.Sources.TransferResults
import StegoLab.Sources.Cache
import StegoLab.Sources.CacheProperties
import StegoLab.Sources.Downloads
import StegoLab.Sources.DownloadProperties
import StegoLab.Sources.DownloadAccounting
import StegoLab.Sources.DownloadBudget
import StegoLab.Uploads.Files
import StegoLab.Uploads.Sessions
import StegoLab.Uploads.Directories
import StegoLab.Uploads.Calls
import StegoLab.Uploads.Assembly
import StegoLab.Uploads.System
import StegoLab.Uploads.Truthful
import StegoLab.Uploads.Resuming
import StegoLab.Uploads.Faithful
import StegoLab.Uploads.FaithfulAssembly
import StegoLab.Uploads.Capacity
import StegoLab.Workflow.Jobs
import StegoLab.Workflow.Store
import StegoLab.Workflow.Service
import StegoLab.Workflow.Supervision
import StegoLab.Workflow.System
import StegoLab.Workflow.Sections
import StegoLab.Workflow.Effects
import StegoLab.Workflow.StepEffects
import StegoLab.Workflow.Exclusion
import StegoLab.Workflow.Replay
import StegoLab.Workflow.Finality
import StegoLab.Workflow.Admission
import StegoLab.Workflow.Frames
import StegoLab.Workflow.Secrets
import StegoLab.Workflow.SecretHistory
import StegoLab.Workflow.ModelRemoval
import StegoLab.Workflow.Installation
import StegoLab.Workflow.InstallationProperties
import StegoLab.Training.ProofLedger
import StegoLab.Training.ProofLedgerProperties
import StegoLab.Training.ProofBudget
import StegoLab.Training.ProofBudgetProperties
import StegoLab.Training.ProofBudgetHistory
import StegoLab.Training.PilotSampler
import StegoLab.Training.PilotSamplerProperties
import StegoLab.Training.PilotSamplerHistory
import StegoLab.Sources.Transport
import StegoLab.Sources.TransportProperties
import StegoLab.Training.Checkpoints
import StegoLab.Training.CheckpointRetention
import StegoLab.Training.CheckpointHistory
import StegoLab.Sources.Cleanup
import StegoLab.Sources.CleanupProperties
import StegoLab.Sources.PartialDownloads
import StegoLab.Sources.PartialDownloadProperties
import StegoLab.Sources.DownloadOwnership
import StegoLab.Workflow.FetchHistory
import StegoLab.Workflow.Cancellation
import StegoLab.Images.PixelStream
import StegoLab.Images.PassCoverage
import StegoLab.Images.PixelStreamProperties
import StegoLab.Images.ImagePolicy
import StegoLab.Images.PngHeader
import StegoLab.Images.PngGrammar
import StegoLab.Images.PngChecks
import StegoLab.Images.PngScan
import StegoLab.Images.PngHeaderProperties
import StegoLab.Inference.Files
import StegoLab.Inference.FilesProperties
import StegoLab.Inference.FilesHistory
import StegoLab.Library.Traces
import StegoLab.Budget.Guard
import StegoLab.Budget.GuardProperties
import StegoLab.Training.Preflight
import StegoLab.Training.PreflightProperties
import StegoLab.Library.KeyedLists
import StegoLab.Library.Logs
import StegoLab.Workflow.Journal
import StegoLab.Workflow.EventStream
import StegoLab.Workflow.EventStreamProperties
import StegoLab.Workflow.EventStreamHistory
import StegoLab.Library.FileTrees
import StegoLab.Storage.Staging
import StegoLab.Storage.DatasetWriter
import StegoLab.Storage.StagingProperties
import StegoLab.Storage.EntryProperties
import StegoLab.Storage.WriterProperties
import StegoLab.Storage.WriterHistory
