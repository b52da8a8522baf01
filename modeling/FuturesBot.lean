import FuturesBot.JsonText
import FuturesBot.JsonParse
import FuturesBot.JsonPrefix
import FuturesBot.TextLines
import FuturesBot.FrameSelection
import FuturesBot.JsonCodec
import FuturesBot.DecimalNumbers
import FuturesBot.DecimalArithmetic
import FuturesBot.BinaryFloats
import FuturesBot.DateTimes
import FuturesBot.Dicts
import FuturesBot.StepRuns
import FuturesBot.StoreActions
import FuturesBot.DomainValues
import FuturesBot.Events
import FuturesBot.Journal
import FuturesBot.WalDisk
import FuturesBot.LocalJsonlWal
import FuturesBot.WalReading
import FuturesBot.WalInvariant
import FuturesBot.WalOperations
import FuturesBot.WalCrashes
import FuturesBot.WalSteps
import FuturesBot.WalRuns
import FuturesBot.WalRoundTrip
import FuturesBot.WalCrashRuns
import FuturesBot.RuntimeControl
import FuturesBot.OrderIntents
import FuturesBot.OrderPermissions
import FuturesBot.PermissionSafety
import FuturesBot.KillSwitchStore
import FuturesBot.LatestSelection
import FuturesBot.LiveState
import FuturesBot.MarketData
import FuturesBot.StateStitching
import FuturesBot.StitchSafety
import FuturesBot.JsonEquality
import FuturesBot.IdStores
import FuturesBot.VenueSources
import FuturesBot.ManualImports
import FuturesBot.FloatAges
import FuturesBot.AssetConversion
import FuturesBot.ConversionEvidence
import FuturesBot.ConversionSoundness
import FuturesBot.OrderLifecycle
import FuturesBot.AssetSemantics
import FuturesBot.VenueCapabilities
import FuturesBot.VenueValidation
import FuturesBot.CapabilityFreshness
import FuturesBot.ExecutionModels
import FuturesBot.ExecutionIds
import FuturesBot.ExecutionStores
import FuturesBot.CapabilityGate
import FuturesBot.ExecutionReadiness
import FuturesBot.ExecutionCoordinator
import FuturesBot.AdmissionWrites
import FuturesBot.AdmissionOutcomes
import FuturesBot.EntryPermissions
import FuturesBot.ProvenRecords
import FuturesBot.ConsecutiveNumbers
import FuturesBot.Broker
import FuturesBot.Sidecars
import FuturesBot.DbWriter
import FuturesBot.WalGcSafety
import FuturesBot.WriterFamily
import FuturesBot.WalRelay
import FuturesBot.RelayInterleaving
import FuturesBot.Checks
import FuturesBot.KeySorting
import FuturesBot.ReplayInputs
import FuturesBot.ReplayTimelines
import FuturesBot.TimelineBuilding
import FuturesBot.ReplayDispatch
import FuturesBot.ReplayRunStates
import FuturesBot.ReplayRuntime
import FuturesBot.ReplayTransitions
import FuturesBot.ReplayDispatching
import FuturesBot.AppendOnly
import FuturesBot.ReplayRecords
import FuturesBot.ReplayRuns
import FuturesBot.ReplaySteps
import FuturesBot.ReplayReachable
import FuturesBot.ReplayDigests
import FuturesBot.ReplayPlanning
import FuturesBot.ReplayMarketAdapter
import FuturesBot.ReplayMarketData
import FuturesBot.ReplayMarketFrames
import FuturesBot.ReplayLookAhead
import FuturesBot.ReplayIntegrity
import FuturesBot.ReplayReadiness
import FuturesBot.ReadinessPlanning
import FuturesBot.CanonicalCodecs
import FuturesBot.InstrumentSpellings
import FuturesBot.DecisionModels
import FuturesBot.ReplayDecisionModels
import FuturesBot.ReplayDecisionCodec
import FuturesBot.ReplayDecisionRoundTrip
import FuturesBot.DecimalRounding
import FuturesBot.CollateralValuation
import FuturesBot.CollateralSoundness
import FuturesBot.CapabilityResolution
import FuturesBot.ResolutionSoundness
import FuturesBot.DecimalRange
import FuturesBot.ExactValidation
import FuturesBot.BatchCommits
import FuturesBot.CheckpointWrites
import FuturesBot.WriterRetry
import FuturesBot.IdempotentAdmission
import FuturesBot.TargetDesignation
import FuturesBot.CalendarTimes
import FuturesBot.FixedPointText
import FuturesBot.OrderIdentity
import FuturesBot.OrderRepresentations
import FuturesBot.ForwardStores
import FuturesBot.LiveStateStores
import FuturesBot.StitchRanges
import FuturesBot.HistoricalReader
import FuturesBot.FloatOrder
import FuturesBot.FreshnessExactness
import FuturesBot.DictsOfLists
import FuturesBot.CollateralReadiness
import FuturesBot.ReplayRegistry
import FuturesBot.ReplayCursors
import FuturesBot.CursorRuns
import FuturesBot.JoinedTexts
import FuturesBot.CoverageReports
import FuturesBot.CoverageAudit
import FuturesBot.CoverageSoundness
import FuturesBot.CoverageBuilding
import FuturesBot.CoverageDiffs
import FuturesBot.CoverageDiffing
import FuturesBot.CoverageDiffLaw
import FuturesBot.DecimalSpellings
import FuturesBot.VenueSpellings
import FuturesBot.ValidationSpellings
import FuturesBot.SpellingIndependence
import FuturesBot.IntTexts
import FuturesBot.WalDirectories
import FuturesBot.WalOpening
import FuturesBot.ReadinessChecks
import FuturesBot.BatchVerification
import FuturesBot.EvaluationResults
import FuturesBot.ResultHistory
import FuturesBot.ObjectiveAssets
import FuturesBot.ObjectiveReadiness
import FuturesBot.EvidenceGates
import FuturesBot.ExecutionCosts
import FuturesBot.MarginLiquidation
import FuturesBot.EventJournal
import FuturesBot.ReadinessAges
import FuturesBot.ReplayBoundEvents
import FuturesBot.ReplayFrameOrder
import FuturesBot.ReplayFrameBuilding
import FuturesBot.BindingAgreement
import FuturesBot.ReplayLookup
import FuturesBot.ReplayLookupRoundTrip
import FuturesBot.MarketEvidence
import FuturesBot.EvidenceDerivation
import FuturesBot.PythonTexts
import FuturesBot.PythonJson
import FuturesBot.PythonJsonReader
import FuturesBot.ConfigFingerprint
import FuturesBot.SettledJson
import FuturesBot.ConfigCanonicalTexts
import FuturesBot.ConfigPayloads
import FuturesBot.DecimalExactness
import FuturesBot.DecimalNormal
import FuturesBot.AssetAccounting
import FuturesBot.AccountingExactness
import FuturesBot.StreamEventIds
import FuturesBot.PythonWriters
import FuturesBot.RawJson
import FuturesBot.ReplayOutputPayloads
import FuturesBot.ModelDumps
import FuturesBot.SnapshotIds
import FuturesBot.ConfigEquality
import FuturesBot.ConfigBundles
import FuturesBot.RecordChanges
import FuturesBot.SoundRecords
import FuturesBot.ForwardRecords
import FuturesBot.JournalAgreement
import FuturesBot.JournalRuns
import FuturesBot.PipelineRecovery
import FuturesBot.ActiveTargets
import FuturesBot.ReplayEvidence
import FuturesBot.EvidenceTimelines
import FuturesBot.ReplayOperations
import FuturesBot.ReplayStateMachine
import FuturesBot.ReplayStepSizes
import FuturesBot.ReplayInterleaving
