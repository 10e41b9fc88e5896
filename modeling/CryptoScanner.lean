import CryptoScanner.Library.Transition
import CryptoScanner.Library.Table
import CryptoScanner.Library.Statements
import CryptoScanner.Python.Text
import CryptoScanner.Python.Json
import CryptoScanner.Library.WorkQueue
import CryptoScanner.Python.IpAddress
import CryptoScanner.RiskEngine.Engine
import CryptoScanner.Models
import CryptoScanner.Jobs.Pipelines
import CryptoScanner.Jobs.Queue
import CryptoScanner.Jobs.Changes
import CryptoScanner.Jobs.Lifecycle
import CryptoScanner.Jobs.Simulation
import CryptoScanner.Jobs.Guarantees
import CryptoScanner.Jobs.DiscoveryMirror
import CryptoScanner.Jobs.Endings
import CryptoScanner.Jobs.DiscoveryScopes
import CryptoScanner.Library.Regex
import CryptoScanner.MigrationEngine.Rules
import CryptoScanner.MigrationEngine.Engine
import CryptoScanner.MigrationEngine.Vulnerability
import CryptoScanner.MigrationEngine.FirstMatch
import CryptoScanner.Snapshots.QuantumVulnerable
import CryptoScanner.RiskEngine.AlgorithmWords
import CryptoScanner.RiskEngine.MigrationAgreement
import CryptoScanner.MigrationEngine.SafePlan
import CryptoScanner.Scan.Candidates
import CryptoScanner.Scan.KeyAgreement
import CryptoScanner.Scan.KeyAgreementMapping
import CryptoScanner.Library.Dict
import CryptoScanner.Scan.AgentMapper
import CryptoScanner.Scan.NetworkCandidates
import CryptoScanner.Scan.FamilyFactor
import CryptoScanner.Scan.BomRefs
import CryptoScanner.Library.Distinct
import CryptoScanner.Scan.Provenance
import CryptoScanner.Scan.MergedAssets
import CryptoScanner.Python.JsonDecoder
import CryptoScanner.Llm.Output
import CryptoScanner.Llm.QualitativeRisk
import CryptoScanner.Llm.ResponseVerdict
import CryptoScanner.Llm.ContextSuggestion
import CryptoScanner.Llm.MigrationSuggestion
import CryptoScanner.Llm.Safety
import CryptoScanner.HostScanners.ConfigText
import CryptoScanner.HostScanners.TlsPolicy
import CryptoScanner.HostScanners.ConfigLeak
import CryptoScanner.Assets.Context
import CryptoScanner.Assets.ContextPatch
import CryptoScanner.Risk.Services
import CryptoScanner.Risk.ScoreRows
import CryptoScanner.Targets.Services
import CryptoScanner.Targets.OperatorContext
import CryptoScanner.Scan.ScanBody
import CryptoScanner.Scan.FailedScan
import CryptoScanner.Performance.Results
import CryptoScanner.Performance.Services
import CryptoScanner.Performance.Lifecycle
import CryptoScanner.Performance.RunInvariants
import CryptoScanner.Library.GroupBy
import CryptoScanner.Performance.Runner
import CryptoScanner.Library.Isolation
import CryptoScanner.Jobs.WorkerLoop
import CryptoScanner.Scan.Accounting
import CryptoScanner.Library.Pagination
import CryptoScanner.Snapshots.Pagination
import CryptoScanner.Library.Trim
import CryptoScanner.Python.IpText
import CryptoScanner.Discoveries.Scope
import CryptoScanner.Risk.FreshScores
import CryptoScanner.Library.Substitution
import CryptoScanner.Snapshots.Redaction
import CryptoScanner.Performance.PostMigration
import CryptoScanner.Library.KeyedDiff
import CryptoScanner.Python.Digits
import CryptoScanner.Snapshots.Diff
import CryptoScanner.Snapshots.Regressions
import CryptoScanner.Snapshots.DiffLaws
import CryptoScanner.Assets.ContextHistory
import CryptoScanner.Discoveries.Endpoints
import CryptoScanner.Discoveries.MalformedRecords
import CryptoScanner.RiskEngine.Monotone
import CryptoScanner.RiskEngine.KeySizes
import CryptoScanner.MigrationEngine.WeakKeys
import CryptoScanner.RiskEngine.Spelling
import CryptoScanner.Scan.DerivedFamily
import CryptoScanner.RiskEngine.Dhs
import CryptoScanner.Scan.Dedupe
import CryptoScanner.Library.While
import CryptoScanner.Scan.TlsScan
import CryptoScanner.Scan.TlsNames
import CryptoScanner.Scan.TlsTermination
import CryptoScanner.Scan.TlsClosure
import CryptoScanner.Scan.TlsFailures
import CryptoScanner.Python.Struct
import CryptoScanner.Scan.IkeRoundTrip
import CryptoScanner.Python.JsonEncoder
import CryptoScanner.Llm.ResponseRoundTrip
import CryptoScanner.Assets.Qualitative
import CryptoScanner.Assets.QualitativeCache
import CryptoScanner.Assets.QualitativeMock
import CryptoScanner.Assets.CacheHistory
import CryptoScanner.Scan.IkeMatching
import CryptoScanner.Python.Base64
import CryptoScanner.Scan.SshKeys
import CryptoScanner.Python.Words
import CryptoScanner.HostScanners.AuthorizedKeys
import CryptoScanner.Scan.SshFallback
import CryptoScanner.Targets.InferenceTwice
import CryptoScanner.Discoveries.ScopeSpelling
import CryptoScanner.Library.Fallible
import CryptoScanner.Python.Float
import CryptoScanner.Performance.Engine.Metrics
import CryptoScanner.Performance.Engine.Renormalization
import CryptoScanner.Performance.Engine.Evaluation
import CryptoScanner.Performance.Engine.Monotone
import CryptoScanner.Library.Accumulate
import CryptoScanner.Performance.Engine.Summary
import CryptoScanner.Performance.Engine.Conservation
import CryptoScanner.Library.StableSort
import CryptoScanner.Performance.Engine.RowOrder
import CryptoScanner.Library.Join
import CryptoScanner.Python.IpFormat
import CryptoScanner.AgentDiscovery.Runner
import CryptoScanner.Performance.BaselineLookup
import CryptoScanner.Snapshots.Antisymmetry
import CryptoScanner.Discoveries.EndpointsCount
import CryptoScanner.HostScanners.MinimumVersion
import CryptoScanner.HostScanners.DisabledAlgorithms
import CryptoScanner.Library.Insertion
import CryptoScanner.HostScanners.CommentedReferences
import CryptoScanner.Python.PosixPath
import CryptoScanner.HostScanners.DormantKeys
import CryptoScanner.Discoveries.DomainGrammar
import CryptoScanner.Scan.RefParts
import CryptoScanner.JavaScript.Text
import CryptoScanner.Frontend.ExposureGraph
import CryptoScanner.Library.Layers
import CryptoScanner.Frontend.GraphInvariants
import CryptoScanner.Frontend.GraphLinks
import CryptoScanner.Frontend.ExposureDot
import CryptoScanner.Frontend.DotClusters
import CryptoScanner.Frontend.DotEscape
import CryptoScanner.Jobs.RowChanges
import CryptoScanner.Jobs.Records
import CryptoScanner.Jobs.FollowUps
import CryptoScanner.Jobs.QueueOrder
import CryptoScanner.Jobs.AvailabilityRuns
import CryptoScanner.Library.TableTotal
import CryptoScanner.Jobs.Draining
import CryptoScanner.Agents.Registry
import CryptoScanner.Agents.Agreement
import CryptoScanner.Discoveries.Promotion
import CryptoScanner.Discoveries.PromotionAnswers
import CryptoScanner.Discoveries.PromotionLinks
import CryptoScanner.AgentDiscovery.Registry
import CryptoScanner.Discoveries.Executors
import CryptoScanner.Discoveries.ExecutorAgreement
import CryptoScanner.Snapshots.Cbom
import CryptoScanner.Snapshots.CbomGraph
import CryptoScanner.Snapshots.CbomPlan
import CryptoScanner.Snapshots.CbomPages
import CryptoScanner.Library.Tally
import CryptoScanner.Dashboard.Summary
import CryptoScanner.Dashboard.SummaryAgreement
import CryptoScanner.Performance.Measure
import CryptoScanner.Performance.MeasuredVerdict
import CryptoScanner.JavaScript.Number
import CryptoScanner.Frontend.AssetContextForm
import CryptoScanner.Assets.ContextSuggestion
