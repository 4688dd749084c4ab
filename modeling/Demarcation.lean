import Demarcation.Main
import Demarcation.TableAccess
import Demarcation.Proofs.OverlapCounting
import Demarcation.Proofs.Sorting
import Demarcation.Proofs.Sweep
import Demarcation.Proofs.MergePasses
import Demarcation.Proofs.MergeRounds
import Demarcation.Proofs.UsageOverlap
import Demarcation.Proofs.ExactScalar
import Demarcation.Proofs.TracedMerge
import Demarcation.Proofs.Regrouping
import Demarcation.Proofs.MergeLocality
import Demarcation.Proofs.ScoreOrder
import Demarcation.Proofs.FloatOrder
import Demarcation.Proofs.Umbrellas
import Demarcation.Proofs.Selection
import Demarcation.Proofs.SelectionOrder
import Demarcation.Proofs.MergedGroups
import Demarcation.Proofs.Grouping
import Demarcation.Proofs.InventoryMembers
import Demarcation.Proofs.Proposals
import Demarcation.Proofs.DeclaredBoundaries
import Demarcation.Proofs.Grounding
import Demarcation.Proofs.ThresholdCoverage
import Demarcation.Proofs.TableGroups
import Demarcation.Proofs.ExactRounding
import Demarcation.Proofs.ReportRoundTrip
import Demarcation.Proofs.TwoTrees
import Demarcation.Proofs.UmbrellaCover
import Demarcation.Proofs.InventoryOrder
import Demarcation.Proofs.TimeLimit
import Demarcation.Proofs.Paths
import Demarcation.Proofs.WrittenFiles
import Demarcation.Proofs.DistinctKeys
import Demarcation.Proofs.SettingLayers
import Demarcation.Proofs.SavedSettings
import Demarcation.Proofs.Search
import Demarcation.Proofs.UsageScan
import Demarcation.Proofs.MergeLoop
import Demarcation.Proofs.MergedNames
import Demarcation.Proofs.Strength
import Demarcation.Proofs.StarGroups
import Demarcation.Proofs.KeyedGroups
import Demarcation.Proofs.DirectoryGroups
import Demarcation.Proofs.Subjects
import Demarcation.Proofs.OperationWords
import Demarcation.Proofs.StatementTables
import Demarcation.Proofs.GoCalls
import Demarcation.Proofs.PythonCalls
import Demarcation.Proofs.BoundaryFiles
import Demarcation.Proofs.SettingChecks
import Demarcation.Proofs.LoadedSettings
import Demarcation.Proofs.ChangedSettings
import Demarcation.Proofs.CheckedArithmetic
import Demarcation.Proofs.MetricBounds
import Demarcation.Proofs.Pairs
import Demarcation.Proofs.OverlapReport
import Demarcation.Proofs.SharedFiles
import Demarcation.Proofs.QuotedStrings
import Demarcation.Proofs.GraphSyntax
import Demarcation.Proofs.GraphText
import Demarcation.Proofs.OverlapEdges
import Demarcation.Proofs.NameResolution
import Demarcation.Proofs.EvenSpacing
import Demarcation.Proofs.FileWeights
import Demarcation.Proofs.SampledFiles
import Demarcation.Proofs.PathPieces
import Demarcation.Proofs.FilePatterns
import Demarcation.Proofs.ExcludedFiles
import Demarcation.Proofs.NameWords
import Demarcation.Proofs.DocumentOrder
import Demarcation.Proofs.ForwardReading
import Demarcation.Proofs.GoReaders
import Demarcation.Proofs.SourceOrder
