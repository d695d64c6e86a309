import CallGraph.Directory.DirectoryRun
import CallGraph.Report.Wire
import CallGraph.Proofs.ByteOrder
import CallGraph.Proofs.Gathering
import CallGraph.Proofs.MergedReports
import CallGraph.Proofs.GraphEdges
import CallGraph.Proofs.GraphShape
import CallGraph.Proofs.Extraction
import CallGraph.Proofs.IntraClassCalls
import CallGraph.Proofs.Provenance
import CallGraph.Proofs.PrimaryDefinitions
import CallGraph.Proofs.RunOrder
import CallGraph.Proofs.IndexContents
import CallGraph.Proofs.ExcludedFiles
import CallGraph.Proofs.FailedFiles
import CallGraph.Proofs.AddedFiles
import CallGraph.Proofs.DisplayCaps
import CallGraph.Proofs.Connectivity
import CallGraph.Proofs.TemplateArguments
import CallGraph.Proofs.DirectoryRuns
import CallGraph.Proofs.JsonText
import CallGraph.Proofs.WrittenReports
import CallGraph.Proofs.TreeListings
import CallGraph.Proofs.ExternalNames
import CallGraph.Proofs.InsertionOrder
import CallGraph.Proofs.NameSegments
import CallGraph.Proofs.NestedCalls
import CallGraph.Proofs.PythonMethods
import CallGraph.Proofs.MemberDefinitions
import CallGraph.Proofs.CheckedPython
import CallGraph.Proofs.CheckedC
import CallGraph.Proofs.CheckedAnalysis
import CallGraph.Proofs.ImportBindings
import CallGraph.Proofs.DetectedExtensions
import CallGraph.Proofs.ExclusionPaths
import CallGraph.Proofs.PrivateNames
import CallGraph.Proofs.CalleeCandidates
import CallGraph.Proofs.NamespaceNesting
import CallGraph.Proofs.DeclaratorChains
