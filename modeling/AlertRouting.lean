import AlertRouting.Config.Editing
import AlertRouting.Fixture
import AlertRouting.Main
import AlertRouting.Proofs.Pattern.Anchors
import AlertRouting.Proofs.Routing.Frontier
import AlertRouting.Proofs.Routing.Inheritance
import AlertRouting.Proofs.Routing.TraceResult
import AlertRouting.Proofs.Config.Places
import AlertRouting.Proofs.Config.Violations
import AlertRouting.Proofs.Config.Validity
import AlertRouting.Proofs.Routing.Gates
import AlertRouting.Proofs.Config.Checked
import AlertRouting.Proofs.Routing.Sanity
import AlertRouting.Proofs.Config.Editing
import AlertRouting.Proofs.Routing.Irrelevance
import AlertRouting.Proofs.Routing.LabelUse
import AlertRouting.Proofs.Trace.Levels
import AlertRouting.Proofs.Trace.Readback
import AlertRouting.Proofs.Trace.Log
import AlertRouting.Proofs.Pattern.WholeValue
import AlertRouting.Proofs.Routing.Mirror
import AlertRouting.Proofs.Routing.Root
import AlertRouting.Proofs.Forest.Search
import AlertRouting.Proofs.Routing.Failure
import AlertRouting.Proofs.Routing.PolicyCount
import AlertRouting.Proofs.CommandLine.Agreement
import AlertRouting.Proofs.Config.Spoiling
import AlertRouting.Proofs.Config.Trees
import AlertRouting.Proofs.Fixture.Verdict
import AlertRouting.Proofs.CommandLine.LabelArgument
import AlertRouting.Proofs.NameMap.History
import AlertRouting.Proofs.Text.Utf8
import AlertRouting.Proofs.CommandLine.LabelOrder
import AlertRouting.Proofs.Text.Labels
