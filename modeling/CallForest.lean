import CallForest.Main
import CallForest.Proofs.Graph.History
import CallForest.Proofs.Listing.LeftOut
import CallForest.Proofs.Tree.Drawing
import CallForest.Proofs.Graph.Calls
import CallForest.Proofs.Graph.Registry
import CallForest.Proofs.Ingest.Passes
import CallForest.Proofs.Listing.Names
import CallForest.Proofs.Ingest.Isolation
import CallForest.Proofs.Ingest.Soundness
import CallForest.Proofs.Ingest.Sharing
import CallForest.Proofs.Ingest.Definitions
import CallForest.Proofs.Ingest.Order
import CallForest.Proofs.Ingest.Reindexing
import CallForest.Proofs.Ingest.Stopping
import CallForest.Proofs.Ingest.LastRows
import CallForest.Proofs.Ingest.LineNumbers
import CallForest.Proofs.Cli.Consecutive
import CallForest.Proofs.Tree.Chains
import CallForest.Proofs.Ingest.Dumping
import CallForest.Proofs.Listing.Faults
import CallForest.Proofs.Listing.GivenUp
import CallForest.Proofs.Listing.Skipping
import CallForest.Proofs.Listing.Blocks
import CallForest.Proofs.Files.TreePaths
import CallForest.Proofs.Report.Fields
import CallForest.Proofs.Ingest.Drawn
import CallForest.Proofs.Ingest.LineEndings
import CallForest.Proofs.Ingest.LineCounts
import CallForest.Proofs.Ingest.Leftovers
import CallForest.Proofs.Tree.Forms
import CallForest.Proofs.Files.Headers
