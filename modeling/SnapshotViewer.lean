import SnapshotViewer.Proofs.Closing.RestOfRun
import SnapshotViewer.Proofs.Diagram.LastRuleColors
import SnapshotViewer.Proofs.Diagram.RepeatedRebuild
import SnapshotViewer.Proofs.Diagram.SelectedFigures
import SnapshotViewer.Proofs.Duplicates.ShownAndHidden
import SnapshotViewer.Proofs.Interference.UndisturbedViews
import SnapshotViewer.Proofs.Label.Expansion
import SnapshotViewer.Proofs.Nesting.NeverNested
import SnapshotViewer.Proofs.Queue.NestedAsSequential
import SnapshotViewer.Proofs.Settings.LayeredFiles
import SnapshotViewer.Proofs.Snapshot.ComponentBlocks
import SnapshotViewer.Proofs.View.OutdatedSequence
import SnapshotViewer.Proofs.Window.Bounds
import SnapshotViewer.Value.Json.Printer
