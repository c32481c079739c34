import SnapshotViewer.Filter
import SnapshotViewer.Highlight
import SnapshotViewer.Scheduler
import SnapshotViewer.Window

/-!
# Views

A view shows a window over the visible snapshots of a group, the graph that the window selects and
its diagram. The type holds what a view remembers; the modules beside this one say how it
changes.
-/

namespace SnapshotViewer

/-- The handle of a filter chain. -/
abbrev ChainRef := Nat

/-- The handle of a view. -/
abbrev ViewRef := Nat

/-- What diagrams are built with: the scheduler for snapshots without blocks, the two filter chains,
and the templates of the labels. -/
structure Builder where
  scheduler : Option Scheduler
  chain : ChainRef
  sequenceChain : ChainRef
  templates : Templates

/-- What a view announces. -/
inductive Notice where
  | diagramChanged
  | graphChanged
  | selectedNodesChanged
  | hiddenNodesChanged
  | windowChanged
deriving DecidableEq

/-- The display toggles. -/
inductive Toggle where
  | sea
  | blocks
  | controlFlow
  | nodeHull
  | emptyBlocks
deriving DecidableEq

/-- The states of the display toggles. -/
structure Toggles where
  sea : Bool
  blocks : Bool
  controlFlow : Bool
  nodeHull : Bool := true
  emptyBlocks : Bool := true
deriving DecidableEq

namespace Toggles

/-- The state of a toggle. -/
def get (ts : Toggles) : Toggle → Bool
  | .sea => ts.sea
  | .blocks => ts.blocks
  | .controlFlow => ts.controlFlow
  | .nodeHull => ts.nodeHull
  | .emptyBlocks => ts.emptyBlocks

/-- Changes a toggle. -/
def set (ts : Toggles) (t : Toggle) (b : Bool) : Toggles :=
  match t with
  | .sea => { ts with sea := b }
  | .blocks => { ts with blocks := b }
  | .controlFlow => { ts with controlFlow := b }
  | .nodeHull => { ts with nodeHull := b }
  | .emptyBlocks => { ts with emptyBlocks := b }

end Toggles

/-- A change of a view that can be queued. -/
inductive Mutation where
  | selectGraph (s : SnapshotRef)
  | selectDifference (s : SnapshotRef)
  | setWindow (low high : Int)
  | setHideDuplicates (hide : Bool)
  | setSelectedNodes (ids : NodeSet)
  | setHiddenNodes (ids : NodeSet)
  | showOnly (ids : NodeSet)
  | showFigures (ids : List Int)
  | setToggle (t : Toggle) (on : Bool)
  | groupChanged
  | filterChainChanged
deriving DecidableEq

/-- The name of a change in the log. -/
def Mutation.name : Mutation → String
  | .selectGraph _ => "_select_graph"
  | .selectDifference _ => "_select_diff_graph"
  | .setWindow .. => "_set_window"
  | .setHideDuplicates _ => "_set_hide_duplicates"
  | .setSelectedNodes _ => "_set_selected_nodes"
  | .setHiddenNodes _ => "_set_hidden_nodes"
  | .showOnly _ => "_show_only"
  | .showFigures _ => "_show_figures"
  | .setToggle .. => "_set_flag"
  | .groupChanged => "_group_changed"
  | .filterChainChanged => "_filter_chain_changed"

/-- The snapshots that a window resolves to, and the graph that is shown for them: the snapshot
itself if they are one, and else their difference. -/
structure Selection where
  first : SnapshotRef
  second : SnapshotRef
  graph : SnapshotRef
deriving DecidableEq

/-- A view of a group. -/
structure View where
  group : GroupRef
  builder : Builder
  /-- Comparisons of this view are counted. -/
  counted : Bool
  toggles : Toggles
  /-- Whether duplicates are hidden, as it was set. -/
  hideDuplicates : Value
  /-- The visible snapshots. -/
  graphs : List SnapshotRef := []
  window : Window := {}
  /-- The names of the visible snapshots. -/
  positions : List String := []
  /-- The colours of the visible snapshots. -/
  colors : List Highlight := []
  selectedNodes : NodeSet := .empty
  hiddenNodes : NodeSet := .empty
  /-- What the window resolved to last. Nothing before the first selection. -/
  selection : Option Selection := none
  diagram : Option Diagram := none
  closed : Bool := false
  /-- A change is under way. -/
  busy : Bool := false
  /-- The changes that wait for the one under way, in order of arrival. -/
  pending : List Mutation := []

namespace View

/-- Duplicates are hidden. -/
def hides (view : View) : Bool := view.hideDuplicates.isTrue

/-- The graph that is shown. -/
def graph? (view : View) : Option SnapshotRef := view.selection.map (·.graph)

/-- What can be seen of a view: the visible snapshots, the window, what it resolved to, and the
graph of the diagram. -/
def sight (view : View) :
    List SnapshotRef × Window × Option Selection × Option SnapshotRef :=
  (view.graphs, view.window, view.selection, view.diagram.map (·.graph))

/-- The window has resolved to these two snapshots last. -/
def knows (view : View) (first second : SnapshotRef) : Bool :=
  match view.selection with
  | some s => s.first == first && s.second == second
  | none => false

/-- The diagram, in the mode that is switched on. -/
def shownDiagram? (view : View) : Option Diagram :=
  view.diagram.map fun d => { d with controlFlow := view.toggles.controlFlow }

/-- The figures of the diagram. -/
def figures (view : View) : List Figure := (view.diagram.map (·.figures)).getD []

/-- The entry at a position. -/
def itemAt? (view : View) (i : Int) : Option SnapshotRef := view.graphs[i.toNat]?

/-- The visible snapshots behind the low bound. -/
def forward (view : View) : List SnapshotRef := view.graphs.drop (view.window.low + 1).toNat

/-- The visible snapshots before the low bound, the nearest first. -/
def backward (view : View) : List SnapshotRef := (view.graphs.take view.window.low.toNat).reverse

/-- The figures whose nodes are selected. -/
def selectedFigures (view : View) : List Figure :=
  Figure.select view.figures view.selectedNodes.toList

end View

end SnapshotViewer
