import SnapshotViewer.Sequence
import SnapshotViewer.World.Endpoints
import SnapshotViewer.World.Rebuild

/-!
# How views change

Each change of a view writes its fields and announces what has changed. The functions take the
announcement as a parameter, because what it sets off (listeners, which may change views again) is
decided in `SnapshotViewer.View.Dispatch`.
-/

namespace SnapshotViewer.View

/-- The logger of the views. -/
def logger : String := "ideal_ui.state.DiagramView"

/-- What an announcement of a view does to the world. -/
abbrev Announce := ViewRef → Notice → World → Option World

/-- Announces a change. -/
def announce (a : Announce) (v : ViewRef) (n : Notice) : Act Unit := Act.yield (a v n)

/-- A view with the visible snapshots computed anew, with all that is derived from them, and with
the window pulled inside them. `members` are the snapshots of its group. -/
def refiltered (w : World) (hide : Value) (members : List SnapshotRef) (view : View) : View :=
  let graphs := Sequence.visible w.isDuplicate hide.isTrue members
  { view with
    hideDuplicates := hide
    graphs
    positions := graphs.map w.nameOf
    colors := Highlight.colors view.selectedNodes.toList (w.contents graphs)
    window := view.window.clamp graphs.length }

/-- Notes whether duplicates are hidden and computes the visible snapshots anew. -/
def refilterWith (v : ViewRef) (hide : Value) : Act Unit := do
  let view ← Act.view v
  let group ← Act.group view.group
  let w ← get
  Act.modifyView v (refiltered w hide group.members)

/-- Computes the visible snapshots anew. -/
def refilter (v : ViewRef) : Act Unit := do
  refilterWith v (← Act.view v).hideDuplicates

/-- Has the diagram of a graph built. -/
def draw (v : ViewRef) (graph : SnapshotRef) : Act Unit := do
  let view ← Act.view v
  let diagram ← view.builder.rebuild graph
  Act.modifyView v fun view => { view with diagram := some diagram }

/-- Shows the graph for two ends. -/
def showEnds (a : Announce) (v : ViewRef) (first second : SnapshotRef) : Act Unit := do
  let view ← Act.view v
  Act.debug logger
    ("window moved to [" ++ Numeral.write view.window.low ++ ", " ++
      Numeral.write view.window.high ++ "]")
  let graph ← Act.currentGraph view.counted first second
  Act.modifyView v fun view => { view with selection := some { first, second, graph } }
  draw v graph
  announce a v .graphChanged
  announce a v .diagramChanged

/-- Shows the graph for the ends of the window unless it is shown, and tells whether it was
replaced. -/
def showWindow (a : Announce) (v : ViewRef) : Act Bool := do
  let view ← Act.view v
  let w ← get
  let first ← Act.ofExcept (w.firstGraph view)
  let second ← Act.ofExcept (w.secondGraph view)
  if view.knows first second then return false
  showEnds a v first second
  return true

/-- Resolves the current graph anew after a change of the window, and tells whether it was
replaced. -/
def windowMoved (a : Announce) (v : ViewRef) : Act Bool := do
  let replaced ← showWindow a v
  announce a v .windowChanged
  return replaced

/-- Announces the diagram unless it was replaced, which has announced it. -/
def announceKept (a : Announce) (v : ViewRef) (replaced : Bool) : Act Unit :=
  if replaced then return () else announce a v .diagramChanged

/-- Moves the window to two positions. -/
def setWindow (a : Announce) (v : ViewRef) (low high : Int) : Act Bool := do
  let view ← Act.view v
  let window ← Act.ofExcept (Window.ofBounds low high view.graphs.length)
  Act.modifyView v fun view => { view with window }
  windowMoved a v

/-- The failure of a snapshot that the group of a view does not hold. -/
def foreign {α : Type} (v : ViewRef) (s : SnapshotRef) : Act α := do
  let view ← Act.view v
  let group ← Act.group view.group
  throw (.foreignSnapshot ((← get).nameOf s) group.name)

/-- Selects a visible snapshot alone. -/
def selectVisible (a : Announce) (v : ViewRef) (s : SnapshotRef) : Act Bool := do
  let view ← Act.view v
  match Sequence.indexOf? view.graphs s with
  | some i => setWindow a v i i
  | none => foreign v s

/-- The snapshot that stays selected while duplicates are shown or hidden: the first end of the
window if the group holds it, and the entry at the low bound otherwise. -/
def anchorOf (v : ViewRef) : Act SnapshotRef := do
  let view ← Act.view v
  let group ← Act.group view.group
  let first ← Act.ofExcept ((← get).firstGraph view)
  if group.members.contains first then return first
  match view.itemAt? (min view.window.low (view.graphs.length - 1)) with
  | some s => return s
  | none => throw .outOfRange

/-- What is selected when duplicates are shown or hidden: `anchorOf`, or for hiding what it backs up
to. -/
def targetOf (v : ViewRef) (hide : Bool) : Act SnapshotRef := do
  let anchor ← anchorOf v
  let group ← Act.group (← Act.view v).group
  let w ← get
  if hide then Act.ofExcept (Sequence.resolveUnhidden w.nameOf w.isDuplicate group.members anchor)
  else return anchor

/-- Shows or hides duplicates and selects `targetOf`. `select` is the way to select it. -/
def toggleDuplicates (select : SnapshotRef → Act Bool) (a : Announce) (v : ViewRef) (hide : Bool) :
    Act Unit := do
  let view ← Act.view v
  if view.hideDuplicates.sameBool hide then return ()
  if view.graphs.isEmpty then refilterWith v (.bool hide)
  else
    let target ← targetOf v hide
    refilterWith v (.bool hide)
    announceKept a v (← select target)

/-- Shows duplicates if they are hidden. -/
def showDuplicates (a : Announce) (v : ViewRef) : Act Unit := do
  let view ← Act.view v
  if view.hides then toggleDuplicates (selectVisible a v) a v false else return ()

/-- The position of a snapshot. If it is not visible, hidden duplicates are shown first. -/
def locate (a : Announce) (v : ViewRef) (s : SnapshotRef) : Act Nat := do
  match Sequence.indexOf? (← Act.view v).graphs s with
  | some i => return i
  | none =>
    showDuplicates a v
    match Sequence.indexOf? (← Act.view v).graphs s with
    | some i => return i
    | none => foreign v s

/-- Selects a snapshot alone. -/
def selectGraph (a : Announce) (v : ViewRef) (s : SnapshotRef) : Act Bool := do
  let i ← locate a v s
  setWindow a v i i

/-- Compares a snapshot with the one at the anchor of the window. -/
def selectDifference (a : Announce) (v : ViewRef) (s : SnapshotRef) : Act Unit := do
  let i ← locate a v s
  let view ← Act.view v
  let window ← Act.ofExcept (view.window.anchorTo i view.graphs.length)
  Act.modifyView v fun view => { view with window }
  let _ ← windowMoved a v

/-- Shows or hides duplicates. -/
def setHideDuplicates (a : Announce) (v : ViewRef) (hide : Bool) : Act Unit :=
  toggleDuplicates (if hide then selectGraph a v else selectVisible a v) a v hide

/-- Selects nodes. -/
def setSelectedNodes (a : Announce) (v : ViewRef) (ids : NodeSet) : Act Unit := do
  let w ← get
  Act.modifyView v fun view =>
    { view with
      selectedNodes := ids
      colors := Highlight.colors ids.toList (w.contents view.graphs) }
  announce a v .windowChanged
  announce a v .selectedNodesChanged

/-- Hides nodes. -/
def setHiddenNodes (a : Announce) (v : ViewRef) (ids : NodeSet) : Act Unit := do
  Act.modifyView v fun view => { view with hiddenNodes := ids }
  announce a v .hiddenNodesChanged

/-- The nodes of all members of a group. -/
def groupNodes (w : World) (g : Group) : NodeSet :=
  .ofList ((w.contents g.members).flatMap Snapshot.nodeIds)

/-- Hides all nodes of the group but some. -/
def showOnly (a : Announce) (v : ViewRef) (ids : NodeSet) : Act Unit := do
  let view ← Act.view v
  let group ← Act.group view.group
  setHiddenNodes a v ((groupNodes (← get) group).without ids.toList)

/-- Shows nodes that may be hidden. -/
def showFigures (a : Announce) (v : ViewRef) (ids : List Int) : Act Unit := do
  let view ← Act.view v
  setHiddenNodes a v (view.hiddenNodes.without ids)

/-- Changes a display toggle. -/
def setToggle (a : Announce) (v : ViewRef) (t : Toggle) (on : Bool) : Act Unit := do
  let view ← Act.view v
  if view.toggles.get t != on then
    Act.modifyView v fun view => { view with toggles := view.toggles.set t on }
    announce a v .diagramChanged

/-- Computes the visible snapshots anew, and shows duplicates if there is nothing else. -/
def refilterShowing (v : ViewRef) : Act Unit := do
  refilter v
  let view ← Act.view v
  if view.graphs.isEmpty && view.hides then
    let group ← Act.group view.group
    Act.debug logger
      ("showing duplicates of " ++ Text.quote group.name ++ " to keep a selection")
    refilterWith v (.bool false)

/-- Moves the window to two snapshots as far as they are visible: to the low one alone if the high
one is not at or after it, and nowhere if the low one is not visible. -/
def keepOn (v : ViewRef) (lowTarget highTarget : Option SnapshotRef) : Act Unit := do
  let view ← Act.view v
  match lowTarget.bind (Sequence.indexOf? view.graphs) with
  | some low =>
    let high := (highTarget.bind (Sequence.indexOf? view.graphs)).getD low
    let window ← Act.ofExcept (Window.ofBounds low (max low high : Nat) view.graphs.length)
    Act.modifyView v fun view => { view with window }
  | none => return ()

/-- Follows a change of the group: the window stays on its snapshots as far as they are still
visible. -/
def groupChanged (a : Announce) (v : ViewRef) : Act Unit := do
  let before ← Act.view v
  refilterShowing v
  keepOn v (before.itemAt? before.window.low) (before.itemAt? before.window.high)
  announceKept a v (← windowMoved a v)
  setSelectedNodes a v (← Act.view v).selectedNodes

/-- Follows a change of a filter chain: the diagram of the current graph is built anew. -/
def filterChainChanged (a : Announce) (v : ViewRef) : Act Unit := do
  let view ← Act.view v
  match view.graph? with
  | none => throw .noSuchMember
  | some graph =>
    draw v graph
    announce a v .diagramChanged

/-- Carries out a change. -/
def perform (a : Announce) (v : ViewRef) : Mutation → Act Unit
  | .selectGraph s => do let _ ← selectGraph a v s
  | .selectDifference s => selectDifference a v s
  | .setWindow low high => do let _ ← setWindow a v low high
  | .setHideDuplicates hide => setHideDuplicates a v hide
  | .setSelectedNodes ids => setSelectedNodes a v ids
  | .setHiddenNodes ids => setHiddenNodes a v ids
  | .showOnly ids => showOnly a v ids
  | .showFigures ids => showFigures a v ids
  | .setToggle t on => setToggle a v t on
  | .groupChanged => groupChanged a v
  | .filterChainChanged => filterChainChanged a v

end SnapshotViewer.View
