import SnapshotViewer.World.Basic

/-!
# The ends of a window

A window resolves to a first and a second snapshot. An entry that is a difference counts as one of
the snapshots that it was computed from, and these have to be captured ones. The current graph is
the snapshot itself if both ends are the same, and else a new difference.
-/

namespace SnapshotViewer

namespace World

/-- An end of a difference that was captured. -/
def capturedEnd (w : World) (name : String) : Option SnapshotRef → Except Failure SnapshotRef
  | none => .error (.nestedDifference name)
  | some inner =>
    match w.snapshots[inner]? with
    | none => .error .noSuchHandle
    | some s => if s.isDifference then .error (.nestedDifference name) else .ok inner

/-- The snapshot that an entry stands for at the low end of a window (`isFirst`) or the high one. -/
def unwrap (w : World) (isFirst : Bool) (r : SnapshotRef) : Except Failure SnapshotRef :=
  match w.snapshots[r]? with
  | none => .error .noSuchHandle
  | some s =>
    match s.origin with
    | .captured => .ok r
    | .difference first second => w.capturedEnd s.name (if isFirst then first else second)

/-- The snapshot at the low bound. A bound behind the end means the last entry. -/
def firstOf (w : World) (window : Window) (graphs : List SnapshotRef) :
    Except Failure SnapshotRef :=
  match window.lowEntry? graphs with
  | none => .error .outOfRange
  | some r => w.unwrap true r

/-- The snapshot at the high bound. A bound behind the end means the snapshot at the low one. -/
def secondOf (w : World) (window : Window) (graphs : List SnapshotRef) :
    Except Failure SnapshotRef :=
  if window.high < graphs.length then
    match Window.entryAt graphs window.high with
    | none => .error .outOfRange
    | some r => w.unwrap false r
  else w.firstOf window graphs

/-- The snapshot at the low bound of a view. -/
def firstGraph (w : World) (view : View) : Except Failure SnapshotRef :=
  w.firstOf view.window view.graphs

/-- The snapshot at the high bound of a view. -/
def secondGraph (w : World) (view : View) : Except Failure SnapshotRef :=
  w.secondOf view.window view.graphs

/-- What can be read off a view. -/
def reading (w : World) (view : View) : Reading where
  graph := view.graph?
  diagram := view.shownDiagram?
  toggles := view.toggles
  hideDuplicates := view.hideDuplicates
  graphs := view.graphs
  window := view.window
  positions := view.positions
  colors := view.colors
  first := w.firstGraph view
  second := w.secondGraph view
  selectedNodes := view.selectedNodes
  hiddenNodes := view.hiddenNodes

end World

/-- Stores the difference of two snapshots. -/
def Act.makeDifference (first second : SnapshotRef) : Act SnapshotRef := do
  let a ← Act.snapshot first
  let b ← Act.snapshot second
  let w ← get
  set (w.archive (Difference.ofPair w.nextId first second a b))
  return w.snapshots.length

/-- The graph for two ends. A comparison is noted. -/
def Act.currentGraph (counted : Bool) (first second : SnapshotRef) : Act SnapshotRef :=
  if first = second then return first
  else do
    Act.record (.compared first second counted)
    Act.makeDifference first second

end SnapshotViewer
