import SnapshotViewer.Settings.Basic
import SnapshotViewer.View.Basic

/-!
# The world

Snapshots, groups, filters, filter chains and views refer to each other, and are shared. The world
holds all of them, each under its handle, with the connections of signals and the trace of what has
happened.

An `Act` is a step in the world that can fail; what it has done before it fails remains.
-/

namespace SnapshotViewer

/-- The handle of a listener. -/
abbrev ListenerRef := Nat

/-- An ordered collection of snapshots from one compilation. -/
structure Group where
  name : String
  members : List SnapshotRef

/-- What can be listened to. -/
inductive Signal where
  | view (v : ViewRef) (notice : Notice)
  | group (g : GroupRef)
  | chain (c : ChainRef)
deriving DecidableEq

/-- What can be assigned to a view as a property. -/
inductive Flag where
  | toggle (t : Toggle)
  | hideDuplicates
deriving DecidableEq

/-- A step that a user or a listener takes. Snapshots are named by their places in the pool, all
else by handles. -/
inductive Command where
  | openView (snapshot : Nat) (chain sequenceChain : ChainRef) (scheduler : Option Scheduler)
    (counted : Bool) (hideDuplicates : Value)
  | selectGraph (v : ViewRef) (snapshot : Nat)
  | selectDifference (v : ViewRef) (snapshot : Nat)
  | setWindow (v : ViewRef) (low high : Int)
  | setHideDuplicates (v : ViewRef) (hide : Bool)
  | selectNodes (v : ViewRef) (ids : List Int)
  | hideNodes (v : ViewRef) (ids : List Int)
  | showOnly (v : ViewRef) (ids : List Int)
  | showFigures (v : ViewRef) (ids : List Int)
  | selectedFigures (v : ViewRef)
  | setFlag (v : ViewRef) (flag : Flag) (on : Bool)
  | forward (v : ViewRef)
  | backward (v : ViewRef)
  | closeView (v : ViewRef)
  | owners (v : ViewRef)
  | keepGraph (v : ViewRef)
  | graphRecord (v : ViewRef)
  | makeDifference (first second : Nat)
  | addMember (g : GroupRef) (snapshot : Nat)
  | removeMember (g : GroupRef) (snapshot : Nat)
  | clearGroup (g : GroupRef)
  | groupNodes (g : GroupRef)
  | groupMembers (g : GroupRef)
  | addFilter (c : ChainRef) (f : FilterRef)
  | removeFilter (c : ChainRef) (f : FilterRef)
  | moveFilterUp (c : ChainRef) (f : FilterRef)
  | moveFilterDown (c : ChainRef) (f : FilterRef)
  | clearChain (c : ChainRef)
  | notifyChain (c : ChainRef)
  | addRule (f : FilterRef) (property pattern color : String)
  | addNode (snapshot : Nat) (id : Int) (properties : List (Scalar × Value))
  | setProperty (snapshot : Nat) (key : String) (v : Value)
  | clearBlocks (snapshot : Nat)
  | blocks (snapshot : Nat)
  | listen (signal : Signal) (limit : Nat) (script : List Command)
  | unlisten (k : ListenerRef)

/-- How a snapshot is referred to: by its place in the pool, or by id and name if it is not there,
with the parts of a difference. -/
inductive Ref where
  | none
  | pooled (place : Nat)
  | loose (id : Int) (name : String)
  | looseDifference (id : Int) (name : String) (first second : Ref)
deriving DecidableEq

/-- What a command answers. -/
inductive Reply where
  | done
  | index (n : Nat)
  | refs (rs : List Ref)
  | ids (ids : List Int)
  | owners (g : GroupRef) (chain sequenceChain : ChainRef)
  | snapshot (s : Snapshot)
  | node (n : Node)
  | blocks (bs : List (String × Block))
  | activity (before after : Bool)

/-- What a listener sees of a view. -/
structure Glimpse where
  window : Window
  graph : Ref
  selectedNodes : NodeSet
  hiddenNodes : NodeSet

/-- All that can be read off a view: the graph that it shows and its diagram, what is switched on,
the visible snapshots with all that is derived from them, and what the window resolves to. -/
structure Reading where
  graph : Option SnapshotRef
  diagram : Option Diagram
  toggles : Toggles
  hideDuplicates : Value
  graphs : List SnapshotRef
  window : Window
  positions : List String
  colors : List Highlight
  first : Except Failure SnapshotRef
  second : Except Failure SnapshotRef
  selectedNodes : NodeSet
  hiddenNodes : NodeSet

/-- Something that has happened. A view is announced with what can be read off it at that moment. A
change of a view is deferred when it has to wait, begun when it is carried out, and dropped when the
view does not take it. It has failed partway if the view did not show the same any more by then. A
snapshot is edited when its nodes or properties are changed in place, and unblocked when its blocks
are removed; a filter is ruled when it gets a rule. -/
inductive Event where
  | signalled (s : Signal)
  | opened (v : ViewRef) (r : Reading)
  | unopened (e : Failure)
  | closed (v : ViewRef)
  | announced (v : ViewRef) (n : Notice) (r : Reading)
  | deferred (v : ViewRef) (m : Mutation)
  | dropped (v : ViewRef) (m : Mutation)
  | begun (v : ViewRef) (m : Mutation)
  | failed (v : ViewRef) (m : Mutation) (e : Failure) (partway : Bool)
  | performed (k : ListenerRef) (c : Command) (outcome : Except Failure Reply)
    (views : List Glimpse)
  | logged (r : Log.Record)
  | edited (s : SnapshotRef)
  | unblocked (s : SnapshotRef)
  | ruled (f : FilterRef)
  | filtered (f : FilterRef)
  | scheduled (s : SnapshotRef)
  | compared (first second : SnapshotRef) (counted : Bool)
  | uncaught (e : Failure)

/-- A listener runs its script for a limited number of times. -/
structure Listener where
  remaining : Nat
  script : List Command

/-- Who is called when a signal is emitted: a view, to follow the change of its group or of a filter
chain, or a listener. -/
inductive Slot where
  | follow (v : ViewRef)
  | listener (k : ListenerRef)
deriving DecidableEq

/-- A slot that is called for a signal. Connections are told apart by serial numbers. -/
structure Connection where
  serial : Nat
  signal : Signal
  slot : Slot
deriving DecidableEq

/-- All there is. -/
structure World where
  settings : Settings := {}
  snapshots : List Snapshot := []
  /-- The snapshots that commands can name. -/
  pool : List SnapshotRef := []
  groups : List Group := []
  filters : List Filter := []
  chains : List (List FilterRef) := []
  views : List View := []
  listeners : List Listener := []
  /-- The connections, in the order in which they were made. -/
  connections : List Connection := []
  /-- The number of connections that were ever made. -/
  connectionCount : Nat := 0
  /-- The number of diagrams that were ever built. -/
  diagramCount : Nat := 0
  /-- What has happened, in order. -/
  trace : List Event := []

/-- A step in the world that can fail. It need not come to an end, and then has no outcome. -/
abbrev Act := ExceptT Failure (StateT World Option)

/-- Takes a step: its outcome and the world after it. -/
def Act.runIn {α : Type} (act : Act α) (w : World) : Option (Except Failure α × World) :=
  act.run.run w

namespace World

/-- Notes an event. -/
def record (w : World) (e : Event) : World := { w with trace := w.trace ++ [e] }

/-- Notes several events. -/
def recordAll (w : World) (es : List Event) : World := { w with trace := w.trace ++ es }

/-- Stores a snapshot. Its handle is the number of snapshots before it. -/
def archive (w : World) (s : Snapshot) : World := { w with snapshots := w.snapshots ++ [s] }

/-- The id that the next snapshot gets. -/
def nextId (w : World) : Int := w.snapshots.length

/-- The snapshots of some handles. -/
def contents (w : World) (rs : List SnapshotRef) : List Snapshot :=
  rs.filterMap fun r => w.snapshots[r]?

/-- The snapshot is a duplicate of its predecessor. -/
def isDuplicate (w : World) (r : SnapshotRef) : Bool :=
  (w.snapshots[r]?.map Snapshot.isDuplicate).getD false

/-- The name of a snapshot. -/
def nameOf (w : World) (r : SnapshotRef) : String := (w.snapshots[r]?.map (·.name)).getD ""

/-- The snapshot is a difference. -/
def isDifference (w : World) (r : SnapshotRef) : Bool :=
  (w.snapshots[r]?.map Snapshot.isDifference).getD false

/-- Changes a snapshot. -/
def modifySnapshot (w : World) (r : SnapshotRef) (f : Snapshot → Snapshot) : World :=
  { w with snapshots := w.snapshots.modify r f }

/-- Changes a view. -/
def modifyView (w : World) (v : ViewRef) (f : View → View) : World :=
  { w with views := w.views.modify v f }

/-- Changes a group. -/
def modifyGroup (w : World) (g : GroupRef) (f : Group → Group) : World :=
  { w with groups := w.groups.modify g f }

/-- Replaces the filters of a chain. -/
def setChain (w : World) (c : ChainRef) (filters : List FilterRef) : World :=
  { w with chains := w.chains.set c filters }

/-- Connects a slot to a signal. -/
def connect (w : World) (signal : Signal) (slot : Slot) : World :=
  { w with
    connections := w.connections ++ [{ serial := w.connectionCount, signal, slot }]
    connectionCount := w.connectionCount + 1 }

/-- Removes all connections of a slot. -/
def disconnect (w : World) (slot : Slot) : World :=
  { w with connections := w.connections.filter fun c => c.slot != slot }

/-- The slot is connected to some signal. -/
def isConnected (w : World) (slot : Slot) : Bool := w.connections.any fun c => c.slot == slot

/-- How a snapshot is referred to. The parts of a difference are older than it, which bounds the
depth. -/
def refAt (w : World) : Nat → SnapshotRef → Ref
  | 0, _ => .none
  | depth + 1, r =>
    match w.pool.findIdx? (· == r), w.snapshots[r]? with
    | some place, _ => .pooled place
    | none, none => .none
    | none, some s =>
      match s.origin with
      | .captured => .loose s.id s.name
      | .difference first second =>
        .looseDifference s.id s.name ((first.map (w.refAt depth)).getD .none)
          ((second.map (w.refAt depth)).getD .none)

/-- How a snapshot is referred to. -/
def ref (w : World) (r : SnapshotRef) : Ref := w.refAt (w.snapshots.length + 1) r

/-- How a snapshot that may be missing is referred to. -/
def ref? (w : World) (r : Option SnapshotRef) : Ref := (r.map w.ref).getD .none

/-- What a listener sees of the views. -/
def glimpses (w : World) : List Glimpse :=
  w.views.map fun view =>
    { window := view.window
      graph := w.ref? view.graph?
      selectedNodes := view.selectedNodes
      hiddenNodes := view.hiddenNodes }

end World

namespace Act

/-- What a handle refers to. -/
def found {α : Type} : Option α → Act α
  | some a => pure a
  | none => throw .noSuchHandle

/-- The snapshot of a handle. -/
def snapshot (r : SnapshotRef) : Act Snapshot := do found (← get).snapshots[r]?

/-- The handle of the snapshot at a place of the pool. -/
def pooled (place : Nat) : Act SnapshotRef := do found (← get).pool[place]?

/-- The group of a handle. -/
def group (g : GroupRef) : Act Group := do found (← get).groups[g]?

/-- The view of a handle. -/
def view (v : ViewRef) : Act View := do found (← get).views[v]?

/-- The filter of a handle. -/
def filter (f : FilterRef) : Act Filter := do found (← get).filters[f]?

/-- The filters of a chain. -/
def chain (c : ChainRef) : Act (List FilterRef) := do found (← get).chains[c]?

/-- Changes a view. -/
def modifyView (v : ViewRef) (f : View → View) : Act Unit := modify fun w => w.modifyView v f

/-- Notes an event. -/
def record (e : Event) : Act Unit := modify fun w => w.record e

/-- Logs a detail. -/
def debug (logger text : String) : Act Unit :=
  record (.logged { level := Log.debug, logger, text })

/-- A result or a failure. -/
def ofExcept {α : Type} : Except Failure α → Act α
  | .ok a => pure a
  | .error e => throw e

/-- Lets others change the world. -/
def yield (others : World → Option World) : Act Unit :=
  ExceptT.mk fun w => (others w).map fun w => (.ok (), w)

/-- Changes the world after a step, however it ended. -/
def ensuring {α : Type} (act : Act α) (cleanUp : World → World) : Act α :=
  ExceptT.mk fun w => (act.runIn w).map fun (outcome, w) => (outcome, cleanUp w)

/-- Changes the world after a step that has failed. -/
def onFailure {α : Type} (act : Act α) (change : Failure → World → World) : Act α :=
  ExceptT.mk fun w => (act.runIn w).map fun
    | (.ok a, w) => (.ok a, w)
    | (.error e, w) => (.error e, change e w)

end Act

end SnapshotViewer
