import SnapshotViewer.View.Update

/-!
# Signals and the order of changes

A signal calls the slots that are connected to it when it is emitted, in the order of their
connections; a slot that is disconnected meanwhile is not called. A change that arrives while
another change of the same view is under way waits until that one is done; all that wait are carried
out before the first one returns. A view that is closed, or whose group is empty, drops changes.

What a listener does is a parameter here (`Respond`), so that the definitions are not recursive.
-/

namespace SnapshotViewer

/-- What the call of a listener does to the world. -/
abbrev Respond := ListenerRef → World → Option World

namespace World

/-- Calls a slot for a connection, unless it has been removed. -/
def deliver (call : Slot → World → Option World) (w : World) (c : Connection) : Option World :=
  if w.connections.any fun d => d.serial == c.serial then call c.slot w else some w

/-- Emits a signal: notes it, then calls its slots. -/
def emit (call : Slot → World → Option World) (signal : Signal) (w : World) : Option World :=
  (w.connections.filter fun c => c.signal == signal).foldlM (deliver call)
    (w.record (.signalled signal))

/-- Notes what can be read off a view when it announces a change. -/
def noteReading (v : ViewRef) (n : Notice) (w : World) : World :=
  match w.views[v]? with
  | some view => w.record (.announced v n (w.reading view))
  | none => w

/-- A view announces a change. Only listeners are connected to views. -/
def announceView (respond : Respond) (v : ViewRef) (n : Notice) (w : World) : Option World :=
  (w.noteReading v n).emit (fun slot w =>
    match slot with
    | .listener k => respond k w
    | .follow _ => some w) (.view v n)

end World

namespace View

/-- Ends a change: nothing waits any more. -/
def settle (v : ViewRef) (w : World) : World :=
  w.modifyView v fun view => { view with pending := [], busy := false }

/-- The view takes no changes: it is closed or its group is empty. -/
def isIdle (v : ViewRef) : Act Bool := do
  let view ← Act.view v
  let group ← Act.group view.group
  return view.closed || group.members.isEmpty

/-- Carries out a change. -/
def carryOut (a : Announce) (v : ViewRef) (m : Mutation) : Act Unit := do
  let before ← Act.view v
  Act.record (.begun v m)
  (perform a v m).onFailure fun e w =>
    w.record (.failed v m e (w.views[v]?.map View.sight != some before.sight))

/-- Drops changes of a view. -/
def drop (v : ViewRef) (ms : List Mutation) : Act Unit :=
  modify fun w => w.recordAll (ms.map (.dropped v))

/-- Takes the first change that waits, unless the view takes none any more. -/
def takeWaiting (v : ViewRef) : Act (Option Mutation) := do
  match (← Act.view v).pending with
  | [] => return none
  | m :: rest =>
    Act.modifyView v fun view => { view with pending := rest }
    if ← isIdle v then
      drop v (m :: rest)
      return none
    else return some m

end View

namespace World

open View

/-- What comes of the changes of a view that wait in a world, and of those that come to wait
meanwhile. -/
def drainFrom (a : Announce) (v : ViewRef) (w : World) : Option (Except Failure Unit × World) :=
  (do
    match ← takeWaiting v with
    | none => return ()
    | some m =>
      carryOut a v m
      fun w => w |>.drainFrom a v : Act Unit).run.run w
partial_fixpoint

end World

namespace View

/-- Carries out the changes that wait, in order, and those that come to wait meanwhile. -/
def drain (a : Announce) (v : ViewRef) : Act Unit := ExceptT.mk fun w => w.drainFrom a v

/-- Carries out a change and all that come to wait meanwhile. -/
def runChange (a : Announce) (v : ViewRef) (m : Mutation) : Act Unit := do
  carryOut a v m
  drain a v

/-- Receives a change: drops it, lets it wait, or carries it out. -/
def mutate (a : Announce) (v : ViewRef) (m : Mutation) : Act Unit := do
  let view ← Act.view v
  let group ← Act.group view.group
  if view.closed then
    Act.debug logger ("dropping " ++ m.name ++ " on closed view")
    drop v [m]
  else if group.members.isEmpty then
    Act.debug logger ("dropping " ++ m.name ++ " on empty group " ++ Text.quote group.name)
    drop v [m]
  else if view.busy then
    Act.debug logger ("queueing nested " ++ m.name)
    Act.record (.deferred v m)
    Act.modifyView v fun view => { view with pending := view.pending ++ [m] }
  else
    Act.modifyView v fun view => { view with busy := true }
    (runChange a v m).ensuring (settle v)

/-- The change of a view when its group or a filter chain has changed. -/
def following : Signal → Mutation
  | .chain _ => .filterChainChanged
  | _ => .groupChanged

end View

namespace World

/-- A view follows a signal. A failure goes to nobody and is noted. -/
def follow (respond : Respond) (signal : Signal) (v : ViewRef) (w : World) : Option World :=
  ((View.mutate (announceView respond) v (View.following signal)).runIn w).map fun
    | (.ok (), w) => w
    | (.error e, w) => w.record (.uncaught e)

/-- A group or a filter chain announces a change. -/
def announceShared (respond : Respond) (signal : Signal) (w : World) : Option World :=
  w.emit (fun slot w =>
    match slot with
    | .listener k => respond k w
    | .follow v => w.follow respond signal v) signal

end World

namespace View

/-- Computes what a view shows at first. Nobody is connected to it yet, so that it announces
nothing. -/
def showFirst (v : ViewRef) (s : SnapshotRef) : Act Unit := do
  refilter v
  let _ ← selectGraph (fun _ _ w => some w) v s

/-- A view of a group before anything is selected. A change is under way until it is open. -/
def unopened (settings : Settings) (group : GroupRef) (builder : Builder) (counted : Bool)
    (hideDuplicates : Value) : View :=
  let mode := settings.defaultView
  { group, builder, counted, hideDuplicates
    toggles :=
      { sea := mode == .seaOfNodes
        blocks := mode == .clusteredSeaOfNodes
        controlFlow := mode == .controlFlowGraph }
    busy := true }

/-- Opens a view on the group of a snapshot and selects the snapshot. A view that fails to open is
not kept. -/
def build (s : SnapshotRef) (builder : Builder) (counted : Bool) (hideDuplicates : Value) :
    Act ViewRef := do
  let snapshot ← Act.snapshot s
  let _ ← Act.chain builder.chain
  let _ ← Act.chain builder.sequenceChain
  match snapshot.group with
  | none => throw (.ungrouped snapshot.name)
  | some group =>
    let w ← get
    let v := w.views.length
    set { w with views := w.views ++ [unopened w.settings group builder counted hideDuplicates] }
    (showFirst v s).onFailure fun e w => { w with views := w.views.take v }.record (.unopened e)
    modify (settle v)
    return v

/-- A view is open: it follows its group and its filter chains. -/
def enrol (v : ViewRef) (view : View) (w : World) : World :=
  let w := w.record (.opened v (w.reading view))
  let w := w.connect (.group view.group) (.follow v)
  let w := w.connect (.chain view.builder.chain) (.follow v)
  w.connect (.chain view.builder.sequenceChain) (.follow v)

/-- Opens a view. -/
def openOn (s : SnapshotRef) (chain sequenceChain : ChainRef) (scheduler : Option Scheduler)
    (counted : Bool) (hideDuplicates : Value) : Act ViewRef := do
  let settings := (← get).settings
  let hide := if hideDuplicates.isNull then settings.hideDuplicates else hideDuplicates
  let templates := settings.templates
  let v ← build s { scheduler, chain, sequenceChain, templates } counted hide
  let view ← Act.view v
  modify (enrol v view)
  return v

/-- A view is closed: it follows nothing any more and forgets what waits. -/
def shut (v : ViewRef) (w : World) : World :=
  ((w.disconnect (.follow v)).modifyView v fun view =>
    { view with closed := true, pending := [] }).record (.closed v)

/-- Closes a view. -/
def close (a : Announce) (v : ViewRef) : Act Unit := do
  let view ← Act.view v
  if !view.closed then
    modify (shut v)
    announce a v .windowChanged

end View

end SnapshotViewer
