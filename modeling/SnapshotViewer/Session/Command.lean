import SnapshotViewer.World.Chain

/-!
# Commands

What each command does in the world. What a listener does when it is called is a parameter.
-/

namespace SnapshotViewer

namespace Act

/-- Edits a snapshot in place. -/
def edit (s : SnapshotRef) (f : Snapshot → Snapshot) : Act Unit := do
  modify fun w => w.modifySnapshot s f
  record (.edited s)

/-- The source of a signal has to be there. -/
def expectSource : Signal → Act Unit
  | .view v _ => do let _ ← Act.view v
  | .group g => do let _ ← Act.group g
  | .chain c => do let _ ← Act.chain c

/-- Connects a listener to a signal. -/
def listen (signal : Signal) (limit : Nat) (script : List Command) : Act ListenerRef := do
  expectSource signal
  let k := (← get).listeners.length
  modify fun w => { w with listeners := w.listeners ++ [⟨limit, script⟩] }
  modify fun w => w.connect signal (.listener k)
  return k

/-- Disconnects a listener; tells whether it was connected, and whether it still is. -/
def unlisten (k : ListenerRef) : Act (Bool × Bool) := do
  let w ← get
  let _ ← Act.found w.listeners[k]?
  let after := w.disconnect (.listener k)
  set after
  return (w.isConnected (.listener k), after.isConnected (.listener k))

end Act

namespace Command

/-- Hands a change to a view. -/
def change (respond : Respond) (v : ViewRef) (m : Mutation) : Act Reply := do
  View.mutate (World.announceView respond) v m
  return .done

/-- The references to snapshots. -/
def refs (rs : List SnapshotRef) : Act Reply := do
  let w ← get
  return .refs (rs.map w.ref)

/-- The graph of a view. -/
def graphOf (v : ViewRef) : Act SnapshotRef := do Act.found (← Act.view v).graph?

/-- Carries out a command. -/
def execute (respond : Respond) : Command → Act Reply
  | .openView s chain sequenceChain scheduler counted hide => do
    let s ← Act.pooled s
    return .index (← View.openOn s chain sequenceChain scheduler counted hide)
  | .selectGraph v s => do change respond v (.selectGraph (← Act.pooled s))
  | .selectDifference v s => do change respond v (.selectDifference (← Act.pooled s))
  | .setWindow v low high => change respond v (.setWindow low high)
  | .setHideDuplicates v hide => change respond v (.setHideDuplicates hide)
  | .selectNodes v ids => change respond v (.setSelectedNodes (.ofList ids))
  | .hideNodes v ids => change respond v (.setHiddenNodes (.ofList ids))
  | .showOnly v ids => change respond v (.showOnly (.ofList ids))
  | .showFigures v ids => do
    let view ← Act.view v
    change respond v (.showFigures ((Figure.select view.figures ids).map Figure.id))
  | .selectedFigures v => do
    let view ← Act.view v
    return .ids (view.selectedFigures.map Figure.id)
  | .setFlag v (.toggle t) on => change respond v (.setToggle t on)
  | .setFlag v .hideDuplicates on => change respond v (.setHideDuplicates on)
  | .forward v => do refs (← Act.view v).forward
  | .backward v => do refs (← Act.view v).backward
  | .closeView v => do
    View.close (World.announceView respond) v
    return .done
  | .owners v => do
    let view ← Act.view v
    return .owners view.group view.builder.chain view.builder.sequenceChain
  | .keepGraph v => do
    let s ← graphOf v
    let pool := (← get).pool
    match pool.findIdx? (· == s) with
    | some place => return .index place
    | none =>
      modify fun w => { w with pool := w.pool ++ [s] }
      return .index pool.length
  | .graphRecord v => do return .snapshot (← Act.snapshot (← graphOf v))
  | .makeDifference first second => do
    let d ← Act.makeDifference (← Act.pooled first) (← Act.pooled second)
    let place := (← get).pool.length
    modify fun w => { w with pool := w.pool ++ [d] }
    return .index place
  | .addMember g s => do
    Act.addMember respond g (← Act.pooled s)
    return .done
  | .removeMember g s => do
    Act.removeMember respond g (← Act.pooled s)
    return .done
  | .clearGroup g => do
    Act.clearGroup respond g
    return .done
  | .groupNodes g => do
    let group ← Act.group g
    return .ids (View.groupNodes (← get) group).toList
  | .groupMembers g => do refs (← Act.group g).members
  | .addFilter c f => do
    Act.addFilter respond c f
    return .done
  | .removeFilter c f => do
    Act.removeFilter respond c f
    return .done
  | .moveFilterUp c f => do
    Act.moveFilterUp respond c f
    return .done
  | .moveFilterDown c f => do
    Act.moveFilterDown respond c f
    return .done
  | .clearChain c => do
    let _ ← Act.chain c
    Act.changeChain respond c []
    return .done
  | .notifyChain c => do
    let _ ← Act.chain c
    Act.announce respond (.chain c)
    return .done
  | .addRule f property pattern color => do
    Act.addRule f property pattern color
    return .done
  | .addNode s id properties => do
    let s ← Act.pooled s
    let properties ← Act.ofExcept (Snapshot.readProperties properties)
    Act.edit s fun snapshot => snapshot.addNode id properties
    return .node ⟨id, properties⟩
  | .setProperty s key value => do
    let s ← Act.pooled s
    Act.edit s fun snapshot => snapshot.setProperty key value
    return .done
  | .clearBlocks s => do
    let s ← Act.pooled s
    modify fun w => w.modifySnapshot s Snapshot.clearBlocks
    Act.record (.unblocked s)
    return .done
  | .blocks s => do
    let snapshot ← Act.snapshot (← Act.pooled s)
    return .blocks snapshot.blocks.entries
  | .listen signal limit script => do return .index (← Act.listen signal limit script)
  | .unlisten k => do
    let (before, after) ← Act.unlisten k
    return .activity before after

end Command

end SnapshotViewer
