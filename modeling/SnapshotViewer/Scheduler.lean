import SnapshotViewer.Components
import SnapshotViewer.Log
import SnapshotViewer.Snapshot.Basic

/-!
# Schedulers

A scheduler assigns blocks to a snapshot that has none. The one by components gives every component
of the graph a block of its own.
-/

namespace SnapshotViewer

/-- A way to assign blocks: it returns the blocks of a snapshot and what it has logged. -/
structure Scheduler where
  assign : Snapshot → Except Failure (OrderedMap String Block × List Log.Record)

namespace Scheduler

/-- The logger of the schedulers. -/
def logger : String := "Ideal_Graph.services.scheduler"

/-- Adds the blocks `B0`, `B1`, … for the listed components, counting from `n`. -/
def addComponents (s : Snapshot) (n : Nat) : List (List Int) → Snapshot
  | [] => s
  | members :: rest => addComponents (s.addBlock ("B" ++ Numeral.write n) members) (n + 1) rest

/-- The components of a snapshot. -/
def componentsOf (s : Snapshot) : List (List Int) :=
  Components.ofGraph s.nodeIds (s.edges.map fun e => (e.source, e.target))

/-- Gives every component a block. A snapshot with blocks stays as it is. -/
def scheduleComponents (s : Snapshot) : Snapshot :=
  if s.blocks.isEmpty then addComponents s 0 (componentsOf s) else s

/-- What the scheduler by components says about its work. -/
def report (before after : Snapshot) : List Log.Record :=
  if before.blocks.isEmpty then
    [{ level := Log.debug, logger,
       text := "scheduled " ++ after.name ++ " into " ++ Numeral.write after.blocks.size ++
        " blocks" }]
  else []

/-- The scheduler by components. -/
def byComponent : Scheduler :=
  ⟨fun s => let scheduled := scheduleComponents s; .ok (scheduled.blocks, report s scheduled)⟩

/-- The scheduler that only names the task. -/
def unimplemented : Scheduler := ⟨fun _ => .error .notImplemented⟩

/-- A scheduler that always succeeds and logs nothing. -/
def ofFunction (blocks : Snapshot → OrderedMap String Block) : Scheduler :=
  ⟨fun s => .ok (blocks s, [])⟩

end Scheduler

end SnapshotViewer
