import SnapshotViewer.World.Basic

/-!
# Building diagrams

A snapshot without blocks is scheduled once, before its first diagram is built. The figures are then
coloured by the primary chain, by the sequence chain if that is another one, and for a difference by
the states of its nodes.
-/

namespace SnapshotViewer

namespace Builder

/-- The logger of the builder. -/
def logger : String := "Ideal_Graph.services.builder"

/-- Gives a snapshot the blocks that a scheduler has assigned, and one for the nodes that it has
left out. -/
def assignBlocks (w : World) (r : SnapshotRef) (blocks : OrderedMap String Block)
    (log : List Log.Record) : World :=
  ((w.modifySnapshot r fun s => { s with blocks }).recordAll (log.map .logged)).modifySnapshot r
    Snapshot.collectStrays

/-- Assigns blocks to a snapshot that has none. -/
def ensureBlocks (b : Builder) (r : SnapshotRef) : Act Unit := do
  let s ← Act.snapshot r
  if !s.blocks.isEmpty then return ()
  match b.scheduler with
  | none => throw (.noScheduler s.name)
  | some scheduler =>
    Act.record (.scheduled r)
    let (blocks, log) ← Act.ofExcept (scheduler.assign s)
    modify fun w => assignBlocks w r blocks log

end Builder

namespace World

/-- The filters of a chain with their handles. -/
def filtersOf (w : World) (c : ChainRef) : List (FilterRef × Filter) :=
  ((w.chains[c]?).getD []).filterMap fun f => (w.filters[f]?).map fun filter => (f, filter)

/-- The filters that run for a diagram: those of the primary chain, then those of the sequence chain
unless it is the primary one. -/
def filtersFor (w : World) (c : ChainRef) (sequence : Option ChainRef) :
    List (FilterRef × Filter) :=
  match sequence with
  | none => w.filtersOf c
  | some q => if q = c then w.filtersOf c else w.filtersOf c ++ w.filtersOf q

/-- Runs the chains over figures. -/
def paint (w : World) (c : ChainRef) (sequence : Option ChainRef) (figures : List Figure) :
    Painting :=
  Painting.run (w.filtersFor c sequence) figures

end World

namespace Builder

/-- The overlay of a difference. -/
def overlay (s : Snapshot) (figures : List Figure) : List Figure :=
  if s.isDifference then ColorRule.forStates.foldl (fun figures r => r.paint figures) figures
  else figures

/-- Builds a new diagram. -/
def rebuild (b : Builder) (r : SnapshotRef) : Act Diagram := do
  b.ensureBlocks r
  let s ← Act.snapshot r
  let figures ← Act.ofExcept (Figure.ofSnapshot b.templates s)
  let painting := (← get).paint b.chain (some b.sequenceChain) figures
  modify fun w => w.recordAll (painting.begun.map .filtered)
  match painting.failure with
  | some e => throw e
  | none =>
    let figures := overlay s painting.figures
    Act.debug logger
      ("rebuilt diagram for " ++ s.name ++ " with " ++ Numeral.write figures.length ++ " figures")
    let serial := (← get).diagramCount
    modify fun w => { w with diagramCount := serial + 1 }
    return { serial, graph := r, figures }

end Builder

end SnapshotViewer
