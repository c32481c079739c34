import SnapshotViewer.NodeSet
import SnapshotViewer.Snapshot.Basic

/-!
# Highlights of the slider

Every visible snapshot has a colour that tells what happened there to the selected nodes. For one
node it is green where the node comes into being, white where it stays as it was and orange where it
has changed. Of several nodes the greatest colour counts.
-/

namespace SnapshotViewer

/-- The colours, from the least to the greatest. -/
inductive Highlight where
  | none
  | white
  | orange
  | green
deriving DecidableEq

namespace Highlight

/-- The rank of a colour. -/
def rank : Highlight → Nat
  | .none => 0
  | .white => 1
  | .orange => 2
  | .green => 3

/-- The greater of two colours. -/
def raiseTo (c other : Highlight) : Highlight := if c.rank < other.rank then other else c

/-- The node ids that a selection refers to: a negative id stands for its opposite. -/
def normalize (ids : List Int) : NodeSet := .ofList (ids.map fun id => (id.natAbs : Int))

/-- The colour of a node at a snapshot, given the node there and the one before. -/
def ofStep (before now : Option Node) : Highlight :=
  match now, before with
  | Option.none, _ => .none
  | some _, Option.none => .green
  | some now, some before => if before.same now then .white else .orange

/-- The colours of one node along a sequence, given the node before it. -/
def trail (id : Int) (before : Option Node) : List Snapshot → List Highlight
  | [] => []
  | s :: rest => ofStep before (s.node? id) :: trail id (s.node? id) rest

/-- The colours of a sequence for a selection. -/
def colors (ids : List Int) (visible : List Snapshot) : List Highlight :=
  (normalize ids).toList.foldl
    (fun colors id => colors.zipWith raiseTo (trail id Option.none visible))
    (visible.map fun _ => .none)

end Highlight

end SnapshotViewer
