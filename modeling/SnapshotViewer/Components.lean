import SnapshotViewer.NodeSet

/-!
# Components

The components of a graph are the classes of nodes that are joined by paths of edges taken in either
direction. Every node starts in a class of its own, and every edge merges the classes of its ends.
-/

namespace SnapshotViewer.Components

/-- The class holds one of two nodes. -/
def touches (a b : Int) (members : List Int) : Bool := members.contains a || members.contains b

/-- Merges all classes that hold one of two nodes. -/
def merge (classes : List (List Int)) (e : Int × Int) : List (List Int) :=
  (classes.filter (touches e.1 e.2)).flatten :: classes.filter fun c => !touches e.1 e.2 c

/-- The nodes of a graph: the listed ones, then the ends of edges that are not listed. -/
def vertices (ids : List Int) (edges : List (Int × Int)) : List Int :=
  (ids ++ edges.flatMap fun (a, b) => [a, b]).eraseDups

/-- The classes of connected nodes, in no particular order. -/
def classes (ids : List Int) (edges : List (Int × Int)) : List (List Int) :=
  edges.foldl merge ((vertices ids edges).map fun id => [id])

/-- Puts a class in front of the first class with a greater first member. -/
def place (members : List Int) : List (List Int) → List (List Int)
  | [] => [members]
  | c :: rest =>
    if members.headD 0 ≤ c.headD 0 then members :: c :: rest else c :: place members rest

/-- The components, each in ascending order, ordered by their least members. -/
def ofGraph (ids : List Int) (edges : List (Int × Int)) : List (List Int) :=
  (classes ids edges).foldr (fun c sorted => place (NodeSet.ofList c).toList sorted) []

end SnapshotViewer.Components
