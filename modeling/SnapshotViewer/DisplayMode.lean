/-!
# Display modes

The modes in which a view can open, each with the text that names it in a settings file.
-/

namespace SnapshotViewer

/-- The mode in which a view opens. -/
inductive DisplayMode where
  | seaOfNodes
  | clusteredSeaOfNodes
  | controlFlowGraph
deriving DecidableEq

namespace DisplayMode

/-- The text of a mode in a settings file. -/
def text : DisplayMode → String
  | .seaOfNodes => "sea-of-nodes"
  | .clusteredSeaOfNodes => "clustered-sea-of-nodes"
  | .controlFlowGraph => "control-flow-graph"

/-- All modes. -/
def all : List DisplayMode := [.seaOfNodes, .clusteredSeaOfNodes, .controlFlowGraph]

end DisplayMode

end SnapshotViewer
