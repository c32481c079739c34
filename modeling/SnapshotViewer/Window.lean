import SnapshotViewer.Failure

/-!
# The window

A window selects one position of the visible sequence or a pair to compare. The low bound is the
anchor of a comparison: moving the other bound keeps it, and only a position below moves it.
-/

namespace SnapshotViewer

/-- A pair of positions. -/
structure Window where
  low : Int := 0
  high : Int := 0
deriving DecidableEq

namespace Window

/-- Both bounds are the same position. -/
def isSingle (w : Window) : Bool := w.low == w.high

/-- The window `[low, high]`, if it lies within `size` positions. -/
def ofBounds (low high size : Int) : Except Failure Window :=
  if 0 ≤ low ∧ low ≤ high ∧ high < size then .ok ⟨low, high⟩
  else .error (.invalidWindow low high size)

/-- Extends or shrinks the window towards a position. -/
def anchorTo (w : Window) (index size : Int) : Except Failure Window :=
  if w.low ≤ index then ofBounds w.low index size else ofBounds index w.high size

/-- Pulls both bounds inside `size` positions. -/
def clamp (w : Window) (size : Int) : Window :=
  let high := min w.high (max (size - 1) 0)
  ⟨min w.low high, high⟩

/-- A call of a window. -/
inductive Call where
  | set (low high size : Int)
  | anchorTo (index size : Int)
  | clamp (size : Int)

/-- The number of positions that a call is about. -/
def Call.size : Call → Int
  | .set _ _ size | .anchorTo _ size | .clamp size => size

/-- The window that a call asks for. -/
def requested (w : Window) : Call → Except Failure Window
  | .set low high size => ofBounds low high size
  | .anchorTo index size => w.anchorTo index size
  | .clamp size => .ok (w.clamp size)

/-- Takes a call, and tells whether the window has moved. If the call fails, the window stays. -/
def take (w : Window) (c : Call) : Except Failure Bool × Window :=
  match w.requested c with
  | .ok moved => (.ok (moved ≠ w), moved)
  | .error e => (.error e, w)

/-- The window after some calls. -/
def run (w : Window) (calls : List Call) : Window := calls.foldl (fun w c => (w.take c).2) w

/-- The entry at a position, where a negative position counts from the end. -/
def entryAt {α : Type} (entries : List α) (i : Int) : Option α :=
  if 0 ≤ i then entries[i.toNat]?
  else if 0 ≤ entries.length + i then entries[(entries.length + i).toNat]?
  else none

/-- The entry at the low bound, or the last one if the bound lies behind the end. -/
def lowEntry? {α : Type} (w : Window) (entries : List α) : Option α :=
  if w.low < entries.length then entryAt entries w.low else entries.getLast?

end Window

end SnapshotViewer
