import SnapshotViewer.World.Membership

/-!
# Filter chains

A chain is an ordered list of filters that several views can share. Every change of a chain is
announced by it; a change of the rules of a filter is not.
-/

namespace SnapshotViewer.Act

/-- Replaces the filters of a chain and announces it. -/
def changeChain (respond : Respond) (c : ChainRef) (filters : List FilterRef) : Act Unit := do
  modify fun w => w.setChain c filters
  announce respond (.chain c)

/-- Appends a filter to a chain. -/
def addFilter (respond : Respond) (c : ChainRef) (f : FilterRef) : Act Unit := do
  let filters ← Act.chain c
  let _ ← Act.filter f
  changeChain respond c (filters ++ [f])

/-- Removes the first occurrence of a filter from a chain. -/
def removeFilter (respond : Respond) (c : ChainRef) (f : FilterRef) : Act Unit := do
  let filters ← Act.chain c
  if filters.contains f then changeChain respond c (filters.erase f) else throw .filterNotListed

/-- The first position of a filter in a chain. -/
def positionOf (filters : List FilterRef) (f : FilterRef) : Act Nat := do
  let filter ← Act.filter f
  match filters.findIdx? (· == f) with
  | some i => return i
  | none => throw (.filterNotFound filter.label)

/-- Swaps the entries at a position and the next one. -/
def swapAt {α : Type} : Nat → List α → List α
  | 0, a :: b :: rest => b :: a :: rest
  | n + 1, a :: rest => a :: swapAt n rest
  | _, rest => rest

/-- Swaps a filter with the one before it. The first one stays, and nothing is announced. -/
def moveFilterUp (respond : Respond) (c : ChainRef) (f : FilterRef) : Act Unit := do
  let filters ← Act.chain c
  match ← positionOf filters f with
  | 0 => return ()
  | i + 1 => changeChain respond c (swapAt i filters)

/-- Swaps a filter with the one behind it. The last one stays, and nothing is announced. -/
def moveFilterDown (respond : Respond) (c : ChainRef) (f : FilterRef) : Act Unit := do
  let filters ← Act.chain c
  let i ← positionOf filters f
  if i + 1 < filters.length then changeChain respond c (swapAt i filters)

/-- Appends a rule to a colour filter. -/
def addRule (f : FilterRef) (property pattern color : String) : Act Unit := do
  let filter ← Act.filter f
  match filter with
  | .other .. => throw .noSuchMember
  | .color .. =>
    let rule ← Act.ofExcept (ColorRule.ofTexts property pattern color)
    let changed ← Act.ofExcept (filter.addRule rule)
    modify fun w => { w with filters := w.filters.set f changed }
    record (.ruled f)

end SnapshotViewer.Act
