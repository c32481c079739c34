import SnapshotViewer.View.Dispatch

/-!
# Groups

Snapshots are added to groups and removed from them. Every such change is announced by the group.
-/

namespace SnapshotViewer.Act

/-- Announces a change of a group or a filter chain. -/
def announce (respond : Respond) (signal : Signal) : Act Unit :=
  Act.yield (World.announceShared respond signal)

/-- Adds a snapshot to the end of a group. -/
def addMember (respond : Respond) (g : GroupRef) (s : SnapshotRef) : Act Unit := do
  let _ ← Act.group g
  modify fun w => w.modifySnapshot s fun snapshot => { snapshot with group := some g }
  modify fun w => w.modifyGroup g fun group => { group with members := group.members ++ [s] }
  announce respond (.group g)

/-- Removes the first occurrence of a snapshot from a group. -/
def removeMember (respond : Respond) (g : GroupRef) (s : SnapshotRef) : Act Unit := do
  let group ← Act.group g
  if group.members.contains s then
    modify fun w => w.modifyGroup g fun group => { group with members := group.members.erase s }
    announce respond (.group g)
  else throw (.notAMember ((← get).nameOf s) group.name)

/-- Removes all snapshots from a group. -/
def clearGroup (respond : Respond) (g : GroupRef) : Act Unit := do
  let _ ← Act.group g
  modify fun w => w.modifyGroup g fun group => { group with members := [] }
  announce respond (.group g)

end SnapshotViewer.Act
