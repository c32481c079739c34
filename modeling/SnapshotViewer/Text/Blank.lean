import SnapshotViewer.Text.CodeRange

/-!
# Blank characters

The white space of all scripts, the four information separators among it.
-/

namespace SnapshotViewer.Text

/-- The ranges of white space. -/
def blankRanges : CodeRanges := [
    (0x9, 0xd), (0x1c, 0x20), (0x85, 0x85), (0xa0, 0xa0), (0x1680, 0x1680),
    (0x2000, 0x200a), (0x2028, 0x2029), (0x202f, 0x202f), (0x205f, 0x205f), (0x3000, 0x3000)]

/-- White space of any script. -/
def isBlank (c : Char) : Bool := blankRanges.contains c

end SnapshotViewer.Text
