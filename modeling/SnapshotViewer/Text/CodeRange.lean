/-!
# Ranges of code points

A character class is written as a list of ranges of code points, both ends included.
-/

namespace SnapshotViewer.Text

/-- A class of characters, as ranges of code points with both ends included. -/
abbrev CodeRanges := List (Nat × Nat)

/-- A character is in the class when some range holds its code point. -/
def CodeRanges.contains (ranges : CodeRanges) (c : Char) : Bool :=
  ranges.any fun (first, last) => first ≤ c.toNat && c.toNat ≤ last

end SnapshotViewer.Text
