import ClauseSharing.Text.Extending
import ClauseSharing.Text.Shapeless

/-! # Characters that show

A character shows in a report if it has a shape and does not extend the character before it. -/

namespace ClauseSharing.Text

/-- Whether a code point lies in one of the ranges. -/
def inRanges (ranges : List (Nat × Nat)) (code : Nat) : Bool :=
  ranges.any fun (first, last) => first ≤ code && code ≤ last

/-- Whether a character shows as itself. -/
def isVisible (char : Char) : Bool :=
  !inRanges shapelessRanges char.toNat && !inRanges extendingRanges char.toNat

end ClauseSharing.Text
