/-!
**Classes of characters as ranges of code points.**
-/

set_option autoImplicit false

namespace PageImages.Text

/-- Whether a code point lies in one of several ranges, both ends of a range included. -/
def inRanges (ranges : List (Nat × Nat)) (n : Nat) : Bool :=
  ranges.any fun (low, high) => low ≤ n && n ≤ high

end PageImages.Text
