/-!
# Classes of characters

A class of characters is given by the ranges of code points that it consists of, in ascending order.
-/

namespace Messenger.Text

/-- The code point lies in one of the ranges, which ascend: once a range starts above the point, no
later one can hold it. -/
def inRanges (point : Nat) : List (Nat × Nat) → Bool
  | [] => false
  | (first, last) :: rest =>
    if point < first then false
    else if point ≤ last then true
    else inRanges point rest

end Messenger.Text
