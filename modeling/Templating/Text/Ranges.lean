/-! Classes of characters as ranges of their numbers. -/

namespace Templating.Text

def inRanges (ranges : List (Nat × Nat)) (n : Nat) : Bool :=
  ranges.any fun (first, last) => first ≤ n && n ≤ last

end Templating.Text
