/-!
# Tables of characters

A class of characters is given by ascending disjoint ranges of code points.
-/

namespace BareMetal.Text

def inRanges (ranges : Array (Nat × Nat)) (c : Char) : Bool :=
  ranges.any fun (lo, hi) => lo ≤ c.toNat && c.toNat ≤ hi

end BareMetal.Text
