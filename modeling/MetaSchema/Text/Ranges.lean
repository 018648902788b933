/-!
# Ranges of characters

A class of characters is written as the ranges of its code points.

* `inRanges`: membership.
-/

namespace MetaSchema.Text

/-- Whether the code point of a character is in one of the ranges, which hold both ends. -/
def inRanges (ranges : List (Nat × Nat)) (c : Char) : Bool :=
  ranges.any fun r => r.1 ≤ c.toNat && c.toNat ≤ r.2

end MetaSchema.Text
