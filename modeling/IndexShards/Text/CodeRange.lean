/-!
# Ranges of code points

The character classes of this library are data: lists of ranges of code points, taken from the
Unicode Character Database in its version 17.0.  This file holds the range and the one question that
is asked of a list of them.

## What is here

* `CodeRange` — the code points from a first to a last one.
* `inRanges rs c` — is `c` in one of the ranges?  `inRanges_iff` says what that means.
-/

set_option autoImplicit false

namespace IndexShards
namespace Text

/-- The code points from `first` to `last`, both included. -/
structure CodeRange where
  first : Nat
  last : Nat

/-- The range contains the character. -/
def CodeRange.covers (r : CodeRange) (c : Char) : Bool :=
  decide (r.first ≤ c.toNat) && decide (c.toNat ≤ r.last)

/-- One of the ranges contains the character. -/
def inRanges (rs : List CodeRange) (c : Char) : Bool :=
  rs.any fun r => r.covers c

theorem inRanges_iff {rs : List CodeRange} {c : Char} :
    inRanges rs c = true ↔ ∃ r ∈ rs, r.first ≤ c.toNat ∧ c.toNat ≤ r.last := by
  simp [inRanges, CodeRange.covers]

end Text
end IndexShards
