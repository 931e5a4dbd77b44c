set_option autoImplicit false

/-! # Sets of characters given by ranges

A Unicode property is recorded as the inclusive code point ranges that have it. Only code points
from 128 on are recorded: below that the classes are small enough to be spelled out where they
are defined, and facts about them reduce without touching a table. -/

namespace Bindery

/-- A set of code points, as inclusive ranges in ascending order. -/
abbrev CodeRanges := Array (Nat × Nat)

/-- A character belongs to the set when some range covers its code point. -/
def CodeRanges.covers (ranges : CodeRanges) (c : Char) : Bool :=
  ranges.any fun (low, high) => low ≤ c.toNat && c.toNat ≤ high

end Bindery
