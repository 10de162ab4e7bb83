/-!
# Faults

The two ways in which describing a row can fail. Both come from values that a host hands in and
that no layout can give a meaning to.
-/

namespace Bouquet

/-- Why a computation has no answer. -/
inductive Fault where
  /-- A rectangle whose width is negative or not a number cannot be split. -/
  | unsplittableWidth
  /-- An instant outside the years that the calendar covers. -/
  | instantOutOfRange
  deriving DecidableEq

end Bouquet
