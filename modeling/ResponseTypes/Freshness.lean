/-!
# Freshness

A file counts as fresh while it is younger than a window of time.  Times are nanoseconds since a
common origin.

## Main definitions

- `Freshness.isYounger`: whether something modified at a given time is younger than a window.
-/

namespace ResponseTypes
namespace Freshness

/-- The nanoseconds of a second. -/
def second : Int := 1000000000

/-- The age of something modified at a given time.  What was modified in the future has age zero. -/
def age (modified now : Int) : Int :=
  max 0 (now - modified)

/-- Strictly younger than the window. -/
def isYounger (modified window now : Int) : Bool :=
  decide (age modified now < window)

/-- The end of the window itself is no longer in it, and an empty window holds nothing. -/
theorem isYounger_iff (modified window now : Int) :
    isYounger modified window now = true ↔ 0 < window ∧ now < modified + window := by
  rw [isYounger, decide_eq_true_eq, age]
  omega

end Freshness
end ResponseTypes
