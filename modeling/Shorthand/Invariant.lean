/-!
# Invariants

What is said when an invariant does not hold.
-/

namespace Shorthand

/-- The wording of a violation that has a reason. -/
def violationMessage (reason : List Char) : List Char :=
  if reason.isEmpty then "never() marker reached".toList else reason

end Shorthand
