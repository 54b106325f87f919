import Mathlib.Data.List.Basic

/-!
# The alerts of the node sensors
-/

namespace Sspl

namespace Node

/-- The alert types that the sensors of the node raise. -/
inductive AlertType
  | fault
  | faultResolved
  deriving DecidableEq

end Node

end Sspl
