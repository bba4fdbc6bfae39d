/-!
# Moments

A moment is counted from the beginning of 1970 (UTC) in whole seconds, which may be negative,
and nanoseconds that are always added.
-/

namespace BulkTransfer

/-- A moment. -/
structure Time where
  seconds : Int
  nanoseconds : Nat
  deriving DecidableEq, Repr

end BulkTransfer
