import BulkTransfer.Remote.Answer

/-!
# Stores that answer

A store in use: it answers one call after another, and its answers may depend on all that it was
asked before.
-/

namespace BulkTransfer

/-- A store as it answers calls, over a state of its own. -/
structure Service (σ : Type) where
  answer : σ → Call → Answer × σ

end BulkTransfer
