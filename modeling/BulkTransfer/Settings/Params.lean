/-!
# Parameters of a run

What is asked of one run beyond its records: how objects are created, what is shown, and what is
known of a stream.
-/

namespace BulkTransfer

/-- The parameters of a run. -/
structure Params where
  acl : Option String := none
  contentType : Option String := none
  storageClass : Option String := none
  guessContentType : Bool := true
  quiet : Bool := false
  onlyShowErrors : Bool := false
  expectedSize : Option Nat := none
  isStream : Bool := false
  deriving DecidableEq, Repr

end BulkTransfer
