/-!
# Tallies of a run

How many operations of a run succeeded, failed, or were skipped with a warning.
-/

namespace BulkTransfer

/-- The outcomes of a run, counted. -/
structure Tally where
  succeeded : Nat := 0
  failed : Nat := 0
  warned : Nat := 0
  deriving DecidableEq, Repr

namespace Tally

/-- Two tallies together. -/
def add (tally other : Tally) : Tally :=
  ⟨tally.succeeded + other.succeeded, tally.failed + other.failed, tally.warned + other.warned⟩

/-- The number of operations counted. -/
def total (tally : Tally) : Nat :=
  tally.succeeded + tally.failed + tally.warned

/-- Whether no operation failed. -/
def isSuccess (tally : Tally) : Bool :=
  tally.failed = 0

/-- The exit code for a run: one after a failure, two after warnings only. -/
def exitCode (tally : Tally) : Nat :=
  if tally.failed > 0 then 1 else if tally.warned > 0 then 2 else 0

/-- The summary of a run for people. -/
def summary (tally : Tally) : String :=
  "\n=== Transfer Summary ===\nSucceeded:  " ++ toString tally.succeeded ++
    "\nWarned:     " ++ toString tally.warned ++ "\nFailed:     " ++ toString tally.failed ++ "\n"

end Tally
end BulkTransfer
