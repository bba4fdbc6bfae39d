/-!
# Progress of the parts

The bookkeeping that uploads and downloads in several parts share. A part is handed out, and then
either put back because the queue has no room, or entered and finished or lost. The operation is
ended by whoever claims its end first: after all parts have succeeded, or after a failure once no
part is running any more.
-/

namespace BulkTransfer.Multipart

/-- The state of the parts of one operation. Parts are handed out in the order of their indexes,
but those that were put back come first, the latest of them before the others. A part that was
handed out and has not finished is outstanding; one that was also entered is running. -/
structure Progress where
  total : Nat
  succeeded : Nat := 0
  running : Nat := 0
  failure : Option String := none
  endClaimed : Bool := false
  next : Nat := 0
  deferred : List Nat := []
  outstanding : Nat := 0
  deriving DecidableEq, Repr

namespace Progress

/-- Whether no more parts are handed out or entered: a part has failed, or somebody ends the
operation. -/
def isClosed (progress : Progress) : Bool :=
  progress.failure.isSome || progress.endClaimed

/-- The index of the part to be handed out next, if one is left and may be. -/
def handOut? (progress : Progress) : Option (Nat × Progress) :=
  if progress.isClosed then none
  else match progress.deferred with
    | index :: rest =>
        some (index,
          { progress with deferred := rest, outstanding := progress.outstanding + 1 })
    | [] =>
        if progress.next < progress.total then
          some (progress.next,
            { progress with
              next := progress.next + 1, outstanding := progress.outstanding + 1 })
        else none

/-- Puts back a part that was handed out. The only outstanding part is not taken back (`none`):
nobody would be left to hand it out again. -/
def putBack? (progress : Progress) (index : Nat) : Option Progress :=
  if progress.outstanding ≤ 1 then none
  else some { progress with
    outstanding := progress.outstanding - 1, deferred := index :: progress.deferred }

/-- Enters a part, unless parts are no longer entered. -/
def enter? (progress : Progress) : Option Progress :=
  if progress.isClosed then none else some { progress with running := progress.running + 1 }

/-- Records a part that has succeeded. -/
def partFinished (progress : Progress) : Progress :=
  { progress with
    running := progress.running - 1
    outstanding := progress.outstanding - 1
    succeeded := progress.succeeded + 1 }

/-- Records a failure, of which the first one counts. -/
def markFailed (progress : Progress) (reason : String) : Progress :=
  { progress with failure := some (progress.failure.getD reason) }

/-- Records a part that has failed, whether or not it had been entered. -/
def partLost (progress : Progress) (reason : String) (began : Bool) : Progress :=
  { progress with
    running := if began then progress.running - 1 else progress.running
    outstanding := progress.outstanding - 1 }.markFailed reason

/-- Whether there is nothing left to wait for: no part is running after a failure, or all parts
have succeeded. -/
def isDone (progress : Progress) : Bool :=
  if progress.failure.isSome then progress.running = 0
  else progress.succeeded = progress.total

/-- Claims the end of the operation, if there is nothing left to wait for and nobody has
claimed it. -/
def claimEnd? (progress : Progress) : Option Progress :=
  if progress.endClaimed then none
  else if progress.isDone then some { progress with endClaimed := true } else none

end Progress
end BulkTransfer.Multipart
