/-!
# Notices

The lines that people see during a run, one for each operation that has ended.
-/

namespace BulkTransfer

/-- What is said about an operation that has ended. -/
inductive Notice where
  | success (operation description : String)
  | failure (operation description error : String)
  | warning (message : String)
  deriving DecidableEq, Repr

namespace Notice

/-- The line of a notice. -/
def line : Notice → String
  | .success operation description => operation ++ ": " ++ description
  | .failure operation description error =>
      operation ++ " failed: " ++ description ++ " " ++ error
  | .warning message => "warning: " ++ message

/-- Whether a notice is about a failure or a warning. -/
def isError : Notice → Bool
  | .success _ _ => false
  | _ => true

end Notice
end BulkTransfer
