import BulkTransfer.LocalPath

/-!
# Locations

A transfer runs between locations: paths of the local file system and objects of a store, which
are named by a bucket and a key. Texts that start with the scheme of remote locations name
objects, all others are paths.
-/

namespace BulkTransfer

/-- The name of an object in a store. -/
structure ObjectName where
  bucket : String
  key : String
  deriving DecidableEq, Repr

namespace ObjectName

/-- Bucket and key of a text, cut at its first slash; without a slash the key is empty. -/
def ofText (text : String) : ObjectName :=
  match Text.cut? '/' text.toList with
  | some (bucket, key) => ⟨String.ofList bucket, String.ofList key⟩
  | none => ⟨text, ""⟩

end ObjectName

/-- One side of a transfer. -/
inductive Location where
  | file (path : LocalPath)
  | object (name : ObjectName)
  deriving DecidableEq, Repr

namespace Location

/-- The scheme that marks remote locations. -/
def scheme : String := "s3://"

/-- What follows the scheme in a text that has it. -/
def afterScheme? (text : String) : Option String :=
  (Text.after? scheme.toList text.toList).map String.ofList

/-- The location that a text names. -/
def ofText (text : String) : Location :=
  match afterScheme? text with
  | some rest => .object (ObjectName.ofText rest)
  | none => .file ⟨text⟩

/-- Whether a location is an object of a store. -/
def isRemote : Location → Bool
  | .object _ => true
  | .file _ => false

/-- The path of a local location. -/
def path? : Location → Option LocalPath
  | .file path => some path
  | .object _ => none

/-- The object of a remote location. -/
def object? : Location → Option ObjectName
  | .object name => some name
  | .file _ => none

/-- The last component of the location: of a path its last name, of an object what follows the
last slash of its key. -/
def fileName? : Location → Option String
  | .file path => path.fileName?
  | .object name => some (String.ofList (Text.afterLast '/' name.key.toList))

/-- The location as it is shown to people. -/
def shown : Location → String
  | .file path => path.text
  | .object name => scheme ++ name.bucket ++ "/" ++ name.key

end Location
end BulkTransfer
