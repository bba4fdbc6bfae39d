import BulkTransfer.Text.Cut

/-!
# Paths of the local file system

A path is the text that names a file. Its components are an optional anchor (the root, or `.`
for where one is) and the names between the slashes; empty names and further `.`s do not count.
Two paths are the same if their components are.
-/

namespace BulkTransfer

/-- A path as it was given. -/
structure LocalPath where
  text : String
  deriving DecidableEq, Repr

/-- Where the names of a path start. -/
inductive PathAnchor where
  | root
  | here
  | unmarked
  deriving DecidableEq, Repr

namespace LocalPath

/-- Whether a piece between slashes counts as a component. -/
def isName (piece : List Char) : Bool :=
  piece ≠ [] && piece ≠ ['.']

/-- A path as its anchor and the pieces after it. -/
def anchored (path : LocalPath) : PathAnchor × List (List Char) :=
  match Text.pieces '/' path.text.toList with
  | [] :: piece :: rest => (.root, piece :: rest)
  | ['.'] :: rest => (.here, rest)
  | pieces => (.unmarked, pieces)

/-- The anchor of a path. -/
def anchor (path : LocalPath) : PathAnchor :=
  path.anchored.1

/-- The names of a path, `..` among them. -/
def names (path : LocalPath) : List String :=
  (path.anchored.2.filter isName).map String.ofList

/-- Whether two paths have the same components. -/
def same (path other : LocalPath) : Bool :=
  path.anchor = other.anchor && path.names = other.names

/-- The last name of a path, unless it is `..`. -/
def fileName? (path : LocalPath) : Option String :=
  path.names.getLast?.filter (· ≠ "..")

/-- The text of an anchor followed by pieces. -/
def assemble (anchor : PathAnchor) (pieces : List (List Char)) : LocalPath :=
  let body := Text.joined '/' pieces
  match anchor with
  | .root => ⟨String.ofList ('/' :: body)⟩
  | .here => ⟨String.ofList (if pieces.isEmpty then ['.'] else '.' :: '/' :: body)⟩
  | .unmarked => ⟨String.ofList body⟩

/-- The path without its last component; the root and the empty path have none. -/
def parent? (path : LocalPath) : Option LocalPath :=
  let anchored := path.anchored
  match anchored.2.reverse.dropWhile (!isName ·) with
  | _ :: before => some (assemble anchored.1 (before.dropWhile (!isName ·)).reverse)
  | [] => if anchored.1 = .here then some ⟨""⟩ else none

/-- The path of `name` inside the directory `path`. -/
def child (path : LocalPath) (name : String) : LocalPath :=
  if path.text.endsWith "/" then ⟨path.text ++ name⟩ else ⟨path.text ++ "/" ++ name⟩

/-- The path that names lead to one after the other. -/
def descend (path : LocalPath) (names : List String) : LocalPath :=
  names.foldl child path

end LocalPath
end BulkTransfer
