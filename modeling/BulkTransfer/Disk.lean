import BulkTransfer.Disk.File
import BulkTransfer.Disk.Place
import BulkTransfer.Error
import BulkTransfer.Number.Word
import BulkTransfer.Reader

/-!
# The local file system

A file system as far as transfers see it: directories and files by their places, and the content
of every file that was ever created, which outlives the file's name as long as somebody writes
to it. Paths are walked name by name from the working directory or the root. How long a file can
get and which times can be kept depends on the format of the disk.
-/

namespace BulkTransfer

/-- What identifies the content of a file, whatever its name. -/
abbrev FileId := Nat

/-- What stands at a place. -/
inductive Node where
  | directory (modified : Option Time)
  | file (id : FileId)
  deriving DecidableEq, Repr

/-- The first offset that no file system can represent. -/
def offsetBound : Nat := Word.bound63

/-- What a disk can hold by its format: the length of the longest file, the first and the last
second of a time, and the size that is reported for a directory. -/
structure DiskFormat where
  longestFile : Nat
  firstSecond : Int
  lastSecond : Int
  directorySize : Nat
  reached : longestFile < offsetBound
  deriving DecidableEq, Repr

/-- A file system with the working directory at `home`. -/
structure Disk where
  home : Place
  nodes : List (Place × Node)
  files : List FileData
  format : DiskFormat
  deriving DecidableEq, Repr

/-- A path before its last name is looked up: the place of the directory that the name is in.
A path that ends in `.`, `..` or the root has no last name, and leads to that place itself. Only
a directory may have a slash at the end of its path. -/
structure Approach where
  place : Place
  name : Option String
  slash : Bool
  deriving DecidableEq, Repr

/-- Where a path leads: a place and what stands there. -/
structure Spot where
  place : Place
  node : Option Node
  slash : Bool
  deriving DecidableEq, Repr

namespace DiskFormat

/-- The format ext4: a file is shorter than 16 tebibytes by a block of 4096 bytes or more, and times
are kept in 34 bits. -/
def ext4 : DiskFormat where
  longestFile := 17592186040320
  firstSecond := -2147483648
  lastSecond := 15032385535
  directorySize := 4096
  reached := by decide

/-- The most bytes that are written at once to a place in a file. -/
def writtenAtOnce : Nat := 65536

/-- How many bytes from an offset on are written in full before those that are written at once make
the file too long. -/
def inFull (format : DiskFormat) (offset : Nat) : Nat :=
  (format.longestFile - offset) / writtenAtOnce * writtenAtOnce

/-- Whether, of `length` bytes that make a file too long, those that do so and are written at once
end where no offset is. Then none of them is written. -/
def Overreaches (format : DiskFormat) (offset length : Nat) : Prop :=
  offsetBound ≤
    offset + format.inFull offset + min (length - format.inFull offset) writtenAtOnce

instance (format : DiskFormat) (offset length : Nat) :
    Decidable (format.Overreaches offset length) :=
  inferInstanceAs (Decidable (_ ≤ _))

/-- Why `length` bytes cannot be written from an offset on, if they cannot. -/
def writeRefusal? (format : DiskFormat) (offset length : Nat) : Option IoCause :=
  if offset + length ≤ format.longestFile then none
  else if format.Overreaches offset length then some .invalidArgument
  else some .fileTooLarge

/-- The bytes of a piece that can be written from an offset on. -/
def fitting (format : DiskFormat) (offset : Nat) (piece : Bytes) : Bytes :=
  if offset + piece.length ≤ format.longestFile then piece
  else if format.Overreaches offset piece.length then piece.take (format.inFull offset)
  else piece.take (format.longestFile - offset)

theorem writeRefusal?_eq_none_iff (format : DiskFormat) (offset length : Nat) :
    format.writeRefusal? offset length = none ↔ offset + length ≤ format.longestFile := by
  unfold writeRefusal?
  by_cases fits : offset + length ≤ format.longestFile
  · simp only [fits, if_true]
  · simp only [fits, if_false, iff_false]
    split <;> exact Option.some_ne_none _

theorem fitting_eq_self (format : DiskFormat) (offset : Nat) (piece : Bytes)
    (h : format.writeRefusal? offset piece.length = none) : format.fitting offset piece = piece :=
  if_pos ((format.writeRefusal?_eq_none_iff ..).1 h)

theorem exists_fitting_eq_take (format : DiskFormat) (offset : Nat) (piece : Bytes) :
    ∃ count, format.fitting offset piece = piece.take count := by
  unfold fitting
  split
  · exact ⟨piece.length, List.take_length.symm⟩
  · split <;> exact ⟨_, rfl⟩

/-- A time as it is kept. A time outside of what can be kept is moved to the nearest bound, and the
bounds themselves are kept in whole seconds. -/
def keptTime (format : DiskFormat) (time : Time) : Time :=
  if time.seconds ≤ format.firstSecond then ⟨format.firstSecond, 0⟩
  else if format.lastSecond ≤ time.seconds then ⟨format.lastSecond, 0⟩
  else time

end DiskFormat

namespace Disk

/-- The file system that holds nothing but the root and the working directory. The latter stands
below the root under the empty name, which no path can spell: paths are only ever in it because
they start there. -/
def empty : Disk where
  home := Place.root.child ""
  nodes := [(Place.root.child "", .directory none), (Place.root, .directory none)]
  files := []
  format := .ext4

/-- What stands at a place. -/
def node? (disk : Disk) (place : Place) : Option Node :=
  (disk.nodes.find? fun entry => entry.1.isSame place).map (·.2)

theorem node?_eq_lookup (disk : Disk) (place : Place) :
    disk.node? place = disk.nodes.lookup place := by
  unfold node?
  induction disk.nodes with
  | nil => rfl
  | cons entry rest ih =>
      rw [List.find?_cons, List.lookup_cons]
      by_cases same : entry.1 = place
      · rw [Place.isSame_iff.2 same, same, beq_self_eq_true]
        rfl
      · rw [Bool.eq_false_iff.2 fun h => same (Place.isSame_iff.1 h),
          beq_eq_false_iff_ne.2 (Ne.symm same)]
        exact ih

/-- The file with the given identity. -/
def file? (disk : Disk) (id : FileId) : Option FileData :=
  disk.files[id]?

/-- The place that a name leads to from a directory, which the name has to be as well. -/
def enter (disk : Disk) (at_ : Place) (name : String) : Except IoCause Place :=
  if name = "." then .ok at_
  else if name = ".." then .ok at_.parent
  else if 255 < name.utf8ByteSize then .error .nameTooLong
  else match disk.node? (at_.child name) with
    | some (.directory _) => .ok (at_.child name)
    | some (.file _) => .error .notDirectory
    | none => .error .notFound

/-- The size in bytes from which on a path is too long. -/
def pathBound : Nat := 4096

/-- A path up to its last name. -/
def approach (disk : Disk) (path : LocalPath) : Except IoCause Approach :=
  let text := path.text.toList
  let names := ((Text.pieces '/' text).filter (· ≠ [])).map String.ofList
  let start := if text.head? = some '/' then Place.root else disk.home
  let slash := text.getLast? = some '/'
  if '\x00' ∈ text then .error .nulInPath
  else if path.text.isEmpty then .error .notFound
  else if pathBound ≤ path.text.utf8ByteSize then .error .nameTooLong
  else match names.getLast? with
    | none => .ok ⟨start, none, slash⟩
    | some last => do
        let place ← names.dropLast.foldlM disk.enter start
        if last = "." ∨ last = ".." then .ok ⟨← disk.enter place last, none, slash⟩
        else .ok ⟨place, some last, slash⟩

/-- Where the last name of a path leads. -/
def arrive (disk : Disk) (approach : Approach) : Except IoCause Spot :=
  match approach.name with
  | none => .ok ⟨approach.place, disk.node? approach.place, approach.slash⟩
  | some name =>
      let place := approach.place.child name
      if 255 < name.utf8ByteSize then .error .nameTooLong
      else .ok ⟨place, disk.node? place, approach.slash⟩

/-- Where a path leads. -/
def spot (disk : Disk) (path : LocalPath) : Except IoCause Spot := do
  disk.arrive (← disk.approach path)

/-- What stands where a path leads; a file's path has no slash at its end. -/
def look (disk : Disk) (path : LocalPath) : Except IoCause Node := do
  let spot ← disk.spot path
  match spot.node with
  | none => .error .notFound
  | some (.file id) => if spot.slash then .error .notDirectory else .ok (.file id)
  | some (.directory modified) => .ok (.directory modified)

/-- Whether a path leads to a directory. -/
def isDirectory (disk : Disk) (path : LocalPath) : Bool :=
  match disk.look path with
  | .ok (.directory _) => true
  | _ => false

/-- Whether a path leads to anything. -/
def holds (disk : Disk) (path : LocalPath) : Bool :=
  match disk.look path with
  | .ok _ => true
  | .error _ => false

/-- The size and the time of modification of what a path leads to. -/
def stat (disk : Disk) (path : LocalPath) : Except IoCause (Nat × Option Time) := do
  match ← disk.look path with
  | .directory modified => .ok (disk.format.directorySize, modified)
  | .file id =>
      let file := (disk.file? id).getD {}
      .ok (file.size, file.modified)

/-- The content of the file that a path leads to. -/
def readWhole (disk : Disk) (path : LocalPath) : Except IoCause Bytes := do
  match ← disk.look path with
  | .directory _ => .error .isDirectory
  | .file id => .ok ((disk.file? id).getD {}).content

/-- The most bytes that are asked for at once when part of a file is read. -/
def readAtOnce : Nat := 8192

/-- `length` bytes from `offset` on of the file that a path leads to; there have to be as many.
A length that no memory can hold ends in a panic. A directory has no bytes to read, which is
found out after the place of the first bytes that are asked for. -/
def readSlice (disk : Disk) (path : LocalPath) (offset length : Nat) :
    Except Failure Bytes :=
  match disk.look path with
  | .error cause => .error (.io path cause)
  | .ok node =>
      let farthest := match node with
        | .directory _ => offsetBound - 1
        | .file _ => disk.format.longestFile
      if farthest < offset then .error (.io path .invalidArgument)
      else if offsetBound ≤ length then .error (.panicked "capacity overflow")
      else match node with
        | .directory _ =>
            if length = 0 then .ok []
            else if offsetBound ≤ offset + min length readAtOnce then
              .error (.io path .invalidArgument)
            else .error (.io path .isDirectory)
        | .file id =>
            let bytes := ((disk.file? id).getD {}).slice offset length
            if bytes.length < length then
              .error (.io path (.tooShort length offset bytes.length))
            else .ok bytes

/-- The file system with something at a place, instead of what was there. -/
def put (disk : Disk) (place : Place) (node : Node) : Disk :=
  { disk with nodes := (place, node) :: disk.nodes.filter (·.1 ≠ place) }

/-- The file system without what was at a place. -/
def erase (disk : Disk) (place : Place) : Disk :=
  { disk with nodes := disk.nodes.filter (·.1 ≠ place) }

/-- The file system with a file's data changed. -/
def update (disk : Disk) (id : FileId) (change : FileData → FileData) : Disk :=
  { disk with files := disk.files.modify id change }

/-- Creates the directory that a path leads to. -/
def makeDirectory (disk : Disk) (path : LocalPath) : Except IoCause Disk := do
  let spot ← disk.spot path
  match spot.node with
  | some _ => .error .alreadyExists
  | none => .ok (disk.put spot.place (.directory none))

/-- Creates a directory and those on the way to it that are missing. At most `fuel` directories
are tried; directories made before a refusal stay. -/
def makeDirectoriesWith (disk : Disk) (path : LocalPath) : Nat → Except IoCause Unit × Disk
  | 0 => (.ok (), disk)
  | fuel + 1 =>
      if path.text.isEmpty then (.ok (), disk)
      else match disk.makeDirectory path with
        | .ok disk => (.ok (), disk)
        | .error .notFound =>
            match path.parent? with
            | none => (.error (.stated "failed to create whole tree"), disk)
            | some parent =>
                match makeDirectoriesWith disk parent fuel with
                | (.error cause, disk) => (.error cause, disk)
                | (.ok (), disk) =>
                    match disk.makeDirectory path with
                    | .ok disk => (.ok (), disk)
                    | .error cause =>
                        (if disk.isDirectory path then .ok () else .error cause, disk)
        | .error cause => (if disk.isDirectory path then .ok () else .error cause, disk)

/-- Creates a directory and those on the way to it that are missing. -/
def makeDirectories (disk : Disk) (path : LocalPath) : Except IoCause Unit × Disk :=
  disk.makeDirectoriesWith path (path.text.length + 1)

/-- Makes sure that the directory around a path exists. -/
def makeParent (disk : Disk) (path : LocalPath) : Except Failure Unit × Disk :=
  match path.parent? with
  | none => (.ok (), disk)
  | some parent =>
      let result := disk.makeDirectories parent
      (result.1.mapError (Failure.io parent), result.2)

/-- Opens an empty file at a path: a new one, or the one that is there with its content
dropped. A path that can only be a directory's is refused before its last name is looked at. -/
def openEmpty (disk : Disk) (path : LocalPath) : Except IoCause (FileId × Disk) := do
  let approach ← disk.approach path
  if approach.name = none ∨ approach.slash then .error .isDirectory
  else
    let spot ← disk.arrive approach
    match spot.node with
    | some (.directory _) => .error .isDirectory
    | some (.file id) => .ok (id, disk.update id fun _ => {})
    | none =>
        let id := disk.files.length
        .ok (id, { disk.put spot.place (.file id) with files := disk.files ++ [{}] })

/-- Opens an empty file at a path, after the directories on the way to it. -/
def openNew (disk : Disk) (path : LocalPath) : Except Failure FileId × Disk :=
  match disk.makeParent path with
  | (.error error, disk) => (.error error, disk)
  | (.ok (), disk) =>
      match disk.openEmpty path with
      | .error cause => (.error (.io path cause), disk)
      | .ok (id, disk) => (.ok id, disk)

/-- Writes a piece to a file at an offset, as far as the file does not get too long. -/
def write (disk : Disk) (id : FileId) (offset : Nat) (piece : Bytes) : Disk :=
  disk.update id fun file => file.write offset (disk.format.fitting offset piece)

/-- Goes on writing what a reader delivers to a file, `written` bytes beyond an offset. -/
def writeOn (disk : Disk) (id : FileId) (path : LocalPath) (offset written : Nat) :
    Reader → Except Failure Nat × Disk
  | [] => (.ok written, disk)
  | .interrupted :: rest => writeOn disk id path offset written rest
  | .failure message :: _ => (.error (.io path (.stated message)), disk)
  | .piece bytes :: rest =>
      if bytes.isEmpty then (.ok written, disk)
      else
        let later := disk.write id (offset + written) bytes
        match disk.format.writeRefusal? (offset + written) bytes.length with
        | some cause => (.error (.io path cause), later)
        | none => later.writeOn id path offset (written + bytes.length) rest

/-- Writes what a reader delivers to a file from an offset on, and says how many bytes that
were. What was written before a failure stays. -/
def writeAt (disk : Disk) (id : FileId) (path : LocalPath) (offset : Nat) (reader : Reader) :
    Except Failure Nat × Disk :=
  disk.writeOn id path offset 0 reader

/-- Writes what a reader delivers to a new file at a path. -/
def writeNew (disk : Disk) (path : LocalPath) (reader : Reader) :
    Except Failure Nat × Disk :=
  match disk.openNew path with
  | (.error error, disk) => (.error error, disk)
  | (.ok id, disk) => disk.writeAt id path 0 reader

/-- Sets the time of modification of what a path leads to. -/
def setModified (disk : Disk) (path : LocalPath) (time : Time) : Except IoCause Disk := do
  let time := disk.format.keptTime time
  let spot ← disk.spot path
  match ← disk.look path with
  | .directory _ => .ok (disk.put spot.place (.directory (some time)))
  | .file id => .ok (disk.update id fun file => { file with modified := some time })

/-- Removes the file that a path leads to. -/
def unlink (disk : Disk) (path : LocalPath) : Except IoCause Disk := do
  let spot ← disk.spot path
  match spot.node with
  | none => .error .notFound
  | some (.directory _) => .error .isDirectory
  | some (.file _) => if spot.slash then .error .notDirectory else .ok (disk.erase spot.place)

/-- Removes a file that was written only in part, if that is possible. -/
def discard (disk : Disk) (path : LocalPath) : Disk :=
  match disk.unlink path with
  | .ok disk => disk
  | .error _ => disk

/-- What stands within a place, with the names that lead to it from there. -/
def below (disk : Disk) (place : Place) : List (List String × Node) :=
  disk.nodes.filterMap fun entry =>
    match place.below? entry.1 with
    | none | some [] => none
    | some names => some (names, entry.2)

/-- A directory within a place whose path from `root` on is too long to be read, while that of the
directory around it is not, if there is one. -/
def unreadable? (disk : Disk) (root : LocalPath) (place : Place) : Option LocalPath :=
  let isLong (names : List String) : Bool :=
    pathBound ≤ (root.descend names).text.utf8ByteSize
  (disk.below place).findSome? fun entry =>
    match entry.2 with
    | .file _ => none
    | .directory _ =>
        if isLong entry.1 && !isLong entry.1.dropLast then some (root.descend entry.1) else none

/-- The files at or below a path, each with the names that lead to it from there; or the path at
which the way to them ends, and why. -/
def walk (disk : Disk) (root : LocalPath) : Except (LocalPath × IoCause) (List (List String)) := do
  let spot ← (disk.spot root).mapError (root, ·)
  match ← (disk.look root).mapError (root, ·) with
  | .file _ => .ok [[]]
  | .directory _ =>
      match disk.unreadable? root spot.place with
      | some path => .error (path, .nameTooLong)
      | none =>
          .ok ((disk.below spot.place).filterMap fun entry =>
            match entry.2 with
            | .file _ => some entry.1
            | .directory _ => none)

end Disk
end BulkTransfer
