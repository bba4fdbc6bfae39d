import BulkTransfer.CommandLine.Arguments
import BulkTransfer.Stream.Handler
import BulkTransfer.Transfer.Batch

/-!
# The program

What the program does for a command line: it loads its configuration, opens a client, turns the
command into records and carries them out, and ends with an exit code. Streams go from the
standard input or to the standard output, everything else through a run.
-/

namespace BulkTransfer.CommandLine

open Pool

/-- How the client of the object store is opened. -/
structure ClientSettings where
  region : String
  endpointUrl : Option String
  forcePathStyle : Bool
  deriving DecidableEq, Repr

/-- What the program is connected to: the file system, the object store, and its standard
input. -/
structure Outside (σ : Type) where
  disk : Disk
  state : σ
  input : Reader

/-- How the program ends: with an exit code, what it has written, and what it has done
outside. -/
structure Ending (σ : Type) where
  code : Nat
  out : Bytes
  err : String
  client : Option ClientSettings
  calls : List Call
  disk : Disk
  state : σ

/-- Why a command cannot be carried out: what the program was about, and the causes, outermost
first. -/
structure Complaint where
  texts : List String
  deriving DecidableEq, Repr

/-- A complaint as it is shown. -/
def Complaint.message (complaint : Complaint) : String :=
  String.intercalate ": " complaint.texts

/-- A complaint without a cause. -/
def Complaint.plain (text : String) : Complaint := ⟨[text]⟩

/-- The complaint about a failure. -/
def Complaint.ofError (error : Failure) : Complaint := ⟨error.causes⟩

/-- The complaint about a failure in something that the program was about. -/
def Complaint.within (context : String) (error : Failure) : Complaint :=
  ⟨context :: error.causes⟩

/-- Whether a destination names a directory or the start of a key, to which the name of the
source is appended. -/
def namesContainer (disk : Disk) (destination : String) : Bool :=
  destination.endsWith "/" || destination = "." ||
    ((Location.afterScheme? destination).isNone && disk.isDirectory ⟨destination⟩)

/-- The destination for a source, with the source's name appended if it needs one. -/
def resolveDestination (disk : Disk) (destination : String) (source : LocalPath) : String :=
  match source.fileName? with
  | some name =>
      if namesContainer disk destination then ((⟨destination⟩ : LocalPath).child name).text
      else destination
  | none => destination

/-- The record for a local source. -/
def fileRecord (disk : Disk) (kind : RecordKind) (path : LocalPath) (destination : String) :
    Except Complaint Record :=
  match disk.stat path with
  | .error cause => .error ⟨["could not stat " ++ path.text, cause.message]⟩
  | .ok (size, modified) =>
      .ok
        { kind := kind
          source := .file path
          destination := some (Location.ofText destination)
          size := size
          modified := modified }

/-- The records for all files at or below a local root. Each destination is the given one
followed by the names that lead from the root to the file. -/
def treeRecords (disk : Disk) (kind : RecordKind) (root : LocalPath) (destination : String) :
    Except Complaint (List Record) :=
  if root.same Stream.streamPath then
    .error (.plain "--recursive cannot read from a stream")
  else
    let base := String.ofList (Text.trimEnd '/' destination.toList)
    match disk.walk root with
    | .error (path, cause) =>
        .error ⟨["could not walk " ++ root.text,
          "IO error for operation on " ++ path.text ++ ": " ++ cause.message, cause.message]⟩
    | .ok files =>
        files.mapM fun names =>
          fileRecord disk kind (root.descend names)
            (base ++ "/" ++ String.intercalate "/" names)

/-- What a transfer command comes to: records for a run, a stream, or an object whose size has to
be asked for first. -/
inductive Undertaking where
  | records (records : List Record)
  | stream (record : Record)
  | stat (kind : RecordKind) (object : ObjectName)
  deriving DecidableEq, Repr

/-- The kind of the records for a transfer. -/
def transferKind (isMove : Bool) (source destination : Location) :
    Except Complaint RecordKind :=
  if isMove then .ok .move
  else match source.isRemote, destination.isRemote with
    | false, true => .ok .upload
    | true, false => .ok .download
    | true, true => .ok .copy
    | false, false => .error (.plain "one side of the transfer must be s3://bucket/key")

/-- What a transfer command comes to. -/
def undertake (disk : Disk) (isMove isStream : Bool) (transfer : TransferArguments) :
    Except Complaint Undertaking :=
  let source := Location.ofText transfer.source
  let destination := Location.ofText transfer.destination
  if isStream then
    if isMove then .error (.plain "streams cannot be moved")
    else
      .ok (.stream
        { kind := if source.isRemote then .download else .upload
          source := source
          destination := some destination })
  else do
    let kind ← transferKind isMove source destination
    match source with
    | .file path =>
        if transfer.recursive then
          .ok (.records (← treeRecords disk kind path transfer.destination))
        else
          .ok (.records
            [← fileRecord disk kind path (resolveDestination disk transfer.destination path)])
    | .object object =>
        if transfer.recursive then
          .error (.plain "recursive transfers from s3:// sources are not supported")
        else .ok (.stat kind object)

/-- The record for an object whose size and time are known. -/
def objectRecord (disk : Disk) (kind : RecordKind) (object : ObjectName)
    (destination : String) (size : Nat) (modified : Option Time) : Record :=
  { kind := kind
    source := .object object
    destination := some (Location.ofText (resolveDestination disk destination ⟨object.key⟩))
    size := size
    modified := modified }

/-- The bucket that the command to remove one names, with or without the scheme and slashes at
the end. -/
def bucketName (text : String) : Except Complaint String :=
  let name := Text.trimEnd '/' ((Location.afterScheme? text).getD text).toList
  if name.isEmpty ∨ '/' ∈ name then .error (.plain ("not a bucket: " ++ text))
  else .ok (String.ofList name)

variable {σ : Type}

/-- The store of a run of the program; there is only one. -/
def theStore : StoreName := "store"

/-- The ending of a program that complains. -/
def complain (client : Option ClientSettings) (calls : List Call) (disk : Disk) (state : σ)
    (complaint : Complaint) : Ending σ :=
  ⟨1, [], "Error: " ++ complaint.message ++ "\n", client, calls, disk, state⟩

/-- Carries out records and ends with the summary of the run. -/
def runBatch (service : Service σ) (client : ClientSettings) (config : Config) (params : Params)
    (earlier : List Call) (disk : Disk) (state : σ) (records : List Record) : Ending σ :=
  match Batch.ofConfig theStore none config params with
  | .error error => complain (some client) earlier disk state (.ofError error)
  | .ok batch =>
      let (run, world) :=
        batch.carryOut service (fun _ _ => none) ⟨[(theStore, state)], []⟩ disk records
      let printer := Batch.printed params run.shared
      let summary := if params.quiet then "" else run.shared.tally.summary
      { code := run.shared.tally.exitCode
        out := Bytes.ofText (printer.out.text ++ summary)
        err := printer.err.text
        client := some client
        calls := earlier ++ run.shared.calls.map Prod.snd
        disk := run.shared.disk
        state := (world.stores.lookup theStore).getD state }

/-- Carries out a stream and ends without a summary. -/
def runStream (service : Service σ) (client : ClientSettings) (config : Config) (params : Params)
    (outside : Outside σ) (record : Record) : Ending σ :=
  match Stream.Handler.ofConfig config params with
  | .error error => complain (some client) [] outside.disk outside.state (.ofError error)
  | .ok handler =>
      let engine := Stream.Engine.ofService service handler.chunksize params
      let (tally, handler, output, session) :=
        handler.call engine ⟨outside.state, []⟩ record outside.input {}
      ⟨tally.exitCode, output.taken, handler.printer.err.text, some client, session.calls,
        outside.disk, session.state⟩

/-- The exit code of a program that a panic of the object store ends. -/
def panicCode : Nat := 101

/-- Asks for the size of an object and then carries out the transfer. -/
def runObject (service : Service σ) (client : ClientSettings) (config : Config) (params : Params)
    (outside : Outside σ) (kind : RecordKind) (object : ObjectName) (destination : String) :
    Ending σ :=
  let session : Session σ := ⟨outside.state, []⟩
  match session.ask service (.headObject object) with
  | (.error .panicked, session) =>
      ⟨panicCode, [], "", some client, session.calls, outside.disk, session.state⟩
  | (.error (.failed error), session) =>
      complain (some client) session.calls outside.disk session.state
        (.within ("could not stat " ++ (Location.object object).shown) error)
  | (.ok reply, session) =>
      let (size, modified) := match reply with
        | .head size modified => (size, modified)
        | _ => (0, none)
      runBatch service client config params session.calls outside.disk session.state
        [objectRecord outside.disk kind object destination size modified]

/-- Carries out a command that transfers. -/
def runTransfer (service : Service σ) (client : ClientSettings) (arguments : Arguments)
    (config : Config) (outside : Outside σ) (isMove : Bool) (transfer : TransferArguments) :
    Ending σ :=
  match arguments.transferParams transfer with
  | .error error => complain (some client) [] outside.disk outside.state (.ofError error)
  | .ok params =>
      match undertake outside.disk isMove params.isStream transfer with
      | .error complaint => complain (some client) [] outside.disk outside.state complaint
      | .ok (.records records) =>
          runBatch service client config params [] outside.disk outside.state records
      | .ok (.stream record) => runStream service client config params outside record
      | .ok (.stat kind object) =>
          runObject service client config params outside kind object transfer.destination

/-- Carries out what a command line asks for. -/
def run (service : Service σ) (arguments : Arguments) (outside : Outside σ) : Ending σ :=
  match arguments.config outside.disk with
  | .error error => complain none [] outside.disk outside.state (.ofError error)
  | .ok config =>
      let client : ClientSettings :=
        ⟨arguments.region, arguments.endpointUrl, arguments.forcePathStyle⟩
      match arguments.command with
      | .copy transfer => runTransfer service client arguments config outside false transfer
      | .move transfer => runTransfer service client arguments config outside true transfer
      | .remove target =>
          runBatch service client config arguments.outputParams [] outside.disk outside.state
            [Record.delete (Location.ofText target)]
      | .removeBucket bucket =>
          match bucketName bucket with
          | .error complaint =>
              complain (some client) [] outside.disk outside.state complaint
          | .ok name =>
              runBatch service client config arguments.outputParams [] outside.disk
                outside.state [Record.removeBucket name]

end BulkTransfer.CommandLine
