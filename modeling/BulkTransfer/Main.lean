import BulkTransfer.CommandLine.Program

/-!
# The command line

The program from its arguments to the opening of a client. The texts of help and of refusals are
no part of the library, which names a refusal and leaves its wording open; and no transport to
object stores is linked here, so that a command line which is understood and well configured ends
where the client would be opened.
-/

namespace BulkTransfer.CommandLine

/-- The environment's part of the options. -/
def environment : IO Environment := do
  return {
    configPath := ← IO.getEnv "S3FERRY_CONFIG"
    region := ← IO.getEnv "AWS_REGION"
    endpointUrl := ← IO.getEnv "AWS_ENDPOINT_URL" }

/-- A file system that holds the file at `path`, if there is one that can be read. -/
def loadFile (path : String) : IO Disk := do
  try
    let content ← IO.FS.readBinFile path
    return (Disk.empty.writeNew ⟨path⟩ (Reader.ofBytes content.toList)).2
  catch _ => return Disk.empty

/-- Ends the program with a complaint. -/
def stop (complaint : Complaint) : IO UInt32 := do
  IO.eprintln ("Error: " ++ complaint.message)
  return 1

/-- Configures a run, and stops where its client would be opened. -/
def configure (arguments : Arguments) : IO UInt32 := do
  let disk ← match arguments.configPath with
    | some path => loadFile path
    | none => pure Disk.empty
  match arguments.config disk with
  | .error error => stop (.ofError error)
  | .ok _ => stop ⟨["could not create S3 client", "no transport to object stores"]⟩

end BulkTransfer.CommandLine

open BulkTransfer CommandLine in
/-- Reads the command line and carries it out as far as that is possible. -/
def main (items : List String) : IO UInt32 := do
  match Arguments.read (← environment) items with
  | .error refusal =>
      if refusal.exitCode = 0 then IO.println refusal.name else IO.eprintln refusal.name
      return UInt32.ofNat refusal.exitCode
  | .ok arguments => configure arguments
