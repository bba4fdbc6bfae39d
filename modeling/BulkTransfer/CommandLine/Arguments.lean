import BulkTransfer.CommandLine.Grammar
import BulkTransfer.Settings.Reading

/-!
# Arguments

The commands of the program and their options, and what a command line asks for. Options of the
program may stand before the command or among its own; the latter count more, and both count
more than what the environment says.
-/

namespace BulkTransfer.CommandLine

/-- What the commands that transfer are given. -/
structure TransferArguments where
  source : String
  destination : String
  recursive : Bool := false
  acl : Option String := none
  contentType : Option String := none
  storageClass : Option String := none
  keepContentType : Bool := false
  expectedSize : Option String := none
  deriving DecidableEq, Repr

/-- A command. -/
inductive Command where
  | copy (arguments : TransferArguments)
  | move (arguments : TransferArguments)
  | remove (target : String)
  | removeBucket (bucket : String)
  deriving DecidableEq, Repr

/-- What a command line asks for. -/
structure Arguments where
  command : Command
  configPath : Option String := none
  multipartThreshold : Option String := none
  multipartChunksize : Option String := none
  maxConcurrentRequests : Option Nat := none
  maxQueueSize : Option Nat := none
  region : String
  endpointUrl : Option String := none
  forcePathStyle : Bool := false
  quiet : Bool := false
  onlyShowErrors : Bool := false
  verbose : Nat := 0
  deriving DecidableEq, Repr

/-- What the environment of the program says about its options. -/
structure Environment where
  configPath : Option String := none
  region : Option String := none
  endpointUrl : Option String := none
  deriving DecidableEq, Repr

/-- The region that is used if none is given. -/
def defaultRegion : String := "us-east-1"

/-- The options of every level. -/
def sharedOptions : List OptionSpec :=
  [⟨"config", none, .path⟩, ⟨"multipart-threshold", none, .text⟩,
   ⟨"multipart-chunksize", none, .text⟩, ⟨"max-concurrent-requests", some 't', .number⟩,
   ⟨"max-queue-size", none, .number⟩, ⟨"region", none, .text⟩, ⟨"endpoint-url", none, .text⟩,
   ⟨"force-path-style", none, .flag⟩, ⟨"quiet", some 'q', .flag⟩,
   ⟨"only-show-errors", none, .flag⟩, ⟨"verbose", some 'v', .count⟩, ⟨"help", some 'h', .help⟩]

/-- The options of the commands that transfer. -/
def transferOptions : List OptionSpec :=
  [⟨"recursive", some 'r', .flag⟩, ⟨"acl", none, .text⟩, ⟨"content-type", none, .text⟩,
   ⟨"storage-class", none, .text⟩, ⟨"no-guess-mime-type", none, .flag⟩,
   ⟨"expected-size", none, .text⟩]

/-- The names of the commands. -/
def commandNames : List String := ["cp", "mv", "rm", "rb"]

/-- The program's own level. -/
def programLevel : LevelSpec :=
  { options := sharedOptions ++ [⟨"version", some 'V', .version⟩]
    commands := commandNames ++ ["help"] }

/-- The level of a command. -/
def commandLevel (name : String) : LevelSpec :=
  if name = "cp" ∨ name = "mv" then
    { options := sharedOptions ++ transferOptions, positionals := 2 }
  else { options := sharedOptions, positionals := 1 }

/-- The environment as settings of options. -/
def Environment.settings (environment : Environment) : List (String × String) :=
  [("config", environment.configPath), ("region", environment.region),
   ("endpoint-url", environment.endpointUrl)].filterMap fun entry =>
    entry.2.map fun value => (entry.1, value)

/-- What the help command shows: help for the program or for one command. -/
def helpFor (items : List String) : Refusal :=
  match items with
  | [] => .displayHelp
  | [name] => if name ∈ programLevel.commands then .displayHelp else .invalidSubcommand
  | _ => .invalidSubcommand

/-- The two levels of a command line. A setting of the inner one counts before one of the outer
one, and what stands on the command line before what the environment says. -/
structure Levels where
  outer : Level
  inner : Level
  environment : Environment

namespace Levels

/-- What an option was set to on the command line. -/
def written? (levels : Levels) (name : String) : Option Setting :=
  (levels.inner.setting? name).orElse fun _ => levels.outer.setting? name

/-- The text that an option was set to on the command line. -/
def text? (levels : Levels) (name : String) : Option String :=
  match levels.written? name with
  | some (.text value) => some value
  | _ => none

/-- The number that an option was set to. -/
def number? (levels : Levels) (name : String) : Option Nat :=
  match levels.written? name with
  | some (.number value) => some value
  | _ => none

/-- How often an option was given. -/
def times (levels : Levels) (name : String) : Nat :=
  match levels.written? name with
  | some (.count times) => times
  | _ => 0

/-- Whether a flag was given. -/
def has (levels : Levels) (name : String) : Bool :=
  (levels.written? name).isSome

/-- What the command is given. -/
def transfer (levels : Levels) (source destination : String) : TransferArguments :=
  { source := source
    destination := destination
    recursive := levels.has "recursive"
    acl := levels.text? "acl"
    contentType := levels.text? "content-type"
    storageClass := levels.text? "storage-class"
    keepContentType := levels.has "no-guess-mime-type"
    expectedSize := levels.text? "expected-size" }

/-- The command of the given name, if it has all its positional values. -/
def command (levels : Levels) (name : String) : Except Refusal Command :=
  match levels.inner.positionals with
  | [source, destination] =>
      if name = "mv" then .ok (.move (levels.transfer source destination))
      else .ok (.copy (levels.transfer source destination))
  | [value] =>
      if name = "rm" then .ok (.remove value)
      else if name = "rb" then .ok (.removeBucket value)
      else .error .missingRequiredArgument
  | _ => .error .missingRequiredArgument

/-- The arguments of a command. -/
def arguments (levels : Levels) (command : Command) : Arguments :=
  { command := command
    configPath := (levels.text? "config").orElse fun _ => levels.environment.configPath
    multipartThreshold := levels.text? "multipart-threshold"
    multipartChunksize := levels.text? "multipart-chunksize"
    maxConcurrentRequests := levels.number? "max-concurrent-requests"
    maxQueueSize := levels.number? "max-queue-size"
    region := ((levels.text? "region").orElse fun _ => levels.environment.region).getD
      defaultRegion
    endpointUrl := (levels.text? "endpoint-url").orElse fun _ => levels.environment.endpointUrl
    forcePathStyle := levels.has "force-path-style"
    quiet := levels.has "quiet"
    onlyShowErrors := levels.has "only-show-errors"
    verbose := levels.times "verbose" }

end Levels

/-- What a command line asks for, or why it is refused. The command's own items are looked at
before the last pending option of the program. -/
def Arguments.read (environment : Environment) (items : List String) :
    Except Refusal Arguments := do
  let (outer, command) ← Level.readItems programLevel false {} items
  match command with
  | some (name, rest) =>
      if name = "help" then .error (helpFor rest)
      else
        let spec := commandLevel name
        let (inner, _) ← Level.readItems spec false {} rest
        let inner ← inner.resolve
        let _ ← inner.addDefaults spec environment.settings
        let levels : Levels := ⟨outer, inner, environment⟩
        let command ← levels.command name
        let outer ← outer.resolve
        let _ ← outer.addDefaults programLevel environment.settings
        .ok ({ levels with outer := outer }.arguments command)
  | none => do
      let outer ← outer.resolve
      let outer ← outer.addDefaults programLevel environment.settings
      if outer.settings.isEmpty then .error .displayHelpOnMissing else .error .missingSubcommand

/-- A size on the command line. -/
def sizeOption (text : Option String) : Except Failure (Option Nat) :=
  match text with
  | none => .ok none
  | some text =>
      match Size.read text with
      | .ok size => .ok (some size)
      | .error fault => .error (.config (.badSize fault))

/-- The configuration for a command line: the one in the given file, with the options that are
set instead of its values. -/
def Arguments.config (arguments : Arguments) (disk : Disk) : Except Failure Config := do
  let base ← match arguments.configPath with
    | some path => Config.load disk ⟨path⟩
    | none => .ok {}
  let threshold ← sizeOption arguments.multipartThreshold
  let chunksize ← sizeOption arguments.multipartChunksize
  let config : Config :=
    { multipartThreshold := threshold.getD base.multipartThreshold
      multipartChunksize := chunksize.getD base.multipartChunksize
      maxConcurrentRequests :=
        arguments.maxConcurrentRequests.getD base.maxConcurrentRequests
      maxQueueSize := arguments.maxQueueSize.getD base.maxQueueSize }
  config.validate
  .ok config

/-- The parameters for a command that transfers. -/
def Arguments.transferParams (arguments : Arguments) (transfer : TransferArguments) :
    Except Failure Params := do
  let expectedSize ← sizeOption transfer.expectedSize
  .ok
    { acl := transfer.acl
      contentType := transfer.contentType
      storageClass := transfer.storageClass
      guessContentType := !transfer.keepContentType
      quiet := arguments.quiet
      onlyShowErrors := arguments.onlyShowErrors
      expectedSize := expectedSize
      isStream := transfer.source = "-" || transfer.destination = "-" }

/-- The parameters for a command that does not transfer. -/
def Arguments.outputParams (arguments : Arguments) : Params :=
  { quiet := arguments.quiet, onlyShowErrors := arguments.onlyShowErrors }

end BulkTransfer.CommandLine
