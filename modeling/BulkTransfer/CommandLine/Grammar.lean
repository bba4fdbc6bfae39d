import BulkTransfer.Number.Decimal
import BulkTransfer.Text.Cut

/-!
# The grammar of command lines

A command line has levels: the program's own, and that of a command. At each level there are
options with a value, flags, and positional values. An option's value is looked at only when the
next item or the end shows that it is complete, so of two faults it is not always the first one
that is reported.
-/

namespace BulkTransfer.CommandLine

/-- Why a command line is not carried out. Showing help or the version counts as one. -/
inductive Refusal where
  | displayHelp
  | displayVersion
  | displayHelpOnMissing
  | missingSubcommand
  | missingRequiredArgument
  | unknownArgument
  | invalidSubcommand
  | invalidValue
  | valueValidation
  | argumentConflict
  | tooManyValues
  deriving DecidableEq, Repr

/-- The name of a refusal. -/
def Refusal.name : Refusal → String
  | .displayHelp => "DisplayHelp"
  | .displayVersion => "DisplayVersion"
  | .displayHelpOnMissing => "DisplayHelpOnMissingArgumentOrSubcommand"
  | .missingSubcommand => "MissingSubcommand"
  | .missingRequiredArgument => "MissingRequiredArgument"
  | .unknownArgument => "UnknownArgument"
  | .invalidSubcommand => "InvalidSubcommand"
  | .invalidValue => "InvalidValue"
  | .valueValidation => "ValueValidation"
  | .argumentConflict => "ArgumentConflict"
  | .tooManyValues => "TooManyValues"

/-- The exit code after a refusal: help and version that were asked for are no failures. -/
def Refusal.exitCode : Refusal → Nat
  | .displayHelp | .displayVersion => 0
  | _ => 2

/-- What an option takes. A path must not be empty, a number has at most 64 bits, a count grows
with every repetition up to 255. -/
inductive OptionKind where
  | text
  | path
  | number
  | flag
  | count
  | help
  | version
  deriving DecidableEq, Repr

/-- Whether an option of the kind has a value. -/
def OptionKind.takesValue : OptionKind → Bool
  | .text | .path | .number => true
  | _ => false

/-- An option: its long name, which is also what it sets, its letter, and what it takes. -/
structure OptionSpec where
  name : String
  letter : Option Char := none
  kind : OptionKind
  deriving DecidableEq, Repr

/-- The options, the positional values and the commands of a level. -/
structure LevelSpec where
  options : List OptionSpec
  positionals : Nat := 0
  commands : List String := []
  deriving DecidableEq, Repr

/-- What an option was set to. -/
inductive Setting where
  | text (value : String)
  | number (value : Nat)
  | flag
  | count (times : Nat)
  deriving DecidableEq, Repr

/-- An item that has been read and not yet looked at: an option that may still get its value, or
a positional value. -/
inductive Pending where
  | option (spec : OptionSpec) (value : Option String)
  | positional (value : String)
  deriving DecidableEq, Repr

/-- What has been read of a level. -/
structure Level where
  settings : List (String × Setting) := []
  positionals : List String := []
  pending : Option Pending := none
  deriving DecidableEq, Repr

namespace Level

/-- What an option was set to, if it was. -/
def setting? (level : Level) (name : String) : Option Setting :=
  level.settings.lookup name

/-- The level with an option set. -/
def put (level : Level) (name : String) (setting : Setting) : Level :=
  { level with settings := (name, setting) :: level.settings.filter (·.1 ≠ name) }

/-- The setting that a text gives an option of some kind. -/
def parseValue (kind : OptionKind) (value : String) : Except Refusal Setting :=
  match kind with
  | .path => if value.isEmpty then .error .invalidValue else .ok (.text value)
  | .number =>
      match Decimal.read64? value.toList with
      | some number => .ok (.number number)
      | none => .error .valueValidation
  | _ => .ok (.text value)

/-- Sets an option to a value. An option is set at most once on a level. -/
def setValue (level : Level) (spec : OptionSpec) (value : String) : Except Refusal Level :=
  if (level.setting? spec.name).isSome then .error .argumentConflict
  else (parseValue spec.kind value).map (level.put spec.name)

/-- Looks at the pending item. -/
def resolve (level : Level) : Except Refusal Level :=
  let level' := { level with pending := none }
  match level.pending with
  | none => .ok level
  | some (.positional value) =>
      .ok { level' with positionals := level.positionals ++ [value] }
  | some (.option _ none) => .error .invalidValue
  | some (.option spec (some value)) => level'.setValue spec value

/-- Whether the next item is the value of a pending option. -/
def awaitsValue (level : Level) : Bool :=
  match level.pending with
  | some (.option _ none) => true
  | _ => false

/-- The number of positional values read, the pending one included. -/
def positionalCount (level : Level) : Nat :=
  match level.pending with
  | some (.positional _) => level.positionals.length + 1
  | _ => level.positionals.length

/-- Sets a flag. -/
def setFlag (level : Level) (spec : OptionSpec) : Except Refusal Level := do
  let level ← level.resolve
  match spec.kind with
  | .help => .error .displayHelp
  | .version => .error .displayVersion
  | .count =>
      let times := match level.setting? spec.name with
        | some (.count times) => times
        | _ => 0
      .ok (level.put spec.name (.count (min (times + 1) 255)))
  | _ =>
      if (level.setting? spec.name).isSome then .error .argumentConflict
      else .ok (level.put spec.name .flag)

/-- Meets an option that has a value, which may be attached to it or follow. -/
def meetOption (level : Level) (spec : OptionSpec) (attached : Option String) :
    Except Refusal Level := do
  let level ← level.resolve
  match attached with
  | some value => level.setValue spec value
  | none => .ok { level with pending := some (.option spec none) }

/-- Reads a long option without its dashes. -/
def readLong (level : Level) (spec : LevelSpec) (body : List Char) : Except Refusal Level :=
  let parts : List Char × Option String := match Text.cut? '=' body with
    | some (name, value) => (name, some (String.ofList value))
    | none => (body, none)
  match spec.options.find? (·.name = String.ofList parts.1) with
  | none => .error .unknownArgument
  | some option =>
      if option.kind.takesValue then level.meetOption option parts.2
      else if parts.2.isSome then .error .tooManyValues
      else level.setFlag option

/-- Reads the letters after a single dash: flags, and at the end perhaps an option with its
value. -/
def readLetters (level : Level) (spec : LevelSpec) : List Char → Except Refusal Level
  | [] => .ok level
  | letter :: rest =>
      match spec.options.find? (·.letter = some letter) with
      | none => .error .unknownArgument
      | some option =>
          if option.kind.takesValue then
            level.meetOption option
              (match rest with
                | [] => none
                | '=' :: value => some (String.ofList value)
                | value => some (String.ofList value))
          else
            match level.setFlag option with
            | .error refusal => .error refusal
            | .ok level => readLetters level spec rest

/-- Reads a positional value. Where none is expected, a level with commands takes it for a
wrong command, unless it is a right one that came too late. -/
def readPositional (level : Level) (spec : LevelSpec) (trailing : Bool) (value : String) :
    Except Refusal Level :=
  if level.positionalCount < spec.positionals then
    level.resolve.map fun level => { level with pending := some (.positional value) }
  else if spec.commands.isEmpty ∨ (trailing ∧ value ∈ spec.commands) then .error .unknownArgument
  else .error .invalidSubcommand

/-- Reads one item that is not behind a `--`. -/
def readItem (level : Level) (spec : LevelSpec) (item : String) : Except Refusal Level :=
  match item.toList with
  | '-' :: '-' :: body => level.readLong spec body
  | '-' :: letter :: letters => level.readLetters spec (letter :: letters)
  | _ =>
      match level.pending with
      | some (.option option none) =>
          .ok { level with pending := some (.option option (some item)) }
      | _ => level.readPositional spec false item

/-- Reads the items of a level, up to a command if one comes; then its name and the items after
it are given as well. Behind `--` everything is positional. -/
def readItems (spec : LevelSpec) :
    Bool → Level → List String → Except Refusal (Level × Option (String × List String))
  | _, level, [] => .ok (level, none)
  | true, level, item :: rest =>
      match level.readPositional spec true item with
      | .error refusal => .error refusal
      | .ok level => readItems spec true level rest
  | false, level, item :: rest =>
      if !level.awaitsValue && item ∈ spec.commands then .ok (level, some (item, rest))
      else if item = "--" then readItems spec true level rest
      else match level.readItem spec item with
        | .error refusal => .error refusal
        | .ok level => readItems spec false level rest

/-- The level with options set from outside where the command line does not set them. -/
def addDefaults (level : Level) (spec : LevelSpec) (outside : List (String × String)) :
    Except Refusal Level :=
  outside.foldlM (fun level entry =>
    if (level.setting? entry.1).isSome then .ok level
    else match spec.options.find? (·.name = entry.1) with
      | none => .ok level
      | some option => level.setValue option entry.2) level

end Level
end BulkTransfer.CommandLine
