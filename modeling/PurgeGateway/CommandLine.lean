/-!
# The command line

Three flags take a value each, behind an equals sign or as the next word. A flag that is not given
takes its value from a variable of the environment, and failing that has one of its own. Words are
read from left to right; a value is only looked at when the next flag is met or the words are at
their end, so a word that is no flag is complained about first.

## Main definitions

* `CommandLine.Options`: the values of the flags.
* `CommandLine.UsageError`: why no options are had.
* `CommandLine.parse`: the options that words and environment give.
-/

namespace PurgeGateway.CommandLine

/-- A flag that takes a value. -/
inductive Flag
  | config
  | logLevel
  | disableTrace
  deriving DecidableEq, Repr, Inhabited

/-- The name of a flag behind its two hyphens. -/
def Flag.name : Flag → String
  | .config => "config"
  | .logLevel => "log-level"
  | .disableTrace => "disable-trace"

/-- The variable of the environment that stands in for a flag. -/
def Flag.variable : Flag → String
  | .config => "AKAPURGE_CONFIG"
  | .logLevel => "AKAPURGE_LOG_LEVEL"
  | .disableTrace => "AKAPURGE_DISABLE_TRACE"

/-- All flags in order. -/
def Flag.all : List Flag :=
  [.config, .logLevel, .disableTrace]

/-- The values of the flags. -/
structure Options where
  config : String := "config.yaml"
  logLevel : String := "info"
  disableTrace : Bool := true
  deriving DecidableEq, Repr, Inhabited

/-- Why no options are had. A wish for help or for the version counts as one. -/
inductive UsageError
  | invalidValue
  | unknownArgument
  | argumentConflict
  | tooManyValues
  | displayHelp
  | displayVersion
  deriving DecidableEq, Repr, Inhabited

namespace UsageError

/-- What the user is told. -/
def message : UsageError → String
  | .invalidValue => "error: a value is missing or invalid"
  | .unknownArgument => "error: unexpected argument found"
  | .argumentConflict => "error: an argument cannot be used multiple times"
  | .tooManyValues => "error: unexpected value for an argument found; no more were expected"
  | .displayHelp => "Akamai purge gateway\n\nUsage: akapurge [OPTIONS]\n\nOptions:\n" ++
      "      --config <CONFIG>\n      --log-level <LOG_LEVEL>\n" ++
      "      --disable-trace <DISABLE_TRACE>\n  -h, --help\n  -V, --version"
  | .displayVersion => "akapurge 0.1.0"

/-- The exit code of the program. A wish that can be met is no failure. -/
def exitCode : UsageError → UInt32
  | .displayHelp | .displayVersion => 0
  | _ => 2

end UsageError

/-! ### What has been read -/

/-- What has been read: the options, the flags that are settled, a flag whose value is not looked
at yet, and whether all further words are plain. -/
structure Progress where
  options : Options := {}
  settled : List Flag := []
  pending : Option (Flag × Option String) := none
  plainOnly : Bool := false

namespace Progress

/-- The progress with the value of a flag. A path must not be empty, and a truth value is spelled
in one way. -/
def assign (p : Progress) (flag : Flag) (value : String) : Except UsageError Progress :=
  let settle (o : Options) : Except UsageError Progress :=
    .ok { p with options := o, settled := flag :: p.settled }
  match flag with
  | .config =>
    if value.isEmpty then .error .invalidValue else settle { p.options with config := value }
  | .logLevel => settle { p.options with logLevel := value }
  | .disableTrace =>
    if value = "true" then settle { p.options with disableTrace := true }
    else if value = "false" then settle { p.options with disableTrace := false }
    else .error .invalidValue

/-- The progress with a value given by words. A flag is given once. -/
def give (p : Progress) (flag : Flag) (value : String) : Except UsageError Progress :=
  if p.settled.contains flag then .error .argumentConflict else p.assign flag value

/-- The progress with the pending flag settled, if there is one. It must have a value. -/
def flush (p : Progress) : Except UsageError Progress :=
  match p.pending with
  | none => .ok p
  | some (_, none) => .error .invalidValue
  | some (flag, some value) => { p with pending := none }.give flag value

/-- An error that comes after the pending flag is settled. -/
def stop {α : Type} (p : Progress) (e : UsageError) : Except UsageError α := do
  let _ ← p.flush
  .error e

/-- A word of two hyphens, a name, and a value behind an equals sign if there is one. -/
def readLong (p : Progress) (name : String) (value : Option String) :
    Except UsageError Progress :=
  match Flag.all.find? (·.name == name) with
  | some flag => do
    let p ← p.flush
    match value with
    | some v => p.give flag v
    | none => .ok { p with pending := some (flag, none) }
  | none =>
    if name = "help" then (if value.isSome then .error .tooManyValues else p.stop .displayHelp)
    else if name = "version" then
      (if value.isSome then .error .tooManyValues else p.stop .displayVersion)
    else .error .unknownArgument

/-- A word of one hyphen and letters; the first of them decides. -/
def readShort (p : Progress) (letter : Char) : Except UsageError Progress :=
  if letter = 'h' then p.stop .displayHelp
  else if letter = 'V' then p.stop .displayVersion
  else .error .unknownArgument

/-- A word that is no flag: the value that the pending flag waits for. -/
def readPlain (p : Progress) (word : String) : Except UsageError Progress :=
  match p.pending with
  | some (flag, none) => .ok { p with pending := some (flag, some word) }
  | _ => .error .unknownArgument

/-- The name and the value of a long flag. -/
def splitLong (cs : List Char) : String × Option String :=
  let name := String.ofList (cs.takeWhile (· != '='))
  match cs.dropWhile (· != '=') with
  | _ :: value => (name, some (String.ofList value))
  | [] => (name, none)

/-- One word. -/
def read (p : Progress) (word : String) : Except UsageError Progress :=
  if p.plainOnly then .error .unknownArgument
  else
    match word.toList with
    | ['-', '-'] => .ok { p with plainOnly := true }
    | '-' :: '-' :: rest => let (name, value) := splitLong rest; p.readLong name value
    | '-' :: letter :: _ => p.readShort letter
    | _ => p.readPlain word

/-- The value of a flag from the environment, unless words gave one. -/
def readVariable (lookup : String → Option String) (p : Progress) (flag : Flag) :
    Except UsageError Progress :=
  if p.settled.contains flag then .ok p
  else
    match lookup flag.variable with
    | some value => p.assign flag value
    | none => .ok p

end Progress

/-- The options that words and environment give. -/
def parse (words : List String) (lookup : String → Option String) : Except UsageError Options := do
  let p ← words.foldlM Progress.read {}
  let p ← p.flush
  let p ← Flag.all.foldlM (Progress.readVariable lookup) p
  return p.options

end PurgeGateway.CommandLine
