import PurgeGateway.CommandLine
import PurgeGateway.Config.Reader
import PurgeGateway.Gateway.Basic

/-!
# The program

Reads the configuration that the command line names, with references to the environment replaced,
and tells what gateway it describes, or why there is none.

## Main definitions

* `main`: the program.
-/

namespace PurgeGateway

/-- The values of some variables of the environment. -/
def lookupAll (names : List String) : IO Environment.Lookup := do
  let values ← names.mapM fun name => return (name, ← IO.getEnv name)
  return fun name => (values.lookup name).join

/-- The content of a file, if it can be read. -/
def contentOf (path : String) : IO (Option (List UInt8)) := do
  try return some (← IO.FS.readBinFile path).toList
  catch _ => return none

/-- What is told of a configuration that cannot be used. -/
def loadMessage : Config.LoadError → String
  | .file e => "failed to read the configuration: " ++ e.name
  | .yaml => "failed to parse the configuration"
  | .invalid fault => fault.message

/-- What is told of a usable configuration. -/
def summary (c : Config) (g : Gateway) : List String :=
  ["listening on " ++ c.listener.address, g.diagnostic,
    "Timeout: " ++ Ascii.decimal c.listener.timeoutSecs ++ "s, Max body: " ++
      Ascii.decimal c.listener.maxBodySizeMb ++ "MB"]

/-- The configuration that a file holds, and its gateway. -/
def load (path : String) : IO (Except String (Config × Gateway)) := do
  let content ← contentOf path
  let lookup ← lookupAll (Environment.names (Utf8.textLossy (content.getD [])))
  return do
    let c ← (Config.ofFile lookup content).mapError loadMessage
    let g ← (Gateway.ofConfig c true).mapError Config.Fault.message
    return (c, g)

/-- Tells of the gateway that the words of a command line ask for. -/
def program (words : List String) : IO UInt32 := do
  let lookup ← lookupAll (CommandLine.Flag.all.map (·.variable))
  match CommandLine.parse words lookup with
  | .error e =>
    IO.eprintln e.message
    return e.exitCode
  | .ok options =>
    match ← load options.config with
    | .error message =>
      IO.eprintln message
      return 1
    | .ok (c, g) =>
      (summary c g).forM IO.println
      return 0

end PurgeGateway

/-- The program: its exit code is zero if there is a gateway to tell of. -/
def main (words : List String) : IO UInt32 :=
  PurgeGateway.program words
