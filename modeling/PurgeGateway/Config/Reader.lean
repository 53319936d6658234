import PurgeGateway.Config.Environment
import PurgeGateway.Config.Validation
import PurgeGateway.Yaml.Value

/-!
# Configurations, read

A configuration is a YAML document: a mapping of four sections, each a mapping of settings. What is
left out has its own value, and names that are not known are passed over. A file is read as text,
and references to the environment in it are replaced first.

## Main definitions

* `Config.LoadError`: why no configuration is had.
* `Config.ofYaml`: the configuration that a text writes.
* `Config.ofFile`: the configuration in a file.
-/

namespace PurgeGateway

namespace Config

/-- Why the content of a file cannot be had. -/
inductive FileFault
  | notFound
  | invalidData
  deriving DecidableEq, Repr

/-- What a fault is called. -/
def FileFault.name : FileFault → String
  | .notFound => "NotFound"
  | .invalidData => "InvalidData"

/-- Why no configuration is had. -/
inductive LoadError
  | file (fault : FileFault)
  | yaml
  | invalid (fault : Fault)
  deriving DecidableEq, Repr

open Yaml (Tree Node)
open Yaml.Tree (fieldOr?)

/-! ### Sections -/

/-- The numbers of 64 bits lie below this one. -/
def numberLimit : Nat := 0x10000000000000000

/-- The listener that a node describes. -/
def Listener.ofNode? (t : Tree) (n : Node) : Option Listener := do
  let fields ← t.fields? ["listenAddress", "timeoutSecs", "maxBodySizeMb"] n
  let none : Listener := {}
  some {
    address := ← fieldOr? fields "listenAddress" none.address t.text?
    timeoutSecs := ← fieldOr? fields "timeoutSecs" none.timeoutSecs (t.natural? numberLimit)
    maxBodySizeMb := ← fieldOr? fields "maxBodySizeMb" none.maxBodySizeMb
      (t.natural? numberLimit) }

/-- The acting user that a node describes. -/
def UserSetting.ofNode? (t : Tree) (n : Node) : Option UserSetting := do
  let fields ← t.fields? ["enabled", "header", "jwtField"] n
  some {
    enabled := ← fieldOr? fields "enabled" false t.bool?
    header := ← fieldOr? fields "header" "" t.text?
    claim := ← fieldOr? fields "jwtField" "" t.text? }

/-- The access log that a node describes. -/
def Logs.ofNode? (t : Tree) (n : Node) : Option Logs := do
  let fields ← t.fields? ["showAccessLogs", "accessLogsFields", "jwtUser"] n
  some {
    enabled := ← fieldOr? fields "showAccessLogs" false t.bool?
    fields := ← fieldOr? fields "accessLogsFields" [] t.texts?
    user := ← fieldOr? fields "jwtUser" {} (UserSetting.ofNode? t) }

/-- The invalidation API that a node describes. -/
def Api.ofNode? (t : Tree) (n : Node) : Option Api := do
  let fields ← t.fields?
    ["host", "clientSecret", "clientToken", "accessToken", "credentialsPath"] n
  some {
    host := ← fieldOr? fields "host" "" t.text?
    clientSecret := ← fieldOr? fields "clientSecret" "" t.text?
    clientToken := ← fieldOr? fields "clientToken" "" t.text?
    accessToken := ← fieldOr? fields "accessToken" "" t.text?
    credentialsPath := ← fieldOr? fields "credentialsPath" defaultCredentialsPath t.text? }

/-- Warming as a node describes it. -/
def Warming.ofNode? (t : Tree) (n : Node) : Option Warming := do
  let fields ← t.fields? ["enabled", "headers"] n
  some {
    enabled := ← fieldOr? fields "enabled" false t.bool?
    headers := ← fieldOr? fields "headers" .empty fun n => (t.pairs? n).map NameTable.ofList }

/-! ### Whole configurations -/

/-- The configuration that a document describes. -/
def ofTree? (t : Yaml.Tree) : Option Config := do
  let fields ← t.fields? ["server", "logs", "akamai", "postPurgeRequest"] t.root
  some {
    listener := ← Yaml.Tree.fieldOr? fields "server" {} (Listener.ofNode? t)
    logs := ← Yaml.Tree.fieldOr? fields "logs" {} (Logs.ofNode? t)
    api := ← Yaml.Tree.fieldOr? fields "akamai" {} (Api.ofNode? t)
    warming := ← Yaml.Tree.fieldOr? fields "postPurgeRequest" {} (Warming.ofNode? t) }

/-- The configuration that a text writes, if it is a valid one. -/
def ofYaml (text : String) : Except LoadError Config :=
  match (Yaml.Tree.ofText? text).bind ofTree? with
  | none => .error .yaml
  | some c =>
    match c.validate with
    | .ok () => .ok c
    | .error fault => .error (.invalid fault)

/-- The configuration in a file whose content is given, if there is a file, with references to the
environment replaced. -/
def ofFile (lookup : Environment.Lookup) (content : Option (List UInt8)) :
    Except LoadError Config :=
  match content with
  | none => .error (.file .notFound)
  | some bytes =>
    match Utf8.text? bytes with
    | none => .error (.file .invalidData)
    | some text => ofYaml (Environment.expand lookup text)

end Config

end PurgeGateway
