import PurgeGateway.Credentials.Basic
import PurgeGateway.Credentials.FileTree
import PurgeGateway.Credentials.Nested
import PurgeGateway.Text.Utf8

/-!
# The credentials file

Credentials are kept in a file of settings, under `default` at the top of the table that they make:
in a section of that name, or where ways lead that start with it. The file is written once, when the
gateway starts and finds none; it is read again for every signature, so that a new file counts at
once.

## Main definitions

* `Credentials.edgerc`: the text of the file.
* `Credentials.ofEdgerc?`: the credentials that a text holds.
* `Credentials.load`: complete credentials from the content of a file.
* `Credentials.provisioning`: the file written unless there is one, and what is left if that fails.
* `Credentials.provision`: the same for those who go on only if it does not fail.
-/

namespace PurgeGateway

namespace Credentials

/-! ### Writing -/

/-- The text of the file. -/
def edgerc (c : Credentials) : String :=
  "[default]\nhost = " ++ c.host ++ "\nclient_secret = " ++ c.clientSecret ++
    "\nclient_token = " ++ c.clientToken ++ "\naccess_token = " ++ c.accessToken ++ "\n"

/-! ### Reading -/

/-- The name under which the credentials stand. -/
def sectionName : String := "default"

/-- The text of a setting; a setting that is not there has an empty one. Anything but a text is an
error. -/
def textOf? : Option Nested.Value → Option String
  | none => some ""
  | some (.text s) => some s
  | some _ => none

/-- The credentials of which each setting is found by its name or by its place among the others. -/
def ofSettings? (found : String → Nat → Option Nested.Value) : Option Credentials := do
  let host ← textOf? (found "host" 0)
  let clientSecret ← textOf? (found "client_secret" 1)
  let clientToken ← textOf? (found "client_token" 2)
  let accessToken ← textOf? (found "access_token" 3)
  some { host, clientSecret, clientToken, accessToken }

/-- The credentials that a table holds under their names, or a list in their order. -/
def ofValue? : Nested.Value → Option Credentials
  | .table members => ofSettings? fun name _ => members.lookup name
  | .list items => ofSettings? fun _ n => items[n]?
  | _ => none

/-- The credentials that a text holds, if its entries are put down in an order. -/
def ofEdgerc? (text : String) (order : Nested.Order) : Option Credentials := do
  let sections ← Ini.sections? text
  let value ← (Nested.build order sections).members.lookup sectionName
  ofValue? value

/-! ### Completeness -/

/-- A secret that credentials must have. -/
inductive Secret
  | clientSecret
  | clientToken
  | accessToken
  deriving DecidableEq, Repr, Inhabited

/-- The name of a secret in the file. -/
def Secret.name : Secret → String
  | .clientSecret => "client_secret"
  | .clientToken => "client_token"
  | .accessToken => "access_token"

/-- The secret of credentials. -/
def Secret.get : Secret → Credentials → String
  | .clientSecret, c => c.clientSecret
  | .clientToken, c => c.clientToken
  | .accessToken, c => c.accessToken

/-- The first secret that is blank. -/
def missing? (c : Credentials) : Option Secret :=
  [Secret.clientSecret, .clientToken, .accessToken].find? fun s => Text.blankText (s.get c)

/-- Why no complete credentials are had. -/
inductive LoadError
  | unreadable
  | missing (secret : Secret)
  deriving DecidableEq, Repr

/-- Complete credentials from the content of a file, if there is a file. -/
def load (content : Option (List UInt8)) (order : Nested.Order := []) :
    Except LoadError Credentials :=
  match (content.bind Utf8.text?).bind (ofEdgerc? · order) with
  | none => .error .unreadable
  | some c =>
    match c.missing? with
    | some secret => .error (.missing secret)
    | none => .ok c

/-! ### Provisioning -/

/-- The file written where a path leads, unless a look finds something there. The tree is the one
that was come to, also if a step fails. -/
def provisioning (refused : FileTree.Refusals) (t : FileTree) (p : FilePath) (c : Credentials) :
    FileTree × Except FileError Bool :=
  if t.contains p then (t, .ok false)
  else
    match t.makeDirs refused (FileTree.parent p).reverse with
    | (t, .error e) => (t, .error e)
    | (t, .ok ()) =>
      let (t, written) := t.writing refused p (Utf8.bytes c.edgerc)
      (t, written.map fun () => true)

/-- The tree in which the file holds the credentials, and whether it was written. -/
def provision (t : FileTree) (p : FilePath) (c : Credentials)
    (refused : FileTree.Refusals := {}) : Except FileError (FileTree × Bool) :=
  FileTree.settled (provisioning refused t p c)

/-- What is reported about provisioning. -/
def provisionReport (written : Bool) : String :=
  if written then "credentials file created" else "credentials file already exists"

end Credentials

end PurgeGateway
