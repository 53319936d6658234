import PurgeGateway.Json.Reader
import PurgeGateway.Text.Base64
import PurgeGateway.Text.Blank

/-!
# Claims of a token

A compact web token has three parts between two dots. The middle one is a JSON object in base64;
its members are the claims. The signature is not looked at, so a claim read here is a note for the
log and no proof of anything.

## Main definitions

* `Jwt.claim`: a claim that is a text.
* `Jwt.ClaimError`: why a token could not be read.
-/

namespace PurgeGateway.Jwt

/-- Why a token could not be read. -/
inductive ClaimError
  | segments (found : Nat)
  | decode (cause : Base64.DecodeError)
  | parse
  deriving DecidableEq, Repr

/-- The parts of a token. -/
def parts (token : String) : List (List Char) :=
  token.toList.splitOn '.'

/-- The symbols of the middle part: no blanks at its ends, no spaces and line ends within. -/
def symbols (middle : List Char) : List UInt8 :=
  Utf8.encode ((Text.trimChars middle).filter fun c => c != '\n' && c != '\r' && c != ' ')

/-- The claims of a token. -/
def claims (token : String) : Except ClaimError (List (String × Json)) :=
  match parts token with
  | [_, middle, _] =>
    match Base64.decodeToken (symbols middle) with
    | .error cause => .error (.decode cause)
    | .ok bytes =>
      match Json.parse? bytes with
      | some (.object members) => .ok members
      | _ => .error .parse
  | found => .error (.segments found.length)

/-- The claim of a token under a name. A claim that is absent or no text is `none`. -/
def claim (token name : String) : Except ClaimError (Option String) :=
  (claims token).map fun (members : List (String × Json)) =>
    match lastMember? members name with
    | some (Json.text s) => some s
    | _ => none

end PurgeGateway.Jwt
