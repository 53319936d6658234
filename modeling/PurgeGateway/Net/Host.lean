import PurgeGateway.Net.Address
import PurgeGateway.Net.Name.Label
import PurgeGateway.Net.Percent

/-!
# Hosts of URLs

The host of a web address is a domain name or an internet address. A name that ends in a number is
an address of the fourth version, whose numbers may also be octal or hexadecimal and may be fewer
than four. The host of any other URL is taken as it is.

## Main definitions

* `Net.Host`: a host.
* `Net.Host.ofWeb?`, `Net.Host.ofOther?`: the host that a text writes.
* `Net.Host.text`: a host as it is written in a URL.
-/

namespace PurgeGateway.Net

/-- The host of a URL. -/
inductive Host
  | domain (name : String)
  | v4 (address : Ipv4)
  | v6 (address : Ipv6)
  deriving DecidableEq, Repr, Inhabited

/-- A host as it is written in a URL. -/
def Host.text : Host → String
  | .domain name => name
  | .v4 a => a.text
  | .v6 a => "[" ++ a.compressed ++ "]"

/-! ### Numbers at the end of a name -/

/-- The number that a part of a name writes: decimal, octal behind a zero, or hexadecimal behind
`0x`. -/
def addressNumber? (part : List Char) : Option Nat :=
  let digits (base : Nat) (ds : List Char) : Option Nat :=
    if ds.isEmpty then some 0 else Ascii.readBase? base ds
  match part with
  | [] => none
  | '0' :: 'x' :: ds => digits 16 ds
  | '0' :: 'X' :: ds => digits 16 ds
  | '0' :: d :: ds => digits 8 (d :: ds)
  | ds => digits 10 ds

/-- The parts of a name, without an empty one at the end. -/
def nameParts (name : List Char) : List (List Char) :=
  let parts := name.splitOn '.'
  if parts.getLast? == some [] then parts.dropLast else parts

/-- The name ends in a number. -/
def endsInNumber (name : List Char) : Bool :=
  match (nameParts name).getLast? with
  | some part => (!part.isEmpty && part.all Char.isDigit) || (addressNumber? part).isSome
  | none => false

/-- The address that a name ending in a number writes: the last number fills the bytes that the
others leave. -/
def nameAddress? (name : List Char) : Option Ipv4 := do
  let parts := nameParts name
  if parts.length > 4 then none
  else
    let numbers ← parts.mapM addressNumber?
    let last ← numbers.getLast?
    let others := numbers.dropLast
    if last ≥ Nat.pow 256 (4 - others.length) || others.any (· > 255) then none
    else
      let high := (others ++ List.replicate (4 - others.length) 0).foldl (fun n b => n * 256 + b) 0
      let n := high + last
      some ⟨UInt8.ofNat (n >>> 24), UInt8.ofNat (n >>> 16), UInt8.ofNat (n >>> 8),
        UInt8.ofNat n⟩

/-! ### Hosts -/

/-- The address of the sixth version between brackets. The outer `none` is a text that does not
start with a bracket. -/
def bracketed? (cs : List Char) : Option (Option Host) :=
  match cs with
  | '[' :: inner =>
    match inner.getLast?, takeIpv6? inner.dropLast with
    | some ']', some (a, []) => some (some (.v6 a))
    | _, _ => some none
  | _ => none

/-- The host of a web address that characters write. -/
def Host.ofWeb? (cs : List Char) : Option Host :=
  match bracketed? cs with
  | some host => host
  | none =>
    ((Utf8.decode? (percentDecode cs)).bind Name.ascii?).bind fun name =>
      if name.isEmpty then none
      else if endsInNumber name then (nameAddress? name).map .v4
      else some (.domain (String.ofList name))

/-- The character may not stand in the host of a URL that is no web address. -/
def deniedInHost (c : Char) : Bool :=
  ['\x00', '\t', '\n', '\r', ' ', '#', '/', ':', '<', '>', '?', '@', '[', '\\', ']', '^',
    '|'].contains c

/-- The host of any other URL that characters write. -/
def Host.ofOther? (cs : List Char) : Option Host :=
  match bracketed? cs with
  | some host => host
  | none =>
    if cs.any deniedInHost then none
    else some (.domain (String.ofList (percentEncode isControl cs)))

end PurgeGateway.Net
