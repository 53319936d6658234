import PurgeGateway.Text.Ascii

/-!
# Internet addresses

An address of the fourth version is four numbers, one of the sixth version eight groups. A socket
address adds a port, and for the sixth version a scope. The longest run of zero groups is written
as `::`.

## Main definitions

* `Net.Ipv4`, `Net.Ipv6`, `Net.SocketAddress`: the addresses.
* `Net.Ipv6.compressed`: the groups of an address with the longest run of zeros left out.
* `Net.SocketAddress.ofText?`, `Net.SocketAddress.text`: a socket address read and written.
-/

namespace PurgeGateway.Net

/-- An address of the fourth version. -/
structure Ipv4 where
  first : UInt8
  second : UInt8
  third : UInt8
  fourth : UInt8
  deriving DecidableEq, Repr, Inhabited

/-- An address of the sixth version: its eight groups. -/
structure Ipv6 where
  groups : List UInt16
  deriving DecidableEq, Repr, Inhabited

/-- An address with a port. -/
inductive SocketAddress
  | v4 (address : Ipv4) (port : Nat)
  | v6 (address : Ipv6) (scope : Nat) (port : Nat)
  deriving DecidableEq, Repr, Inhabited

/-! ### Writing -/

/-- The four numbers with dots between them. -/
def Ipv4.text (a : Ipv4) : String :=
  ".".intercalate ([a.first, a.second, a.third, a.fourth].map fun b => Ascii.decimal b.toNat)

/-- The two groups that hold an address of the fourth version. -/
def Ipv4.groups (a : Ipv4) : List UInt16 :=
  [a.first.toUInt16 * 256 + a.second.toUInt16, a.third.toUInt16 * 256 + a.fourth.toUInt16]

/-- The address of the fourth version in two groups. -/
def Ipv4.ofGroups (high low : UInt16) : Ipv4 :=
  ⟨(high / 256).toUInt8, high.toUInt8, (low / 256).toUInt8, low.toUInt8⟩

/-- The start and the length of the longest run of zeros in groups, the first of equal ones;
`index` counts the groups seen, `run` the zeros just before. -/
def longestZeros (index run : Nat) (best : Nat × Nat) : List UInt16 → Nat × Nat
  | [] => best
  | g :: rest =>
    if g = 0 then
      let run := run + 1
      longestZeros (index + 1) run (if run > best.2 then (index + 1 - run, run) else best) rest
    else longestZeros (index + 1) 0 best rest

/-- Groups in hexadecimal with colons between them. -/
def groupsText (groups : List UInt16) : String :=
  ":".intercalate (groups.map fun g => Ascii.hexadecimal g.toNat)

/-- The groups with the longest run of two zeros or more written as `::`. -/
def Ipv6.compressed (a : Ipv6) : String :=
  let (start, length) := longestZeros 0 0 (0, 0) a.groups
  if length > 1 then
    groupsText (a.groups.take start) ++ "::" ++ groupsText (a.groups.drop (start + length))
  else groupsText a.groups

/-- The address of the fourth version that the address stands for. -/
def Ipv6.mapped? (a : Ipv6) : Option Ipv4 :=
  match a.groups with
  | [0, 0, 0, 0, 0, 0xffff, high, low] => some (Ipv4.ofGroups high low)
  | _ => none

/-- The text of an address, in which one of the fourth version stays readable. -/
def Ipv6.text (a : Ipv6) : String :=
  match a.mapped? with
  | some v4 => "::ffff:" ++ v4.text
  | none => a.compressed

/-- The text of a socket address. -/
def SocketAddress.text : SocketAddress → String
  | .v4 a port => a.text ++ ":" ++ Ascii.decimal port
  | .v6 a scope port =>
    let host := if scope = 0 then a.text else a.text ++ "%" ++ Ascii.decimal scope
    "[" ++ host ++ "]:" ++ Ascii.decimal port

/-! ### Reading

A reader takes something off the front of a text and gives back the rest. -/

/-- A character that must stand at the front. -/
def takeChar? (c : Char) : List Char → Option (List Char)
  | d :: rest => if d = c then some rest else none
  | [] => none

/-- The character is a digit of the base. -/
def isDigitOf (base : Nat) (c : Char) : Bool :=
  match Ascii.hexDigit? c with
  | some d => d < base
  | none => false

/-- A number below `limit` at the front, all of its digits taken. -/
def takeNumber? (base limit : Nat) (cs : List Char) : Option (Nat × List Char) :=
  let digits := cs.takeWhile (isDigitOf base)
  (Ascii.readBase? base digits).bind fun n =>
    if n < limit then some (n, cs.dropWhile (isDigitOf base)) else none

/-- A number of the fourth version: at most three digits, no zero in front of another digit. -/
def takeByte? (cs : List Char) : Option (UInt8 × List Char) :=
  let digits := cs.takeWhile (isDigitOf 10)
  if digits.length > 3 ∨ (digits.length > 1 ∧ digits.head? = some '0') then none
  else (takeNumber? 10 256 cs).map fun (n, rest) => (UInt8.ofNat n, rest)

/-- An address of the fourth version at the front. -/
def takeIpv4? (cs : List Char) : Option (Ipv4 × List Char) := do
  let (first, cs) ← takeByte? cs
  let (second, cs) ← takeByte? (← takeChar? '.' cs)
  let (third, cs) ← takeByte? (← takeChar? '.' cs)
  let (fourth, cs) ← takeByte? (← takeChar? '.' cs)
  some (⟨first, second, third, fourth⟩, cs)

/-- A group of at most four digits at the front. -/
def takeGroup? (cs : List Char) : Option (UInt16 × List Char) :=
  if (cs.takeWhile (isDigitOf 16)).length > 4 then none
  else (takeNumber? 16 65536 cs).map fun (n, rest) => (UInt16.ofNat n, rest)

/-- A colon, unless the group is the first. -/
def takeColon? (isFirst : Bool) (cs : List Char) : Option (List Char) :=
  if isFirst then some cs else takeChar? ':' cs

/-- At most `room` groups at the front with colons between them, the last two perhaps written as
an address of the fourth version, which is told. -/
def takeGroups (isFirst : Bool) : Nat → List Char → List UInt16 × Bool × List Char
  | 0, cs => ([], false, cs)
  | room + 1, cs =>
    match (if room = 0 then none else (takeColon? isFirst cs).bind takeIpv4?) with
    | some (a, rest) => (a.groups, true, rest)
    | none =>
      match (takeColon? isFirst cs).bind takeGroup? with
      | some (g, rest) =>
        let (more, embedded, rest) := takeGroups false room rest
        (g :: more, embedded, rest)
      | none => ([], false, cs)

/-- An address of the sixth version at the front. -/
def takeIpv6? (cs : List Char) : Option (Ipv6 × List Char) :=
  let (head, embedded, rest) := takeGroups true 8 cs
  if head.length = 8 then some (⟨head⟩, rest)
  else if embedded then none
  else
    ((takeChar? ':' rest).bind (takeChar? ':')).map fun rest =>
      let (tail, _, rest) := takeGroups true (7 - head.length) rest
      (⟨head ++ List.replicate (8 - head.length - tail.length) 0 ++ tail⟩, rest)

/-- The port behind its colon at the front. -/
def takePort? (cs : List Char) : Option (Nat × List Char) :=
  (takeChar? ':' cs).bind (takeNumber? 10 0x10000)

/-- The scope behind its percent sign at the front; without one it is zero. -/
def takeScope? (cs : List Char) : Option (Nat × List Char) :=
  match takeChar? '%' cs with
  | some rest => takeNumber? 10 0x100000000 rest
  | none => some (0, cs)

/-- A socket address of the fourth version at the front. -/
def takeSocketV4? (cs : List Char) : Option (SocketAddress × List Char) := do
  let (a, cs) ← takeIpv4? cs
  let (port, cs) ← takePort? cs
  some (.v4 a port, cs)

/-- A socket address of the sixth version at the front. -/
def takeSocketV6? (cs : List Char) : Option (SocketAddress × List Char) := do
  let (a, cs) ← takeIpv6? (← takeChar? '[' cs)
  let (scope, cs) ← takeScope? cs
  let (port, cs) ← takePort? (← takeChar? ']' cs)
  some (.v6 a scope port, cs)

/-- The socket address that a text writes. -/
def SocketAddress.ofText? (s : String) : Option SocketAddress :=
  match takeSocketV4? s.toList <|> takeSocketV6? s.toList with
  | some (a, []) => some a
  | _ => none

end PurgeGateway.Net
