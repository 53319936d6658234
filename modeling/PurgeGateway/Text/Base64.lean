import PurgeGateway.Text.Ascii

/-!
# Base64

Three bytes are written as four symbols of six bits. The standard alphabet is written with `=` up
to a full group; the alphabet for tokens is written without, and is read strictly: every symbol
belongs to the alphabet, no symbol stands alone in the last group, and the bits that the last
group does not need are zero. So a byte string has one written form.

## Main definitions

* `standard`, `urlSafe`: the two alphabets.
* `encodePadded`: standard symbols, filled up with `=`.
* `encodeToken`, `decodeToken`: token symbols without filling, written and read.
* `DecodeError`: why a token is refused, with the place.
-/

namespace PurgeGateway.Base64

/-! ### Alphabets -/

/-- The symbols of an alphabet, the one for `0` first. -/
abbrev Alphabet := List Char

/-- The 62 letters and digits that both alphabets begin with. -/
def alphanumeric : Alphabet :=
  "ABCDEFGHIJKLMNOPQRSTUVWXYZabcdefghijklmnopqrstuvwxyz0123456789".toList

/-- The alphabet with `+` and `/`. -/
def standard : Alphabet :=
  alphanumeric ++ ['+', '/']

/-- The alphabet with `-` and `_`, for tokens and addresses. -/
def urlSafe : Alphabet :=
  alphanumeric ++ ['-', '_']

/-- The symbol for a number below 64. -/
def symbol (alphabet : Alphabet) (n : Nat) : Char :=
  alphabet.getD n 'A'

/-- The number that a byte stands for in the token alphabet. -/
def sextet? (b : UInt8) : Option Nat :=
  if Ascii.byte 'A' ≤ b ∧ b ≤ Ascii.byte 'Z' then some (b.toNat - 65)
  else if Ascii.byte 'a' ≤ b ∧ b ≤ Ascii.byte 'z' then some (b.toNat - 97 + 26)
  else if Ascii.isDigit b then some (b.toNat - 48 + 52)
  else if b = Ascii.byte '-' then some 62
  else if b = Ascii.byte '_' then some 63
  else none

/-! ### Writing -/

/-- The symbols of a byte string, with `filling` for each symbol that a full last group lacks. -/
def encodeWith (alphabet : Alphabet) (filling : List Char) : List UInt8 → List Char
  | [] => []
  | [a] =>
    let n := a.toNat * 16
    [symbol alphabet (n / 64), symbol alphabet (n % 64)] ++ filling ++ filling
  | [a, b] =>
    let n := (a.toNat * 256 + b.toNat) * 4
    [symbol alphabet (n / 4096), symbol alphabet (n / 64 % 64), symbol alphabet (n % 64)] ++
      filling
  | a :: b :: c :: rest =>
    let n := (a.toNat * 256 + b.toNat) * 256 + c.toNat
    symbol alphabet (n / 262144) :: symbol alphabet (n / 4096 % 64) ::
      symbol alphabet (n / 64 % 64) :: symbol alphabet (n % 64) ::
      encodeWith alphabet filling rest

/-- The standard form, in groups of four filled up with `=`. -/
def encodePadded (bytes : List UInt8) : String :=
  String.ofList (encodeWith standard ['='] bytes)

/-- The form used in tokens, without filling. -/
def encodeToken (bytes : List UInt8) : List Char :=
  encodeWith urlSafe [] bytes

/-! ### Reading a token -/

/-- Why a text is not the written form of a byte string. Offsets count bytes. -/
inductive DecodeError
  | invalidSymbol (byte : UInt8) (offset : Nat)
  | invalidLength (symbols : Nat)
  | invalidLastSymbol (byte : UInt8) (offset : Nat)
  | invalidPadding
  deriving DecidableEq, Repr

/-- The wording of a refusal. -/
def DecodeError.message : DecodeError → String
  | .invalidSymbol b i =>
    "Invalid symbol " ++ Ascii.decimal b.toNat ++ ", offset " ++ Ascii.decimal i ++ "."
  | .invalidLength n => "Invalid input length: " ++ Ascii.decimal n
  | .invalidLastSymbol b i =>
    "Invalid last symbol " ++ Ascii.decimal b.toNat ++ ", offset " ++ Ascii.decimal i ++ "."
  | .invalidPadding => "Invalid padding"

/-- The byte that fills up a group in the standard form. -/
def equalsSign : UInt8 :=
  Ascii.byte '='

/-- The numbers of a run of symbols that starts at `offset`. -/
def sextets (offset : Nat) : List UInt8 → Except DecodeError (List Nat)
  | [] => .ok []
  | b :: rest =>
    match sextet? b with
    | none => .error (.invalidSymbol b offset)
    | some n => (sextets (offset + 1) rest).map (n :: ·)

/-- The last group, read from left to right: its symbols' numbers, and the offset of its first
`=` if it has one. A `=` may stand at the third place at the earliest, and only `=` behind it. -/
def lastGroup (offset : Nat) (sofar : List Nat) (equals : Option Nat) :
    List UInt8 → Except DecodeError (List Nat × Option Nat)
  | [] => .ok (sofar, equals)
  | b :: rest =>
    match equals with
    | some first =>
      if b = equalsSign then lastGroup (offset + 1) sofar equals rest
      else .error (.invalidSymbol equalsSign first)
    | none =>
      if b = equalsSign then
        if sofar.length < 2 then .error (.invalidSymbol b offset)
        else lastGroup (offset + 1) sofar (some offset) rest
      else
        match sextet? b with
        | none => .error (.invalidSymbol b offset)
        | some n => lastGroup (offset + 1) (sofar ++ [n]) none rest

/-- The bytes of full groups of four numbers. -/
def fullGroups : List Nat → List UInt8
  | a :: b :: c :: d :: rest =>
    let n := ((a * 64 + b) * 64 + c) * 64 + d
    UInt8.ofNat (n / 65536) :: UInt8.ofNat (n / 256) :: UInt8.ofNat n :: fullGroups rest
  | _ => []

/-- The bytes of the last group, and the bits it leaves over. -/
def lastBytes : List Nat → List UInt8 × Nat
  | [a, b] => ([UInt8.ofNat ((a * 64 + b) / 16)], b % 16)
  | [a, b, c] =>
    let n := ((a * 64 + b) * 64 + c) / 4
    ([UInt8.ofNat (n / 256), UInt8.ofNat n], c % 4)
  | ns => (fullGroups ns, 0)

/-- Reads the form that `encodeToken` writes and refuses every other text. -/
def decodeToken (text : List UInt8) : Except DecodeError (List UInt8) := do
  let length := text.length
  match text.getLast? with
  | none => .ok []
  | some last =>
    if length % 4 = 1 ∧ (sextet? last).isNone ∧ last ≠ equalsSign then
      .error (.invalidSymbol last (length - 1))
    else
      let start := (length - 1) / 4 * 4
      let front ← sextets 0 (text.take start)
      let (group, equals) ← lastGroup start [] none (text.drop start)
      if group.length < 2 then .error (.invalidLength (start + group.length))
      else if equals.isSome then .error .invalidPadding
      else
        let (tail, leftover) := lastBytes group
        if leftover ≠ 0 then
          let place := start + group.length - 1
          .error (.invalidLastSymbol (text.getD place 0) place)
        else .ok (fullGroups front ++ tail)

end PurgeGateway.Base64
