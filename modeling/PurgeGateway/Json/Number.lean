import PurgeGateway.Json.Basic

/-!
# JSON numbers, read

A number without point and exponent is an integer as long as 64 bits hold it; every other number
becomes a double. The first digits are collected into 64 bits, the power of ten of the digits
left over is kept beside them, and the double is their rounded product or quotient. A number past
the largest double is refused.

## Main definitions

* `Json.Number.spelled`: the grammar of a number, split into its parts.
* `Json.Number.value?`: the value of the parts.
* `Json.Number.read?`: a number at the front of a text.
-/

namespace PurgeGateway.Json.Number

/-! ### Grammar -/

/-- The parts of a number as spelled: its sign, the digits before and after the point, and the
sign and the digits of the exponent. -/
structure Spelling where
  negative : Bool
  whole : List UInt8
  fraction : Option (List UInt8)
  power : Option (Bool × List UInt8)

/-- The digits at the front of a text, and the rest. -/
def digits (bs : List UInt8) : List UInt8 × List UInt8 :=
  bs.span Ascii.isDigit

/-- The part behind the point, if there is one: at least one digit. -/
def fraction? : List UInt8 → Option (Option (List UInt8) × List UInt8)
  | b :: rest =>
    if b = Ascii.byte '.' then
      let (ds, rest) := digits rest
      if ds.isEmpty then none else some (some ds, rest)
    else some (none, b :: rest)
  | [] => some (none, [])

/-- The exponent, if there is one: a sign or none, and at least one digit. -/
def power? : List UInt8 → Option (Option (Bool × List UInt8) × List UInt8)
  | b :: rest =>
    if b = Ascii.byte 'e' ∨ b = Ascii.byte 'E' then
      let (negative, rest) :=
        match rest with
        | s :: more =>
          if s = Ascii.byte '+' then (false, more)
          else if s = Ascii.byte '-' then (true, more)
          else (false, rest)
        | [] => (false, [])
      let (ds, rest) := digits rest
      if ds.isEmpty then none else some (some (negative, ds), rest)
    else some (none, b :: rest)
  | [] => some (none, [])

/-- The number at the front of a text by the grammar alone, and the rest. A zero in front of
another digit is refused. -/
def spelled (bs : List UInt8) : Option (Spelling × List UInt8) := do
  let (negative, bs) :=
    match bs with
    | b :: rest => if b = Ascii.byte '-' then (true, rest) else (false, b :: rest)
    | [] => (false, [])
  let (whole, bs) := digits bs
  if whole.isEmpty ∨ (whole.length > 1 ∧ whole.head? = some (Ascii.byte '0')) then none
  else
    let (fraction, bs) ← fraction? bs
    let (power, bs) ← power? bs
    some (⟨negative, whole, fraction, power⟩, bs)

/-! ### Value -/

/-- Digits put behind `n` as long as the result is at most `limit`, and the digits left over. -/
def collect (limit n : Nat) : List UInt8 → Nat × List UInt8
  | [] => (n, [])
  | d :: rest =>
    let m := n * 10 + Ascii.digitValue d
    if m > limit then (n, d :: rest) else collect limit m rest

/-- The largest number of 64 bits. -/
def maxNatural : Nat := 0xffffffffffffffff

/-- The rounded value of `n * 10 ^ e`, or `none` past the largest double. A power out of the range
of doubles is divided off in steps. -/
def scale? (n : Nat) (e : Int) : Option Binary64 :=
  let rec go (fuel : Nat) (x : Binary64) (e : Int) : Option Binary64 :=
    if e.natAbs ≤ 308 then
      if 0 ≤ e then x.mul? (Binary64.powerOfTen e.natAbs)
      else x.div? (Binary64.powerOfTen e.natAbs)
    else if x.isZero then some x
    else if 0 ≤ e then none
    else
      match fuel with
      | 0 => some Binary64.zero
      | fuel + 1 => (x.div? (Binary64.powerOfTen 308)).bind fun y => go fuel y (e + 308)
  go 4 (Binary64.ofNat n) e

/-- The largest exponent that is not simply taken as endless. -/
def maxPower : Nat := 0x7fffffff

/-- The double of collected digits `n`, the power `e` of the last of them, and an exponent. -/
def withPower? (n : Nat) (e : Int) (power : Option (Bool × List UInt8)) : Option Binary64 :=
  match power with
  | none => scale? n e
  | some (negative, ds) =>
    let (p, left) := collect maxPower 0 ds
    if left.isEmpty then scale? n (if negative then e - p else e + p)
    else if n ≠ 0 ∧ !negative then none
    else some Binary64.zero

/-- The value of a spelled number, or `none` past the largest double. -/
def value? (s : Spelling) : Option Number :=
  let (n, left) := collect maxNatural 0 s.whole
  let real (x : Option Binary64) : Option Number :=
    x.map fun x => .real (if s.negative then x.neg else x)
  match s.fraction, s.power with
  | none, none =>
    if !left.isEmpty then real (scale? n left.length)
    else if !s.negative then some (.integer n)
    else if 0 < n ∧ n ≤ 0x8000000000000000 then some (.integer (-n))
    else real (some (Binary64.ofNat n))
  | none, power => real (withPower? n left.length power)
  | some ds, power =>
    let (m, rest) := collect maxNatural n ds
    real (withPower? m (left.length - (ds.length - rest.length : Nat)) power)

/-- The number at the front of a text, and the rest. -/
def read? (bs : List UInt8) : Option (Number × List UInt8) := do
  let (s, rest) ← spelled bs
  let n ← value? s
  some (n, rest)

end PurgeGateway.Json.Number
