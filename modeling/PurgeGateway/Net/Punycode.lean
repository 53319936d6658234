/-!
# Punycode

A label of a domain name that is not ASCII is written with ASCII letters and digits: its ASCII
characters first, then for each other character how far it lies behind the one before it, counted
in character numbers and places together. The counts are written with as few digits as their
expected size allows, which is adapted as they go.

## Main definitions

* `Net.Punycode.encode`: the ASCII form of a label.
* `Net.Punycode.decode?`: the label with an ASCII form.
-/

namespace PurgeGateway.Net.Punycode

/-- The number of digits. -/
def base : Nat := 36

/-- The digit with a value below `base`. -/
def digit (n : Nat) : Char :=
  if n < 26 then Char.ofNat ('a'.toNat + n) else Char.ofNat ('0'.toNat + (n - 26))

/-- The value of a digit. -/
def digitValue? (c : Char) : Option Nat :=
  if 'a' ≤ c ∧ c ≤ 'z' then some (c.toNat - 'a'.toNat)
  else if 'A' ≤ c ∧ c ≤ 'Z' then some (c.toNat - 'A'.toNat)
  else if '0' ≤ c ∧ c ≤ '9' then some (c.toNat - '0'.toNat + 26)
  else none

/-- Digits below this value end a count; `place` is the place of the digit times `base`. -/
def threshold (bias place : Nat) : Nat :=
  max 1 (min 26 (place - bias))

/-! ### Adapting -/

/-- The number of halvings by 35 until a count is at most 455, times `base`, and what is left. -/
def shrink : Nat → Nat → Nat → Nat × Nat
  | 0, delta, k => (delta, k)
  | fuel + 1, delta, k => if 455 < delta then shrink fuel (delta / 35) (k + base) else (delta, k)

/-- The bias for the next count behind a count. -/
def adapt (delta count : Nat) (first : Bool) : Nat :=
  let delta := if first then delta / 700 else delta / 2
  let (delta, k) := shrink delta (delta + delta / count) 0
  k + base * delta / (delta + 38)

/-! ### Encoding -/

/-- The digits of a count. -/
def countDigits (bias : Nat) : Nat → Nat → Nat → List Char
  | 0, _, q => [digit q]
  | fuel + 1, place, q =>
    let t := threshold bias place
    if q < t then [digit q]
    else
      digit (t + (q - t) % (base - t)) ::
        countDigits bias fuel (place + base) ((q - t) / (base - t))

/-- What is known between two characters: the digits so far, the running count, the bias, and how
many characters are written. -/
structure State where
  digits : List Char := []
  delta : Nat := 0
  bias : Nat := 72
  written : Nat

/-- One character of the label is passed while the characters numbered `n` are written. -/
def State.pass (basic n : Nat) (s : State) (c : Char) : State :=
  if c.toNat < n then { s with delta := s.delta + 1 }
  else if c.toNat = n then
    { digits := s.digits ++ countDigits s.bias s.delta base s.delta
      delta := 0
      bias := adapt s.delta (s.written + 1) (s.written == basic)
      written := s.written + 1 }
  else s

/-- All characters numbered at least `n` are written. -/
def encodeFrom (basic : Nat) (label : List Char) : Nat → Nat → State → List Char
  | 0, _, s => s.digits
  | fuel + 1, n, s =>
    match (label.filter (n ≤ ·.toNat)).map Char.toNat with
    | [] => s.digits
    | m :: more =>
      let next := more.foldl min m
      let s := { s with delta := s.delta + (next - n) * (s.written + 1) }
      let s := label.foldl (State.pass basic next) s
      encodeFrom basic label fuel (next + 1) { s with delta := s.delta + 1 }

/-- The ASCII form of a label. -/
def encode (label : List Char) : List Char :=
  let basic := label.filter (·.toNat < 0x80)
  let start := if basic.isEmpty then [] else basic ++ ['-']
  start ++ encodeFrom basic.length label label.length 128 { written := basic.length }

/-! ### Decoding -/

/-- The count at the front of digits and the rest; `weight` is what the next digit counts. -/
def readCount? (bias : Nat) : Nat → Nat → Nat → List Char → Option (Nat × List Char)
  | _, _, _, [] => none
  | place, weight, sum, c :: rest =>
    (digitValue? c).bind fun d =>
      let sum := sum + d * weight
      let t := threshold bias place
      if d < t then some (sum, rest)
      else readCount? bias (place + base) (weight * (base - t)) sum rest

/-- The characters that digits put into those so far; `n` and `i` are the number and the place
reached. -/
def decodeFrom? : Nat → Nat → Nat → Nat → List Char → List Char → Option (List Char)
  | 0, _, _, _, _, _ => none
  | fuel + 1, n, i, bias, done, digits =>
    if digits.isEmpty then some done
    else
      (readCount? bias base 1 0 digits).bind fun (count, rest) =>
        let size := done.length + 1
        let n := n + (i + count) / size
        let place := (i + count) % size
        if n.isValidChar then
          decodeFrom? fuel n (place + 1) (adapt count size (i == 0))
            (done.take place ++ Char.ofNat n :: done.drop place) rest
        else none

/-- The label with an ASCII form. -/
def decode? (form : List Char) : Option (List Char) :=
  let tail := (form.reverse.takeWhile (· != '-')).reverse
  let basic := (form.take (form.length - tail.length)).dropLast
  decodeFrom? (form.length + 1) 128 0 72 basic tail

end PurgeGateway.Net.Punycode
