import PurgeGateway.Text.Ascii

/-!
# Binary numbers of 64 bits and their shortest decimal text

A finite double is a sign and `mantissa * 2 ^ exponent`. Arithmetic rounds the exact result to the
nearest double, a tie to the even mantissa; all of it is done on natural numbers. The decimal text
has the fewest digits that round back to the same double, and of those the nearest ones.

## Main definitions

* `Binary64`: a finite double.
* `Binary64.ofRatio?`: the double nearest to a quotient, unless it overflows.
* `Binary64.mul?`, `Binary64.div?`: rounded product and quotient.
* `Binary64.shortest`: the digits of the shortest text and the place of its point.
* `Binary64.render`: the text itself.
-/

namespace PurgeGateway

/-- A finite double: its sign, and `mantissa * 2 ^ exponent`. The mantissa has 53 bits unless the
exponent is the smallest one. -/
structure Binary64 where
  negative : Bool
  mantissa : Nat
  exponent : Int
  deriving DecidableEq, Repr, Inhabited

namespace Binary64

/-- The mantissas lie below this number, which has 54 bits. -/
def mantissaLimit : Nat := 0x20000000000000

/-- The least mantissa of 53 bits. -/
def leastFull : Nat := 0x10000000000000

/-- The smallest exponent. -/
def minExponent : Int := -1074

/-- The largest exponent. -/
def maxExponent : Int := 971

/-- The positive zero. -/
def zero : Binary64 := ⟨false, 0, minExponent⟩

/-- The value is a zero of either sign. -/
def isZero (x : Binary64) : Bool :=
  x.mantissa == 0

/-- The value with the other sign. -/
def neg (x : Binary64) : Binary64 :=
  { x with negative := !x.negative }

/-! ### Rounding -/

/-- `num / den` to the nearest natural number, a tie to the even one. -/
def divNearestEven (num den : Nat) : Nat :=
  let q := num / den
  let r := num % den
  if 2 * r < den then q
  else if 2 * r > den then q + 1
  else if q % 2 = 0 then q else q + 1

/-- `num / (den * 2 ^ e)` as a quotient of natural numbers. -/
def scaled (num den : Nat) (e : Int) : Nat × Nat :=
  if 0 ≤ e then (num, den <<< e.toNat) else (num <<< (-e).toNat, den)

/-- The positive double nearest to `num / den`, or `none` if that is past the largest one. -/
def ofRatio? (num den : Nat) : Option Binary64 :=
  if num = 0 ∨ den = 0 then some zero
  else
    let guess : Int := (Nat.log2 num : Int) - (Nat.log2 den : Int) - 53
    let wide := scaled num den guess
    let e := max minExponent (if wide.1 / wide.2 < mantissaLimit then guess else guess + 1)
    let exact := scaled num den e
    let m := divNearestEven exact.1 exact.2
    let (m, e) := if m = mantissaLimit then (leastFull, e + 1) else (m, e)
    if e > maxExponent then none else some ⟨false, m, e⟩

/-- The double nearest to a natural number of at most 64 bits. -/
def ofNat (n : Nat) : Binary64 :=
  (ofRatio? n 1).getD zero

/-- The magnitude as a quotient of natural numbers. -/
def ratio (x : Binary64) : Nat × Nat :=
  if 0 ≤ x.exponent then (x.mantissa <<< x.exponent.toNat, 1)
  else (x.mantissa, 1 <<< (-x.exponent).toNat)

/-- The rounded product, or `none` on overflow. -/
def mul? (x y : Binary64) : Option Binary64 :=
  let (a, b) := x.ratio
  let (c, d) := y.ratio
  (ofRatio? (a * c) (b * d)).map fun z => { z with negative := x.negative != y.negative }

/-- The rounded quotient, or `none` on overflow. -/
def div? (x y : Binary64) : Option Binary64 :=
  let (a, b) := x.ratio
  let (c, d) := y.ratio
  (ofRatio? (a * d) (b * c)).map fun z => { z with negative := x.negative != y.negative }

/-- The double nearest to a power of ten. -/
def powerOfTen (n : Nat) : Binary64 :=
  (ofRatio? (Nat.pow 10 n) 1).getD zero

/-! ### Shortest decimal text -/

/-- The largest `p` with `10 ^ p ≤ num / den`, for a positive quotient. -/
def decimalOrder (num den : Nat) : Int :=
  let atMost (p : Int) : Bool :=
    if 0 ≤ p then den * Nat.pow 10 p.toNat ≤ num else den ≤ num * Nat.pow 10 (-p).toNat
  let guess : Int := (((Nat.log2 num : Int) - (Nat.log2 den : Int)) * 30103).fdiv 100000
  if atMost (guess + 1) then guess + 1
  else if atMost guess then guess
  else guess - 1

/-- The digits `c`, if `c * 10 ^ k` with `n` digits rounds back to the double. Of the two
neighbours on the grid of step `10 ^ k` the nearer one is tried; of two equally near, the even. -/
def onGrid? (x : Binary64) (k : Int) : Option Nat :=
  -- All numbers are multiples of `2 ^ (exponent - 2)`, written over one denominator.
  let unit := x.exponent - 2
  let value := 4 * x.mantissa
  let low := value - (if x.mantissa = leastFull ∧ x.exponent > minExponent then 1 else 2)
  let high := value + 2
  let up := Nat.pow 10 (-k).toNat <<< unit.toNat
  let down := Nat.pow 10 k.toNat <<< (-unit).toNat
  let v := value * up
  let floor := v / down
  let inside (c : Nat) : Bool :=
    if x.mantissa % 2 = 0 then low * up ≤ c * down && c * down ≤ high * up
    else low * up < c * down && c * down < high * up
  let below := inside floor && 0 < floor
  let above := inside (floor + 1)
  let r := v % down
  if below && above then
    some (if 2 * r < down ∨ (2 * r = down ∧ floor % 2 = 0) then floor else floor + 1)
  else if below then some floor
  else if above then some (floor + 1)
  else none

/-- The fewest digits that round back to a double that is not zero, as a number, and the power of
ten of the last one. -/
def shortest (x : Binary64) : Nat × Int :=
  let (num, den) := x.ratio
  let order := decimalOrder num den
  let grids := (List.range 17).map fun (n : Nat) => order - n
  (grids.findSome? fun k => (onGrid? x k).map fun c => (c, k)).getD (0, 0)

/-- The digits of `c` without zeros at the end, and the power of ten of the last one left. -/
def dropTrailingZeros : Nat → Nat → Int → Nat × Int
  | 0, c, k => (c, k)
  | fuel + 1, c, k => if c % 10 = 0 ∧ c ≠ 0 then dropTrailingZeros fuel (c / 10) (k + 1) else (c, k)

/-- The text of a double: positional with at least one digit on each side of the point from
`1e-5` up to below `1e16`, otherwise with an exponent. -/
def render (x : Binary64) : String :=
  let sign := if x.negative then ['-'] else []
  if x.isZero then String.ofList (sign ++ "0.0".toList)
  else
    let (c, k) := x.shortest
    let (c, k) := dropTrailingZeros 20 c k
    let digits := Nat.toDigits 10 c
    let point : Int := digits.length + k
    let body :=
      if 0 ≤ k ∧ point ≤ 16 then digits ++ List.replicate k.toNat '0' ++ ['.', '0']
      else if 0 < point ∧ point ≤ 16 then
        digits.take point.toNat ++ ['.'] ++ digits.drop point.toNat
      else if -5 < point ∧ point ≤ 0 then
        ['0', '.'] ++ List.replicate (-point).toNat '0' ++ digits
      else
        let exponent := (toString (point - 1)).toList
        match digits with
        | [d] => d :: 'e' :: exponent
        | d :: rest => d :: '.' :: rest ++ 'e' :: exponent
        | [] => []
    String.ofList (sign ++ body)

end Binary64

end PurgeGateway
