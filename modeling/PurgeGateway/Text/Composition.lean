import PurgeGateway.Text.CombiningClass
import PurgeGateway.Text.Composite

/-!
# Composed text

One text can often be spelled in several ways: with a composite, or with its base and its marks, and
the marks in any order that says the same. The composed spelling is the one with the fewest
characters and with its marks in the order of their classes.

## Main definitions

* `decompose`: a text with its composites taken apart and its marks in order.
* `compose`: the composed spelling of a text.
-/

namespace PurgeGateway.Text

/-! ### Taking apart -/

/-- How deep composites are nested at most. -/
def compositeDepth : Nat := 4

/-- The parts of a character; the base of a composite is taken apart a number of times. -/
def partsOf : Nat → Char → List Char
  | 0, c => [c]
  | depth + 1, c =>
    match compositeParts? c with
    | some (base, mark) => partsOf depth base ++ [mark]
    | none => [c]

/-- A character put in front of others whose marks are in order, so that they still are. A mark goes
behind those of smaller classes. -/
def insertMark (c : Char) : List Char → List Char
  | [] => [c]
  | d :: rest =>
    if 0 < combiningClass d && combiningClass d < combiningClass c then d :: insertMark c rest
    else c :: d :: rest

/-- The text with its marks in the order of their classes. -/
def orderMarks (cs : List Char) : List Char :=
  cs.foldr insertMark []

/-- The text with its composites taken apart and its marks in order. -/
def decompose (cs : List Char) : List Char :=
  orderMarks (cs.flatMap (partsOf compositeDepth))

/-! ### Putting together -/

/-- A character cannot reach the base over the marks between, which are given backwards. -/
def isBlocked (marks : List Char) (c : Char) : Bool :=
  match marks with
  | [] => false
  | last :: _ => combiningClass c ≤ combiningClass last

/-- A base and the marks behind it so far, which are given backwards, with the text behind them. -/
def composeOnto (base : Char) (marks : List Char) : List Char → List Char
  | [] => base :: marks.reverse
  | c :: rest =>
    match if isBlocked marks c then none else composite? base c with
    | some whole => composeOnto whole marks rest
    | none =>
      if combiningClass c = 0 then base :: marks.reverse ++ composeOnto c [] rest
      else composeOnto base (c :: marks) rest

/-- A text whose composites are taken apart and whose marks are in order, put together. -/
def recompose : List Char → List Char
  | [] => []
  | c :: rest => if combiningClass c = 0 then composeOnto c [] rest else c :: recompose rest

/-- The composed spelling of a text. -/
def compose (cs : List Char) : List Char :=
  if cs.all (·.toNat < 0x300) then cs else recompose (decompose cs)

end PurgeGateway.Text
