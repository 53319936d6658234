/-!
# Blank characters and trimming

A character is blank when it has the property White_Space. Trimming removes blank characters from
the ends of a text and touches nothing between them.

## Main definitions

* `isBlank`: the property, as a table.
* `trim`: a text without blank characters at both ends.
* `blankText`: a text that trims to nothing.
-/

namespace PurgeGateway.Text

/-- The character has the property White_Space. -/
def isBlank (c : Char) : Bool :=
  let n := c.toNat
  (0x09 ≤ n && n ≤ 0x0d) || n == 0x20 || n == 0x85 || n == 0xa0 || n == 0x1680 ||
    (0x2000 ≤ n && n ≤ 0x200a) || n == 0x2028 || n == 0x2029 || n == 0x202f || n == 0x205f ||
    n == 0x3000

/-! ### Trimming lists of characters -/

/-- The characters without a run of `p` at the end. -/
def dropEndWhile (p : Char → Bool) (cs : List Char) : List Char :=
  (cs.reverse.dropWhile p).reverse

/-- The characters without blank ones at the start. -/
def trimStartChars (cs : List Char) : List Char :=
  cs.dropWhile isBlank

/-- The characters without blank ones at the end. -/
def trimEndChars (cs : List Char) : List Char :=
  dropEndWhile isBlank cs

/-- The characters without blank ones at either end. -/
def trimChars (cs : List Char) : List Char :=
  trimEndChars (trimStartChars cs)

/-! ### Trimming texts -/

/-- The text without blank characters at either end. -/
def trim (s : String) : String :=
  String.ofList (trimChars s.toList)

/-- The text without the given character at its end, however often it stands there. -/
def trimEndOf (c : Char) (s : String) : String :=
  String.ofList (dropEndWhile (· == c) s.toList)

/-- The text holds nothing but blank characters. -/
def blankText (s : String) : Bool :=
  s.toList.all isBlank

end PurgeGateway.Text
