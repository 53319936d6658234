import PurgeGateway.Text.Ascii

/-!
# Tables of characters

What a standard lists of characters is kept as lines of words. A range of characters is written as
the hexadecimal numbers of its ends, as in `41-5A`, or as one number. In a table of spellings a
range is followed by what its characters are read as:

* nothing, if each stands for itself;
* `>61`, if they stand for as many characters from that one on;
* `^`, if the first, the third and so on stand for the character behind them;
* `=20.308,61`, if each has a text of its own, given by the numbers of its characters.

## Main definitions

* `CharSet.ofLines`, `CharSet.contains`: a set of characters.
* `SpellingTable.ofLines`, `SpellingTable.read?`: what characters are read as.
-/

namespace PurgeGateway.Text

/-- The words of lines. -/
def wordsOf (lines : List String) : List (List Char) :=
  lines.flatMap fun line => line.toList.splitOn ' '

/-- The number that hexadecimal digits write. -/
def hexNumber (digits : List Char) : Nat :=
  (Ascii.readBase? 16 digits).getD 0

/-! ### Ranges and sets -/

/-- A range of characters, given by the numbers of its ends. -/
structure CharRange where
  first : Nat
  last : Nat
  deriving DecidableEq, Repr, Inhabited

namespace CharRange

/-- The character lies in the range. -/
def contains (r : CharRange) (c : Char) : Bool :=
  r.first ≤ c.toNat && c.toNat ≤ r.last

/-- The range that a word writes. -/
def ofWord (word : List Char) : CharRange :=
  let first := hexNumber (word.takeWhile (· != '-'))
  match word.dropWhile (· != '-') with
  | _ :: last => ⟨first, hexNumber last⟩
  | [] => ⟨first, first⟩

end CharRange

/-- A set of characters, as ranges. -/
abbrev CharSet := List CharRange

namespace CharSet

/-- The set that lines of ranges write. -/
def ofLines (lines : List String) : CharSet :=
  (wordsOf lines).map CharRange.ofWord

/-- The character is in the set. -/
def contains (set : CharSet) (c : Char) : Bool :=
  set.any (·.contains c)

end CharSet

/-! ### Spellings -/

/-- What the characters of a range are read as. -/
inductive Reading
  | same
  | moved (target : Nat)
  | paired
  | spelled (texts : List (List Char))
  deriving Repr, Inhabited

/-- A range of characters with what they are read as. -/
structure SpellingRow where
  range : CharRange
  reading : Reading
  deriving Repr, Inhabited

namespace SpellingRow

/-- What a character of the range is read as. -/
def read (row : SpellingRow) (c : Char) : List Char :=
  let place := c.toNat - row.range.first
  match row.reading with
  | .same => [c]
  | .moved target => [Char.ofNat (target + place)]
  | .paired => if place % 2 = 0 then [Char.ofNat (c.toNat + 1)] else [c]
  | .spelled texts => (texts[place]?).getD []

/-- The characters whose numbers a word lists. -/
def textOf (word : List Char) : List Char :=
  if word.isEmpty then [] else (word.splitOn '.').map fun digits => Char.ofNat (hexNumber digits)

/-- The character ends the range of a row. -/
def endsRange (c : Char) : Bool :=
  c == '>' || c == '^' || c == '='

/-- The row that a word writes. -/
def ofWord (word : List Char) : SpellingRow where
  range := CharRange.ofWord (word.takeWhile (!endsRange ·))
  reading :=
    match word.dropWhile (!endsRange ·) with
    | '>' :: target => .moved (hexNumber target)
    | '^' :: _ => .paired
    | '=' :: texts => .spelled ((texts.splitOn ',').map textOf)
    | _ => .same

end SpellingRow

/-- What characters are read as, as rows. -/
abbrev SpellingTable := List SpellingRow

namespace SpellingTable

/-- The table that lines of rows write. -/
def ofLines (lines : List String) : SpellingTable :=
  (wordsOf lines).map SpellingRow.ofWord

/-- What a character is read as, if the table has it. -/
def read? (t : SpellingTable) (c : Char) : Option (List Char) :=
  (t.find? (·.range.contains c)).map (·.read c)

end SpellingTable

end PurgeGateway.Text
