/-!
# Places in a text

YAML gives meaning to columns, so its reader has to know where in the text it stands. A cursor is
the rest of the text together with the index, line and column that it starts at. Five characters
break a line, and a carriage return takes a line feed behind it along.

## Main definitions

* `Yaml.Cursor`: a place in a text.
* `Yaml.Cursor.advance`, `Yaml.Cursor.breakLine`: the places further on.
* `Yaml.Cursor.atMarker`: a document starts or ends here.
-/

namespace PurgeGateway.Yaml

/-! ### Characters -/

/-- The character breaks a line. -/
def isBreak (c : Char) : Bool :=
  c == '\n' || c == '\r' || c == '\x85' || c == '\u2028' || c == '\u2029'

/-- The character is a space or a tab. -/
def isGap (c : Char) : Bool :=
  c == ' ' || c == '\t'

/-- The character separates, as a gap or as a break. -/
def isSeparator (c : Char) : Bool :=
  isGap c || isBreak c

/-- The character may stand in names of anchors, tags and directives. -/
def isWordChar (c : Char) : Bool :=
  c.isAlphanum || c == '_' || c == '-'

/-- The character may stand in a text at all. -/
def isAllowed (c : Char) : Bool :=
  let n := c.toNat
  n == 0x09 || n == 0x0a || n == 0x0d || (0x20 ≤ n && n ≤ 0x7e) || n == 0x85 ||
    (0xa0 ≤ n && n ≤ 0xd7ff) || (0xe000 ≤ n && n ≤ 0xfffd) || 0x10000 ≤ n

/-- A token ends in front of this rest: nothing follows, or a separator. -/
def endsToken : List Char → Bool
  | [] => true
  | c :: _ => isSeparator c

/-- A line ends in front of this rest. -/
def endsLine : List Char → Bool
  | [] => true
  | c :: _ => isBreak c

/-! ### Cursors -/

/-- A place in a text: the rest of the text, and where it starts. -/
structure Cursor where
  rest : List Char
  index : Nat := 0
  line : Nat := 0
  column : Nat := 0

namespace Cursor

/-- The place `n` characters further on in the same line. -/
def advance (n : Nat) (c : Cursor) : Cursor :=
  { c with rest := c.rest.drop n, index := c.index + n, column := c.column + n }

/-- The place behind a run of characters with a property. -/
def skipWhile (p : Char → Bool) (c : Cursor) : Cursor :=
  c.advance (c.rest.takeWhile p).length

/-- The run of characters with a property, and the place behind it. -/
def takeWhile (p : Char → Bool) (c : Cursor) : List Char × Cursor :=
  let run := c.rest.takeWhile p
  (run, c.advance run.length)

/-- The place at the start of the next line, and how the break counts in a scalar. In front of
anything but a break the place stays. -/
def breakLine (c : Cursor) : List Char × Cursor :=
  let next (n : Nat) (rest : List Char) : Cursor :=
    { rest, index := c.index + n, line := c.line + 1 }
  match c.rest with
  | '\r' :: '\n' :: rest => (['\n'], next 2 rest)
  | b :: rest =>
    if b == '\u2028' || b == '\u2029' then ([b], next 1 rest)
    else if isBreak b then (['\n'], next 1 rest)
    else ([], c)
  | [] => ([], c)

/-- The first character of the rest is the given one. -/
def isAt (ch : Char) (c : Cursor) : Bool :=
  c.rest.head? == some ch

/-- The first character of the rest has a property. -/
def at? (p : Char → Bool) (c : Cursor) : Bool :=
  c.rest.head?.any p

/-- Three of the given character stand here and end a token. -/
def threeOf (ch : Char) (c : Cursor) : Bool :=
  match c.rest with
  | x :: y :: z :: rest => x == ch && y == ch && z == ch && endsToken rest
  | _ => false

/-- A document starts or ends here: a line starts with three hyphens or three dots. -/
def atMarker (c : Cursor) : Bool :=
  c.column == 0 && (c.threeOf '-' || c.threeOf '.')

/-- The place behind gaps and a comment, if a line ends there. -/
def toLineEnd? (c : Cursor) : Option Cursor :=
  let c := c.skipWhile isGap
  let c := if c.isAt '#' then c.skipWhile (!isBreak ·) else c
  if endsLine c.rest then some c else none

end Cursor

end PurgeGateway.Yaml
