import PurgeGateway.Text.Ascii
import PurgeGateway.Yaml.Cursor

/-!
# Scalars of YAML

A scalar is written plain, between quotes, or as a block of lines. Plain and quoted scalars may run
over several lines: a single line break between two parts of them counts as a space, and of several
breaks all but the first count. A block keeps its line breaks or folds them, and says what becomes
of those at its end.

## Main definitions

* `Yaml.Gap`: what separates two parts of a scalar.
* `Yaml.plain?`, `Yaml.quoted?`, `Yaml.block?`: the scalar at a place, and the place behind it.
-/

namespace PurgeGateway.Yaml

/-- How a scalar is written. -/
inductive Style
  | plain
  | single
  | double
  | literal
  | folded
  deriving DecidableEq, Repr, Inhabited

/-! ### Gaps between parts -/

/-- What separates two parts of a scalar: blanks within a line, or line breaks, of which the first
is kept apart. -/
structure Gap where
  broken : Bool := false
  blanks : List Char := []
  first : List Char := []
  more : List Char := []

namespace Gap

/-- What a gap counts as: blanks as they are, one line break as a space, more as all but the first
of them. A first break that is no line feed is kept. -/
def text (g : Gap) : List Char :=
  if !g.broken then g.blanks
  else if g.first == ['\n'] then (if g.more.isEmpty then [' '] else g.more)
  else g.first ++ g.more

/-- The gap from a place on and the place behind it. Behind a line break, a tab in a column before
`indent` is refused. -/
def scan? (indent : Nat) : Nat → Gap → Cursor → Option (Gap × Cursor)
  | 0, g, c => some (g, c)
  | fuel + 1, g, c =>
    match c.rest with
    | [] => some (g, c)
    | b :: _ =>
      if isGap b then
        if g.broken && c.column < indent && b == '\t' then none
        else
          let g := if g.broken then g else { g with blanks := g.blanks ++ [b] }
          scan? indent fuel g (c.advance 1)
      else if isBreak b then
        let (text, c) := c.breakLine
        let g := if g.broken then { g with more := g.more ++ text }
          else { g with broken := true, blanks := [], first := text }
        scan? indent fuel g c
      else some (g, c)

end Gap

/-! ### Plain scalars -/

/-- The character ends a plain scalar inside a flow collection. -/
def endsFlowPlain (c : Char) : Bool :=
  c == ',' || c == '[' || c == ']' || c == '{' || c == '}'

/-- The characters of a plain scalar up to the next separator or the scalar's end, backwards in
front of `done`. Inside a flow collection a colon directly before an indicator is refused. -/
def plainPart? (flow : Bool) (done : List Char) : List Char → Option (List Char)
  | [] => some done
  | c :: rest =>
    if isSeparator c then some done
    else if flow && c == ':' && rest.head?.any (fun d => d == '?' || endsFlowPlain d) then none
    else if (c == ':' && endsToken rest) || (flow && endsFlowPlain c) then some done
    else plainPart? flow (c :: done) rest

/-- A plain scalar from a place on, given its characters so far backwards and the gap behind them.
The last component tells that a line break came behind the last character. -/
def plainFrom? (flow : Bool) (indent : Nat) :
    Nat → List Char → Gap → Cursor → Option (List Char × Cursor × Bool)
  | 0, done, g, c => some (done.reverse, c, g.broken)
  | fuel + 1, done, g, c =>
    if c.atMarker || c.isAt '#' then some (done.reverse, c, g.broken)
    else do
      let part ← plainPart? flow [] c.rest
      let (done, g) := if part.isEmpty then (done, g) else (part ++ (g.text.reverse ++ done), {})
      let c := c.advance part.length
      if !c.at? isSeparator then some (done.reverse, c, g.broken)
      else
        let (g, c) ← g.scan? indent c.rest.length c
        if !flow && c.column < indent then some (done.reverse, c, g.broken)
        else plainFrom? flow indent fuel done g c

/-- The plain scalar at a place, and the place behind it and the blanks after it. The last
component tells that a line break is among these. -/
def plain? (flow : Bool) (indent : Nat) (c : Cursor) : Option (List Char × Cursor × Bool) :=
  plainFrom? flow indent c.rest.length [] {} c

/-! ### Quoted scalars -/

/-- The character of an escape of one letter. -/
def letterEscape? (c : Char) : Option Char :=
  [('0', '\x00'), ('a', '\x07'), ('b', '\x08'), ('t', '\t'), ('\t', '\t'), ('n', '\n'),
    ('v', '\x0b'), ('f', '\x0c'), ('r', '\r'), ('e', '\x1b'), (' ', ' '), ('"', '"'), ('/', '/'),
    ('\\', '\\'), ('N', '\x85'), ('_', '\xa0'), ('L', '\u2028'), ('P', '\u2029')].lookup c

/-- The number of digits of an escape that gives the number of a character. -/
def digitsOfEscape? (c : Char) : Option Nat :=
  [('x', 2), ('u', 4), ('U', 8)].lookup c

/-- The character with a number. -/
def numbered? (n : Nat) : Option Char :=
  if n.isValidChar then some (Char.ofNat n) else none

/-- The escape behind a backslash: its character and its length. -/
def escape? : List Char → Option (Char × Nat)
  | [] => none
  | c :: rest =>
    match digitsOfEscape? c with
    | some n =>
      if (rest.take n).length < n then none
      else ((Ascii.readBase? 16 (rest.take n)).bind numbered?).map fun ch => (ch, n + 1)
    | none => (letterEscape? c).map fun ch => (ch, 1)

/-- What ends a part of a quoted scalar. -/
inductive PartEnd
  | closed
  | separated
  | joined

/-- The characters of a scalar in single quotes up to a separator or its end, backwards in front
of `done`. -/
def singlePart : List Char → Nat → Cursor → List Char × Cursor × PartEnd
  | done, 0, c => (done, c, .separated)
  | done, fuel + 1, c =>
    match c.rest with
    | '\'' :: '\'' :: _ => singlePart ('\'' :: done) fuel (c.advance 2)
    | '\'' :: _ => (done, c, .closed)
    | [] => (done, c, .separated)
    | ch :: _ =>
      if isSeparator ch then (done, c, .separated) else singlePart (ch :: done) fuel (c.advance 1)

/-- The characters of a scalar in double quotes up to a separator, an escaped line break or its
end, backwards in front of `done`. -/
def doublePart? : List Char → Nat → Cursor → Option (List Char × Cursor × PartEnd)
  | done, 0, c => some (done, c, .separated)
  | done, fuel + 1, c =>
    match c.rest with
    | '"' :: _ => some (done, c, .closed)
    | '\\' :: rest =>
      if rest.head?.any isBreak then some (done, (c.advance 1).breakLine.2, .joined)
      else (escape? rest).bind fun (ch, n) => doublePart? (ch :: done) fuel (c.advance (n + 1))
    | [] => some (done, c, .separated)
    | ch :: _ =>
      if isSeparator ch then some (done, c, .separated)
      else doublePart? (ch :: done) fuel (c.advance 1)

/-- One part of a quoted scalar. -/
def quotedPart? (double : Bool) (c : Cursor) : Option (List Char × Cursor × PartEnd) :=
  if double then doublePart? [] c.rest.length c else some (singlePart [] c.rest.length c)

/-- A quoted scalar from a place behind its first quote on, given its characters so far
backwards. -/
def quotedFrom? (double : Bool) : Nat → List Char → Cursor → Option (List Char × Cursor)
  | 0, _, _ => none
  | fuel + 1, done, c =>
    if c.atMarker || c.rest.isEmpty then none
    else do
      let (part, c, ending) ← quotedPart? double c
      let done := part ++ done
      let closing := c.isAt (if double then '"' else '\'')
      match ending, closing with
      | .closed, _ => some (done.reverse, c.advance 1)
      | .joined, true => some (done.reverse, c.advance 1)
      | .joined, false =>
        let (g, c) ← Gap.scan? 0 c.rest.length { broken := true } c
        quotedFrom? double fuel (g.text.reverse ++ done) c
      | .separated, _ =>
        let (g, c) ← Gap.scan? 0 c.rest.length {} c
        quotedFrom? double fuel (g.text.reverse ++ done) c

/-- The quoted scalar at a place, and the place behind it. -/
def quoted? (double : Bool) (c : Cursor) : Option (List Char × Cursor) :=
  quotedFrom? double (c.rest.length + 1) [] (c.advance 1)

/-! ### Block scalars -/

/-- What becomes of the line breaks at the end of a block. -/
inductive Chomping
  | strip
  | clip
  | keep
  deriving DecidableEq

/-- The chomping that a mark asks for. -/
def Chomping.ofMark? (c : Char) : Option Chomping :=
  if c == '+' then some .keep else if c == '-' then some .strip else none

/-- The chomping mark at a place, and the place behind it. -/
def chompingAt (c : Cursor) : Chomping × Cursor :=
  match c.rest.head?.bind Chomping.ofMark? with
  | some mark => (mark, c.advance 1)
  | none => (.clip, c)

/-- The indentation at a place, zero if there is none, and the place behind it. An indentation of
zero is refused. -/
def incrementAt? (c : Cursor) : Option (Nat × Cursor) :=
  match c.rest with
  | d :: _ =>
    if d == '0' then none
    else if d.isDigit then some (d.toNat - '0'.toNat, c.advance 1)
    else some (0, c)
  | [] => some (0, c)

/-- The chomping and the indentation behind the mark of a block, in either order. -/
def blockHeader? (c : Cursor) : Option (Chomping × Nat × Cursor) :=
  if c.rest.head?.any (fun d => (Chomping.ofMark? d).isSome) then do
    let (chomping, c) := chompingAt c
    let (increment, c) ← incrementAt? c
    some (chomping, increment, c)
  else do
    let (increment, c) ← incrementAt? c
    let (chomping, c) := if increment = 0 then (.clip, c) else chompingAt c
    some (chomping, increment, c)

/-- The empty lines from a place on: their breaks behind those in `breaks`, the largest column that
was reached, and the first place that is not in an empty line. With `indent` zero all spaces are
taken; a tab in the indentation is refused. -/
def emptyLines? (indent : Nat) :
    Nat → List Char → Nat → Cursor → Option (List Char × Nat × Cursor)
  | 0, _, _, _ => none
  | fuel + 1, breaks, widest, c =>
    let spaces := (c.rest.takeWhile (· == ' ')).length
    let c := c.advance (if indent = 0 then spaces else min spaces (indent - c.column))
    let widest := max widest c.column
    if (indent = 0 || c.column < indent) && c.isAt '\t' then none
    else if !c.at? isBreak then some (breaks, widest, c)
    else
      let (text, c) := c.breakLine
      emptyLines? indent fuel (breaks ++ text) widest c

/-- A block under construction: its characters backwards, the break behind its last line, those of
the empty lines behind that, and whether its last line starts with a gap. -/
structure Block where
  done : List Char := []
  last : List Char := []
  empty : List Char := []
  indented : Bool := false

/-- The characters of a block with one more line. Between two lines that do not start with a gap a
folded block has a space in place of a single line feed. -/
def Block.addLine (keepBreaks : Bool) (b : Block) (line : List Char) : List Char :=
  let indented := line.head?.any isGap
  let folds := !keepBreaks && b.last == ['\n'] && !b.indented && !indented
  let joint := if folds then (if b.empty.isEmpty then [' '] else []) else b.last
  line.reverse ++ (b.empty.reverse ++ (joint.reverse ++ b.done))

/-- The lines of a block from a place on. -/
def blockLines? (keepBreaks : Bool) (indent : Nat) : Nat → Block → Cursor → Option (Block × Cursor)
  | 0, b, c => some (b, c)
  | fuel + 1, b, c =>
    if c.column = indent && !c.rest.isEmpty then do
      let (line, c) := c.takeWhile (!isBreak ·)
      let done := b.addLine keepBreaks line
      let (last, c) := c.breakLine
      let (empty, _, c) ← emptyLines? indent (c.rest.length + 1) [] 0 c
      blockLines? keepBreaks indent fuel { done, last, empty, indented := line.head?.any isGap } c
    else some (b, c)

/-- The characters of a finished block. -/
def Block.text (b : Block) (chomping : Chomping) : List Char :=
  b.done.reverse ++
    (match chomping with
    | .strip => []
    | .clip => b.last
    | .keep => b.last ++ b.empty)

/-- The block at a place, and the place behind it. `parent` is the column of the surrounding block,
if there is one. -/
def block? (keepBreaks : Bool) (parent : Option Nat) (c : Cursor) :
    Option (List Char × Cursor) := do
  let (chomping, increment, c) ← blockHeader? (c.advance 1)
  let c ← c.toLineEnd?
  let c := c.breakLine.2
  let given := if increment = 0 then 0 else parent.getD 0 + increment
  let (empty, widest, c) ← emptyLines? given (c.rest.length + 1) [] 0 c
  let least := match parent with
    | some column => column + 1
    | none => 1
  let indent := if given = 0 then max widest least else given
  let (b, c) ← blockLines? keepBreaks indent (c.rest.length + 1) { empty } c
  some (b.text chomping, c)

end PurgeGateway.Yaml
