import PurgeGateway.Yaml.Tag

/-!
# Tokens of YAML

A text becomes a list of tokens in which nesting is explicit: a block that is opened by indentation
has a token at its start and one at its end. What turns out to be a key only at the colon behind it
gets its token put in front afterwards; such a key must lie within one line and 1024 characters.

## Main definitions

* `Yaml.Token`: the tokens.
* `Yaml.Lexer`: what is known between two tokens.
* `Yaml.tokens?`: the tokens of a text.
-/

namespace PurgeGateway.Yaml

/-- A token. -/
inductive Token
  | directive (d : Directive)
  | documentStart
  | documentEnd
  | streamEnd
  | blockSequence
  | blockMapping
  | blockEnd
  | flowSequence
  | flowSequenceEnd
  | flowMapping
  | flowMappingEnd
  | entry
  | comma
  | key
  | value
  | anchor (name : String)
  | alias (name : String)
  | tag (t : Tag)
  | scalar (style : Style) (content : String)
  deriving DecidableEq, Repr

/-! ### What is known between tokens -/

/-- A place where a key may have started. A required one must turn out to be a key. -/
structure Candidate where
  required : Bool
  position : Nat
  index : Nat
  line : Nat
  column : Nat

/-- What is known between two tokens: the place in the text, the tokens so far backwards and how
many they are, the columns of the open blocks from the inside out, whether a key may start, and
where one may have started, in the innermost collection and in those around it. -/
structure Lexer where
  cursor : Cursor
  tokens : List Token := []
  count : Nat := 0
  blocks : List Nat := []
  keyAllowed : Bool := true
  candidate : Option Candidate := none
  outer : List (Option Candidate) := []

/-- The longest distance between the start of a key and its colon. -/
def maxKeyDistance : Nat := 1024

namespace Lexer

/-- The place is inside a flow collection. -/
def inFlow (s : Lexer) : Bool :=
  !s.outer.isEmpty

/-- The column of the innermost block. -/
def indent (s : Lexer) : Option Nat :=
  s.blocks.head?

/-- The state with a token at the end. -/
def emit (t : Token) (s : Lexer) : Lexer :=
  { s with tokens := t :: s.tokens, count := s.count + 1 }

/-- The state with a token put in at a position. -/
def emitAt (position : Nat) (t : Token) (s : Lexer) : Lexer :=
  let behind := s.count - position
  { s with
    tokens := s.tokens.take behind ++ t :: s.tokens.drop behind
    count := s.count + 1 }

/-- The state at a later place. -/
def goTo (c : Cursor) (s : Lexer) : Lexer :=
  { s with cursor := c }

/-- The state `n` characters further on. -/
def skip (n : Nat) (s : Lexer) : Lexer :=
  s.goTo (s.cursor.advance n)

/-- The state in which a key may or may not start. -/
def allowKey (b : Bool) (s : Lexer) : Lexer :=
  { s with keyAllowed := b }

/-! ### Candidates for keys -/

/-- The candidate can no longer become a key here. -/
def Candidate.isStale (k : Candidate) (c : Cursor) : Bool :=
  k.line < c.line || k.index + maxKeyDistance < c.index

/-- The candidate unless it is stale; a required one must not be. -/
def freshen? (c : Cursor) (k : Option Candidate) : Option (Option Candidate) :=
  match k with
  | none => some none
  | some k =>
    if !Candidate.isStale k c then some (some k) else if k.required then none else some none

/-- The state without stale candidates. -/
def dropStale? (s : Lexer) : Option Lexer := do
  let candidate ← freshen? s.cursor s.candidate
  let outer ← s.outer.mapM (freshen? s.cursor)
  some { s with candidate, outer }

/-- The state without a candidate in the innermost collection; a required one must not be there. -/
def dropCandidate? (s : Lexer) : Option Lexer :=
  if s.candidate.any (·.required) then none else some { s with candidate := none }

/-- The state with a candidate at this place, if a key may start here. -/
def noteCandidate? (s : Lexer) : Option Lexer :=
  if !s.keyAllowed then some s
  else
    let c := s.cursor
    s.dropCandidate?.map fun s =>
      { s with candidate := some {
          required := !s.inFlow && s.indent == some c.column
          position := s.count, index := c.index, line := c.line, column := c.column } }

/-! ### Blocks -/

/-- The state in a block at a column; a new block is opened with a token at a position if the
column is further in than the innermost block. -/
def openBlock (column position : Nat) (t : Token) (s : Lexer) : Lexer :=
  if s.inFlow || s.indent.any (column ≤ ·) then s
  else { s.emitAt position t with blocks := column :: s.blocks }

/-- Blocks that start further in than a column closed, each with a token; `blocks` are those that
are open. -/
def closeBlocks (column : Nat) : List Nat → Lexer → Lexer
  | [], s => { s with blocks := [] }
  | b :: blocks, s =>
    if column < b then closeBlocks column blocks (s.emit .blockEnd)
    else { s with blocks := b :: blocks }

/-- The state with the blocks closed that start further in than a column. -/
def closeTo (column : Nat) (s : Lexer) : Lexer :=
  if s.inFlow then s else closeBlocks column s.blocks s

/-- The state with all blocks closed. -/
def closeAll (s : Lexer) : Lexer :=
  if s.inFlow then s
  else { s.blocks.foldl (fun s _ => s.emit .blockEnd) s with blocks := [] }

/-! ### To the next token -/

/-- The state behind gaps, comments and line breaks. Tabs count as gaps where no key may start or
inside a flow collection; a line break outside of one lets a key start. -/
def toToken : Nat → Lexer → Lexer
  | 0, s => s
  | fuel + 1, s =>
    let c := s.cursor
    let c := if c.index = 0 && c.isAt '\ufeff' then c.advance 1 else c
    let tabs := s.inFlow || !s.keyAllowed
    let c := c.skipWhile fun ch => ch == ' ' || (tabs && ch == '\t')
    let c := if c.isAt '#' then c.skipWhile (!isBreak ·) else c
    if c.at? isBreak then
      toToken fuel ((s.goTo c.breakLine.2).allowKey (s.keyAllowed || !s.inFlow))
    else s.goTo c

/-! ### Tokens one by one -/

/-- The start of a document, its end, or that of the text: all blocks are closed first. -/
def boundary? (t : Token) (length : Nat) (s : Lexer) : Option Lexer :=
  s.closeAll.dropCandidate?.map fun s => ((s.allowKey false).skip length).emit t

/-- A directive. -/
def lexDirective? (s : Lexer) : Option Lexer := do
  let s ← s.closeAll.dropCandidate?
  let (d, c) ← directive? s.cursor
  some (((s.allowKey false).goTo c).emit (.directive d))

/-- The start of a flow collection, which may be a key itself. -/
def openFlow? (t : Token) (s : Lexer) : Option Lexer :=
  s.noteCandidate?.map fun s =>
    { ((s.allowKey true).skip 1).emit t with
      candidate := none, outer := s.candidate :: s.outer }

/-- The end of a flow collection. -/
def closeFlow? (t : Token) (s : Lexer) : Option Lexer :=
  s.dropCandidate?.map fun s =>
    let s := ((s.allowKey false).skip 1).emit t
    match s.outer with
    | k :: outer => { s with candidate := k, outer }
    | [] => s

/-- A comma inside a flow collection. -/
def lexComma? (s : Lexer) : Option Lexer :=
  s.dropCandidate?.map fun s => ((s.allowKey true).skip 1).emit .comma

/-- The hyphen of a block entry. -/
def lexEntry? (s : Lexer) : Option Lexer :=
  if !s.inFlow && !s.keyAllowed then none
  else
    (s.openBlock s.cursor.column s.count .blockSequence).dropCandidate?.map fun s =>
      ((s.allowKey true).skip 1).emit .entry

/-- The question mark of a key. -/
def lexKey? (s : Lexer) : Option Lexer :=
  if !s.inFlow && !s.keyAllowed then none
  else
    (s.openBlock s.cursor.column s.count .blockMapping).dropCandidate?.map fun s =>
      ((s.allowKey !s.inFlow).skip 1).emit .key

/-- The colon of a value. What may have been a key now is one. -/
def lexValue? (s : Lexer) : Option Lexer :=
  match s.candidate with
  | some k =>
    let s := (s.emitAt k.position .key).openBlock k.column k.position .blockMapping
    some (({ s with candidate := none, keyAllowed := false }.skip 1).emit .value)
  | none =>
    if !s.inFlow && !s.keyAllowed then none
    else
      let s := s.openBlock s.cursor.column s.count .blockMapping
      some (((s.allowKey !s.inFlow).skip 1).emit .value)

/-- A token that may start a key and is found by a reader at this place. -/
def lexWith? {α : Type} (read : Cursor → Option (α × Cursor)) (token : α → Token) (s : Lexer) :
    Option Lexer := do
  let s ← s.noteCandidate?
  let (a, c) ← read s.cursor
  some (((s.allowKey false).goTo c).emit (token a))

/-- A scalar between quotes. -/
def lexQuoted? (double : Bool) (s : Lexer) : Option Lexer :=
  s.lexWith? (quoted? double) fun cs =>
    .scalar (if double then .double else .single) (String.ofList cs)

/-- A block scalar. -/
def lexBlock? (keepBreaks : Bool) (s : Lexer) : Option Lexer := do
  let s ← s.dropCandidate?
  let (cs, c) ← block? keepBreaks s.indent s.cursor
  let style := if keepBreaks then Style.literal else Style.folded
  some (((s.allowKey true).goTo c).emit (.scalar style (String.ofList cs)))

/-- A plain scalar. A line break behind it lets a key start. -/
def lexPlain? (s : Lexer) : Option Lexer := do
  let s ← s.noteCandidate?
  let indent := match s.indent with
    | some column => column + 1
    | none => 0
  let (cs, c, broken) ← plain? s.inFlow indent s.cursor
  some (((s.allowKey broken).goTo c).emit (.scalar .plain (String.ofList cs)))

/-- The character starts something else than a plain scalar. -/
def isIndicator (c : Char) : Bool :=
  "-?:,[]{}#&*!|>'\"%@\x60".toList.contains c

/-- A plain scalar starts with this character in front of this rest. -/
def startsPlain (flow : Bool) (ch : Char) (rest : List Char) : Bool :=
  !(isSeparator ch || isIndicator ch) ||
    (ch == '-' && !rest.head?.any isGap) ||
    (!flow && (ch == '?' || ch == ':') && !endsToken rest)

/-- The state behind the token at this place. -/
def lexToken? (s : Lexer) : Option Lexer :=
  let c := s.cursor
  match c.rest with
  | [] => none
  | ch :: rest =>
    let ends := endsToken rest
    if c.column = 0 && ch == '%' then s.lexDirective?
    else if c.column = 0 && c.threeOf '-' then s.boundary? .documentStart 3
    else if c.column = 0 && c.threeOf '.' then s.boundary? .documentEnd 3
    else if ch == '[' then s.openFlow? .flowSequence
    else if ch == '{' then s.openFlow? .flowMapping
    else if ch == ']' then s.closeFlow? .flowSequenceEnd
    else if ch == '}' then s.closeFlow? .flowMappingEnd
    else if ch == ',' then s.lexComma?
    else if ch == '-' && ends then s.lexEntry?
    else if ch == '?' && (s.inFlow || ends) then s.lexKey?
    else if ch == ':' && (s.inFlow || ends) then s.lexValue?
    else if ch == '*' then s.lexWith? name? .alias
    else if ch == '&' then s.lexWith? name? .anchor
    else if ch == '!' then s.lexWith? (tag? s.inFlow) .tag
    else if ch == '|' && !s.inFlow then s.lexBlock? true
    else if ch == '>' && !s.inFlow then s.lexBlock? false
    else if ch == '\'' then s.lexQuoted? false
    else if ch == '"' then s.lexQuoted? true
    else if startsPlain s.inFlow ch rest then s.lexPlain?
    else none

/-- The state at the next token, with stale candidates dropped and blocks closed that end here. -/
def atToken? (s : Lexer) : Option Lexer :=
  (s.toToken (s.cursor.rest.length + 1)).dropStale?.map fun s => s.closeTo s.cursor.column

/-- All tokens from a state on, the last of them the end of the text. -/
def run? : Nat → Lexer → Option (List Token)
  | 0, _ => none
  | fuel + 1, s => do
    let s ← s.atToken?
    if s.cursor.rest.isEmpty then
      let s ← s.boundary? .streamEnd 0
      some s.tokens.reverse
    else
      let s ← s.lexToken?
      run? fuel s

end Lexer

/-- The tokens of a text. A text with a character that may not stand in it has none. -/
def tokens? (s : String) : Option (List Token) :=
  let cs := s.toList
  if cs.all isAllowed then ({ cursor := { rest := cs } } : Lexer).run? (cs.length + 2) else none

end PurgeGateway.Yaml
