import PurgeGateway.Text.Utf8
import PurgeGateway.Yaml.Scalar

/-!
# Names, tags and directives of YAML

Anchors and aliases are names. A tag is a handle, which stands for the start of a longer text, and
the rest of that text. Directives at the start of a document give its version and the meanings of
handles.

## Main definitions

* `Yaml.name?`: the name of an anchor or an alias.
* `Yaml.tag?`: the tag at a place.
* `Yaml.directive?`: the directive at a place.
-/

namespace PurgeGateway.Yaml

/-! ### Anchors and aliases -/

/-- What may stand behind the name of an anchor besides a separator. -/
def endsName (c : Char) : Bool :=
  ['?', ':', ',', ']', '}', '%', '@', '\x60'].contains c

/-- The name behind the mark of an anchor or an alias, and the place behind it. -/
def name? (c : Cursor) : Option (String × Cursor) :=
  let (name, c) := (c.advance 1).takeWhile isWordChar
  if name.isEmpty || !(endsToken c.rest || c.at? endsName) then none
  else some (String.ofList name, c)

/-! ### Tags -/

/-- The character may stand in the rest of a tag; `wide` admits three more. -/
def isTagChar (wide : Bool) (c : Char) : Bool :=
  isWordChar c || ";/?:@&=+$.%!~*'()".toList.contains c || (wide && [',', '[', ']'].contains c)

/-- The byte of a percent sign and two hexadecimal digits, and the rest. -/
def percentByte? : List Char → Option (UInt8 × List Char)
  | '%' :: a :: b :: rest => (Ascii.readBase? 16 [a, b]).map fun n => (UInt8.ofNat n, rest)
  | _ => none

/-- How many bytes a character has whose first byte is given. -/
def widthOf? (b : UInt8) : Option Nat :=
  if b < 0x80 then some 1
  else if 0xc0 ≤ b && b < 0xe0 then some 2
  else if 0xe0 ≤ b && b < 0xf0 then some 3
  else if 0xf0 ≤ b && b < 0xf8 then some 4
  else none

/-- That many continuation bytes, each written with a percent sign, and the rest. -/
def percentTail? : Nat → List Char → Option (List UInt8 × List Char)
  | 0, cs => some ([], cs)
  | n + 1, cs => do
    let (b, cs) ← percentByte? cs
    if Utf8.continues b then
      let (more, cs) ← percentTail? n cs
      some (b :: more, cs)
    else none

/-- The bytes of a character written with percent signs, and the rest. -/
def percentChar? (cs : List Char) : Option (List UInt8 × List Char) := do
  let (b, cs) ← percentByte? cs
  let width ← widthOf? b
  let (more, cs) ← percentTail? (width - 1) cs
  some (b :: more, cs)

/-- The rest of a tag as bytes behind those in `done`, and the rest of the text. -/
def tagBytes? (wide : Bool) : Nat → List UInt8 → List Char → Option (List UInt8 × List Char)
  | 0, done, cs => some (done, cs)
  | fuel + 1, done, cs =>
    match cs with
    | [] => some (done, cs)
    | c :: rest =>
      if c == '%' then do
        let (bs, cs) ← percentChar? cs
        tagBytes? wide fuel (done ++ bs) cs
      else if isTagChar wide c then
        tagBytes? wide fuel (done ++ String.utf8EncodeChar c) rest
      else some (done, cs)

/-- The rest of a tag and the place behind it. -/
def tagText? (wide : Bool) (c : Cursor) : Option (String × Cursor) := do
  let (bs, rest) ← tagBytes? wide c.rest.length [] c.rest
  some (Utf8.textLossy bs, c.advance (c.rest.length - rest.length))

/-- A tag: its handle, and the rest of it. Without a handle the rest is the whole tag. -/
structure Tag where
  handle : String
  suffix : String
  deriving DecidableEq, Repr

/-- A word behind an exclamation mark, with a second mark if there is one, and the place behind
it. -/
def markedWord (c : Cursor) : List Char × Cursor :=
  let (word, c) := (c.advance 1).takeWhile isWordChar
  if c.isAt '!' then ('!' :: (word ++ ['!']), c.advance 1) else ('!' :: word, c)

/-- The tag at a place, not looking at what follows it. -/
def bareTag? (c : Cursor) : Option (Tag × Cursor) :=
  if (c.advance 1).isAt '<' then do
    let (suffix, c) ← tagText? true (c.advance 2)
    if suffix.isEmpty || !c.isAt '>' then none else some (⟨"", suffix⟩, c.advance 1)
  else do
    let (word, behind) := markedWord c
    let (text, c) ← tagText? false behind
    if word.length > 1 && word.getLast? == some '!' then
      if text.isEmpty then none else some (⟨String.ofList word, text⟩, c)
    else
      let suffix := String.ofList (word.drop 1) ++ text
      some (if suffix.isEmpty then ⟨"", "!"⟩ else ⟨"!", suffix⟩, c)

/-- The tag at a place, and the place behind it. -/
def tag? (flow : Bool) (c : Cursor) : Option (Tag × Cursor) := do
  let (tag, c) ← bareTag? c
  if (flow && c.isAt ',') || endsToken c.rest then some (tag, c) else none

/-! ### Directives -/

/-- A directive: the version of the language, or the meaning of a handle. -/
inductive Directive
  | version (major minor : Nat)
  | handle (name meaning : String)
  deriving DecidableEq, Repr

/-- A number of at most nine digits, and the place behind it. -/
def versionNumber? (c : Cursor) : Option (Nat × Cursor) :=
  let (digits, c) := c.takeWhile Char.isDigit
  if digits.length > 9 then none else (Ascii.readBase? 10 digits).map fun n => (n, c)

/-- The version at a place, and the place behind it. -/
def version? (c : Cursor) : Option (Directive × Cursor) := do
  let (major, c) ← versionNumber? (c.skipWhile isGap)
  if !c.isAt '.' then none
  else
    let (minor, c) ← versionNumber? (c.advance 1)
    some (.version major minor, c)

/-- The handle and its meaning at a place, and the place behind them. -/
def handle? (c : Cursor) : Option (Directive × Cursor) := do
  let c := c.skipWhile isGap
  if !c.isAt '!' then none
  else
    let (word, c) := markedWord c
    if !(word.length = 1 || word.getLast? == some '!') || !c.at? isGap then none
    else
      let (meaning, c) ← tagText? true (c.skipWhile isGap)
      if meaning.isEmpty || !endsToken c.rest then none
      else some (.handle (String.ofList word) meaning, c)

/-- The directive at a place, and the place at the start of the next line. -/
def directive? (c : Cursor) : Option (Directive × Cursor) := do
  let (name, c) := (c.advance 1).takeWhile isWordChar
  if !endsToken c.rest then none
  else
    let (directive, c) ←
      if name == "YAML".toList then version? c
      else if name == "TAG".toList then handle? c
      else none
    let c ← c.toLineEnd?
    some (directive, c.breakLine.2)

end PurgeGateway.Yaml
