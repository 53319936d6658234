import PurgeGateway.Text.Ascii
import PurgeGateway.Text.Utf8

/-!
# Request targets

The target of a request comes in one of four forms: a path with a query, a whole URL, an authority
such as `host:port`, or `*`. Its parts are kept as written; only the scheme of a web URL is written
small. A fragment is dropped.

## Main definitions

* `Http.Target`: the parts of a target.
* `Http.Target.ofBytes?`: the target that a byte string writes.
-/

namespace PurgeGateway.Http

/-- The target of a request. -/
structure Target where
  scheme : Option String := none
  authority : Option String := none
  path : String := "/"
  query : Option String := none
  deriving DecidableEq, Repr, Inhabited

namespace Target

/-- The character of an ASCII byte. -/
def charOf (b : UInt8) : Char :=
  Char.ofNat b.toNat

/-- The text of ASCII bytes. -/
def asciiText (bs : List UInt8) : String :=
  String.ofList (bs.map charOf)

/-! ### Scheme -/

/-- The longest scheme. -/
def maxScheme : Nat := 64

/-- The byte may stand in a scheme. -/
def schemeByte (b : UInt8) : Bool :=
  (charOf b).isAlphanum || ['+', '-', '.', '~'].contains (charOf b)

/-- The bytes of `://`. -/
def afterScheme : List UInt8 :=
  [Ascii.byte ':', Ascii.byte '/', Ascii.byte '/']

/-- The bytes start with the given scheme, in any case, and `://`; the rest is given. -/
def behindScheme? (scheme : String) (bs : List UInt8) : Option (List UInt8) :=
  let start := bs.take (scheme.length + 3)
  if Ascii.sameLetters (asciiText start) (scheme ++ "://") then some (bs.drop (scheme.length + 3))
  else none

/-- The scheme at the front, if there is one, and the text behind its `://`. The outer `none` is
a scheme that is too long. -/
def scheme? (bs : List UInt8) : Option (Option String × List UInt8) :=
  match behindScheme? "http" bs with
  | some rest => some (some "http", rest)
  | none =>
    match behindScheme? "https" bs with
    | some rest => some (some "https", rest)
    | none =>
      let (run, behind) := bs.span schemeByte
      match afterScheme.isPrefixOf? behind with
      | some rest => if run.length ≤ maxScheme then some (some (asciiText run), rest) else none
      | none => some (none, bs)

/-! ### Authority -/

/-- The byte may stand in an authority. -/
def authorityByte (b : UInt8) : Bool :=
  (charOf b).isAlphanum || "!$&'()*+,-.:;=@[]_~".toList.contains (charOf b)

/-- What has been seen of an authority: colons, brackets and percent signs that may still turn
out to belong to its user part or to a literal address, and whether an at sign stands last. -/
structure Seen where
  colons : Nat := 0
  opened : Bool := false
  closed : Bool := false
  percent : Bool := false
  endsAt : Bool := false

/-- Most colons that may follow one another in an authority. -/
def maxColons : Nat := 8

/-- One more byte of an authority, or `none` if it may not stand there. -/
def Seen.add? (s : Seen) (b : UInt8) : Option Seen :=
  let s := { s with endsAt := false }
  match charOf b with
  | ':' => if s.colons ≥ maxColons then none else some { s with colons := s.colons + 1 }
  | '[' => if s.percent || s.opened then none else some { s with opened := true }
  | ']' =>
    if !s.opened || s.closed then none
    else some { s with closed := true, colons := 0, percent := false }
  | '@' => some { s with endsAt := true, colons := 0, percent := false }
  | '%' => some { s with percent := true }
  | _ => if authorityByte b then some s else none

/-- What has been seen makes an authority. -/
def Seen.complete (s : Seen) : Bool :=
  s.opened == s.closed && s.colons ≤ 1 && !s.endsAt && !s.percent

/-- The byte ends an authority. -/
def endsAuthority (b : UInt8) : Bool :=
  b == Ascii.byte '/' || b == Ascii.byte '?' || b == Ascii.byte '#'

/-- The authority at the front, which may be empty, and the rest. -/
def authority? (bs : List UInt8) : Option (String × List UInt8) :=
  let (own, rest) := bs.span (!endsAuthority ·)
  match own.foldlM Seen.add? {} with
  | some s => if s.complete then some (asciiText own, rest) else none
  | none => none

/-! ### Path and query -/

/-- The byte may stand in a path. -/
def pathByte (b : UInt8) : Bool :=
  let n := b.toNat
  n == 0x21 || n == 0x22 || (0x24 ≤ n && n ≤ 0x3b) || n == 0x3d || (0x40 ≤ n && n ≤ 0x5f) ||
    0x61 ≤ n

/-- The byte may stand in a query. -/
def queryByte (b : UInt8) : Bool :=
  let n := b.toNat
  n == 0x21 || (0x24 ≤ n && n ≤ 0x3b) || n == 0x3d || 0x3f ≤ n

/-- The path and the query that the bytes write, a fragment dropped. -/
def pathAndQuery? (bs : List UInt8) : Option (String × Option String) := do
  let isPath (b : UInt8) : Bool := b != Ascii.byte '?' && b != Ascii.byte '#'
  let (path, behind) := bs.span isPath
  if !path.all pathByte then none
  else
    let pathText ← Utf8.text? path
    match behind with
    | mark :: more =>
      if mark = Ascii.byte '?' then
        let query := more.takeWhile (· != Ascii.byte '#')
        if !query.all queryByte then none
        else
          let queryText ← Utf8.text? query
          some (pathText, some queryText)
      else some (pathText, none)
    | [] => some (pathText, none)

/-! ### Whole targets -/

/-- The longest target. -/
def maxLength : Nat := 65534

/-- The target that a byte string writes. -/
def ofBytes? (bs : List UInt8) : Option Target :=
  if bs.isEmpty || bs.length > maxLength then none
  else if bs == [Ascii.byte '*'] then some { path := "*" }
  else if bs.head? == some (Ascii.byte '/') then do
    let (path, query) ← pathAndQuery? bs
    some { path, query }
  else do
    let (scheme, rest) ← scheme? bs
    let (authority, rest) ← authority? rest
    match scheme with
    | none => if rest.isEmpty then some { authority := some authority, path := "" } else none
    | some scheme =>
      if authority.isEmpty then none
      else
        let (path, query) ← pathAndQuery? rest
        some {
          scheme := some scheme, authority := some authority
          path := if path.isEmpty then "/" else path, query }

end Target

end PurgeGateway.Http
