import PurgeGateway.Text.Ascii
import PurgeGateway.Text.Utf8

/-!
# Header fields

A message carries header fields in order of arrival; a name may come more than once. Names are
kept with small letters, so that looking one up in any case is equality. A value is a byte string
that need not be text.

## Main definitions

* `Http.tokenByte`: the bytes of names and methods.
* `Http.headerName?`: a name in its kept form.
* `Http.legalValue`: the byte strings that may be values.
* `Headers.first?`: the first value under a name.
* `Headers.lookup`: the same as a text, empty when there is none.
-/

namespace PurgeGateway.Http

/-! ### Names and values -/

/-- The byte may stand in a token: a letter, a digit, or one of fifteen marks. -/
def tokenByte (b : UInt8) : Bool :=
  let c := Char.ofNat b.toNat
  c.isAlphanum || "!#$%&'*+-.^_\x60|~".toList.contains c

/-- The longest header name. -/
def maxNameLength : Nat := 65535

/-- The bytes are a header name. -/
def legalName (bs : List UInt8) : Bool :=
  !bs.isEmpty && bs.length ≤ maxNameLength && bs.all tokenByte

/-- The kept form of a header name: its text with small letters. -/
def headerName? (bs : List UInt8) : Option String :=
  if legalName bs then some (Ascii.lowerText (Utf8.textLossy bs)) else none

/-- The byte may stand in a header value. -/
def valueByte (b : UInt8) : Bool :=
  (0x20 ≤ b && b ≠ 0x7f) || b == 0x09

/-- The bytes are a header value. -/
def legalValue (bs : List UInt8) : Bool :=
  bs.all valueByte

/-- The bytes are a method: a token that is not empty. -/
def legalMethod (bs : List UInt8) : Bool :=
  !bs.isEmpty && bs.all tokenByte

/-- A header field; the name has no capitals. -/
structure Header where
  name : String
  value : List UInt8
  deriving DecidableEq, Repr, Inhabited

/-- The header fields of a message, in order of arrival. -/
abbrev Headers := List Header

namespace Headers

/-! ### Looking up -/

/-- The first value under a name in its kept form. -/
def first? (hs : Headers) (name : String) : Option (List UInt8) :=
  (hs.find? (·.name == name)).map (·.value)

/-- The first value under a name in any case as a text. It is empty when there is no such field,
or when the name is none. -/
def lookup (hs : Headers) (name : String) : String :=
  match headerName? (Utf8.bytes name) with
  | some name => ((hs.first? name).map Utf8.textLossy).getD ""
  | none => ""

/-! ### Changing -/

/-- The fields without those under a name. -/
def without (hs : Headers) (name : String) : Headers :=
  hs.filter (·.name != name)

/-- The fields with a single one under a name. -/
def set (hs : Headers) (name : String) (value : List UInt8) : Headers :=
  hs.without name ++ [⟨name, value⟩]

@[simp] theorem first?_set (hs : Headers) (name : String) (value : List UInt8) :
    (hs.set name value).first? name = some value := by
  have hnone : (hs.without name).find? (·.name == name) = none := by
    rw [List.find?_eq_none]
    intro h hmem
    simpa [without] using (List.mem_filter.mp hmem).2
  rw [first?, set, List.find?_append, hnone]
  simp

end Headers

end PurgeGateway.Http
