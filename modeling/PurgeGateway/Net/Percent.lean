import PurgeGateway.Text.Ascii
import PurgeGateway.Text.Utf8

/-!
# Percent encoding

A part of a URL holds only some ASCII characters as themselves. Every other one is written as its
UTF-8 bytes, each with a percent sign and two hexadecimal capitals. Which characters stay depends
on the part.

## Main definitions

* `Net.percentEncode`: characters as they stand in a part of a URL.
* `Net.percentDecode`: the bytes that an encoded text stands for.
-/

namespace PurgeGateway.Net

/-! ### Characters that are encoded -/

/-- The characters encoded in every part: controls, and all that are not ASCII. -/
def isControl (c : Char) : Bool :=
  c.toNat < 0x20 || 0x7e < c.toNat

/-- The characters encoded in a fragment. -/
def encodedInFragment (c : Char) : Bool :=
  isControl c || [' ', '"', '<', '>', '\x60'].contains c

/-- The characters encoded in a query. In a web address a single quote is one of them. -/
def encodedInQuery (web : Bool) (c : Char) : Bool :=
  isControl c || [' ', '"', '#', '<', '>'].contains c || (web && c == '\'')

/-- The characters encoded in a path. -/
def encodedInPath (c : Char) : Bool :=
  encodedInFragment c || ['#', '?', '{', '}'].contains c

/-- The characters encoded in the name and the password of a user. -/
def encodedInUser (c : Char) : Bool :=
  encodedInPath c || ['/', ':', ';', '=', '@', '[', '\\', ']', '^', '|'].contains c

/-! ### Encoding and decoding -/

/-- A byte with a percent sign. -/
def percentByte (b : UInt8) : List Char :=
  ['%', Ascii.hexCapital (b.toNat / 16), Ascii.hexCapital (b.toNat % 16)]

/-- A character as it stands in a part that encodes the given characters. -/
def percentChar (encoded : Char → Bool) (c : Char) : List Char :=
  if encoded c then (String.utf8EncodeChar c).flatMap percentByte else [c]

/-- Characters as they stand in a part that encodes the given ones. -/
def percentEncode (encoded : Char → Bool) (cs : List Char) : List Char :=
  cs.flatMap (percentChar encoded)

/-- The bytes of a text in which two hexadecimal digits behind a percent sign stand for a byte. -/
def percentDecode : List Char → List UInt8
  | '%' :: a :: b :: rest =>
    match Ascii.readBase? 16 [a, b] with
    | some n => UInt8.ofNat n :: percentDecode rest
    | none => Ascii.byte '%' :: percentDecode (a :: b :: rest)
  | c :: rest => String.utf8EncodeChar c ++ percentDecode rest
  | [] => []

end PurgeGateway.Net
