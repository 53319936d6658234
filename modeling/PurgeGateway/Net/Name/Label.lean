import PurgeGateway.Net.Name.Direction
import PurgeGateway.Net.Name.Joiner
import PurgeGateway.Net.Name.Spelling
import PurgeGateway.Net.Punycode
import PurgeGateway.Text.Composition
import PurgeGateway.Text.Mark

/-!
# Domain names in ASCII

A domain name is labels with dots between them. However it is written, it is read as characters
that names consist of, in their composed spelling. A label that is not ASCII is then given in its
ASCII form, behind a mark. A label that comes in its ASCII form stands for the one it is a form of,
which must be spelled as it would be read.

## Main definitions

* `Net.Name.label?`: the label that characters between dots stand for.
* `Net.Name.asciiForm?`: a label in ASCII.
* `Net.Name.ascii?`: a domain name in ASCII.
-/

namespace PurgeGateway.Net.Name

/-! ### Reading -/

/-- The composed spelling of what the characters of a name are read as. -/
def settle? (cs : List Char) : Option (List Char) :=
  (cs.mapM read?).map fun texts => Text.compose texts.flatten

/-- The character is ASCII. -/
def isAscii (c : Char) : Bool :=
  c.toNat < 0x80

/-- What the ASCII form of a label starts with. -/
def asciiMark : List Char := "xn--".toList

/-- The longest ASCII form of a label, without the mark, that is read. -/
def maxFormLength : Nat := 2000

/-- The longest label that has an ASCII form. -/
def maxLabelLength : Nat := 1000

/-- The label is spelled as it would be read. -/
def isSpelled (label : List Char) : Bool :=
  label.all isSettled && Text.compose label == label

/-- The label that an ASCII form stands for. -/
def labelOfForm? (form : List Char) : Option (List Char) :=
  if maxFormLength < form.length then none
  else
    (Punycode.decode? form).bind fun label =>
      if !label.all isAscii && isSpelled label && Punycode.encode label == form then some label
      else none

/-- The label that characters between dots stand for. -/
def label? (cs : List Char) : Option (List Char) :=
  match asciiMark.isPrefixOf? cs with
  | some form => if form.all isAscii then labelOfForm? form else none
  | none => some cs

/-! ### Labels that may stand in a name -/

/-- The label does not start with a mark, its joiners stand where they may, and it is not too long
for an ASCII form. -/
def isSound (label : List Char) : Bool :=
  label.all isAscii ||
    (!(label.head?.any Text.isMark) && keepsJoiners label && label.length ≤ maxLabelLength)

/-! ### Writing -/

/-- A label in ASCII. -/
def asciiForm (label : List Char) : List Char :=
  if label.all isAscii then label else asciiMark ++ Punycode.encode label

/-- The character may not stand in a name in ASCII. -/
def isDenied (c : Char) : Bool :=
  c.toNat ≤ 0x20 || 0x7e < c.toNat || "%#/:<>?@[\\]^|".toList.contains c

/-- The name with the given characters, in ASCII. -/
def ascii? (cs : List Char) : Option (List Char) := do
  let settled ← settle? cs
  let labels ← (settled.splitOn '.').mapM label?
  if !labels.all isSound || !keepsDirections labels then none
  else
    let name := ['.'].intercalate (labels.map asciiForm)
    if name.any isDenied then none else some name

end PurgeGateway.Net.Name
