import PurgeGateway.Text.Ascii
import PurgeGateway.Text.Printable

/-!
# Quoted text for diagnostics

Diagnostic output shows a text between double quotes, on one line, with nothing invisible in it.

## Main definitions

* `quotedChar`: how one character stands between the quotes.
* `quote`: the whole text with its quotes.
-/

namespace PurgeGateway.Text

/-- How a character stands between the quotes: the six short escapes, the character itself, or
its number in hexadecimal. -/
def quotedChar (c : Char) : List Char :=
  if c == '\x00' then ['\\', '0']
  else if c == '\t' then ['\\', 't']
  else if c == '\n' then ['\\', 'n']
  else if c == '\r' then ['\\', 'r']
  else if c == '"' then ['\\', '"']
  else if c == '\\' then ['\\', '\\']
  else if isShown c then [c]
  else ['\\', 'u', '{'] ++ Nat.toDigits 16 c.toNat ++ ['}']

/-- The text between double quotes, with escapes for what a reader could not see. -/
def quote (s : String) : String :=
  String.ofList ('"' :: s.toList.flatMap quotedChar ++ ['"'])

end PurgeGateway.Text
