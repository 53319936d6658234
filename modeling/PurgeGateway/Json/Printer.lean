import PurgeGateway.Json.Basic

/-!
# JSON texts, written

A value is written without blanks, members in their order. A string is written with the short
escapes where JSON has one, with `\u` and four small hexadecimal digits for the other controls,
and with every other character as itself.

## Main definitions

* `Json.escape`: how one character stands inside a string.
* `Json.render`: the characters of a value.
* `Json.compact`: the same as a text.
-/

namespace PurgeGateway.Json

/-! ### Strings -/

/-- How a character stands inside a string. -/
def escape (c : Char) : List Char :=
  if c == '"' then ['\\', '"']
  else if c == '\\' then ['\\', '\\']
  else if c == '\n' then ['\\', 'n']
  else if c == '\r' then ['\\', 'r']
  else if c == '\t' then ['\\', 't']
  else if c == '\x08' then ['\\', 'b']
  else if c == '\x0c' then ['\\', 'f']
  else if c.toNat < 0x20 then ['\\', 'u'] ++ Ascii.hexPadded 4 c.toNat
  else [c]

/-- A string with its quotes. -/
def renderText (s : String) : List Char :=
  '"' :: s.toList.flatMap escape ++ ['"']

/-! ### Values -/

/-- The text of a number. -/
def Number.render : Number → String
  | .integer z => toString z
  | .real x => x.render

mutual

/-- The characters of a value. -/
def render : Json → List Char
  | .null => "null".toList
  | .bool b => if b then "true".toList else "false".toList
  | .number n => n.render.toList
  | .text s => renderText s
  | .array items => '[' :: renderItems true items
  | .object members => '{' :: renderMembers true members

/-- The items of an array up to its bracket, with a comma before each but the first. -/
def renderItems (first : Bool) : List Json → List Char
  | [] => [']']
  | j :: rest => (if first then [] else [',']) ++ render j ++ renderItems false rest

/-- The members of an object up to its brace, with a comma before each but the first. -/
def renderMembers (first : Bool) : List (String × Json) → List Char
  | [] => ['}']
  | (n, j) :: rest =>
    (if first then [] else [',']) ++ renderText n ++ ':' :: (render j ++ renderMembers false rest)

end

/-- The text of a value. -/
def compact (j : Json) : String :=
  String.ofList j.render

end PurgeGateway.Json
