import PurgeGateway.Text.Ascii
import PurgeGateway.Text.Blank

/-!
# Sections of settings

A text of settings has named sections, each of them with settings under names. A name stands in
front of `=` or `:`. A value ends with its line; it may start with quoted parts, which may run over
several lines. A backslash starts an escape everywhere. A line whose first character is `;` or `#`
is a comment. Behind blanks these two start a name, which then may run over the end of its line, and
in a name or a value they are characters like others.

## Main definitions

* `Ini.Section`: a name, if there is one, and settings.
* `Ini.sections?`: the sections of a text, in order.
-/

namespace PurgeGateway.Ini

/-- A section: its name, which settings in front of all sections lack, and its settings. -/
structure Section where
  name : Option String
  settings : List (String × String) := []
  deriving DecidableEq, Repr, Inhabited

/-! ### Texts with escapes -/

/-- The number that four characters write, a plus sign in front admitted. -/
def codeOf? (digits : List Char) : Option Nat :=
  match digits with
  | '+' :: rest => Ascii.readBase? 16 rest
  | _ => Ascii.readBase? 16 digits

/-- The character with a number. -/
def numbered? (n : Nat) : Option Char :=
  if n.isValidChar then some (Char.ofNat n) else none

/-- What an escape of one letter stands for; a line break behind a backslash joins two lines. -/
def letter (c : Char) : List Char :=
  match c with
  | '0' => ['\x00']
  | 'a' => ['\x07']
  | 'b' => ['\x08']
  | 't' => ['\t']
  | 'r' => ['\r']
  | 'n' => ['\n']
  | '\n' => []
  | c => [c]

/-- The escape behind a backslash, and the rest. -/
def escape? (cs : List Char) : Option (List Char × List Char) :=
  match cs with
  | [] => none
  | 'x' :: a :: b :: c :: d :: rest =>
    ((codeOf? [a, b, c, d]).bind numbered?).map fun ch => ([ch], rest)
  | 'x' :: _ => none
  | c :: rest => some (letter c, rest)

theorem length_escape? {cs text rest : List Char} (h : escape? cs = some (text, rest)) :
    rest.length < cs.length := by
  unfold escape? at h
  split at h
  · simp at h
  · simp only [Option.map_eq_some_iff, Prod.mk.injEq] at h
    obtain ⟨_, _, _, rfl⟩ := h
    simp only [List.length_cons]; omega
  · simp at h
  · simp only [Option.some.injEq, Prod.mk.injEq] at h
    simp [h.2]

/-- The text up to a character that ends it, escapes worked off, behind `done`, which is backwards;
and the rest from that character on. The end of the whole text counts as such a character only if
`mayEnd` says so. -/
def textUntil? (ends : Char → Bool) (mayEnd : Bool) (done : List Char) :
    List Char → Option (List Char × List Char)
  | [] => if mayEnd then some (done.reverse, []) else none
  | c :: rest =>
    if ends c then some (done.reverse, c :: rest)
    else if c = '\\' then
      match _h : escape? rest with
      | none => none
      | some (text, more) => textUntil? ends mayEnd (text.reverse ++ done) more
    else textUntil? ends mayEnd (c :: done) rest
termination_by cs => cs.length
decreasing_by
  · have := length_escape? _h
    simp only [List.length_cons]; omega
  · simp

/-! ### Values -/

/-- The character ends a line. -/
def endsLine (c : Char) : Bool :=
  c == '\n' || c == '\r'

/-- A value from a place on, behind the parts in `done`, and the rest. Quoted parts come first and
are kept as they are; what follows them loses blanks at its end, and at its start too if no quoted
part came before. -/
def valueFrom? : Nat → Bool → List Char → List Char → Option (List Char × List Char)
  | 0, _, done, cs => some (done, cs)
  | fuel + 1, first, done, cs =>
    match cs with
    | [] => some (done, [])
    | c :: inner =>
      if c = '"' ∨ c = '\'' then
        match textUntil? (· == c) false [] inner with
        | some (part, _ :: rest) => valueFrom? fuel false (done ++ part) rest
        | _ => none
      else
        (textUntil? endsLine true [] cs).map fun (part, rest) =>
          (done ++ (if first then Text.trimChars part else Text.trimEndChars part), rest)

/-- The value behind an equals sign or a colon, and the rest from the end of its line on. -/
def value? (cs : List Char) : Option (String × List Char) :=
  let start := cs.dropWhile fun c => Text.isBlank c && !endsLine c
  (valueFrom? (start.length + 1) true [] start).map fun (v, rest) => (String.ofList v, rest)

/-! ### Sections -/

/-- Sections so far, the last one first. -/
abbrev Sofar := List Section

/-- The sections with a new one. -/
def Sofar.open (s : Sofar) (name : String) : Sofar :=
  { name := some name } :: s

/-- The sections with a setting more in the last one. -/
def Sofar.add (s : Sofar) (name value : String) : Sofar :=
  match s with
  | [] => [{ name := none, settings := [(name, value)] }]
  | last :: rest => { last with settings := last.settings ++ [(name, value)] } :: rest

/-- The character stands between a name and a value. -/
def isAssignment (c : Char) : Bool :=
  c == '=' || c == ':'

/-- The text without blanks at its start, and whether it then starts a line; `start` says whether
it did before. -/
def skipBlanks (start : Bool) : List Char → Bool × List Char
  | [] => (start, [])
  | c :: rest => if Text.isBlank c then skipBlanks (c == '\n') rest else (start, c :: rest)

/-- The sections of a text behind those so far. Each step passes over a character at least, so the
length of the text is fuel enough. -/
def sectionsFrom? : Nat → Sofar → Bool → List Char → Option Sofar
  | 0, _, _, _ => none
  | fuel + 1, s, start, cs =>
    match skipBlanks start cs with
    | (_, []) => some s
    | (start, c :: rest) =>
      if start ∧ (c = ';' ∨ c = '#') then
        sectionsFrom? fuel s true ((rest.dropWhile (· != '\n')).drop 1)
      else if c = '[' then
        match textUntil? (· == ']') false [] rest with
        | some (name, _ :: rest) =>
          sectionsFrom? fuel (Sofar.open s (String.ofList (Text.trimChars name))) false rest
        | _ => none
      else if isAssignment c then none
      else
        match textUntil? isAssignment false [] (c :: rest) with
        | some (name, _ :: rest) =>
          (value? rest).bind fun (value, rest) =>
            let name := String.ofList (Text.trimChars name)
            if name.isEmpty then none else sectionsFrom? fuel (Sofar.add s name value) false rest
        | _ => none

/-- The sections of a text in order. -/
def sections? (text : String) : Option (List Section) :=
  let cs := text.toList
  (sectionsFrom? (cs.length + 1) [] true cs).map List.reverse

end PurgeGateway.Ini
