import PurgeGateway.Json.Number
import PurgeGateway.Text.Utf8

/-!
# JSON texts, read

A reader takes a value off the front of a byte string and gives back the rest. Values may be
nested 127 deep. A string must be UTF-8 once its escapes are taken out, and an escaped surrogate
must be one of a pair.

## Main definitions

* `Json.readText?`: a string at the front, behind its first quote.
* `Json.read?`: the value of a whole byte string, members as written.
* `Json.parse?`: the same with each name once in every object.
-/

namespace PurgeGateway.Json

/-! ### Blanks and words -/

/-- The byte may stand between tokens. -/
def isBlankByte (b : UInt8) : Bool :=
  b == 0x20 || b == 0x0a || b == 0x0d || b == 0x09

/-- The text without blanks at the front. -/
def skipBlank (bs : List UInt8) : List UInt8 :=
  bs.dropWhile isBlankByte

/-- The bytes of a word of ASCII characters. -/
def word (s : String) : List UInt8 :=
  s.toList.map Ascii.byte

/-- The text behind a word that must stand at the front. -/
def readWord? (w bs : List UInt8) : Option (List UInt8) :=
  w.isPrefixOf? bs

/-! ### Strings -/

/-- The number of four hexadecimal digits. -/
def hexFour? (a b c d : UInt8) : Option Nat :=
  Ascii.readBase? 16 ([a, b, c, d].map fun x => Char.ofNat x.toNat)

/-- The character of a short escape. -/
def shortEscape? (b : UInt8) : Option Char :=
  if b = Ascii.byte '"' then some '"'
  else if b = Ascii.byte '\\' then some '\\'
  else if b = Ascii.byte '/' then some '/'
  else if b = Ascii.byte 'b' then some '\x08'
  else if b = Ascii.byte 'f' then some '\x0c'
  else if b = Ascii.byte 'n' then some '\n'
  else if b = Ascii.byte 'r' then some '\r'
  else if b = Ascii.byte 't' then some '\t'
  else none

/-- The character behind the low half of a pair whose high half is `high`. -/
def pairChar (high low : Nat) : Char :=
  Char.ofNat (0x10000 + (high - 0xd800) * 0x400 + (low - 0xdc00))

/-- The low surrogate that must follow a high one, written as an escape. -/
def readLow? : List UInt8 → Option (Nat × List UInt8)
  | backslash :: u :: a :: b :: c :: d :: rest =>
    match hexFour? a b c d with
    | some low =>
      if backslash = Ascii.byte '\\' ∧ u = Ascii.byte 'u' ∧ 0xdc00 ≤ low ∧ low ≤ 0xdfff then
        some (low, rest)
      else none
    | none => none
  | _ => none

/-- The character of four hexadecimal digits. A high surrogate takes the low one with it. -/
def readCode? : List UInt8 → Option (Char × List UInt8)
  | a :: b :: c :: d :: rest =>
    match hexFour? a b c d with
    | some n =>
      if 0xdc00 ≤ n ∧ n ≤ 0xdfff then none
      else if 0xd800 ≤ n ∧ n ≤ 0xdbff then
        match readLow? rest with
        | some (low, rest) => some (pairChar n low, rest)
        | none => none
      else some (Char.ofNat n, rest)
    | none => none
  | _ => none

/-- The escape behind a backslash: its character, and the text behind it. -/
def readEscape? : List UInt8 → Option (Char × List UInt8)
  | e :: rest =>
    if e = Ascii.byte 'u' then readCode? rest
    else
      match shortEscape? e with
      | some c => some (c, rest)
      | none => none
  | [] => none

theorem length_readLow? {bs rest : List UInt8} {n : Nat}
    (h : readLow? bs = some (n, rest)) : rest.length < bs.length := by
  unfold readLow? at h
  split at h
  · split at h
    · split at h
      · simp only [Option.some.injEq, Prod.mk.injEq] at h
        simp only [List.length_cons, h.2]; omega
      · simp at h
    · simp at h
  · simp at h

theorem length_readCode? {bs rest : List UInt8} {c : Char}
    (h : readCode? bs = some (c, rest)) : rest.length < bs.length := by
  unfold readCode? at h
  split at h
  · split at h
    · split at h
      · simp at h
      · split at h
        · split at h
          case h_1 low =>
            simp only [Option.some.injEq, Prod.mk.injEq] at h
            have := length_readLow? low
            simp only [List.length_cons, ← h.2]; omega
          · simp at h
        · simp only [Option.some.injEq, Prod.mk.injEq] at h
          simp only [List.length_cons, h.2]; omega
    · simp at h
  · simp at h

theorem length_readEscape? {bs rest : List UInt8} {c : Char}
    (h : readEscape? bs = some (c, rest)) : rest.length < bs.length := by
  unfold readEscape? at h
  split at h
  · split at h
    · exact Nat.lt_succ_of_lt (length_readCode? h)
    · split at h
      · simp only [Option.some.injEq, Prod.mk.injEq] at h
        simp [h.2]
      · simp at h
  · simp at h

/-- The bytes of a string up to its closing quote, escapes taken out, put in front of `done`,
which holds those before them backwards; and the text behind the quote. -/
def stringBytes? (done : List UInt8) : List UInt8 → Option (List UInt8 × List UInt8)
  | [] => none
  | b :: rest =>
    if b = Ascii.byte '"' then some (done.reverse, rest)
    else if b = Ascii.byte '\\' then
      match _h : readEscape? rest with
      | none => none
      | some (c, more) => stringBytes? ((String.utf8EncodeChar c).reverse ++ done) more
    else if b < 0x20 then none
    else stringBytes? (b :: done) rest
termination_by bs => bs.length
decreasing_by
  · have := length_readEscape? _h
    simp only [List.length_cons]; omega
  · simp

/-- The string behind an opening quote, and the text behind its closing one. -/
def readText? (bs : List UInt8) : Option (String × List UInt8) := do
  let (content, rest) ← stringBytes? [] bs
  let s ← Utf8.text? content
  some (s, rest)

/-! ### Values -/

/-- Items up to a closing bracket, each read by `item`, in front of `done`, which holds those
before them backwards. A comma stands between two items and nowhere else. -/
def readItems? (item : List UInt8 → Option (Json × List UInt8)) :
    Nat → List Json → List UInt8 → Option (List Json × List UInt8)
  | 0, _, _ => none
  | fuel + 1, done, bs => do
    let (j, rest) ← item bs
    match skipBlank rest with
    | b :: rest =>
      if b = Ascii.byte ',' then readItems? item fuel (j :: done) rest
      else if b = Ascii.byte ']' then some ((j :: done).reverse, rest)
      else none
    | [] => none

/-- A name with its colon. -/
def readName? (bs : List UInt8) : Option (String × List UInt8) := do
  let rest ← readWord? (word "\"") (skipBlank bs)
  let (name, rest) ← readText? rest
  let rest ← readWord? (word ":") (skipBlank rest)
  some (name, rest)

/-- Members up to a closing brace, their values read by `item`, in front of `done`, which holds
those before them backwards. -/
def readMembers? (item : List UInt8 → Option (Json × List UInt8)) :
    Nat → List (String × Json) → List UInt8 → Option (List (String × Json) × List UInt8)
  | 0, _, _ => none
  | fuel + 1, done, bs => do
    let (name, rest) ← readName? bs
    let (j, rest) ← item rest
    match skipBlank rest with
    | b :: rest =>
      if b = Ascii.byte ',' then readMembers? item fuel ((name, j) :: done) rest
      else if b = Ascii.byte '}' then some (((name, j) :: done).reverse, rest)
      else none
    | [] => none

/-- A value at the front of a text that may be nested `depth` deep, and the rest. -/
def readValue? : Nat → List UInt8 → Option (Json × List UInt8)
  | depth, bs =>
    match skipBlank bs with
    | [] => none
    | b :: rest =>
      if b = Ascii.byte '"' then (readText? rest).map fun (s, rest) => (.text s, rest)
      else if b = Ascii.byte 'n' then (readWord? (word "ull") rest).map ((.null, ·))
      else if b = Ascii.byte 't' then (readWord? (word "rue") rest).map ((.bool true, ·))
      else if b = Ascii.byte 'f' then (readWord? (word "alse") rest).map ((.bool false, ·))
      else if b = Ascii.byte '[' then
        match depth with
        | 0 => none
        | depth + 1 =>
          match skipBlank rest with
          | close :: more =>
            if close = Ascii.byte ']' then some (.array [], more)
            else (readItems? (readValue? depth) rest.length [] rest).map fun (js, rest) =>
              (.array js, rest)
          | [] => none
      else if b = Ascii.byte '{' then
        match depth with
        | 0 => none
        | depth + 1 =>
          match skipBlank rest with
          | close :: more =>
            if close = Ascii.byte '}' then some (.object [], more)
            else (readMembers? (readValue? depth) rest.length [] rest).map fun (ms, rest) =>
              (.object ms, rest)
          | [] => none
      else (Number.read? (b :: rest)).map fun (n, rest) => (.number n, rest)

/-- How deep values may be nested. -/
def maxDepth : Nat := 127

/-- The value that a whole byte string writes, members in order and repeated names kept. -/
def read? (bs : List UInt8) : Option Json :=
  match readValue? maxDepth bs with
  | some (j, rest) => if (skipBlank rest).isEmpty then some j else none
  | none => none

/-- The value that a whole byte string writes, with each name once in every object. -/
def parse? (bs : List UInt8) : Option Json :=
  (read? bs).map collapse

end PurgeGateway.Json
