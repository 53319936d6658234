import PurgeGateway.Json.Reader

/-!
# Outlines of JSON texts

A reader that wants a few members of an object need not read the others. An outline gives the
outermost names or items of a text, each with the stretch of bytes that its value takes up. The
stretch is found by the grammar alone: what strings hold is not looked at as long as each escape
is one, and values may be nested as deep as they like.

## Main definitions

* `Json.skim?`: the text behind the value at its front.
* `Json.Stretch`: the bytes of one value inside a text.
* `Json.Outline`: the outermost names or items of a text.
* `Json.outline?`: the outline of a whole byte string.
-/

namespace PurgeGateway.Json

/-! ### Passing over strings -/

/-- The text behind the escape at its front, given without its backslash. -/
def skimEscape? : List UInt8 → Option (List UInt8)
  | e :: rest =>
    if e = Ascii.byte 'u' then
      match rest with
      | a :: b :: c :: d :: rest => (hexFour? a b c d).map fun _ => rest
      | _ => none
    else (shortEscape? e).map fun _ => rest
  | [] => none

theorem length_skimEscape? {bs rest : List UInt8} (h : skimEscape? bs = some rest) :
    rest.length < bs.length := by
  unfold skimEscape? at h
  split at h
  · split at h
    · split at h
      · simp only [Option.map_eq_some_iff] at h
        obtain ⟨_, _, rfl⟩ := h
        simp only [List.length_cons]; omega
      · simp at h
    · simp only [Option.map_eq_some_iff] at h
      obtain ⟨_, _, rfl⟩ := h
      simp
  · simp at h

/-- The text behind the closing quote of a string. -/
def skimText? : List UInt8 → Option (List UInt8)
  | [] => none
  | b :: rest =>
    if b = Ascii.byte '"' then some rest
    else if b = Ascii.byte '\\' then
      match _h : skimEscape? rest with
      | none => none
      | some more => skimText? more
    else if b < 0x20 then none
    else skimText? rest
termination_by bs => bs.length
decreasing_by
  · have := length_skimEscape? _h
    simp only [List.length_cons]; omega
  · simp

/-! ### Passing over values -/

/-- A bracket or a brace that is open. -/
inductive Frame
  | array
  | object
  deriving DecidableEq, Repr

/-- The byte that closes a frame. -/
def Frame.close : Frame → UInt8
  | .array => Ascii.byte ']'
  | .object => Ascii.byte '}'

/-- The text behind a name and its colon, strings passed over. -/
def skimName? (bs : List UInt8) : Option (List UInt8) := do
  let rest ← readWord? (word "\"") (skipBlank bs)
  let rest ← skimText? rest
  readWord? (word ":") (skipBlank rest)

/-- The text at which a value inside the frame starts. -/
def Frame.toValue? (f : Frame) (bs : List UInt8) : Option (List UInt8) :=
  match f with
  | .array => some bs
  | .object => skimName? bs

/-- The frame that a byte opens. -/
def Frame.ofOpen? (b : UInt8) : Option Frame :=
  if b = Ascii.byte '[' then some .array
  else if b = Ascii.byte '{' then some .object
  else none

/-- The text behind a value that is no array and no object. -/
def skimScalar? (bs : List UInt8) : Option (List UInt8) :=
  match bs with
  | [] => none
  | b :: rest =>
    if b = Ascii.byte '"' then skimText? rest
    else if b = Ascii.byte 'n' then readWord? (word "ull") rest
    else if b = Ascii.byte 't' then readWord? (word "rue") rest
    else if b = Ascii.byte 'f' then readWord? (word "alse") rest
    else (Number.spelled bs).map (·.2)

mutual

/-- The text behind the value at the front and everything that closes the open frames. Each step
passes over a byte at least, so the length of the text is fuel enough. -/
def skimValue? : Nat → List Frame → List UInt8 → Option (List UInt8)
  | 0, _, _ => none
  | fuel + 1, frames, bs =>
    match skipBlank bs with
    | [] => none
    | b :: rest =>
      match Frame.ofOpen? b with
      | some f =>
        match skipBlank rest with
        | [] => none
        | c :: more =>
          if c = f.close then skimAfter? fuel frames more
          else (f.toValue? (c :: more)).bind fun more => skimValue? fuel (f :: frames) more
      | none => (skimScalar? (b :: rest)).bind fun more => skimAfter? fuel frames more

/-- The text behind everything that closes the open frames, given the text behind a value. -/
def skimAfter? : Nat → List Frame → List UInt8 → Option (List UInt8)
  | _, [], bs => some bs
  | 0, _ :: _, _ => none
  | fuel + 1, f :: frames, bs =>
    match skipBlank bs with
    | [] => none
    | b :: rest =>
      if b = f.close then skimAfter? fuel frames rest
      else if b = Ascii.byte ',' then
        (f.toValue? rest).bind fun more => skimValue? fuel (f :: frames) more
      else none

end

/-- The text behind the value at its front. -/
def skim? (bs : List UInt8) : Option (List UInt8) :=
  skimValue? (bs.length + 1) [] bs

/-! ### Outlines -/

/-- One value inside a text: the text from its start on, and the text behind it. -/
structure Stretch where
  start : List UInt8
  behind : List UInt8
  deriving DecidableEq, Repr

/-- The bytes of the value. -/
def Stretch.bytes (s : Stretch) : List UInt8 :=
  s.start.take (s.start.length - s.behind.length)

/-- The value, if it can be read. -/
def Stretch.value? (s : Stretch) : Option Json :=
  Json.read? s.bytes

/-- The outermost names or items of a text. -/
inductive Outline
  | array (items : List Stretch)
  | object (members : List (String × Stretch))
  deriving DecidableEq, Repr

/-- The items up to a closing bracket, behind those given backwards, and the text behind it. -/
def outlineItems? : Nat → List Stretch → List UInt8 → Option (List Stretch × List UInt8)
  | 0, _, _ => none
  | fuel + 1, done, bs => do
    let behind ← skim? bs
    match skipBlank behind with
    | b :: rest =>
      if b = Ascii.byte ',' then outlineItems? fuel (⟨bs, behind⟩ :: done) rest
      else if b = Ascii.byte ']' then some ((⟨bs, behind⟩ :: done).reverse, rest)
      else none
    | [] => none

/-- The members up to a closing brace, behind those given backwards, and the text behind it. -/
def outlineMembers? :
    Nat → List (String × Stretch) → List UInt8 → Option (List (String × Stretch) × List UInt8)
  | 0, _, _ => none
  | fuel + 1, done, bs => do
    let (name, start) ← readName? bs
    let behind ← skim? start
    match skipBlank behind with
    | b :: rest =>
      if b = Ascii.byte ',' then outlineMembers? fuel ((name, ⟨start, behind⟩) :: done) rest
      else if b = Ascii.byte '}' then some (((name, ⟨start, behind⟩) :: done).reverse, rest)
      else none
    | [] => none

/-- The outline of the array or object at the front of a text, and the text behind it. -/
def readOutline? (bs : List UInt8) : Option (Outline × List UInt8) :=
  match skipBlank bs with
  | [] => none
  | b :: rest =>
    match Frame.ofOpen? b with
    | none => none
    | some f =>
      match f, skipBlank rest with
      | _, [] => none
      | .array, c :: more =>
        if c = f.close then some (.array [], more)
        else (outlineItems? rest.length [] rest).map fun (items, more) => (.array items, more)
      | .object, c :: more =>
        if c = f.close then some (.object [], more)
        else (outlineMembers? rest.length [] rest).map fun (ms, more) => (.object ms, more)

/-- The outline of a whole byte string that writes an array or an object. -/
def outline? (bs : List UInt8) : Option Outline :=
  match readOutline? bs with
  | some (outline, rest) => if (skipBlank rest).isEmpty then some outline else none
  | none => none

end PurgeGateway.Json
