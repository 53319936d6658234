/-!
# References to the environment

A text may refer to variables of the environment as `$NAME` or `${NAME}`. Each reference is
replaced by the value of its variable, or by nothing if the variable is not set. What a value holds
is not looked at again. A dollar sign that starts no reference stays.

## Main definitions

* `Environment.referenceAt?`: the reference at the front of a text.
* `Environment.pieces`: a text as characters and references.
* `Environment.expand`: a text with its references replaced.
-/

namespace PurgeGateway.Environment

/-- The values of variables. -/
abbrev Lookup := String → Option String

/-! ### Names -/

/-- The character can start the name of a variable. -/
def startsName (c : Char) : Bool :=
  c.isAlpha || c == '_'

/-- The character can stand in the name of a variable. -/
def inName (c : Char) : Bool :=
  startsName c || c.isDigit

/-- The name at the front of a text, and the rest. -/
def nameAt? (cs : List Char) : Option (String × List Char) :=
  match cs with
  | c :: rest =>
    if startsName c then some (String.ofList (c :: rest.takeWhile inName), rest.dropWhile inName)
    else none
  | [] => none

theorem length_nameAt? {cs rest : List Char} {name : String} (h : nameAt? cs = some (name, rest)) :
    rest.length < cs.length := by
  unfold nameAt? at h
  split at h
  · split at h
    · simp only [Option.some.injEq, Prod.mk.injEq] at h
      rw [← h.2, List.length_cons]
      exact Nat.lt_succ_of_le (List.dropWhile_sublist _).length_le
    · simp at h
  · simp at h

/-! ### References -/

/-- The name between braces at the front of a text, and the text behind the closing brace. -/
def bracedAt? (cs : List Char) : Option (String × List Char) :=
  match nameAt? cs with
  | some (name, '}' :: rest) => some (name, rest)
  | _ => none

/-- The reference behind a dollar sign: its name, and the text behind it. -/
def referenceAt? (cs : List Char) : Option (String × List Char) :=
  match cs with
  | '{' :: inner => bracedAt? inner
  | _ => nameAt? cs

theorem length_referenceAt? {cs rest : List Char} {name : String}
    (h : referenceAt? cs = some (name, rest)) : rest.length < cs.length := by
  unfold referenceAt? at h
  split at h
  · unfold bracedAt? at h
    split at h
    case h_1 found =>
      have := length_nameAt? found
      simp only [Option.some.injEq, Prod.mk.injEq] at h
      simp only [List.length_cons, h.2] at this ⊢
      omega
    · simp at h
  · exact length_nameAt? h

/-! ### Pieces of a text -/

/-- A piece of a text: a character that stands for itself, or a reference to a variable. -/
inductive Piece
  | plain (c : Char)
  | reference (name : String)
  deriving DecidableEq, Repr, Inhabited

/-- The pieces of a text. -/
def pieces : List Char → List Piece
  | [] => []
  | '$' :: rest =>
    match _h : referenceAt? rest with
    | some (name, behind) => .reference name :: pieces behind
    | none => .plain '$' :: pieces rest
  | c :: rest => .plain c :: pieces rest
termination_by cs => cs.length
decreasing_by
  · have := length_referenceAt? _h
    simp only [List.length_cons]; omega
  · simp
  · simp

/-- The name that a piece refers to. -/
def Piece.name? : Piece → Option String
  | .plain _ => none
  | .reference name => some name

/-- The names that a text refers to. -/
def names (s : String) : List String :=
  (pieces s.toList).filterMap Piece.name?

/-! ### Expansion -/

/-- What stands in the place of a piece. A variable that is not set has no text. -/
def Piece.expand (lookup : Lookup) : Piece → List Char
  | .plain c => [c]
  | .reference name => ((lookup name).getD "").toList

/-- The text with each reference replaced by the value of its variable. -/
def expand (lookup : Lookup) (s : String) : String :=
  String.ofList ((pieces s.toList).flatMap (Piece.expand lookup))

end PurgeGateway.Environment
