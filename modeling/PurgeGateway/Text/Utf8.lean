/-!
# UTF-8

Reading bytes as characters goes sequence by sequence. `Utf8.next` takes one sequence off the
front: either a character, or the longest start of a sequence that no continuation can save. Both
ways of decoding follow from it: the strict one refuses a text with a spoilt sequence, the lenient
one puts `�` in the place of each.

## Main definitions

* `encode`: the bytes of characters.
* `scan`: the sequences of a byte string, spoilt ones as `none`.
* `decode?`: the characters, if no sequence is spoilt.
* `decodeLossy`: the characters, with `�` for each spoilt sequence.
-/

namespace PurgeGateway.Utf8

/-- The replacement character, shown for bytes that are no character. -/
def replacement : Char :=
  Char.ofNat 0xfffd

/-- The bytes of characters. -/
def encode (cs : List Char) : List UInt8 :=
  cs.flatMap String.utf8EncodeChar

/-- The bytes of a text. -/
def bytes (s : String) : List UInt8 :=
  encode s.toList

@[simp] theorem encode_nil : encode [] = [] := rfl

@[simp] theorem encode_append (a b : List Char) : encode (a ++ b) = encode a ++ encode b := by
  simp [encode]

/-! ### One sequence

The second byte of a sequence has a range of its own behind some first bytes; that is what keeps
out overlong forms, surrogates and numbers past the last character. -/

/-- The byte can continue a sequence. -/
def continues (b : UInt8) : Bool :=
  0x80 ≤ b && b ≤ 0xbf

/-- The byte can follow `first` in a sequence of three. -/
def secondOfThree (first b : UInt8) : Bool :=
  if first == 0xe0 then 0xa0 ≤ b && b ≤ 0xbf
  else if first == 0xed then 0x80 ≤ b && b ≤ 0x9f
  else continues b

/-- The byte can follow `first` in a sequence of four. -/
def secondOfFour (first b : UInt8) : Bool :=
  if first == 0xf0 then 0x90 ≤ b && b ≤ 0xbf
  else if first == 0xf4 then 0x80 ≤ b && b ≤ 0x8f
  else continues b

/-- The payload of a continuation byte. -/
def payload (b : UInt8) : Nat :=
  b.toNat % 64

/-- The first sequence of `b :: rest`: its character, or `none` if it is spoilt, and how many
bytes of `rest` belong to it. -/
def next (b : UInt8) (rest : List UInt8) : Option Char × Nat :=
  if b < 0x80 then (some (Char.ofNat b.toNat), 0)
  else if 0xc2 ≤ b && b ≤ 0xdf then
    match rest with
    | b1 :: _ =>
      if continues b1 then (some (Char.ofNat ((b.toNat % 32) * 64 + payload b1)), 1)
      else (none, 0)
    | [] => (none, 0)
  else if 0xe0 ≤ b && b ≤ 0xef then
    match rest with
    | b1 :: b2 :: _ =>
      if !secondOfThree b b1 then (none, 0)
      else if !continues b2 then (none, 1)
      else (some (Char.ofNat (((b.toNat % 16) * 64 + payload b1) * 64 + payload b2)), 2)
    | [b1] => (none, if secondOfThree b b1 then 1 else 0)
    | [] => (none, 0)
  else if 0xf0 ≤ b && b ≤ 0xf4 then
    match rest with
    | b1 :: b2 :: b3 :: _ =>
      if !secondOfFour b b1 then (none, 0)
      else if !continues b2 then (none, 1)
      else if !continues b3 then (none, 2)
      else (some (Char.ofNat
        ((((b.toNat % 8) * 64 + payload b1) * 64 + payload b2) * 64 + payload b3)), 3)
    | [b1, b2] =>
      (none, if !secondOfFour b b1 then 0 else if continues b2 then 2 else 1)
    | [b1] => (none, if secondOfFour b b1 then 1 else 0)
    | [] => (none, 0)
  else (none, 0)

/-! ### Whole byte strings -/

/-- The sequences of `bs` put in front of `done`, which holds those before them backwards. -/
def scanOnto (done : List (Option Char)) : List UInt8 → List (Option Char)
  | [] => done.reverse
  | b :: rest => scanOnto ((next b rest).1 :: done) (rest.drop (next b rest).2)
termination_by bs => bs.length
decreasing_by simp only [List.length_drop, List.length_cons]; omega

/-- The sequences of a byte string in order, each its character or `none` if it is spoilt. -/
def scan (bs : List UInt8) : List (Option Char) :=
  scanOnto [] bs

theorem scanOnto_eq (done : List (Option Char)) (bs : List UInt8) :
    scanOnto done bs = done.reverse ++ scan bs := by
  suffices h : ∀ done : List (Option Char), ∀ pre : List (Option Char),
      scanOnto (done ++ pre) bs = pre.reverse ++ scanOnto done bs by
    simpa [scan] using h [] done
  intro done pre
  fun_induction scanOnto done bs generalizing pre with
  | case1 done => simp [scanOnto]
  | case2 done b rest ih => rw [scanOnto]; exact ih pre

@[simp] theorem scan_nil : scan [] = [] := by simp [scan, scanOnto]

theorem scan_cons (b : UInt8) (rest : List UInt8) :
    scan (b :: rest) = (next b rest).1 :: scan (rest.drop (next b rest).2) := by
  rw [scan, scanOnto, scanOnto_eq]; simp

/-- The characters of a byte string, if it is UTF-8 throughout. -/
def decode? (bs : List UInt8) : Option (List Char) :=
  (scan bs).mapM id

/-- The characters of a byte string, with the replacement character for each spoilt sequence. -/
def decodeLossy (bs : List UInt8) : List Char :=
  (scan bs).map (·.getD replacement)

/-- The text of a byte string, if it is UTF-8 throughout. -/
def text? (bs : List UInt8) : Option String :=
  (decode? bs).map String.ofList

/-- The text of a byte string, with the replacement character for each spoilt sequence. -/
def textLossy (bs : List UInt8) : String :=
  String.ofList (decodeLossy bs)

end PurgeGateway.Utf8
