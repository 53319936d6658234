/-!
# ASCII letters and digits

Field names, media types and hexadecimal escapes compare and read only the ASCII range, whatever
else a text holds. The functions here leave every other character alone.

## Main definitions

* `lowerText`: a text with its ASCII capitals made small.
* `sameLetters`: equality up to ASCII case.
* `hexDigit?`: the value of one hexadecimal digit.
-/

namespace PurgeGateway.Ascii

/-! ### Letter case

`Char.toLower` moves only `A` to `Z`, which is exactly the case folding wanted here. -/

/-- A text with `A` to `Z` made small and all else kept. -/
def lowerText (s : String) : String :=
  String.ofList (s.toList.map Char.toLower)

/-- Equality of two texts up to the case of ASCII letters. -/
def sameLetters (a b : String) : Bool :=
  lowerText a == lowerText b

@[simp] theorem toList_lowerText (s : String) :
    (lowerText s).toList = s.toList.map Char.toLower := by
  simp [lowerText]

theorem sameLetters_iff {a b : String} :
    sameLetters a b = true ↔ a.toList.map Char.toLower = b.toList.map Char.toLower := by
  rw [sameLetters, beq_iff_eq, ← String.toList_inj, toList_lowerText, toList_lowerText]

/-- Only a capital is changed. -/
theorem toLower_cases (c : Char) : c.toLower = c ∨ ∃ n < 26, c = Char.ofNat (65 + n) := by
  delta Char.toLower
  split
  · next hcapital =>
    have hleast : 65 ≤ c.toNat := UInt32.le_iff_toNat_le.mp hcapital.1
    have hgreatest : c.toNat ≤ 90 := UInt32.le_iff_toNat_le.mp hcapital.2
    refine .inr ⟨c.toNat - 65, by omega, ?_⟩
    rw [Nat.add_sub_cancel' hleast, Char.ofNat_toNat]
  · exact .inl rfl

/-! ### Bytes of ASCII characters -/

/-- The byte of an ASCII character. -/
def byte (c : Char) : UInt8 :=
  UInt8.ofNat c.toNat

/-- The byte is one of `0` to `9`. -/
def isDigit (b : UInt8) : Bool :=
  byte '0' ≤ b && b ≤ byte '9'

/-- The value of the digit byte `b`. -/
def digitValue (b : UInt8) : Nat :=
  b.toNat - (byte '0').toNat

/-! ### Numbers in a base -/

/-- The value of a hexadecimal digit in either case. -/
def hexDigit? (c : Char) : Option Nat :=
  if '0' ≤ c ∧ c ≤ '9' then some (c.toNat - '0'.toNat)
  else if 'a' ≤ c ∧ c ≤ 'f' then some (c.toNat - 'a'.toNat + 10)
  else if 'A' ≤ c ∧ c ≤ 'F' then some (c.toNat - 'A'.toNat + 10)
  else none

/-- The digit that stands for `n < 16`, with small letters. -/
def hexDigit (n : Nat) : Char :=
  if n < 10 then Char.ofNat ('0'.toNat + n) else Char.ofNat ('a'.toNat + (n - 10))

/-- The digit that stands for `n < 16`, with capital letters. -/
def hexCapital (n : Nat) : Char :=
  (hexDigit n).toUpper

/-- The number that a non-empty run of digits of base `base ≤ 16` writes. -/
def readBase? (base : Nat) (digits : List Char) : Option Nat :=
  if digits.isEmpty then none
  else digits.foldlM
    (fun acc c => (hexDigit? c).bind fun d => if d < base then some (acc * base + d) else none) 0

/-- The decimal digits of `n`, without leading zeros. -/
def decimal (n : Nat) : String :=
  String.ofList (Nat.toDigits 10 n)

/-- The hexadecimal digits of `n` in small letters, without leading zeros. -/
def hexadecimal (n : Nat) : String :=
  String.ofList (Nat.toDigits 16 n)

/-- The number written with `width` hexadecimal digits at least. -/
def hexPadded (width n : Nat) : List Char :=
  let digits := Nat.toDigits 16 n
  List.replicate (width - digits.length) '0' ++ digits

end PurgeGateway.Ascii
