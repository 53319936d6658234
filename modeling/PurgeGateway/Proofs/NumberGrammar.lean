import PurgeGateway.Json.Number
import PurgeGateway.Json.Printer
import PurgeGateway.Proofs.Encoding
import Mathlib.Data.List.TakeDrop
import Mathlib.Data.List.TakeWhile

/-!
# The grammar of JSON numbers

A number is spelled by a sign or none, digits without a zero in front of them, a point with digits
or none, and an exponent or none. The reader takes a number off the front of a text; where it stops
is fixed by the byte behind it, so a number is read back in front of everything that cannot go on
with it.

## Main definitions

* `Number.IsDigits`, `Number.IsWhole`: digits, and those that may stand in front of the point.
* `Number.Spells`: the texts that spell a number with the given parts.
* `Number.Stops`: a text that does not go on with a number.

## Main results

* `Number.spells_of_spelled`: what the reader takes off spells what it gives.
* `Number.spelled_append`: what spells a number is taken off whole.
* `Number.value?_decimal`: natural numbers of 64 bits are what their digits stand for.
-/

namespace PurgeGateway.Json.Number

variable {bs ds rest : List UInt8}

/-! ### Digits -/

/-- The bytes are digits, one at least. -/
structure IsDigits (ds : List UInt8) : Prop where
  nonempty : ds ≠ []
  digits : ∀ b ∈ ds, Ascii.isDigit b = true

/-- The bytes are digits that may stand in front of the point: a zero only by itself. -/
structure IsWhole (ds : List UInt8) : Prop extends IsDigits ds where
  leading : ds.head? = some (Ascii.byte '0') → ds = [Ascii.byte '0']

theorem digits_eq (bs : List UInt8) :
    digits bs = (bs.takeWhile Ascii.isDigit, bs.dropWhile Ascii.isDigit) :=
  List.span_eq_takeWhile_dropWhile _ _

theorem append_of_digits (h : digits bs = (ds, rest)) :
    ds ++ rest = bs ∧ ∀ b ∈ ds, Ascii.isDigit b = true := by
  rw [digits_eq] at h
  obtain ⟨rfl, rfl⟩ := Prod.mk.inj h
  exact ⟨List.takeWhile_append_dropWhile, fun b hb => List.mem_takeWhile_imp hb⟩

theorem digits_append (hds : ∀ b ∈ ds, Ascii.isDigit b = true)
    (hrest : ∀ b ∈ rest.head?, Ascii.isDigit b = false) : digits (ds ++ rest) = (ds, rest) := by
  rw [digits_eq, List.takeWhile_append_of_pos hds, List.dropWhile_append_of_pos hds]
  cases rest with
  | nil => simp
  | cons b rest => simp [hrest b rfl]

/-! ### Parts -/

/-- How the part behind the point is spelled. -/
inductive SpellsFraction : Option (List UInt8) → List UInt8 → Prop
  | absent : SpellsFraction none []
  | present {ds : List UInt8} (h : IsDigits ds) : SpellsFraction (some ds) (Ascii.byte '.' :: ds)

/-- How the exponent is spelled. -/
inductive SpellsPower : Option (Bool × List UInt8) → List UInt8 → Prop
  | absent : SpellsPower none []
  | bare {mark : UInt8} {ds : List UInt8} (hmark : mark = Ascii.byte 'e' ∨ mark = Ascii.byte 'E')
      (h : IsDigits ds) : SpellsPower (some (false, ds)) (mark :: ds)
  | plus {mark : UInt8} {ds : List UInt8} (hmark : mark = Ascii.byte 'e' ∨ mark = Ascii.byte 'E')
      (h : IsDigits ds) : SpellsPower (some (false, ds)) (mark :: Ascii.byte '+' :: ds)
  | minus {mark : UInt8} {ds : List UInt8} (hmark : mark = Ascii.byte 'e' ∨ mark = Ascii.byte 'E')
      (h : IsDigits ds) : SpellsPower (some (true, ds)) (mark :: Ascii.byte '-' :: ds)

/-- How a sign is spelled. -/
def signText (negative : Bool) : List UInt8 :=
  if negative then [Ascii.byte '-'] else []

/-- The texts that spell a number with the given parts. -/
inductive Spells : Spelling → List UInt8 → Prop
  | mk {negative : Bool} {whole : List UInt8} {fraction : Option (List UInt8)}
      {power : Option (Bool × List UInt8)} {behindPoint exponent : List UInt8}
      (hwhole : IsWhole whole) (hfraction : SpellsFraction fraction behindPoint)
      (hpower : SpellsPower power exponent) :
    Spells ⟨negative, whole, fraction, power⟩
      (signText negative ++ (whole ++ (behindPoint ++ exponent)))

/-- The text does not go on with a number. -/
def Stops (rest : List UInt8) : Prop :=
  ∀ b ∈ rest.head?, Ascii.isDigit b = false ∧ b ≠ Ascii.byte '.' ∧ b ≠ Ascii.byte 'e' ∧
    b ≠ Ascii.byte 'E'

/-! ### What is read is spelled -/

theorem isDigits_of_digits (h : digits bs = (ds, rest)) (hds : ¬ds.isEmpty = true) :
    IsDigits ds :=
  ⟨by simpa using hds, (append_of_digits h).2⟩

theorem spellsFraction_of_fraction? {fraction : Option (List UInt8)}
    (h : fraction? bs = some (fraction, rest)) :
    ∃ front, bs = front ++ rest ∧ SpellsFraction fraction front := by
  unfold fraction? at h
  split at h
  · next b more =>
    split at h
    · next hpoint =>
      split at h
      next ds behind hdigits =>
      split at h
      · cases h
      · next hds =>
        cases h
        refine ⟨b :: ds, ?_, hpoint ▸ .present (isDigits_of_digits hdigits hds)⟩
        rw [List.cons_append, (append_of_digits hdigits).1]
    · cases h
      exact ⟨[], rfl, .absent⟩
  · cases h
    exact ⟨[], rfl, .absent⟩

theorem spellsPower_of_power? {power : Option (Bool × List UInt8)}
    (h : power? bs = some (power, rest)) :
    ∃ front, bs = front ++ rest ∧ SpellsPower power front := by
  unfold power? at h
  split at h
  · next b more =>
    split at h
    · next hmark =>
      split at h
      next negative behindSign hsign =>
      split at h
      next ds behind hdigits =>
      split at h
      · cases h
      · next hds =>
        cases h
        have hspelled := isDigits_of_digits hdigits hds
        have happend := (append_of_digits hdigits).1
        split at hsign
        · split at hsign
          · next hplus =>
            cases hsign
            exact ⟨_, by rw [hplus, ← happend]; rfl, .plus hmark hspelled⟩
          · split at hsign
            · next hminus =>
              cases hsign
              exact ⟨_, by rw [hminus, ← happend]; rfl, .minus hmark hspelled⟩
            · cases hsign
              exact ⟨_, by rw [← happend]; rfl, .bare hmark hspelled⟩
        · cases hsign
          exact ⟨_, by rw [← happend]; rfl, .bare hmark hspelled⟩
    · cases h
      exact ⟨[], rfl, .absent⟩
  · cases h
    exact ⟨[], rfl, .absent⟩

/-- **What is read is spelled.** -/
theorem spells_of_spelled {s : Spelling} (h : spelled bs = some (s, rest)) :
    ∃ front, bs = front ++ rest ∧ Spells s front := by
  unfold spelled at h
  split at h
  next negative behindSign hsign =>
  have hbs : bs = signText negative ++ behindSign := by
    split at hsign
    · split at hsign
      · next hminus => cases hsign; rw [hminus]; rfl
      · cases hsign; rfl
    · cases hsign; rfl
  split at h
  next whole behindWhole hdigits =>
  split at h
  · cases h
  · next hwhole =>
    rw [not_or, not_and] at hwhole
    simp only [Option.bind_eq_bind, Option.bind_eq_some_iff, Prod.exists] at h
    obtain ⟨fraction, behindFraction, hfraction, power, behindPower, hpower, heq⟩ := h
    obtain ⟨rfl, rfl⟩ := Prod.mk.inj (Option.some.inj heq)
    obtain ⟨point, rfl, hpoint⟩ := spellsFraction_of_fraction? hfraction
    obtain ⟨exponent, rfl, hexponent⟩ := spellsPower_of_power? hpower
    have hleading : whole.head? = some (Ascii.byte '0') → whole = [Ascii.byte '0'] := by
      intro hzero
      match whole, hwhole, hzero with
      | [_], _, hzero => rw [List.head?_cons] at hzero; rw [Option.some.inj hzero]
      | _ :: _ :: _, hwhole, hzero =>
        exact absurd hzero (hwhole.2 (by simp))
    refine ⟨_, ?_, .mk ⟨isDigits_of_digits hdigits hwhole.1, hleading⟩ hpoint hexponent⟩
    rw [hbs, ← (append_of_digits hdigits).1]
    simp only [List.append_assoc]

/-! ### What is spelled is read -/

section
variable {fraction : Option (List UInt8)} {power : Option (Bool × List UInt8)}
  {front : List UInt8}

theorem fraction?_append (h : SpellsFraction fraction front)
    (hdigit : ∀ b ∈ rest.head?, Ascii.isDigit b = false)
    (hpoint : ∀ b ∈ rest.head?, b ≠ Ascii.byte '.') :
    fraction? (front ++ rest) = some (fraction, rest) := by
  cases h with
  | absent =>
    cases rest with
    | nil => rfl
    | cons b rest => rw [List.nil_append, fraction?, if_neg (hpoint b rfl)]
  | present hds =>
    rw [List.cons_append, fraction?, if_pos rfl, digits_append hds.digits hdigit]
    simp [hds.nonempty]

/-- A digit is no sign. -/
theorem ne_sign_of_isDigits (h : IsDigits ds) {b : UInt8} {more : List UInt8}
    (hds : ds = b :: more) : b ≠ Ascii.byte '+' ∧ b ≠ Ascii.byte '-' := by
  have hb := h.digits b (by rw [hds]; exact List.mem_cons_self)
  constructor <;> rintro rfl <;> revert hb <;> decide

theorem power?_append (h : SpellsPower power front) (hrest : Stops rest) :
    power? (front ++ rest) = some (power, rest) := by
  have hdigit : ∀ b ∈ rest.head?, Ascii.isDigit b = false := fun b hb => (hrest b hb).1
  rw [power?.eq_def]
  cases h with
  | absent =>
    cases rest with
    | nil => rfl
    | cons b rest =>
      obtain ⟨-, -, hsmall, hcapital⟩ := hrest b rfl
      simp [hsmall, hcapital]
  | bare hmark hds =>
    obtain ⟨b, more, hb⟩ := List.exists_cons_of_ne_nil hds.nonempty
    obtain ⟨hplus, hminus⟩ := ne_sign_of_isDigits hds hb
    have hdigits : digits (b :: (more ++ rest)) = (b :: more, rest) := by
      rw [← List.cons_append, ← hb]
      exact digits_append hds.digits hdigit
    simp [hb, hmark, hplus, hminus, hdigits]
  | plus hmark hds =>
    simp [hmark, digits_append hds.digits hdigit, hds.nonempty]
  | minus hmark hds =>
    have hminus : Ascii.byte '-' ≠ Ascii.byte '+' := by decide
    simp [hmark, hminus, digits_append hds.digits hdigit, hds.nonempty]

/-- An exponent, or what is behind it, starts with no digit and no point. -/
theorem head?_power_append (h : SpellsPower power front) (hrest : Stops rest) :
    ∀ b ∈ (front ++ rest).head?, Ascii.isDigit b = false ∧ b ≠ Ascii.byte '.' := by
  intro b hb
  cases h with
  | absent => exact ⟨(hrest b hb).1, (hrest b hb).2.1⟩
  | bare hmark _ | plus hmark _ | minus hmark _ =>
    obtain rfl := Option.some.inj hb
    rcases hmark with rfl | rfl <;> decide

/-- A point, or what is behind it, is no digit. -/
theorem head?_fraction_append (h : SpellsFraction fraction front)
    (hrest : ∀ b ∈ rest.head?, Ascii.isDigit b = false) :
    ∀ b ∈ (front ++ rest).head?, Ascii.isDigit b = false := by
  intro b hb
  cases h with
  | absent => exact hrest b hb
  | present _ =>
    obtain rfl := Option.some.inj hb
    decide

/-- **What is spelled is read**, in front of everything that does not go on with a number. -/
theorem spelled_append {s : Spelling} (h : Spells s front) (hrest : Stops rest) :
    spelled (front ++ rest) = some (s, rest) := by
  obtain @⟨negative, whole, fraction, power, point, exponent, hwhole, hfraction, hpower⟩ := h
  have hhead := head?_power_append hpower hrest
  have hdigits : digits (whole ++ (point ++ (exponent ++ rest)))
      = (whole, point ++ (exponent ++ rest)) :=
    digits_append hwhole.digits (head?_fraction_append hfraction fun b hb => (hhead b hb).1)
  have hleading : 1 < whole.length → whole.head? ≠ some (Ascii.byte '0') := by
    intro hlong hzero
    rw [hwhole.leading hzero] at hlong
    exact absurd hlong (by decide)
  have hbehind := fraction?_append hfraction (fun b hb => (hhead b hb).1) fun b hb => (hhead b hb).2
  obtain ⟨b, more, rfl⟩ := List.exists_cons_of_ne_nil hwhole.nonempty
  have hsign : b ≠ Ascii.byte '-' := (ne_sign_of_isDigits hwhole.toIsDigits rfl).2
  rw [List.cons_append] at hdigits
  simp only [List.append_assoc, List.cons_append]
  unfold spelled
  cases negative with
  | true => simpa [signText, hdigits, hbehind, power?_append hpower hrest] using hleading
  | false => simpa [signText, hsign, hdigits, hbehind, power?_append hpower hrest] using hleading

end

/-! ### Natural numbers -/

/-- A natural number as it is written. -/
def decimal (n : Nat) : List UInt8 :=
  (Nat.toDigits 10 n).map Ascii.byte

theorem toNat_of_isDigit {c : Char} (h : c.isDigit = true) : 48 ≤ c.toNat ∧ c.toNat ≤ 57 := by
  rw [Char.isDigit, Bool.and_eq_true, decide_eq_true_eq, decide_eq_true_eq] at h
  exact ⟨UInt32.le_iff_toNat_le.mp h.1, UInt32.le_iff_toNat_le.mp h.2⟩

theorem isDigit_byte {c : Char} (h : c.isDigit = true) :
    Ascii.isDigit (Ascii.byte c) = true ∧
      Ascii.digitValue (Ascii.byte c) = c.toNat - '0'.toNat := by
  obtain ⟨hlow, hhigh⟩ := toNat_of_isDigit h
  have hbyte : (Ascii.byte c).toNat = c.toNat :=
    UInt8.toNat_ofNat_of_lt' (Nat.lt_of_le_of_lt hhigh (by decide))
  constructor
  · rw [Ascii.isDigit, Bool.and_eq_true, decide_eq_true_eq, decide_eq_true_eq,
      UInt8.le_iff_toNat_le, UInt8.le_iff_toNat_le, hbyte]
    exact ⟨hlow, hhigh⟩
  · rw [Ascii.digitValue, hbyte]
    rfl

theorem isDigit_of_mem_toDigits {n : Nat} {c : Char} (h : c ∈ Nat.toDigits 10 n) :
    c.isDigit = true :=
  Nat.isDigit_of_mem_toDigits (by decide) (by decide) h

theorem encode_render_int (n : Nat) : Utf8.encode (Json.render (Json.int n)) = decimal n := by
  have hdigits : (Number.integer n).render.toList = Nat.toDigits 10 n := by
    show (n.repr).toList = _
    rw [Nat.repr_eq_ofList_toDigits, String.toList_ofList]
  rw [Json.int, Json.render, hdigits, Utf8.encode_ascii, decimal]
  intro c hc
  exact Nat.lt_of_le_of_lt (toNat_of_isDigit (isDigit_of_mem_toDigits hc)).2 (by decide)

/-- No number but zero starts with a zero. -/
theorem eq_zero_of_head?_toDigits (n : Nat) : (Nat.toDigits 10 n).head? = some '0' → n = 0 := by
  induction n using Nat.strongRecOn with
  | ind n ih =>
    intro h
    rcases Nat.lt_or_ge n 10 with hn | hn
    · rw [Nat.toDigits_of_lt_base hn] at h
      have hall : ∀ m < 10, m.digitChar = '0' → m = 0 := by decide
      exact hall n hn (Option.some.inj h)
    · have htens : (Nat.toDigits 10 (n / 10)).head? = some '0' := by
        rw [Nat.toDigits_of_base_le (by decide) hn, List.head?_append] at h
        cases hdigits : Nat.toDigits 10 (n / 10) with
        | nil => exact absurd hdigits Nat.toDigits_ne_nil
        | cons c cs => rw [hdigits] at h; exact h
      have hzero := ih (n / 10) (by omega) htens
      omega

theorem isWhole_decimal (n : Nat) : IsWhole (decimal n) where
  nonempty := by simp [decimal, Nat.toDigits_ne_nil]
  digits := by
    intro b hb
    obtain ⟨c, hc, rfl⟩ := List.mem_map.mp hb
    exact (isDigit_byte (isDigit_of_mem_toDigits hc)).1
  leading := by
    intro h
    rw [decimal, List.head?_map, Option.map_eq_some_iff] at h
    obtain ⟨c, hc, hbyte⟩ := h
    have hdigit := isDigit_of_mem_toDigits (List.mem_of_mem_head? hc)
    have hascii : c.toNat < 0x80 := Nat.lt_of_le_of_lt (toNat_of_isDigit hdigit).2 (by decide)
    rw [Utf8.byte_inj hascii (by decide) hbyte] at hc
    rw [eq_zero_of_head?_toDigits n hc]
    rfl

theorem le_ofDigitChars (cs : List Char) : ∀ m, m ≤ Nat.ofDigitChars 10 cs m := by
  induction cs with
  | nil => intro m; exact Nat.le_refl m
  | cons c cs ih =>
    intro m
    rw [Nat.ofDigitChars_cons]
    have hlater := ih (10 * m + (c.toNat - '0'.toNat))
    omega

/-- Digits are collected whole, as long as their number is within the limit. -/
theorem collect_digits {limit : Nat} (cs : List Char) (hcs : ∀ c ∈ cs, c.isDigit = true) :
    ∀ m, Nat.ofDigitChars 10 cs m ≤ limit →
      collect limit m (cs.map Ascii.byte) = (Nat.ofDigitChars 10 cs m, []) := by
  induction cs with
  | nil => intro m _; rfl
  | cons c cs ih =>
    intro m hm
    rw [Nat.ofDigitChars_cons, Nat.mul_comm] at hm ⊢
    have hsmall := Nat.le_trans (le_ofDigitChars cs _) hm
    rw [List.map_cons, collect, (isDigit_byte (hcs c List.mem_cons_self)).2]
    simp only [Nat.not_lt.mpr hsmall, if_false]
    exact ih (fun d hd => hcs d (List.mem_cons_of_mem c hd)) _ hm

theorem spells_decimal (n : Nat) : Spells ⟨false, decimal n, none, none⟩ (decimal n) := by
  have hparts : Spells ⟨false, decimal n, none, none⟩
      (signText false ++ (decimal n ++ ([] ++ []))) :=
    .mk (isWhole_decimal n) .absent .absent
  simpa [signText] using hparts

/-- **A natural number of 64 bits is what its digits stand for.** -/
theorem value?_decimal {n : Nat} (hn : n ≤ maxNatural) :
    value? ⟨false, decimal n, none, none⟩ = some (.integer n) := by
  have hvalue : Nat.ofDigitChars 10 (Nat.toDigits 10 n) 0 = n :=
    Nat.ofDigitChars_toDigits (by decide) (by decide)
  have hcollect : collect maxNatural 0 (decimal n) = (n, []) := by
    rw [decimal, collect_digits _ (fun c hc => isDigit_of_mem_toDigits hc), hvalue]
    rw [hvalue]
    exact hn
  simp [value?, hcollect]

end PurgeGateway.Json.Number
