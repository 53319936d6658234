import Mathlib.Data.String.Basic
import Mathlib.Tactic.SplitIfs
import Mathlib.Tactic.Tauto
import PurgeGateway.Proofs.Encoding

/-!
# UTF-8 keeps the order

Texts are ordered by their characters, and byte strings by their bytes. The two orders are one: of
two characters the smaller has the smaller bytes, whatever comes behind them, because a longer
sequence starts with a greater byte.

## Main results

* `utf8EncodeChar_append_lt`: the bytes of a smaller character come first.
* `bytes_lt_iff`: the order of texts is that of their bytes.
-/

namespace PurgeGateway.Utf8

private theorem cons_lt_cons_iff {m n : Nat} (hm : m < 256) (hn : n < 256)
    {rest more : List UInt8} :
    UInt8.ofNat m :: rest < UInt8.ofNat n :: more ↔ m < n ∨ m = n ∧ rest < more := by
  rw [List.cons_lt_cons_iff, UInt8.lt_iff_toNat_lt, ← UInt8.toNat_inj, UInt8.toNat_ofNat_of_lt' hm,
    UInt8.toNat_ofNat_of_lt' hn]

/-- Numbers are ordered by their digits, here four to the base of 64. -/
private theorem lt_digits {m n : Nat} (h : m < n) :
    m / 262144 < n / 262144 ∨ m / 262144 = n / 262144 ∧
      (m / 4096 % 64 < n / 4096 % 64 ∨ m / 4096 % 64 = n / 4096 % 64 ∧
        (m / 64 % 64 < n / 64 % 64 ∨ m / 64 % 64 = n / 64 % 64 ∧ m % 64 < n % 64)) := by
  have hdigit : ∀ {m n : Nat}, m < n → m / 64 < n / 64 ∨ m / 64 = n / 64 ∧ m % 64 < n % 64 := by
    omega
  have hshift : ∀ n : Nat, n / 64 / 64 = n / 4096 ∧ n / 4096 / 64 = n / 262144 := fun n =>
    ⟨Nat.div_div_eq_div_mul n 64 64, Nat.div_div_eq_div_mul n 4096 64⟩
  have hsecond := @hdigit (m / 64) (n / 64)
  have hthird := @hdigit (m / 4096) (n / 4096)
  rw [(hshift m).1, (hshift n).1] at hsecond
  rw [(hshift m).2, (hshift n).2] at hthird
  have hfirst := hdigit h
  have hsecond' : m / 64 = n / 64 → m / 4096 = n / 4096 ∧ m / 64 % 64 = n / 64 % 64 := fun heq =>
    ⟨by rw [← (hshift m).1, ← (hshift n).1, heq], by rw [heq]⟩
  have hthird' : m / 4096 = n / 4096 → m / 262144 = n / 262144 ∧ m / 4096 % 64 = n / 4096 % 64 :=
    fun heq => ⟨by rw [← (hshift m).2, ← (hshift n).2, heq], by rw [heq]⟩
  tauto

/-- **The bytes of a smaller character come first**, whatever comes behind them. -/
theorem utf8EncodeChar_append_lt {c d : Char} (h : c < d) (rest more : List UInt8) :
    String.utf8EncodeChar c ++ rest < String.utf8EncodeChar d ++ more := by
  have hlt : c.toNat < d.toNat := h
  have hvalid : d.toNat < 0xd800 ∨ 0xdfff < d.toNat ∧ d.toNat < 0x110000 := d.valid
  have hdigits := lt_digits hlt
  have hc : c.toNat / 262144 % 8 = c.toNat / 262144 := Nat.mod_eq_of_lt (by omega)
  have hd : d.toNat / 262144 % 8 = d.toNat / 262144 := Nat.mod_eq_of_lt (by omega)
  rw [utf8EncodeChar_eq, utf8EncodeChar_eq]
  -- a sequence of each length against one of each
  split_ifs
  all_goals
    simp (disch := omega) only [List.cons_append, List.nil_append, cons_lt_cons_iff]
    omega

theorem encode_lt {a b : List Char} (h : a < b) : encode a < encode b := by
  induction a generalizing b with
  | nil =>
    cases b with
    | nil => exact absurd h (List.not_lt_nil [])
    | cons d ds =>
      have hne : encode (d :: ds) ≠ [] := encode_ne_nil (List.cons_ne_nil d ds)
      rw [encode_nil]
      cases hbytes : encode (d :: ds) with
      | nil => exact absurd hbytes hne
      | cons byte bytes => exact List.nil_lt_cons byte bytes
  | cons c cs ih =>
    cases b with
    | nil => exact absurd h (List.not_lt_nil _)
    | cons d ds =>
      rw [encode_cons, encode_cons]
      rcases List.cons_lt_cons_iff.mp h with hlt | ⟨rfl, hrest⟩
      · exact utf8EncodeChar_append_lt hlt _ _
      · exact List.append_left_lt (ih hrest)

/-- **The order of texts is that of their bytes.** -/
theorem bytes_lt_iff {s t : String} : bytes s < bytes t ↔ s < t := by
  have hforward : ∀ {s t : String}, s < t → bytes s < bytes t := fun h =>
    encode_lt (String.lt_iff.mp h)
  refine ⟨fun h => ?_, hforward⟩
  rcases lt_trichotomy s t with hlt | rfl | hgt
  · exact hlt
  · exact absurd h (List.lt_irrefl _)
  · exact absurd h (List.lt_asymm (hforward hgt))

end PurgeGateway.Utf8
