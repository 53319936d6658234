import PurgeGateway.Text.Blank
import Mathlib.Data.List.DropRight
import Mathlib.Data.List.TakeWhile

/-!
# Trimmed texts

Trimming takes runs of characters off the ends of a text. What is left has no such character at an
end, and a text that has none there is left as it is.

## Main results

* `getLast?_dropEndWhile`, `dropEndWhile_eq_self`: the end of a text without a run.
* `dropEndWhile_append_replicate`: how long the run is does not matter.
* `trimChars_eq_self_iff`: the texts that are trimmed.
-/

namespace PurgeGateway.Text

variable {p : Char → Bool} {c : Char} {cs front : List Char}

/-! ### Ends -/

theorem dropEndWhile_eq_rdropWhile (p : Char → Bool) (cs : List Char) :
    dropEndWhile p cs = cs.rdropWhile p :=
  rfl

theorem dropEndWhile_isPrefix_self (p : Char → Bool) (cs : List Char) : dropEndWhile p cs <+: cs :=
  List.rdropWhile_prefix p cs

theorem getLast?_dropEndWhile (h : c ∈ (dropEndWhile p cs).getLast?) : p c = false := by
  rw [dropEndWhile_eq_rdropWhile] at h
  obtain ⟨hne, rfl⟩ := List.mem_getLast?_eq_getLast h
  simpa using List.rdropWhile_last_not p cs hne

theorem dropEndWhile_eq_self (h : ∀ c ∈ cs.getLast?, p c = false) : dropEndWhile p cs = cs := by
  rw [dropEndWhile_eq_rdropWhile, List.rdropWhile_eq_self_iff]
  intro hne
  simp [h _ (List.getLast?_eq_some_getLast hne)]

theorem dropEndWhile_concat (h : p c = true) (cs : List Char) :
    dropEndWhile p (cs ++ [c]) = dropEndWhile p cs :=
  List.rdropWhile_concat_pos p cs c h

theorem dropEndWhile_append_replicate (h : p c = true) (cs : List Char) (n : Nat) :
    dropEndWhile p (cs ++ List.replicate n c) = dropEndWhile p cs := by
  induction n with
  | zero => rw [List.replicate_zero, List.append_nil]
  | succ n ih => rw [List.replicate_succ', ← List.append_assoc, dropEndWhile_concat h, ih]

/-! ### Blanks -/

/-- What a trimmed text starts with is no blank. -/
theorem head?_of_prefix_trimChars (hfront : front <+: trimChars cs) (h : c ∈ front.head?) :
    isBlank c = false := by
  obtain ⟨behind, hbehind⟩ := hfront.trans (dropEndWhile_isPrefix_self isBlank _)
  cases front with
  | nil => cases h
  | cons first front =>
    obtain rfl := Option.some.inj h
    have hstart := List.head?_dropWhile_not isBlank cs
    rw [trimStartChars] at hbehind
    rw [← hbehind] at hstart
    exact hstart

theorem getLast?_trimChars (h : c ∈ (trimChars cs).getLast?) : isBlank c = false :=
  getLast?_dropEndWhile h

theorem dropWhile_isBlank_eq_self (h : ∀ c ∈ cs.head?, isBlank c = false) :
    cs.dropWhile isBlank = cs := by
  cases cs with
  | nil => rfl
  | cons c cs => exact List.dropWhile_cons_of_neg (by simp [h c rfl])

/-- **The texts that are trimmed** are those without a blank at an end. -/
theorem trimChars_eq_self_iff : trimChars cs = cs ↔
    (∀ c ∈ cs.head?, isBlank c = false) ∧ ∀ c ∈ cs.getLast?, isBlank c = false := by
  constructor
  · intro h
    rw [← h]
    exact ⟨fun _ => head?_of_prefix_trimChars (List.prefix_refl _), fun _ => getLast?_trimChars⟩
  · rintro ⟨hfirst, hlast⟩
    rw [trimChars, trimStartChars, dropWhile_isBlank_eq_self hfirst, trimEndChars,
      dropEndWhile_eq_self hlast]

theorem trimChars_of_forall_not_isBlank (h : ∀ c ∈ cs, isBlank c = false) : trimChars cs = cs :=
  trimChars_eq_self_iff.mpr
    ⟨fun c hc => h c (List.mem_of_mem_head? hc), fun c hc => h c (List.mem_of_getLast? hc)⟩

/-- A blank behind a text is trimmed off. -/
theorem trimChars_concat (h : isBlank c = true) (cs : List Char) :
    trimChars (cs ++ [c]) = trimChars cs := by
  rw [trimChars, trimStartChars, List.dropWhile_append]
  cases hstart : cs.dropWhile isBlank with
  | nil => simp [trimChars, trimStartChars, hstart, h, trimEndChars, dropEndWhile]
  | cons first rest =>
    rw [trimChars, trimStartChars, hstart]
    exact dropEndWhile_concat h (first :: rest)

/-- Nothing but blanks trims to nothing. -/
theorem trimChars_eq_nil_iff : trimChars cs = [] ↔ ∀ c ∈ cs, isBlank c = true := by
  rw [trimChars, trimEndChars, dropEndWhile_eq_rdropWhile, List.rdropWhile_eq_nil_iff,
    trimStartChars]
  constructor
  · intro h c hc
    rw [← List.takeWhile_append_dropWhile (p := isBlank) (l := cs)] at hc
    rcases List.mem_append.mp hc with hc | hc
    · exact List.mem_takeWhile_imp hc
    · exact h c hc
  · exact fun h c hc => h c ((List.dropWhile_suffix isBlank).subset hc)

/-- A text is blank if and only if trimming leaves nothing of it. -/
theorem blankText_iff {s : String} : blankText s = true ↔ trim s = "" := by
  rw [blankText, List.all_eq_true, ← trimChars_eq_nil_iff, trim, ← String.toList_inj,
    String.toList_ofList, String.toList_empty]

end PurgeGateway.Text
