import PurgeGateway.Credentials.Ini
import PurgeGateway.Proofs.Trimmed
import Mathlib.Data.List.Infix

/-!
# Settings that are written line by line

A text of settings is written without escapes and without quotes: a section in brackets, and one
line for each setting. Whoever writes it so must know which values the reader takes as they stand,
since it trims, works off escapes, takes quoted parts apart, passes over comments, and ends a value
with its line.

The rules for comments, for brackets and for the two signs between a name and a value bear on the
start of a line and on names only. What a value must avoid is a line break, a backslash, a quote at
its start, and blanks at its ends.

## Main definitions

* `Ini.IsName`, `Ini.IsValue`: names and values that may be written as they are.
* `Ini.document`: a section with its settings, written line by line.

## Main results

* `Ini.textUntil?_append`: a text without escapes is read up to the character that ends it.
* `Ini.sectionsFrom?_lines`: lines are read as the settings that they write.
* `Ini.sections?_document`: so is a section.
-/

namespace PurgeGateway

namespace Ini

/-! ### Texts without escapes -/

/-- **A text without escapes is read up to the character that ends it.** -/
theorem textUntil?_append {ends : Char → Bool} {mayEnd : Bool} {text : List Char}
    (hplain : ∀ c ∈ text, ends c = false ∧ c ≠ '\\') {c : Char} (hc : ends c = true)
    (rest : List Char) : ∀ done : List Char,
      textUntil? ends mayEnd done (text ++ c :: rest)
        = some (done.reverse ++ text, c :: rest) := by
  induction text with
  | nil => intro done; rw [List.nil_append, textUntil?, if_pos hc, List.append_nil]
  | cons first text ih =>
    intro done
    obtain ⟨hends, hescape⟩ := hplain first List.mem_cons_self
    have hrest := ih (fun c hc => hplain c (List.mem_cons_of_mem _ hc)) (first :: done)
    rw [List.cons_append, textUntil?, if_neg (by simp [hends]), if_neg hescape, hrest,
      List.reverse_cons, List.append_assoc, List.singleton_append]

/-! ### Names and values -/

/-- The text may be written as the name of a setting: no sign that ends a name and no backslash is
in it, and it starts like nothing else does that may stand on a line. -/
structure IsName (name : List Char) : Prop where
  plain : ∀ c ∈ name, isAssignment c = false ∧ c ≠ '\\'
  ne_nil : name ≠ []
  head : ∀ c ∈ name.head?, Text.isBlank c = false ∧ c ≠ ';' ∧ c ≠ '#' ∧ c ≠ '['
  trimmed : Text.trimChars name = name

-- Written with `all`: a statement about each character in a list must not be decided as one about
-- each character there is.
instance (name : List Char) : Decidable (IsName name) :=
  decidable_of_iff
    ((name.all fun c => !isAssignment c && c != '\\') && !name.isEmpty &&
      (name.head?.all fun c => !Text.isBlank c && c != ';' && c != '#' && c != '[') &&
      Text.trimChars name == name)
    ⟨fun h => by
      simp only [Bool.and_eq_true, List.all_eq_true, Bool.not_eq_true', bne_iff_ne, beq_iff_eq,
        List.isEmpty_eq_false_iff, Option.all_eq_true, and_assoc] at h
      exact ⟨h.1, h.2.1, h.2.2.1, h.2.2.2⟩,
    fun h => by
      simp only [Bool.and_eq_true, List.all_eq_true, Bool.not_eq_true', bne_iff_ne, beq_iff_eq,
        List.isEmpty_eq_false_iff, Option.all_eq_true, and_assoc]
      exact ⟨h.plain, h.ne_nil, h.head, h.trimmed⟩⟩

/-- The text may be written as the value of a setting: it stays on its line, no backslash is in it,
no quote stands at its start, and no blank at its ends. -/
structure IsValue (value : List Char) : Prop where
  plain : ∀ c ∈ value, endsLine c = false ∧ c ≠ '\\'
  head : value.head? ≠ some '"' ∧ value.head? ≠ some '\''
  trimmed : Text.trimChars value = value

/-- **A value is read as it stands**, up to the end of its line. -/
theorem value?_of_isValue {value : List Char} (h : IsValue value) (rest : List Char) :
    value? (' ' :: value ++ '\n' :: rest) = some (String.ofList value, '\n' :: rest) := by
  have hstart : (' ' :: value ++ '\n' :: rest).dropWhile
      (fun c => Text.isBlank c && !endsLine c) = value ++ '\n' :: rest := by
    rw [List.cons_append, List.dropWhile_cons_of_pos (by decide)]
    cases value with
    | nil => exact List.dropWhile_cons_of_neg (by decide)
    | cons c value =>
      have hblank : Text.isBlank c = false := (Text.trimChars_eq_self_iff.mp h.trimmed).1 c rfl
      exact List.dropWhile_cons_of_neg (by simp [hblank])
  have hread : textUntil? endsLine true [] (value ++ '\n' :: rest)
      = some (value, '\n' :: rest) := textUntil?_append h.plain rfl rest []
  have hfrom : ∀ fuel, valueFrom? (fuel + 1) true [] (value ++ '\n' :: rest)
      = some (value, '\n' :: rest) := by
    intro fuel
    rw [valueFrom?.eq_def]
    cases value with
    | nil =>
      rw [List.nil_append] at hread ⊢
      simp only [show ¬('\n' = '"' ∨ '\n' = '\'') by decide, if_false, hread, Option.map_some]
      rfl
    | cons c value =>
      have hquote : ¬(c = '"' ∨ c = '\'') := by simpa using h.head
      rw [List.cons_append] at hread ⊢
      simp only [hquote, if_false, hread, Option.map_some, if_true, h.trimmed, List.nil_append]
  rw [value?, hstart, hfrom]
  rfl

/-! ### Lines -/

/-- A setting on a line of its own, behind the end of the line before. -/
def line (setting : String × String) : List Char :=
  '\n' :: setting.1.toList ++ ' ' :: '=' :: ' ' :: setting.2.toList

/-- A section with its settings, line by line. -/
def document (name : String) (settings : List (String × String)) : List Char :=
  '[' :: name.toList ++ ']' :: settings.flatMap line ++ ['\n']

/-- **A line is read as the setting that it writes.** -/
theorem sectionsFrom?_line {setting : String × String} (hname : IsName setting.1.toList)
    (hvalue : IsValue setting.2.toList) (fuel : Nat) (s : Sofar) (start : Bool)
    (rest : List Char) :
    sectionsFrom? (fuel + 1) s start (line setting ++ '\n' :: rest)
      = sectionsFrom? fuel (Sofar.add s setting.1 setting.2) false ('\n' :: rest) := by
  obtain ⟨name, value⟩ := setting
  dsimp only at hname hvalue ⊢
  obtain ⟨c, behind, hcons⟩ := List.exists_cons_of_ne_nil hname.ne_nil
  obtain ⟨hblank, hsemicolon, hhash, hbracket⟩ := hname.head c (by rw [hcons]; rfl)
  have hassign : isAssignment c = false := (hname.plain c (hcons ▸ List.mem_cons_self)).1
  have hskip : skipBlanks start (line (name, value) ++ '\n' :: rest)
      = (true, c :: (behind ++ [' '] ++ '=' :: (' ' :: value.toList ++ '\n' :: rest))) := by
    rw [line, hcons, List.cons_append, List.cons_append, skipBlanks, if_pos (by decide),
      List.cons_append, List.cons_append, skipBlanks, if_neg (by simp [hblank])]
    simp
  have hread : textUntil? isAssignment false []
      (c :: (behind ++ [' '] ++ '=' :: (' ' :: value.toList ++ '\n' :: rest)))
        = some (name.toList ++ [' '], '=' :: (' ' :: value.toList ++ '\n' :: rest)) := by
    have hplain : ∀ d ∈ name.toList ++ [' '], isAssignment d = false ∧ d ≠ '\\' := by
      intro d hd
      rcases List.mem_append.mp hd with hd | hd
      · exact hname.plain d hd
      · rw [List.mem_singleton.mp hd]
        decide
    have h : textUntil? isAssignment false []
        (name.toList ++ [' '] ++ '=' :: (' ' :: value.toList ++ '\n' :: rest))
          = some ([].reverse ++ (name.toList ++ [' ']),
              '=' :: (' ' :: value.toList ++ '\n' :: rest)) :=
      textUntil?_append hplain rfl _ []
    simpa only [hcons, List.cons_append, List.reverse_nil, List.nil_append] using h
  have htrimmed : String.ofList (Text.trimChars (name.toList ++ [' '])) = name := by
    rw [Text.trimChars_concat (by decide), hname.trimmed, String.ofList_toList]
  have hnotEmpty : name.isEmpty = false := by
    rw [← String.ofList_toList (s := name), hcons]
    simp
  rw [sectionsFrom?, hskip]
  simp only [hsemicolon, hhash, hbracket, hassign, hread, value?_of_isValue hvalue, htrimmed,
    hnotEmpty, or_self, and_false, if_false, Bool.false_eq_true, Option.bind_some,
    String.ofList_toList]

/-- **Lines are read as the settings that they write.** -/
theorem sectionsFrom?_lines (settings : List (String × String)) :
    (∀ setting ∈ settings, IsName setting.1.toList ∧ IsValue setting.2.toList) →
      ∀ (fuel : Nat) (s : Sofar) (start : Bool),
        sectionsFrom? (fuel + settings.length + 1) s start (settings.flatMap line ++ ['\n'])
          = some (settings.foldl (fun s setting => Sofar.add s setting.1 setting.2) s) := by
  induction settings with
  | nil => intro _ fuel s start; rfl
  | cons setting settings ih =>
    intro h fuel s start
    obtain ⟨hname, hvalue⟩ := h setting List.mem_cons_self
    obtain ⟨tail, htail⟩ : ∃ tail, settings.flatMap line ++ ['\n'] = '\n' :: tail := by
      cases settings with
      | nil => exact ⟨[], rfl⟩
      | cons next settings => exact ⟨_, rfl⟩
    have hlater := ih (fun e he => h e (List.mem_cons_of_mem _ he)) fuel
      (Sofar.add s setting.1 setting.2) false
    rw [List.flatMap_cons, List.append_assoc, htail, List.length_cons, ← Nat.add_assoc,
      sectionsFrom?_line hname hvalue, ← htail, hlater, List.foldl_cons]

/-- Settings go into the section that was opened last. -/
theorem foldl_add (settings : List (String × String)) : ∀ (last : Section) (s : Sofar),
    settings.foldl (fun s setting => Sofar.add s setting.1 setting.2) (last :: s)
      = { last with settings := last.settings ++ settings } :: s := by
  induction settings with
  | nil => intro last s; rw [List.append_nil]; rfl
  | cons setting settings ih =>
    intro last s
    rw [List.foldl_cons, Sofar.add, ih, List.append_assoc, List.singleton_append]

theorem length_le_flatMap_line (settings : List (String × String)) :
    settings.length ≤ (settings.flatMap line).length := by
  induction settings with
  | nil => exact Nat.le_refl 0
  | cons setting settings ih =>
    rw [List.flatMap_cons, List.length_append, List.length_cons, line]
    simp only [List.length_append, List.length_cons]
    omega

/-- **A section is read as it is written.** -/
theorem sections?_document {name : String} {settings : List (String × String)}
    (hname : ∀ c ∈ name.toList, c ≠ ']' ∧ c ≠ '\\')
    (htrimmed : Text.trimChars name.toList = name.toList)
    (hsettings : ∀ setting ∈ settings, IsName setting.1.toList ∧ IsValue setting.2.toList) :
    sections? (String.ofList (document name settings)) = some [⟨some name, settings⟩] := by
  have hread : textUntil? (· == ']') false []
      (name.toList ++ ']' :: (settings.flatMap line ++ ['\n']))
        = some (name.toList, ']' :: (settings.flatMap line ++ ['\n'])) :=
    textUntil?_append (fun c hc => by simpa using hname c hc) rfl _ []
  obtain ⟨fuel, hfuel⟩ : ∃ fuel, (document name settings).length
      = fuel + settings.length + 1 := by
    refine ⟨(document name settings).length - (settings.length + 1), ?_⟩
    have hlength := length_le_flatMap_line settings
    simp only [document, List.length_append, List.length_cons, List.length_nil]
    omega
  have hdocument : document name settings
      = '[' :: (name.toList ++ ']' :: (settings.flatMap line ++ ['\n'])) := by
    simp [document]
  have hskip : skipBlanks true (document name settings) = (true, document name settings) := by
    rw [hdocument]
    rfl
  rw [sections?, String.toList_ofList, hfuel, sectionsFrom?, hskip, hdocument]
  simp only [show ¬('[' = ';' ∨ '[' = '#') by decide, and_false, if_false, if_true, hread,
    htrimmed, String.ofList_toList, sectionsFrom?_lines settings hsettings, Sofar.open, foldl_add,
    Option.map_some, List.reverse_singleton, List.nil_append]

end Ini

end PurgeGateway
