import PurgeGateway.Net.Url
import Mathlib.Data.List.Basic

/-!
# Characters that the parts of a URL lack

A URL that was read can be written next to other texts, and taken apart again, because its parts
lack some characters. No tab is in any of them, whatever the text was that was read: it is dropped
there, or encoded, or makes the text no URL. A path has no question mark, which would start the
query. And a host has a colon only between brackets, so that a colon behind a host starts a port.

## Main definitions

* `Net.Url.IsApart`: the parts of a URL lack these characters.

## Main results

* `Net.Url.isApart_of_ofText?`: the parts of a URL that was read do.
-/

namespace PurgeGateway

/-! ### Digits -/

/-- The digits of a number are no tab and no colon. -/
theorem Ascii.ne_of_mem_toDigits {base n : Nat} (hbase : 1 < base ∧ base ≤ 16) {c : Char}
    (h : c ∈ Nat.toDigits base n) : c ≠ '\t' ∧ c ≠ ':' := by
  have hdigit : ∀ d < 16, Nat.digitChar d ≠ '\t' ∧ Nat.digitChar d ≠ ':' := by
    decide
  induction n using Nat.strongRecOn with
  | ind n ih =>
    rw [Nat.toDigits_eq_if hbase.1] at h
    split at h
    · rw [List.mem_singleton.mp h]
      exact hdigit n (by omega)
    · next hlarge =>
      rcases List.mem_append.mp h with h | h
      · exact ih (n / base) (Nat.div_lt_self (by omega) hbase.1) h
      · rw [List.mem_singleton.mp h]
        exact hdigit _ (by have := Nat.mod_lt n (show 0 < base by omega); omega)

theorem mem_of_mem_intercalate {α : Type} {sep x : α} {parts : List (List α)}
    (h : x ∈ [sep].intercalate parts) : x = sep ∨ ∃ part ∈ parts, x ∈ part := by
  induction parts with
  | nil => cases h
  | cons part parts ih =>
    cases parts with
    | nil => exact .inr ⟨part, List.mem_singleton_self part, by simpa using h⟩
    | cons next parts =>
      rw [List.intercalate_cons_cons, List.mem_append, List.mem_append, List.mem_singleton] at h
      rcases h with (h | h) | h
      · exact .inr ⟨part, List.mem_cons_self, h⟩
      · exact .inl h
      · rcases ih h with h | ⟨other, hother, h⟩
        · exact .inl h
        · exact .inr ⟨other, List.mem_cons_of_mem part hother, h⟩

namespace Net

/-! ### Percent encoding -/

/-- What is written in place of a character that is encoded. -/
def percentChars : List Char :=
  "%0123456789ABCDEF".toList

theorem mem_percentByte {b : UInt8} {c : Char} (h : c ∈ percentByte b) : c ∈ percentChars := by
  have hdigits : ∀ n < 16, Ascii.hexCapital n ∈ percentChars := by
    decide
  have hb := b.toNat_lt
  simp only [percentByte, List.mem_cons, List.not_mem_nil, or_false] at h
  rcases h with rfl | rfl | rfl
  · decide
  · exact hdigits _ (by omega)
  · exact hdigits _ (by omega)

/-- A character that is encoded, or is not there, is not there afterwards. -/
theorem notMem_percentEncode {encoded : Char → Bool} {cs : List Char} {c : Char}
    (hc : c ∉ percentChars) (h : encoded c = true ∨ c ∉ cs) : c ∉ percentEncode encoded cs := by
  intro hmem
  obtain ⟨d, hd, hmem⟩ := List.mem_flatMap.mp hmem
  rw [percentChar] at hmem
  split at hmem
  · obtain ⟨b, -, hb⟩ := List.mem_flatMap.mp hmem
    exact hc (mem_percentByte hb)
  · next hkept =>
    obtain rfl := List.mem_singleton.mp hmem
    rcases h with hencoded | habsent
    · exact hkept hencoded
    · exact habsent hd

/-! ### Hosts -/

/-- The text of a host has no tab, and a colon only if it ends with a bracket. -/
structure IsHostText (cs : List Char) : Prop where
  tab : '\t' ∉ cs
  colon : ':' ∈ cs → cs.getLast? = some ']'

theorem isHostText_of_ne {cs : List Char} (h : ∀ c ∈ cs, c ≠ '\t' ∧ c ≠ ':') : IsHostText cs :=
  ⟨fun htab => (h _ htab).1 rfl, fun hcolon => absurd rfl (h _ hcolon).2⟩

theorem isHostText_v4 (a : Ipv4) : IsHostText (Host.v4 a).text.toList := by
  refine isHostText_of_ne fun c hc => ?_
  rw [Host.text, Ipv4.text, String.toList_intercalate] at hc
  rcases mem_of_mem_intercalate hc with rfl | ⟨part, hpart, hc⟩
  · decide
  · obtain ⟨text, htext, rfl⟩ := List.mem_map.mp hpart
    obtain ⟨b, -, rfl⟩ := List.mem_map.mp htext
    rw [Ascii.decimal, String.toList_ofList] at hc
    exact Ascii.ne_of_mem_toDigits (by decide) hc

theorem tab_notMem_groupsText (groups : List UInt16) : '\t' ∉ (groupsText groups).toList := by
  intro htab
  rw [groupsText, String.toList_intercalate] at htab
  rcases mem_of_mem_intercalate htab with h | ⟨part, hpart, h⟩
  · cases h
  · obtain ⟨text, htext, rfl⟩ := List.mem_map.mp hpart
    obtain ⟨g, -, rfl⟩ := List.mem_map.mp htext
    rw [Ascii.hexadecimal, String.toList_ofList] at h
    exact (Ascii.ne_of_mem_toDigits (by decide) h).1 rfl

theorem isHostText_v6 (a : Ipv6) : IsHostText (Host.v6 a).text.toList := by
  have hcompressed : '\t' ∉ a.compressed.toList := by
    unfold Ipv6.compressed
    dsimp only
    split
    · simp only [String.toList_append, List.mem_append, not_or]
      exact ⟨⟨tab_notMem_groupsText _, by decide⟩, tab_notMem_groupsText _⟩
    · exact tab_notMem_groupsText _
  rw [Host.text, String.toList_append, String.toList_append]
  constructor
  · simp only [List.mem_append, not_or]
    exact ⟨⟨by decide, hcompressed⟩, by decide⟩
  · intro _
    rw [List.getLast?_append]
    rfl

/-- The characters of a name in ASCII may stand there. -/
theorem Name.isDenied_of_mem_ascii? {cs name : List Char} (h : ascii? cs = some name) :
    ∀ c ∈ name, isDenied c = false := by
  rw [ascii?] at h
  simp only [Option.bind_eq_bind, Option.bind_eq_some_iff] at h
  obtain ⟨settled, -, labels, -, h⟩ := h
  split at h
  · cases h
  · split at h
    · cases h
    · next hdenied =>
      cases h
      simpa using hdenied

theorem isHostText_of_bracketed? {cs : List Char} {host : Host}
    (h : bracketed? cs = some (some host)) : IsHostText host.text.toList := by
  unfold bracketed? at h
  split at h
  · split at h
    · cases h
      exact isHostText_v6 _
    · cases h
  · cases h

theorem isHostText_of_ofWeb? {cs : List Char} {host : Host} (h : Host.ofWeb? cs = some host) :
    IsHostText host.text.toList := by
  rw [Host.ofWeb?] at h
  split at h
  · next found hbracketed =>
    rw [h] at hbracketed
    exact isHostText_of_bracketed? hbracketed
  · obtain ⟨name, hname, h⟩ := Option.bind_eq_some_iff.mp h
    obtain ⟨decoded, -, hascii⟩ := Option.bind_eq_some_iff.mp hname
    split at h
    · cases h
    · split at h
      · obtain ⟨a, -, rfl⟩ := Option.map_eq_some_iff.mp h
        exact isHostText_v4 a
      · cases h
        refine isHostText_of_ne fun c hc => ?_
        rw [Host.text, String.toList_ofList] at hc
        have hkept := Name.isDenied_of_mem_ascii? hascii c hc
        constructor <;> rintro rfl <;> revert hkept <;> decide

theorem isHostText_of_ofOther? {cs : List Char} {host : Host} (h : Host.ofOther? cs = some host) :
    IsHostText host.text.toList := by
  rw [Host.ofOther?] at h
  split at h
  · next found hbracketed =>
    rw [h] at hbracketed
    exact isHostText_of_bracketed? hbracketed
  · split at h
    · cases h
    · next hallowed =>
      cases h
      have hcolon : ':' ∉ cs := fun hmem => hallowed (List.any_eq_true.mpr ⟨_, hmem, by decide⟩)
      rw [Host.text, String.toList_ofList]
      exact ⟨notMem_percentEncode (by decide) (.inl (by decide)),
        fun hmem => absurd hmem (notMem_percentEncode (by decide) (.inr hcolon))⟩

/-! ### Paths -/

namespace Url

/-- The characters stand in a path: none of them is a tab or a question mark. -/
def IsPathText (cs : List Char) : Prop :=
  ∀ c ∈ cs, c ≠ '\t' ∧ c ≠ '?'

theorem isPathText_percentEncode (cs : List Char) :
    IsPathText (percentEncode encodedInPath cs) := by
  intro c hc
  constructor
  · rintro rfl
    exact notMem_percentEncode (by decide) (.inl (by decide)) hc
  · rintro rfl
    exact notMem_percentEncode (by decide) (.inl (by decide)) hc

theorem mem_of_mem_above {s : List Char} {done : List (List Char)} (h : s ∈ above done) :
    s ∈ done := by
  unfold above at h
  split at h
  · exact h
  · split at h
    · exact h
    · exact List.mem_cons_of_mem _ h

theorem isPathText_of_partedDrive? {segment drive rest : List Char}
    (h : partedDrive? segment = some (drive, rest)) : IsPathText drive := by
  unfold partedDrive? at h
  split at h
  · split at h
    · split at h
      · next letter _ _ _ _ hdrive =>
        cases h
        simp only [Bool.and_eq_true] at hdrive
        intro c hc
        simp only [List.mem_cons, List.not_mem_nil, or_false] at hc
        rcases hc with rfl | rfl
        · constructor <;> rintro rfl <;> exact absurd hdrive.1.1 (by decide)
        · decide
      · cases h
    · cases h
  · cases h

/-- What is entered is a segment of a path. -/
theorem isPathText_enter {file last : Bool} {done : List (List Char)} {segment : List Char}
    (h : ∀ s ∈ done, IsPathText s) : ∀ s ∈ enter file last done segment, IsPathText s := by
  have hnil : IsPathText [] := fun c hc => by cases hc
  have harrive : ∀ done' : List (List Char), (∀ s ∈ done', IsPathText s) →
      ∀ s ∈ if last then [] :: done' else done', IsPathText s := by
    intro done' hdone
    split
    · exact List.forall_mem_cons.mpr ⟨hnil, hdone⟩
    · exact hdone
  have htext := isPathText_percentEncode (unbroken segment)
  -- A parted drive is entered, or a dot segment moves, or a drive or a text is entered.
  unfold enter
  dsimp only
  split
  · next drive rest hparted =>
    split at hparted
    · exact List.forall_mem_cons.mpr ⟨isPathText_percentEncode rest,
        List.forall_mem_singleton.mpr (isPathText_of_partedDrive? hparted)⟩
    · cases hparted
  · split
    · exact harrive _ fun s hs => h s (mem_of_mem_above hs)
    · split
      · exact harrive done h
      · split
        · refine List.forall_mem_singleton.mpr fun c hc => ?_
          rcases List.mem_append.mp hc with hc | hc
          · exact htext c (List.mem_of_mem_take hc)
          · rw [List.mem_singleton.mp hc]
            decide
        · exact List.forall_mem_cons.mpr ⟨htext, h⟩

theorem isPathText_resolve {file : Bool} (segments : List (List Char)) :
    ∀ {done : List (List Char)}, (∀ s ∈ done, IsPathText s) →
      ∀ s ∈ resolve file done segments, IsPathText s := by
  induction segments with
  | nil =>
    intro done h s hs
    exact h s (List.mem_reverse.mp hs)
  | cons segment rest ih =>
    intro done h
    exact ih (isPathText_enter h)

theorem isPathText_pathOf {segments : List (List Char)} (h : ∀ s ∈ segments, IsPathText s) :
    IsPathText (pathOf segments).toList := by
  rw [pathOf, String.toList_ofList]
  intro c hc
  rcases List.mem_cons.mp hc with rfl | hc
  · decide
  · rcases mem_of_mem_intercalate hc with rfl | ⟨s, hs, hc⟩
    · decide
    · exact h s hs c hc

theorem isPathText_slashedPath (web : Bool) (cs : List Char) :
    IsPathText (slashedPath web cs).toList :=
  isPathText_pathOf (isPathText_resolve _ fun s hs => by cases hs)

theorem isPathText_pathAfterHost (web : Bool) (cs : List Char) :
    IsPathText (pathAfterHost web cs).toList := by
  unfold pathAfterHost
  split
  · split
    · intro c hc
      have hslash : c ∈ ['/'] := hc
      rw [List.mem_singleton.mp hslash]
      decide
    · intro c hc
      cases hc
  · split
    · exact isPathText_slashedPath web _
    · exact isPathText_slashedPath web _

/-- A path that is kept whole ends before the first question mark. -/
theorem isPathText_takeWhile (cs : List Char) :
    IsPathText (percentEncode isControl (cs.takeWhile (!endsPath ·))) := by
  intro c hc
  constructor
  · rintro rfl
    exact notMem_percentEncode (by decide) (.inl (by decide)) hc
  · rintro rfl
    refine notMem_percentEncode (by decide) (.inr fun hmem => ?_) hc
    exact absurd (List.all_eq_true.mp List.all_takeWhile '?' hmem) (by decide)

/-! ### Whole URLs -/

/-- The scheme, the host and the path of a URL lack what is not in them. -/
structure IsApartInFront (url : Url) : Prop where
  scheme : '\t' ∉ url.scheme.toList
  host : IsHostText url.hostText.toList
  path : IsPathText url.path.toList

/-- No tab is in the parts of the URL, no question mark in its path, and no colon in its host unless
that ends with a bracket. -/
structure IsApart (url : Url) : Prop extends IsApartInFront url where
  query : ∀ query, url.query = some query → '\t' ∉ query.toList

variable {url found : Url} {cs behind : List Char}

/-- What is behind a path is encoded, and leaves the rest as it is. -/
theorem IsApartInFront.withTail (h : url.IsApartInFront) (tail : List Char) :
    (url.withTail tail).IsApart := by
  refine ⟨⟨h.scheme, h.host, h.path⟩, ?_⟩
  intro query hquery
  unfold Url.withTail at hquery
  dsimp only at hquery
  split at hquery
  · cases hquery
    rw [String.toList_ofList]
    refine notMem_percentEncode (by decide) (.inl ?_)
    rw [encodedInQuery, show isControl '\t' = true by decide, Bool.true_or, Bool.true_or]
  · cases hquery

theorem isHostText_noName : IsHostText noName.text.toList :=
  isHostText_of_ne fun c hc => by cases hc

/-- The URL has the scheme, and a host that lacks what is not in hosts. -/
def IsAt (scheme : String) (url : Url) : Prop :=
  url.scheme = scheme ∧ IsHostText url.hostText.toList

theorem isAt_withHost? (h : url.withHost? cs = some (found, behind)) : IsAt url.scheme found := by
  unfold withHost? at h
  dsimp only at h
  split at h
  · split at h
    · cases h
    · cases h
      exact ⟨rfl, isHostText_noName⟩
  · obtain ⟨host, hhost, heq⟩ := Option.map_eq_some_iff.mp h
    cases heq
    refine ⟨rfl, ?_⟩
    split at hhost
    · exact isHostText_of_ofWeb? hhost
    · exact isHostText_of_ofOther? hhost

theorem isAt_withAuthority? (h : url.withAuthority? cs = some (found, behind)) :
    IsAt url.scheme found := by
  have hport : ∀ {url : Url} {cs : List Char}, ((url.withHost? cs).bind fun hosted =>
      (port? hosted.1.scheme hosted.2).map fun port =>
        ({ hosted.1 with port := port.1 }, port.2)) = some (found, behind) →
          IsAt url.scheme found := by
    intro url cs h
    obtain ⟨hosted, hhost, h⟩ := Option.bind_eq_some_iff.mp h
    obtain ⟨port, -, heq⟩ := Option.map_eq_some_iff.mp h
    cases heq
    obtain ⟨hscheme, hhost⟩ := isAt_withHost? hhost
    exact ⟨hscheme, hhost⟩
  unfold withAuthority? at h
  dsimp only at h
  split at h
  · exact hport h
  · split at h
    · exact hport h
    · cases h
  · have hfound := hport h
    exact hfound

theorem isApart_withHierarchy? (hscheme : '\t' ∉ url.scheme.toList)
    (h : url.withHierarchy? cs = some found) : found.IsApart := by
  obtain ⟨⟨placed, rest⟩, hplaced, rfl⟩ := Option.map_eq_some_iff.mp h
  obtain ⟨hsame, hhost⟩ := isAt_withAuthority? hplaced
  rw [← hsame] at hscheme
  refine IsApartInFront.withTail ?_ _
  exact ⟨hscheme, hhost, isPathText_pathAfterHost _ _⟩

theorem isApart_file {host : Option Host} (h : ∀ h ∈ host, IsHostText h.text.toList)
    (cs : List Char) : (file host cs).IsApart := by
  unfold file
  refine IsApartInFront.withTail ⟨?_, ?_, ?_⟩ _
  · show '\t' ∉ "file".toList
    decide
  · dsimp only [hostText, Option.map_some, Option.getD_some]
    split
    · exact isHostText_noName
    · cases host with
      | none => exact isHostText_noName
      | some host => exact h host rfl
  · refine isPathText_pathOf fun s hs => ?_
    exact isPathText_resolve _ (fun s hs => by cases hs) s ((List.dropWhile_suffix _).subset hs)

theorem isApart_fileWithHost? (h : fileWithHost? cs = some found) : found.IsApart := by
  have hnone : ∀ cs, (file none cs).IsApart := isApart_file fun h hh => by cases hh
  unfold fileWithHost? at h
  dsimp only at h
  split at h
  · cases h
    exact hnone _
  · split at h
    · cases h
      exact hnone _
    · obtain ⟨host, hhost, rfl⟩ := Option.map_eq_some_iff.mp h
      split
      · exact hnone _
      · refine isApart_file (fun other hother => ?_) _
        obtain rfl := Option.some.inj hother
        exact isHostText_of_ofWeb? hhost

theorem isApart_ofFile? (h : ofFile? cs = some found) : found.IsApart := by
  have hnone : ∀ cs, (file none cs).IsApart := isApart_file fun h hh => by cases hh
  unfold ofFile? at h
  split at h
  · cases h
    exact hnone _
  · split at h
    · cases h
      exact hnone _
    · exact isApart_fileWithHost? h

theorem isApart_ofSchemeAndRest? {scheme : String} (hscheme : '\t' ∉ scheme.toList)
    (h : ofSchemeAndRest? scheme cs = some found) : found.IsApart := by
  unfold ofSchemeAndRest? at h
  split at h
  · exact isApart_withHierarchy? hscheme h
  · split at h
    · exact isApart_withHierarchy? hscheme h
    · cases h
      refine IsApartInFront.withTail ⟨hscheme, ?_, ?_⟩ _
      · exact isHostText_of_ne fun c hc => by cases hc
      · split
        · exact isPathText_slashedPath false _
        · rw [String.toList_ofList]
          exact isPathText_takeWhile cs

theorem eq_tab_of_toLower {c : Char} (h : c.toLower = '\t') : c = '\t' := by
  delta Char.toLower at h
  split at h
  · next hcapital =>
    have hval := congrArg (·.val.toNat) h
    have hleast := UInt32.le_iff_toNat_le.mp hcapital.1
    have hgreatest := UInt32.le_iff_toNat_le.mp hcapital.2
    simp at hval hleast hgreatest
    omega
  · exact h

theorem tab_notMem_scheme? {scheme : String} (h : scheme? cs = some (scheme, behind)) :
    '\t' ∉ scheme.toList := by
  unfold scheme? at h
  split at h
  · dsimp only at h
    split at h
    · split at h
      · next c rest _ _ _ hletter =>
        cases h
        rw [Ascii.toList_lowerText, String.toList_ofList]
        intro htab
        obtain ⟨d, hd, hlower⟩ := List.mem_map.mp htab
        obtain rfl := eq_tab_of_toLower hlower
        rcases List.mem_cons.mp hd with rfl | hd
        · cases hletter
        · exact absurd (List.all_eq_true.mp List.all_takeWhile '\t' hd) (by decide)
      · cases h
    · cases h
  · cases h

/-- **The parts of a URL that was read lack what they must lack.** -/
theorem isApart_of_ofText? {s : String} (h : ofText? s = some url) : url.IsApart := by
  obtain ⟨⟨scheme, rest⟩, hscheme, h⟩ := Option.bind_eq_some_iff.mp h
  dsimp only at h
  split at h
  · exact isApart_ofFile? h
  · exact isApart_ofSchemeAndRest? (tab_notMem_scheme? hscheme) h

end Url

end Net

end PurgeGateway
