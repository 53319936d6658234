import Mathlib.Data.List.Induction
import Mathlib.Data.List.Nodup
import PurgeGateway.Proofs.ByteOrder
import PurgeGateway.Proofs.Fetching
import PurgeGateway.Gateway.Basic

/-!
# Header fields of a configuration

Names of header fields are configured in any case, and a table of them is kept in the order of
their bytes. The fields are put in one by one: of two spellings of a name the later one counts. The
first entry that may not be a field ends this, and is named.

A configuration that was found valid has a gateway, since its fields are put in both times; and
without that only warming can keep it from having one.

## Main definitions

* `Config.Offends`: what is wrong with an entry.
* `Config.IsLastSpelling`, `HoldsLast`: the header fields have the last spelling of each name.

## Main results

* `Config.foldlM_addHeader`: putting entries in, as a search for the first fault and a fold.
* `Config.Warming.exists_headerFields_iff`: when there are header fields.
* `Config.Warming.holdsLast_headerFields`: what they hold.
* `Config.Warming.first_of_headerFields`: which entry is named if there are none.
* `Gateway.ofConfig_eq_error_iff`: when a configuration has no gateway.
* `Config.Warming.fields_characterized`: all of this at once.
* `Config.Warming.fields_refused_though_legal`: names that are tokens and still are refused.
-/

namespace PurgeGateway

/-! ### Fields put in -/

namespace Http.Headers

theorem first?_set_of_ne (hs : Headers) {name other : String} (h : other ≠ name)
    (value : List UInt8) : (hs.set name value).first? other = hs.first? other := by
  have hsame := filter_set hs name other value
  rw [if_neg (Ne.symm h)] at hsame
  rw [first?, first?, ← List.head?_filter, ← List.head?_filter, hsame]

/-- Where no name comes twice, a field is what is found under its name. -/
theorem mem_iff_first? {hs : Headers} (h : (hs.map (·.name)).Nodup) {name : String}
    {value : List UInt8} : ⟨name, value⟩ ∈ hs ↔ hs.first? name = some value := by
  induction hs with
  | nil => simp [first?]
  | cons field rest ih =>
    rw [List.map_cons, List.nodup_cons] at h
    rw [List.mem_cons, ih h.2, first?, first?, List.find?_cons]
    by_cases heq : field.name = name
    · subst heq
      have hnone : rest.find? (·.name == field.name) = none := by
        rw [List.find?_eq_none]
        intro other hmem hname
        exact h.1 (List.mem_map.mpr ⟨other, hmem, by simpa using hname⟩)
      cases field
      simp [hnone, eq_comm]
    · have hne : ¬(⟨name, value⟩ : Header) = field := fun hfield => heq (by rw [← hfield])
      rw [beq_false_of_ne heq]
      exact or_iff_right hne

end Http.Headers

namespace Config

/-! ### One entry -/

/-- What is wrong with a configured name and value. The name is looked at first. -/
inductive Offends : String × String → Fault → Prop
  | name {name value} : Http.legalName (Utf8.bytes name) = false →
    Offends (name, value) (.headerName name)
  | value {name value} : Http.legalName (Utf8.bytes name) = true →
    Http.legalValue (Utf8.bytes value) = false → Offends (name, value) (.headerValue name)

/-- A configured name and value may be a header field. -/
structure IsField (entry : String × String) : Prop where
  name : Http.legalName (Utf8.bytes entry.1) = true
  value : Http.legalValue (Utf8.bytes entry.2) = true

/-- What is wrong with an entry, if anything is. -/
def offence? (entry : String × String) : Option Fault :=
  if !Http.legalName (Utf8.bytes entry.1) then some (.headerName entry.1)
  else if !Http.legalValue (Utf8.bytes entry.2) then some (.headerValue entry.1)
  else none

/-- The header fields with one more, under its name in small letters. -/
def putHeader (fields : Http.Headers) (entry : String × String) : Http.Headers :=
  fields.set (Ascii.lowerText entry.1) (Utf8.bytes entry.2)

variable {entry : String × String} {entries : List (String × String)} {fault : Fault}
  {fields : Http.Headers}

theorem offence?_eq_some_iff : offence? entry = some fault ↔ Offends entry fault := by
  obtain ⟨name, value⟩ := entry
  rw [offence?]
  constructor
  · intro h
    split at h
    · next hname =>
      obtain rfl := Option.some.inj h
      exact .name (by simpa using hname)
    · next hname =>
      split at h
      · next hvalue =>
        obtain rfl := Option.some.inj h
        exact .value (by simpa using hname) (by simpa using hvalue)
      · cases h
  · rintro (hname | ⟨hname, hvalue⟩)
    · rw [hname]; rfl
    · rw [hname, hvalue]; rfl

theorem offence?_eq_none_iff : offence? entry = none ↔ IsField entry := by
  rw [offence?]
  constructor
  · intro h
    split at h
    · cases h
    · next hname =>
      split at h
      · cases h
      · next hvalue => exact ⟨by simpa using hname, by simpa using hvalue⟩
  · intro h
    rw [h.name, h.value]
    rfl

theorem addHeader_eq (fields : Http.Headers) (entry : String × String) :
    addHeader fields entry = match offence? entry with
      | some fault => .error fault
      | none => .ok (putHeader fields entry) := by
  rw [addHeader, Http.headerName?, offence?]
  cases Http.legalName (Utf8.bytes entry.1)
  · rfl
  · rw [if_pos rfl, Utf8.textLossy_bytes]
    cases Http.legalValue (Utf8.bytes entry.2) <;> rfl

/-! ### All entries -/

/-- **Putting entries in is a search for the first offence**, and a fold if there is none. -/
theorem foldlM_addHeader (entries : List (String × String)) (fields : Http.Headers) :
    entries.foldlM addHeader fields = match entries.findSome? offence? with
      | some fault => .error fault
      | none => .ok (entries.foldl putHeader fields) := by
  induction entries generalizing fields with
  | nil => rfl
  | cons entry rest ih =>
    rw [List.foldlM_cons, addHeader_eq, List.findSome?_cons]
    cases offence? entry with
    | some fault => rfl
    | none => exact ih (putHeader fields entry)

theorem nodup_foldl_putHeader (entries : List (String × String))
    (h : (fields.map (·.name)).Nodup) :
    ((entries.foldl putHeader fields).map (·.name)).Nodup := by
  induction entries generalizing fields with
  | nil => exact h
  | cons entry rest ih => exact ih (Http.Headers.nodup_set h _ _)

/-- Of all spellings of a name the one that is put in last counts. -/
theorem first?_foldl_putHeader (entries : List (String × String)) (name : String) :
    (entries.foldl putHeader []).first? name
      = (entries.reverse.find? fun entry => Ascii.lowerText entry.1 == name).map fun entry =>
          Utf8.bytes entry.2 := by
  induction entries using List.reverseRecOn with
  | nil => rfl
  | append_singleton entries entry ih =>
    rw [List.foldl_concat, List.reverse_concat, List.find?_cons, putHeader]
    by_cases hname : Ascii.lowerText entry.1 = name
    · simp [hname]
    · rw [Http.Headers.first?_set_of_ne _ (Ne.symm hname), ih, beq_false_of_ne hname]

/-- The entry is the last spelling of a name: of all that are the same up to the case of ASCII
letters, its bytes come last. -/
structure IsLastSpelling (entries : List (String × String)) (name : String)
    (entry : String × String) : Prop where
  mem : entry ∈ entries
  spells : Ascii.lowerText entry.1 = name
  last : ∀ other ∈ entries, Ascii.lowerText other.1 = name →
    ¬Utf8.bytes entry.1 < Utf8.bytes other.1

/-- The header fields are one for each name, with small letters and the value of its last
spelling. -/
structure HoldsLast (entries : List (String × String)) (fields : Http.Headers) : Prop where
  nodup : (fields.map (·.name)).Nodup
  names : ∀ name, name ∈ fields.map (·.name) ↔
    ∃ entry ∈ entries, Ascii.lowerText entry.1 = name
  mem_iff : ∀ name value, ⟨name, value⟩ ∈ fields ↔
    ∃ entry, IsLastSpelling entries name entry ∧ Utf8.bytes entry.2 = value

theorem exists_find?_reverse {name : String} (h : entry ∈ entries)
    (hspells : Ascii.lowerText entry.1 = name) : ∃ last,
      (entries.reverse.find? fun entry => Ascii.lowerText entry.1 == name) = some last := by
  rw [← Option.isSome_iff_exists, List.find?_isSome]
  exact ⟨entry, List.mem_reverse.mpr h, by simpa using hspells⟩

section

variable (hsorted : entries.Pairwise fun a b => a.1 < b.1)
include hsorted

/-- No name comes twice. -/
theorem eq_of_name_eq {other : String × String} (h : entry ∈ entries) (hother : other ∈ entries)
    (hname : entry.1 = other.1) : entry = other := by
  have hnames : (entries.map (·.1)).Nodup :=
    List.pairwise_map.mpr (hsorted.imp fun h => ne_of_lt h)
  exact List.inj_on_of_nodup_map hnames h hother hname

theorem isLastSpelling_of_find? {name : String}
    (h : (entries.reverse.find? fun entry => Ascii.lowerText entry.1 == name) = some entry) :
    IsLastSpelling entries name entry := by
  obtain ⟨hname, behind, before, hsplit, hbehind⟩ := List.find?_eq_some_iff_append.mp h
  refine ⟨List.mem_reverse.mp (List.mem_of_find?_eq_some h), by simpa using hname, ?_⟩
  intro other hother hspells
  have hordered := List.pairwise_reverse.mpr hsorted
  rw [hsplit, List.pairwise_append, List.pairwise_cons] at hordered
  rw [← List.mem_reverse, hsplit, List.mem_append, List.mem_cons] at hother
  rw [Utf8.bytes_lt_iff]
  rcases hother with hafter | rfl | hmem
  · simpa [hspells] using hbehind other hafter
  · exact lt_irrefl _
  · exact lt_asymm (hordered.2.1.1 other hmem)

/-- A name has one last spelling at most. -/
theorem IsLastSpelling.unique {name : String} {other : String × String}
    (h : IsLastSpelling entries name entry) (hother : IsLastSpelling entries name other) :
    entry = other := by
  have hle := h.last other hother.mem hother.spells
  have hge := hother.last entry h.mem h.spells
  rw [Utf8.bytes_lt_iff, not_lt] at hle hge
  exact eq_of_name_eq hsorted h.mem hother.mem (le_antisymm hge hle)

/-- The spelling that is put in last is the last one. -/
theorem find?_reverse_eq_some_iff {name : String} :
    (entries.reverse.find? fun entry => Ascii.lowerText entry.1 == name) = some entry ↔
      IsLastSpelling entries name entry := by
  refine ⟨isLastSpelling_of_find? hsorted, fun h => ?_⟩
  obtain ⟨other, hother⟩ := exists_find?_reverse h.mem h.spells
  rw [hother, (isLastSpelling_of_find? hsorted hother).unique hsorted h]

theorem holdsLast_foldl_putHeader : HoldsLast entries (entries.foldl putHeader []) := by
  have hnone : (([] : Http.Headers).map (·.name)).Nodup := .nil
  have hnodup := nodup_foldl_putHeader entries hnone
  have hmem : ∀ name value, ⟨name, value⟩ ∈ entries.foldl putHeader [] ↔
      ∃ entry, IsLastSpelling entries name entry ∧ Utf8.bytes entry.2 = value := by
    intro name value
    rw [Http.Headers.mem_iff_first? hnodup, first?_foldl_putHeader, Option.map_eq_some_iff]
    simp only [find?_reverse_eq_some_iff hsorted]
  refine ⟨hnodup, fun name => ?_, hmem⟩
  rw [List.mem_map]
  constructor
  · rintro ⟨⟨_, value⟩, hfield, rfl⟩
    obtain ⟨entry, hlast, -⟩ := (hmem _ value).mp hfield
    exact ⟨entry, hlast.mem, hlast.spells⟩
  · rintro ⟨entry, hentry, hspells⟩
    obtain ⟨last, hlast⟩ := exists_find?_reverse hentry hspells
    exact ⟨_, (hmem name _).mpr ⟨last, isLastSpelling_of_find? hsorted hlast, rfl⟩, rfl⟩

/-- The first offence is that of the first entry, in the order of the bytes, that has one. -/
theorem first_of_findSome? (h : entries.findSome? offence? = some fault) :
    ∃ entry ∈ entries, Offends entry fault ∧
      ∀ other ∈ entries, Utf8.bytes other.1 < Utf8.bytes entry.1 → IsField other := by
  obtain ⟨before, entry, behind, rfl, hoffends, hbefore⟩ := List.findSome?_eq_some_iff.mp h
  refine ⟨entry, by simp, offence?_eq_some_iff.mp hoffends, fun other hother hlt => ?_⟩
  rw [Utf8.bytes_lt_iff] at hlt
  rw [List.pairwise_append, List.pairwise_cons] at hsorted
  rw [List.mem_append, List.mem_cons] at hother
  rcases hother with hfirst | rfl | hafter
  · exact offence?_eq_none_iff.mp (hbefore other hfirst)
  · exact absurd hlt (lt_irrefl _)
  · exact absurd hlt (lt_asymm (hsorted.2.1.1 other hafter))

end

/-! ### The header fields -/

namespace Warming

variable {w : Warming}

theorem headerFields_eq (w : Warming) :
    w.headerFields = if maxHeaderNames < w.headers.entries.length then .error .tooManyHeaders
      else match w.headers.entries.findSome? offence? with
        | some fault => .error fault
        | none => .ok (w.headers.entries.foldl putHeader []) := by
  rw [headerFields, foldlM_addHeader]

/-- **When there are header fields**: there is room for them, and each may be one. -/
theorem exists_headerFields_iff : (∃ fields, w.headerFields = .ok fields) ↔
    w.headers.entries.length ≤ maxHeaderNames ∧ ∀ entry ∈ w.headers.entries, IsField entry := by
  have hall : w.headers.entries.findSome? offence? = none ↔
      ∀ entry ∈ w.headers.entries, IsField entry := by
    rw [List.findSome?_eq_none_iff]
    exact forall₂_congr fun _ _ => offence?_eq_none_iff
  rw [headerFields_eq, ← hall, ← not_lt]
  split
  · next hmany => simp [hmany]
  · next hroom =>
    cases w.headers.entries.findSome? offence? <;> simp [hroom]

/-- **The last spelling of each name counts.** -/
theorem holdsLast_headerFields (h : w.headerFields = .ok fields) :
    HoldsLast w.headers.entries fields := by
  rw [headerFields_eq] at h
  split at h
  · cases h
  · split at h
    · cases h
    · obtain rfl := Except.ok.inj h
      exact holdsLast_foldl_putHeader w.headers.sorted

/-- **The first entry that may not be a field is named**, if there is room for all. -/
theorem first_of_headerFields (h : w.headerFields = .error fault) :
    maxHeaderNames < w.headers.entries.length ∧ fault = .tooManyHeaders ∨
      w.headers.entries.length ≤ maxHeaderNames ∧
        ∃ entry ∈ w.headers.entries, Offends entry fault ∧
          ∀ other ∈ w.headers.entries, Utf8.bytes other.1 < Utf8.bytes entry.1 →
            IsField other := by
  rw [headerFields_eq] at h
  split at h
  · next hmany => exact .inl ⟨hmany, (Except.error.inj h).symm⟩
  · next hroom =>
    split at h
    · next hoffence =>
      obtain rfl := Except.error.inj h
      exact .inr ⟨not_lt.mp hroom, first_of_findSome? w.headers.sorted hoffence⟩
    · cases h

end Warming

theorem ok_of_bind {α β : Type} {x : Except Fault α} {f : α → Except Fault β} {b : β}
    (h : x >>= f = .ok b) : ∃ a, x = .ok a ∧ f a = .ok b := by
  cases x with
  | error _ => cases h
  | ok a => exact ⟨a, rfl, h⟩

/-- A valid configuration has header fields for its warming. -/
theorem exists_headerFields_of_validate {c : Config} (h : c.validate = .ok ()) :
    ∃ fields, c.warming.headerFields = .ok fields := by
  rw [Config.validate] at h
  obtain ⟨_, -, h⟩ := ok_of_bind h
  obtain ⟨_, -, h⟩ := ok_of_bind h
  obtain ⟨_, -, h⟩ := ok_of_bind h
  obtain ⟨fields, hfields, -⟩ := ok_of_bind h
  exact ⟨fields, hfields⟩

end Config

namespace Gateway

/-- **Only warming keeps a configuration from having a gateway.** -/
theorem ofConfig_eq_error_iff {c : Config} {shows : Bool} {fault : Config.Fault} :
    ofConfig c shows = .error fault ↔
      c.warming.enabled = true ∧ c.warming.headerFields = .error fault := by
  rw [ofConfig, warmingFields]
  cases c.warming.enabled with
  | false => simp [Except.map]
  | true => cases c.warming.headerFields <;> simp [Except.map]

end Gateway

namespace Config.Warming

/-- **The header fields of warming.** There are some if there is room for the configured names, each
is a header name and each value a header value; then they hold the last spelling of each name. If
not, the first entry that may not be a field is named. So a valid configuration has a gateway, and
any other has none only if it warms and its header fields cannot be had. -/
theorem fields_characterized (w : Warming) :
    ((∃ fields, w.headerFields = .ok fields) ↔
        w.headers.entries.length ≤ maxHeaderNames ∧
          ∀ entry ∈ w.headers.entries, IsField entry) ∧
      (∀ fields, w.headerFields = .ok fields → HoldsLast w.headers.entries fields) ∧
      (∀ fault, w.headerFields = .error fault →
        maxHeaderNames < w.headers.entries.length ∧ fault = .tooManyHeaders ∨
          w.headers.entries.length ≤ maxHeaderNames ∧
            ∃ entry ∈ w.headers.entries, Offends entry fault ∧
              ∀ other ∈ w.headers.entries, Utf8.bytes other.1 < Utf8.bytes entry.1 →
                IsField other) ∧
      ∀ (c : Config) (shows : Bool), c.warming = w →
        (c.validate = .ok () → ∃ g, Gateway.ofConfig c shows = .ok g) ∧
          ∀ fault, Gateway.ofConfig c shows = .error fault ↔
            w.enabled = true ∧ w.headerFields = .error fault := by
  refine ⟨exists_headerFields_iff, fun _ => holdsLast_headerFields, fun _ => first_of_headerFields,
    ?_⟩
  rintro c shows rfl
  refine ⟨fun hvalid => ?_, fun fault => Gateway.ofConfig_eq_error_iff⟩
  obtain ⟨fields, hfields⟩ := exists_headerFields_of_validate hvalid
  cases hgateway : Gateway.ofConfig c shows with
  | ok g => exact ⟨g, rfl⟩
  | error fault =>
    rw [(Gateway.ofConfig_eq_error_iff.mp hgateway).2] at hfields
    cases hfields

/-- A name in two spellings. -/
def spelledTwice : Warming where
  enabled := true
  headers := ⟨[("X-Warmup", "1"), ("x-warmup", "2")], by decide⟩

/-- Small letters come last. -/
theorem fields_characterized_spelledTwice :
    ∃ fields, spelledTwice.headerFields = .ok fields ∧
      ⟨"x-warmup", Utf8.bytes "2"⟩ ∈ fields ∧ (fields.map (·.name)).Nodup := by
  obtain ⟨hsome, hlast, -⟩ := fields_characterized spelledTwice
  have hfields : ∀ entry ∈ spelledTwice.headers.entries, IsField entry := by
    intro entry hentry
    simp only [spelledTwice, List.mem_cons, List.not_mem_nil, or_false] at hentry
    rcases hentry with rfl | rfl
    · exact ⟨by decide, by decide⟩
    · exact ⟨by decide, by decide⟩
  obtain ⟨fields, hfields⟩ := hsome.mpr ⟨by decide, hfields⟩
  refine ⟨fields, hfields, ?_, (hlast fields hfields).nodup⟩
  exact ((hlast fields hfields).mem_iff _ _).mpr
    ⟨("x-warmup", "2"), ⟨by decide, by decide, by decide⟩, rfl⟩

/-! Tokens may have any length, and there may be any number of them. Not so for header fields. -/

/-- The bytes are a token: of a length that is not bounded. -/
def IsToken (bs : List UInt8) : Prop :=
  bs ≠ [] ∧ ∀ b ∈ bs, Http.tokenByte b = true

/-- A name of small letters. -/
def nameOf (n : Nat) : String :=
  String.ofList (List.replicate n 'a')

theorem bytes_nameOf (n : Nat) : Utf8.bytes (nameOf n) = List.replicate n 97 := by
  have hascii : ∀ c ∈ List.replicate n 'a', c.toNat < 0x80 := by
    intro c hc
    rw [List.eq_of_mem_replicate hc]
    decide
  rw [Utf8.bytes, nameOf, String.toList_ofList, Utf8.encode_ascii hascii, List.map_replicate]
  rfl

theorem isToken_nameOf (n : Nat) : IsToken (Utf8.bytes (nameOf (n + 1))) := by
  rw [bytes_nameOf]
  refine ⟨by simp [List.replicate_succ], fun b hb => ?_⟩
  rw [List.eq_of_mem_replicate hb]
  decide

theorem nameOf_lt {m n : Nat} (h : m < n) : nameOf m < nameOf n := by
  rw [nameOf, nameOf, String.lt_iff, String.toList_ofList, String.toList_ofList]
  induction m generalizing n with
  | zero =>
    obtain ⟨k, rfl⟩ := Nat.exists_eq_add_of_lt h
    exact List.nil_lt_cons _ _
  | succ m ih =>
    cases n with
    | zero => cases h
    | succ n => exact List.cons_lt_cons_iff.mpr (.inr ⟨rfl, ih (Nat.lt_of_succ_lt_succ h)⟩)

/-- Header fields for names of given lengths, each of one letter more. -/
def ofLengths (ns : List Nat) (h : ns.Pairwise (· < ·)) : Warming where
  headers := ⟨ns.map fun n => (nameOf (n + 1), "v"),
    List.pairwise_map.mpr (h.imp fun h => nameOf_lt (Nat.succ_lt_succ h))⟩

theorem isToken_of_mem_ofLengths {ns : List Nat} {h : ns.Pairwise (· < ·)} :
    ∀ entry ∈ (ofLengths ns h).headers.entries,
      IsToken (Utf8.bytes entry.1) ∧ Http.legalValue (Utf8.bytes entry.2) = true := by
  intro entry hentry
  have hvalue : Http.legalValue (Utf8.bytes "v") = true := by decide
  obtain ⟨n, -, rfl⟩ := List.mem_map.mp hentry
  exact ⟨isToken_nameOf n, hvalue⟩

/-- No name is longer than a header name may be. -/
theorem lt_of_headerFields_ofLengths {ns : List Nat} {h : ns.Pairwise (· < ·)}
    (hfields : ∃ fields, (ofLengths ns h).headerFields = .ok fields) {n : Nat} (hn : n ∈ ns) :
    n < Http.maxNameLength := by
  have hname := ((exists_headerFields_iff.mp hfields).2 _ (List.mem_map_of_mem hn)).name
  rw [Http.legalName, bytes_nameOf, List.length_replicate, Bool.and_eq_true, Bool.and_eq_true,
    decide_eq_true_eq] at hname
  exact hname.1.2

theorem length_le_of_headerFields_ofLengths {ns : List Nat} {h : ns.Pairwise (· < ·)}
    (hfields : ∃ fields, (ofLengths ns h).headerFields = .ok fields) :
    ns.length ≤ maxHeaderNames := by
  have hroom := (exists_headerFields_iff.mp hfields).1
  rwa [ofLengths, List.length_map] at hroom

/-- One name that is longer than a header name may be. -/
def longName : Warming :=
  ofLengths [Http.maxNameLength] (List.pairwise_singleton _ _)

/-- Names for more header fields than there is room for. -/
def manyNames : Warming :=
  ofLengths (List.range (maxHeaderNames + 1)) List.pairwise_lt_range

/-- **Tokens and header values do not suffice**: one name may be too long, or all of them may be too
many. -/
theorem fields_refused_though_legal :
    ¬((∃ fields, longName.headerFields = .ok fields) ↔
        ∀ entry ∈ longName.headers.entries,
          IsToken (Utf8.bytes entry.1) ∧ Http.legalValue (Utf8.bytes entry.2) = true) ∧
      ¬((∃ fields, manyNames.headerFields = .ok fields) ↔
        ∀ entry ∈ manyNames.headers.entries,
          IsToken (Utf8.bytes entry.1) ∧ Http.legalValue (Utf8.bytes entry.2) = true) := by
  constructor
  · intro h
    have hlt := lt_of_headerFields_ofLengths (h.mpr isToken_of_mem_ofLengths)
      (List.mem_singleton_self Http.maxNameLength)
    exact Nat.lt_irrefl _ hlt
  · intro h
    have hle := length_le_of_headerFields_ofLengths (h.mpr isToken_of_mem_ofLengths)
    rw [List.length_range] at hle
    exact Nat.not_succ_le_self _ hle

end Config.Warming

end PurgeGateway
