import PurgeGateway.Jwt
import PurgeGateway.Proofs.RequestFormat
import PurgeGateway.Proofs.Sextets
import PurgeGateway.Proofs.Trimmed

/-!
# The payload of a token

A token has three parts with dots between them. The middle one, without blanks at its ends and
without spaces and line ends anywhere, writes bytes in the alphabet for tokens; the bytes are the
text of an object, whose members are the claims.

Each step is said on the token as it is written, and a claim is read if and only if every step goes
through. What goes wrong first is what is reported. Spaces and line ends are blanks, so it does not
matter to the trimming whether they are there, and the reader of symbols never sees them: the result
does not depend on them, and the places that a refusal names do not either.

## Main definitions

* `Jwt.HasParts`: the three parts of a token.
* `Jwt.Carries`: the bytes that the middle part writes.
* `Jwt.WritesObject`: the members of an object that bytes write.

## Main results

* `Jwt.symbols_eq_of_filter`: spaces and line ends do not matter.
* `Jwt.claim_exactly`: what a claim is read from, and what is reported otherwise.
* `Jwt.named_and_refused`: payloads that write an object and are refused.
-/

namespace PurgeGateway

open Json (Tree WritesText StandsFor)

/-! ### Texts without some blanks -/

namespace Text

variable {p : Char → Bool}

theorem dropWhile_filter (h : ∀ c, p c = false → isBlank c = true) (cs : List Char) :
    (cs.filter p).dropWhile isBlank = (cs.dropWhile isBlank).filter p := by
  induction cs with
  | nil => rfl
  | cons c cs ih =>
    by_cases hblank : isBlank c = true
    · rw [List.dropWhile_cons_of_pos hblank, ← ih, List.filter_cons]
      split
      · exact List.dropWhile_cons_of_pos hblank
      · rfl
    · have hkept : p c = true := by
        by_contra hdropped
        exact hblank (h c (by simpa using hdropped))
      rw [List.dropWhile_cons_of_neg hblank, List.filter_cons_of_pos hkept,
        List.dropWhile_cons_of_neg hblank]

/-- Whether some of the blanks are there does not matter to what trimming leaves of the rest. -/
theorem trimChars_filter (h : ∀ c, p c = false → isBlank c = true) (cs : List Char) :
    trimChars (cs.filter p) = (trimChars cs).filter p := by
  rw [trimChars, trimStartChars, dropWhile_filter h, trimEndChars, dropEndWhile,
    ← List.filter_reverse, dropWhile_filter h, ← List.filter_reverse]
  rfl

end Text

namespace Jwt

variable {token name : String} {head middle tail : List Char} {bytes : List UInt8}
  {members : List (List Nat × Tree)}

/-! ### Parts -/

/-- The token has three parts between two dots. -/
structure HasParts (token : String) (head middle tail : List Char) : Prop where
  text : token.toList = head ++ '.' :: (middle ++ '.' :: tail)
  head : '.' ∉ head
  middle : '.' ∉ middle
  tail : '.' ∉ tail

theorem splitOn_append_cons (as bs : List Char) :
    (as ++ '.' :: bs).splitOn '.' = as.splitOn '.' ++ bs.splitOn '.' :=
  List.splitOnP_append_cons as bs (beq_self_eq_true '.')

/-- No dot is in a part. -/
theorem notMem_of_mem_splitOn (cs : List Char) : ∀ part ∈ cs.splitOn '.', '.' ∉ part := by
  induction cs with
  | nil => simp
  | cons c cs ih =>
    obtain ⟨first, more, hparts⟩ := List.exists_cons_of_ne_nil (List.splitOnP_ne_nil (· == '.') cs)
    rw [List.splitOn, hparts, List.forall_mem_cons] at ih
    rw [List.splitOn, List.splitOnP_cons_eq_if_modifyHead, hparts]
    by_cases hdot : c = '.'
    · simpa [hdot] using ih
    · simpa [hdot, Ne.symm hdot] using ih

theorem parts_eq_iff : parts token = [head, middle, tail] ↔ HasParts token head middle tail := by
  constructor
  · intro h
    have hdots := notMem_of_mem_splitOn token.toList
    have htext : ['.'].intercalate (token.toList.splitOn '.') = token.toList :=
      List.intercalate_splitOn '.'
    rw [← parts, h] at hdots htext
    simp only [List.forall_mem_cons] at hdots
    exact ⟨by rw [← htext]; simp [List.intercalate], hdots.1, hdots.2.1, hdots.2.2.1⟩
  · rintro ⟨htext, hhead, hmiddle, htail⟩
    rw [parts, htext, splitOn_append_cons, splitOn_append_cons, List.splitOn_eq_singleton hhead,
      List.splitOn_eq_singleton hmiddle, List.splitOn_eq_singleton htail]
    rfl

/-- There is one part more than there are dots. -/
theorem length_parts (token : String) : (parts token).length = token.toList.count '.' + 1 := by
  rw [parts]
  induction token.toList with
  | nil => rfl
  | cons c cs ih =>
    rw [List.splitOn] at ih
    rw [List.splitOn, List.splitOnP_cons_eq_if_modifyHead]
    by_cases hdot : c = '.'
    · simp [hdot, ih]
    · simp [hdot, ih]

/-! ### Symbols -/

/-- The character is no space and no line end. -/
def isSolid (c : Char) : Bool :=
  c != '\n' && c != '\r' && c != ' '

theorem isBlank_of_not_isSolid (c : Char) (h : isSolid c = false) : Text.isBlank c = true := by
  simp only [isSolid, Bool.and_eq_false_iff, bne_eq_false_iff_eq] at h
  rcases h with (rfl | rfl) | rfl <;> rfl

/-- **Spaces and line ends do not matter**: two parts that are the same without them have the same
symbols. -/
theorem symbols_eq_of_filter {other : List Char}
    (h : other.filter isSolid = middle.filter isSolid) : symbols other = symbols middle := by
  have htrim : ∀ cs : List Char, symbols cs = Utf8.encode (Text.trimChars (cs.filter isSolid)) := by
    intro cs
    rw [Text.trimChars_filter isBlank_of_not_isSolid]
    rfl
  rw [htrim, htrim, h]

/-! ### Payloads -/

/-- The middle part of the token, trimmed and without spaces and line ends, is the form in which
the bytes are written in tokens. -/
def Carries (token : String) (bytes : List UInt8) : Prop :=
  ∃ head middle tail, HasParts token head middle tail ∧
    (Text.trimChars middle).filter isSolid = Base64.encodeToken bytes

/-- The bytes are the text of an object with the members, and all that it holds can be held. -/
def WritesObject (bytes : List UInt8) (members : List (List Nat × Tree)) : Prop :=
  WritesText Json.maxDepth bytes (.object members) ∧ (Tree.object members).Representable

/-- The last member of the name is a text. -/
def Names (members : List (List Nat × Tree)) (name value : String) : Prop :=
  ∃ tree, LastUnder name members tree ∧ Purge.IsText tree value

theorem carries_iff (h : HasParts token head middle tail) :
    Carries token bytes ↔ Base64.decodeToken (symbols middle) = .ok bytes := by
  rw [Base64.decodeToken_eq_ok_iff, symbols, Utf8.encode_inj]
  constructor
  · rintro ⟨head', middle', tail', h', hform⟩
    have hsame := (parts_eq_iff.mpr h).symm.trans (parts_eq_iff.mpr h')
    simp only [List.cons.injEq, and_true] at hsame
    rw [hsame.2.1]
    exact hform
  · intro hform
    exact ⟨head, middle, tail, h, hform⟩

/-- The symbols of a token are no dots and no blanks. -/
theorem mem_encodeToken {c : Char} (h : c ∈ Base64.encodeToken bytes) :
    c ≠ '.' ∧ Text.isBlank c = false := by
  have hsymbols : ∀ n < 64, Base64.symbol Base64.urlSafe n ≠ '.' ∧
      Text.isBlank (Base64.symbol Base64.urlSafe n) = false := by
    decide +kernel
  rw [Base64.encodeToken_eq] at h
  obtain ⟨n, hn, rfl⟩ := List.mem_map.mp h
  exact hsymbols n (Base64.lt_of_mem_sextetsOf bytes n hn)

/-- Bytes that are put between two dots in their written form are carried. -/
theorem carries_ofList (bytes : List UInt8) (hhead : '.' ∉ head) (htail : '.' ∉ tail) :
    Carries (String.ofList (head ++ '.' :: (Base64.encodeToken bytes ++ '.' :: tail))) bytes := by
  refine ⟨head, Base64.encodeToken bytes, tail, ⟨String.toList_ofList, hhead, ?_, htail⟩, ?_⟩
  · intro hdot
    exact (mem_encodeToken hdot).1 rfl
  · rw [Text.trimChars_of_forall_not_isBlank fun c hc => (mem_encodeToken hc).2,
      List.filter_eq_self]
    intro c hc
    by_contra hsolid
    have hblank := isBlank_of_not_isSolid c (by simpa using hsolid)
    rw [(mem_encodeToken hc).2] at hblank
    cases hblank

/-- The objects that are read are those that are written. -/
theorem parse?_eq_object_iff {found : List (String × Json)} :
    Json.parse? bytes = some (.object found) ↔ ∃ members ms, WritesObject bytes members ∧
      List.Forall₂ Json.MemberStandsFor members ms ∧
      found = collapseMembers (Json.collapseEach ms) := by
  rw [Json.parse?]
  constructor
  · intro h
    obtain ⟨j, hj, hcollapse⟩ := Option.map_eq_some_iff.mp h
    obtain ⟨tree, htext, hstands⟩ := Json.read?_eq_some_iff.mp hj
    cases j with
    | object ms =>
      rw [Json.collapse, Json.object.injEq] at hcollapse
      obtain ⟨members, rfl, hall⟩ := Json.standsFor_object_iff.mp hstands
      exact ⟨members, ms, ⟨htext, Json.representable_iff.mpr ⟨_, hstands⟩⟩, hall, hcollapse.symm⟩
    | null | bool _ | number _ | text _ | array _ => cases hcollapse
  · rintro ⟨members, ms, ⟨htext, -⟩, hall, rfl⟩
    have hstands : StandsFor (.object members) (.object ms) :=
      Json.standsFor_object_iff.mpr ⟨members, rfl, hall⟩
    rw [Json.read?_eq_some_iff.mpr ⟨_, htext, hstands⟩, Option.map_some, Json.collapse]

theorem lastMember?_eq_text_iff {ms : List (String × Json)} {value : String}
    (hall : List.Forall₂ Json.MemberStandsFor members ms) :
    lastMember? (collapseMembers (Json.collapseEach ms)) name = some (.text value) ↔
      Names members name value := by
  constructor
  · intro h
    obtain ⟨tree, j, hlast, hstands, hcollapse⟩ := exists_lastUnder_collapse hall h
    refine ⟨tree, hlast, (Purge.isText_iff hstands).mpr ?_⟩
    rw [hcollapse]
    rfl
  · rintro ⟨tree, hlast, htext⟩
    obtain ⟨j, hstands, hvalue⟩ := lastMember?_collapse_of_lastUnder hall hlast
    have hread := (Purge.isText_iff hstands).mp htext
    rw [hvalue]
    cases hcollapse : j.collapse with
    | text s =>
      rw [hcollapse] at hread
      rw [← Option.some.inj hread]
    | null | bool _ | number _ | array _ | object _ => rw [hcollapse] at hread; cases hread

/-! ### What is read -/

theorem claims_of_hasParts (h : HasParts token head middle tail) :
    claims token = match Base64.decodeToken (symbols middle) with
      | .error cause => .error (.decode cause)
      | .ok bytes =>
        match Json.parse? bytes with
        | some (.object members) => .ok members
        | _ => .error .parse := by
  have hparts := parts_eq_iff.mpr h
  rw [claims]
  -- The match is on the parts as they come, so it is they that are put in.
  generalize parts token = found at hparts
  subst hparts
  rfl

theorem claims_of_carries (h : Carries token bytes) :
    claims token = match Json.parse? bytes with
      | some (.object members) => .ok members
      | _ => .error .parse := by
  obtain ⟨head, middle, tail, hparts, -⟩ := id h
  rw [claims_of_hasParts hparts]
  have hdecoded := (carries_iff hparts).mp h
  generalize Base64.decodeToken (symbols middle) = found at hdecoded
  subst hdecoded
  rfl

/-- The token has three parts if it has two dots. -/
theorem exists_hasParts_iff :
    (∃ head middle tail, HasParts token head middle tail) ↔ token.toList.count '.' = 2 := by
  have hlength := length_parts token
  constructor
  · rintro ⟨head, middle, tail, h⟩
    rw [parts_eq_iff.mpr h] at hlength
    simpa using hlength.symm
  · intro h
    rw [h] at hlength
    match hparts : parts token with
    | [head, middle, tail] => exact ⟨head, middle, tail, parts_eq_iff.mp hparts⟩
    | [] | [_] | [_, _] | _ :: _ :: _ :: _ :: _ => rw [hparts] at hlength; simp at hlength

theorem claims_of_count_ne (h : token.toList.count '.' ≠ 2) :
    claims token = .error (.segments (token.toList.count '.' + 1)) := by
  rw [← length_parts, claims]
  split
  · next head middle tail hparts =>
    exact absurd (exists_hasParts_iff.mp ⟨_, _, _, parts_eq_iff.mp hparts⟩) h
  · rfl

/-- Without three parts a token is not looked into. -/
theorem claim_of_count_ne (h : token.toList.count '.' ≠ 2) (name : String) :
    claim token name = .error (.segments (token.toList.count '.' + 1)) := by
  rw [claim, claims_of_count_ne h]
  rfl

theorem claim_of_not_carries (h : HasParts token head middle tail)
    (hno : ∀ bytes, ¬Carries token bytes) (name : String) :
    ∃ cause, claim token name = .error (.decode cause) := by
  rw [claim, claims_of_hasParts h]
  cases hdecoded : Base64.decodeToken (symbols middle) with
  | error cause => exact ⟨cause, rfl⟩
  | ok bytes => exact absurd ((carries_iff h).mpr hdecoded) (hno bytes)

theorem claim_of_not_writesObject (h : Carries token bytes)
    (hno : ∀ members, ¬WritesObject bytes members) (name : String) :
    claim token name = .error .parse := by
  rw [claim, claims_of_carries h]
  split
  · next members hparsed =>
    obtain ⟨members, -, hobject, -⟩ := parse?_eq_object_iff.mp hparsed
    exact absurd hobject (hno members)
  · rfl

/-- Bytes that are no JSON text are not looked into. -/
theorem claim_of_parse?_eq_none (h : Carries token bytes) (hparse : Json.parse? bytes = none)
    (name : String) : claim token name = .error .parse := by
  rw [claim, claims_of_carries h, hparse]
  rfl

/-- The claim of an object is its last member of the name, if that is a text. -/
theorem claim_of_writesObject (h : Carries token bytes) (hobject : WritesObject bytes members)
    (name : String) : ∃ last : Option String, claim token name = .ok last ∧
      ∀ value, last = some value ↔ Names members name value := by
  obtain ⟨j, hstands⟩ := Json.representable_iff.mp hobject.2
  obtain ⟨ms, hms, rfl⟩ := Option.map_eq_some_iff.mp hstands
  have hall := Json.memberValues?_eq_some_iff.mp hms
  have hparsed := parse?_eq_object_iff.mpr ⟨members, ms, hobject, hall, rfl⟩
  rw [claim, claims_of_carries h, hparsed]
  refine ⟨_, rfl, fun value => ?_⟩
  rw [← lastMember?_eq_text_iff hall]
  dsimp only
  split
  · next s hlast => rw [hlast]; simp
  · next hlast =>
    constructor
    · intro h
      cases h
    · intro h
      exact absurd h (hlast value)

/-- Spaces and line ends in the middle part do not change what is read or reported. -/
theorem claim_eq_of_filter (h : HasParts token head middle tail) {other : List Char}
    (hother : other.filter isSolid = middle.filter isSolid) (name : String) :
    claim (String.ofList (head ++ '.' :: (other ++ '.' :: tail))) name = claim token name := by
  have hdots : '.' ∉ other := by
    intro hdot
    have hkept : '.' ∈ other.filter isSolid := List.mem_filter.mpr ⟨hdot, rfl⟩
    rw [hother] at hkept
    exact h.middle (List.mem_of_mem_filter hkept)
  have hspaced : HasParts (String.ofList (head ++ '.' :: (other ++ '.' :: tail))) head other tail :=
    ⟨String.toList_ofList, h.head, hdots, h.tail⟩
  rw [claim, claims_of_hasParts hspaced, symbols_eq_of_filter hother, ← claims_of_hasParts h, claim]

/-! ### The results -/

/-- What a token and a name give, said on the token as it is written. -/
inductive Gives (token name : String) : Except ClaimError (Option String) → Prop
  | value {bytes : List UInt8} {members : List (List Nat × Tree)} {value : String}
      (hcarries : Carries token bytes) (hobject : WritesObject bytes members)
      (h : Names members name value) : Gives token name (.ok (some value))
  | noText {bytes : List UInt8} {members : List (List Nat × Tree)} (hcarries : Carries token bytes)
      (hobject : WritesObject bytes members) (h : ∀ value, ¬Names members name value) :
    Gives token name (.ok none)
  | segments (h : token.toList.count '.' ≠ 2) :
    Gives token name (.error (.segments (token.toList.count '.' + 1)))
  | decode {cause : Base64.DecodeError} (hparts : token.toList.count '.' = 2)
      (h : ∀ bytes, ¬Carries token bytes) : Gives token name (.error (.decode cause))
  | parse {bytes : List UInt8} (hcarries : Carries token bytes)
      (h : ∀ members, ¬WritesObject bytes members) : Gives token name (.error .parse)

/-- A token gives one thing for each name. -/
theorem gives_claim (token name : String) : Gives token name (claim token name) := by
  by_cases hparts : token.toList.count '.' = 2
  · obtain ⟨head, middle, tail, h⟩ := exists_hasParts_iff.mpr hparts
    by_cases hcarries : ∃ bytes, Carries token bytes
    · obtain ⟨bytes, hcarries⟩ := hcarries
      by_cases hobject : ∃ members, WritesObject bytes members
      · obtain ⟨members, hobject⟩ := hobject
        obtain ⟨last, hclaim, hlast⟩ := claim_of_writesObject hcarries hobject name
        rw [hclaim]
        cases last with
        | some value => exact .value hcarries hobject ((hlast value).mp rfl)
        | none => exact .noText hcarries hobject fun value h => by cases (hlast value).mpr h
      · rw [claim_of_not_writesObject hcarries (not_exists.mp hobject)]
        exact .parse hcarries (not_exists.mp hobject)
    · obtain ⟨cause, hclaim⟩ := claim_of_not_carries h (not_exists.mp hcarries) name
      rw [hclaim]
      exact .decode hparts (not_exists.mp hcarries)
  · rw [claim_of_count_ne hparts]
    exact .segments hparts

/-- **What a claim is read from.** -/
theorem claim_exactly (token name : String) :
    (∀ value, claim token name = .ok (some value) ↔ ∃ bytes members, Carries token bytes ∧
      WritesObject bytes members ∧ Names members name value) ∧
    (claim token name = .ok none ↔ ∃ bytes members, Carries token bytes ∧
      WritesObject bytes members ∧ ∀ value, ¬Names members name value) ∧
    (∀ n, claim token name = .error (.segments n) ↔ n = token.toList.count '.' + 1 ∧ n ≠ 3) ∧
    ((∃ cause, claim token name = .error (.decode cause)) ↔ token.toList.count '.' = 2 ∧
      ∀ bytes, ¬Carries token bytes) ∧
    (claim token name = .error .parse ↔ ∃ bytes, Carries token bytes ∧
      ∀ members, ¬WritesObject bytes members) ∧
    ∀ head middle tail, HasParts token head middle tail → ∀ other,
      other.filter isSolid = middle.filter isSolid →
        claim (String.ofList (head ++ '.' :: (other ++ '.' :: tail))) name = claim token name := by
  have hgives : ∀ {result}, claim token name = result → Gives token name result :=
    fun h => h ▸ gives_claim token name
  refine ⟨fun value => ⟨fun h => ?_, ?_⟩, ⟨fun h => ?_, ?_⟩, fun n => ⟨fun h => ?_, ?_⟩,
    ⟨fun ⟨cause, h⟩ => ?_, ?_⟩, ⟨fun h => ?_, ?_⟩, ?_⟩
  · cases hgives h with
    | value hcarries hobject h => exact ⟨_, _, hcarries, hobject, h⟩
  · rintro ⟨bytes, members, hcarries, hobject, h⟩
    obtain ⟨last, hclaim, hlast⟩ := claim_of_writesObject hcarries hobject name
    rw [hclaim, (hlast value).mpr h]
  · cases hgives h with
    | noText hcarries hobject h => exact ⟨_, _, hcarries, hobject, h⟩
  · rintro ⟨bytes, members, hcarries, hobject, h⟩
    obtain ⟨last, hclaim, hlast⟩ := claim_of_writesObject hcarries hobject name
    cases last with
    | none => exact hclaim
    | some value => exact absurd ((hlast value).mp rfl) (h value)
  · cases hgives h with
    | segments h => exact ⟨rfl, by omega⟩
  · rintro ⟨rfl, h⟩
    exact claim_of_count_ne (by omega) name
  · cases hgives h with
    | decode hparts h => exact ⟨hparts, h⟩
  · rintro ⟨hparts, h⟩
    obtain ⟨head, middle, tail, hparts⟩ := exists_hasParts_iff.mpr hparts
    exact claim_of_not_carries hparts h name
  · cases hgives h with
    | parse hcarries h => exact ⟨_, hcarries, h⟩
  · rintro ⟨bytes, hcarries, h⟩
    exact claim_of_not_writesObject hcarries h name
  · intro head middle tail h other hother
    exact claim_eq_of_filter h hother name

/-- The middle part of a token that names a user, with blanks around it and between its symbols. -/
def annSpaced : List Char :=
  " \neyJz\ndWIi  OiJh\r\nbm4ifQ ".toList

theorem claim_exactly_spaced :
    HasParts "h.eyJzdWIiOiJhbm4ifQ.s" ['h'] "eyJzdWIiOiJhbm4ifQ".toList ['s'] ∧
      annSpaced.filter isSolid = "eyJzdWIiOiJhbm4ifQ".toList.filter isSolid ∧
      claim (String.ofList (['h'] ++ '.' :: (annSpaced ++ '.' :: ['s']))) "sub" = .ok (some "ann") ∧
      ∃ bytes members, Carries "h.eyJzdWIiOiJhbm4ifQ.s" bytes ∧ WritesObject bytes members ∧
        Names members "sub" "ann" := by
  have hparts : HasParts "h.eyJzdWIiOiJhbm4ifQ.s" ['h'] "eyJzdWIiOiJhbm4ifQ".toList ['s'] :=
    ⟨by decide +kernel, by decide, by decide +kernel, by decide⟩
  have hfilter : annSpaced.filter isSolid = "eyJzdWIiOiJhbm4ifQ".toList.filter isSolid := by
    decide +kernel
  have hclaim : claim "h.eyJzdWIiOiJhbm4ifQ.s" "sub" = .ok (some "ann") := by
    decide +kernel
  obtain ⟨hvalue, -, -, -, -, hspaces⟩ := claim_exactly "h.eyJzdWIiOiJhbm4ifQ.s" "sub"
  exact ⟨hparts, hfilter, (hspaces _ _ _ hparts _ hfilter).trans hclaim, (hvalue "ann").mp hclaim⟩

/-! ### What cannot be held -/

/-- Arrays in one another. -/
def nestedTree : Nat → Tree
  | 0 => .array []
  | n + 1 => .array [nestedTree n]

@[inherit_doc nestedTree]
def nestedText : Nat → List UInt8
  | 0 => [Ascii.byte '[', Ascii.byte ']']
  | n + 1 => Ascii.byte '[' :: (nestedText n ++ [Ascii.byte ']'])

theorem writes_nested (n : Nat) : Json.Writes (n + 1) (nestedText n) (nestedTree n) := by
  induction n with
  | zero => exact .inr (.noItems Json.isBlank_nil)
  | succ n ih =>
    have hitems : Json.WritesList (Json.Led (Json.Writes (n + 1))) (nestedText n ++ []) _ :=
      .last (.solid ih) Json.isBlank_nil
    rw [List.append_nil] at hitems
    exact .inr (.items hitems)

/-- A payload with a value under a name that nobody asks for. -/
def withNote (note : List UInt8) : List UInt8 :=
  Utf8.bytes "\x7b\"n\":" ++ (note ++ Utf8.bytes ",\"sub\":\"ann\"\x7d")

/-- A token with a payload. -/
def tokenOf (payload : List UInt8) : String :=
  String.ofList ([] ++ '.' :: (Base64.encodeToken payload ++ ['.']))

/-- The members of the payload. -/
def notedMembers (note : Tree) : List (List Nat × Tree) :=
  Purge.named [("n", note), ("sub", Purge.textTree "ann")]

theorem writes_withNote {depth : Nat} {note : List UInt8} {tree : Tree}
    (h : Json.Writes depth note tree) :
    WritesText (depth + 1) (withNote note) (.object (notedMembers tree)) := by
  have hmembers := Json.WritesList.cons (Json.writesMember_render "n" h) Json.isBlank_nil
    (.last (Json.writesMember_render "sub" (Json.writes_renderText "ann")) Json.isBlank_nil)
  have hwhole : Json.Writes (depth + 1) _ (.object (notedMembers tree)) := .inr (.members hmembers)
  have htext := WritesText.mk (.solid hwhole) Json.isBlank_nil
  have hhead : Utf8.bytes "\x7b\"n\":" = Ascii.byte '\x7b' ::
      (Utf8.encode (Json.renderText "n") ++ [Ascii.byte ':']) := by
    decide +kernel
  have htail : Utf8.bytes ",\"sub\":\"ann\"\x7d" = Ascii.byte ',' ::
      (Utf8.encode (Json.renderText "sub") ++ Ascii.byte ':' ::
        (Utf8.encode (Json.renderText "ann") ++ [Ascii.byte '\x7d'])) := by
    decide +kernel
  rw [withNote, hhead, htail]
  simpa only [List.append_nil, List.nil_append, List.append_assoc, List.cons_append] using htext

theorem names_notedMembers (note : Tree) : Names (notedMembers note) "sub" "ann" :=
  ⟨_, Purge.lastUnder_named rfl, Purge.isText_textTree "ann"⟩

/-- A payload with the note is the text of an object that names a user, and no claim is read. -/
def RefusedWith (note : List UInt8) : Prop :=
  (∃ depth members, WritesText depth (withNote note) (.object members) ∧
    Names members "sub" "ann") ∧
  Carries (tokenOf (withNote note)) (withNote note) ∧
  claim (tokenOf (withNote note)) "sub" = .error .parse

theorem refusedWith_of_writes {depth : Nat} {note : List UInt8} {tree : Tree}
    (h : Json.Writes depth note tree) (hparse : Json.parse? (withNote note) = none) :
    RefusedWith note := by
  have hcarries := carries_ofList (withNote note) List.not_mem_nil List.not_mem_nil
  exact ⟨⟨_, _, writes_withNote h, names_notedMembers tree⟩, hcarries,
    claim_of_parse?_eq_none hcarries hparse "sub"⟩

/-- **To write an object is not enough.** With a number past the largest double under a name that
nobody asks for, half of a surrogate pair, or too many arrays in one another, a payload names a user
and no claim is read. -/
theorem named_and_refused : RefusedWith (Utf8.bytes "1e999") ∧
    RefusedWith (Utf8.bytes "\"\\ud800\"") ∧ RefusedWith (nestedText 126) := by
  refine ⟨refusedWith_of_writes Purge.writes_endless ?_, refusedWith_of_writes Purge.writes_half ?_,
    refusedWith_of_writes (writes_nested 126) ?_⟩
  · decide +kernel
  · decide +kernel
  · decide +kernel

end Jwt

end PurgeGateway
