import PurgeGateway.Http.Target
import PurgeGateway.Proofs.Encoding
import PurgeGateway.Proofs.Trimmed
import PurgeGateway.Purge.Request

/-!
# What a purge request may be announced as

A content type names a media type and may have parameters behind it. The media type alone is meant
to decide whether a request is taken, but a value is made a text before it is cut, and only plain
bytes make a text. A header value may hold other bytes, those past ASCII; where one of them stands
in the parameters, the request is refused although its media type is right. Nothing else about the
parameters matters.

## Main definitions

* `Purge.namedType`: the media type that a content type names, byte by byte.
* `Purge.parameters`: what stands behind it.
* `Purge.NamesJson`: the media type is the one that a purge request must have.

## Main results

* `Purge.toList_mediaType`: the text of a plain value is cut where its bytes are.
* `Purge.plain_of_namesJson`: only parameters can be other than plain.
* `Purge.accepted_iff`: when a request is taken, and when its media type decides.
* `Purge.refused_for_parameter`: a request with the right media type that is refused.
-/

namespace PurgeGateway

namespace Http.Target

/-- What holds of all numbers below 256 holds of all bytes. -/
theorem forall_byte {p : UInt8 → Prop} (h : ∀ n < 256, p (UInt8.ofNat n)) (b : UInt8) : p b := by
  rw [← UInt8.ofNat_toNat (x := b)]
  exact h b.toNat b.toNat_lt

theorem charOf_injective : Function.Injective charOf := by
  intro b d h
  have hbyte : ∀ b : UInt8, UInt8.ofNat (charOf b).toNat = b :=
    forall_byte (by decide +kernel)
  rw [← hbyte b, h, hbyte d]

/-- ASCII bytes are the text of their characters. -/
theorem textLossy_ascii {bs : List UInt8} (h : ∀ b ∈ bs, b < 0x80) :
    Utf8.textLossy bs = asciiText bs := by
  have hchar : ∀ b : UInt8, b < 0x80 → (charOf b).toNat < 0x80 ∧ Ascii.byte (charOf b) = b :=
    forall_byte (by decide +kernel)
  have hascii : ∀ c ∈ bs.map charOf, c.toNat < 0x80 := by
    intro c hc
    obtain ⟨b, hb, rfl⟩ := List.mem_map.mp hc
    exact (hchar b (h b hb)).1
  have hbytes : Utf8.encode (bs.map charOf) = bs := by
    rw [Utf8.encode_ascii hascii, List.map_map]
    conv_rhs => rw [← List.map_id bs]
    exact List.map_congr_left fun b hb => (hchar b (h b hb)).2
  have hread := Utf8.textLossy_bytes (asciiText bs)
  rwa [Utf8.bytes, asciiText, String.toList_ofList, hbytes] at hread

end Http.Target

namespace Purge

open Http.Target (charOf forall_byte)

/-! ### The parts of a content type -/

/-- The byte is a space or a tab. -/
def blankByte (b : UInt8) : Bool :=
  b == 0x20 || b == 0x09

/-- The byte of a capital letter made that of the small one, and every other as it is. -/
def lowerByte (b : UInt8) : UInt8 :=
  if Ascii.byte 'A' ≤ b && b ≤ Ascii.byte 'Z' then b + 0x20 else b

/-- The media type that a content type names: what is in front of the first semicolon, without
blanks at its ends. As its case does not matter, its letters are made small. -/
def namedType (value : List UInt8) : List UInt8 :=
  (((value.takeWhile (· != Ascii.byte ';')).dropWhile blankByte).rdropWhile blankByte).map lowerByte

/-- What stands behind the media type. -/
def parameters (value : List UInt8) : List UInt8 :=
  value.dropWhile (· != Ascii.byte ';')

/-- The media type is the one that a purge request must have. -/
def NamesJson (value : List UInt8) : Prop :=
  namedType value = Utf8.bytes jsonMediaType

instance (value : List UInt8) : Decidable (NamesJson value) :=
  inferInstanceAs (Decidable (_ = _))

/-- All bytes are plain. -/
def Plain (bs : List UInt8) : Prop :=
  ∀ b ∈ bs, plainByte b = true

variable {value other bs : List UInt8} {hs : Http.Headers}

theorem plain_iff_all : Plain bs ↔ bs.all plainByte = true :=
  List.all_eq_true.symm

/-! ### Cutting the text and cutting the bytes -/

theorem dropWhile_congr {p q : UInt8 → Bool} (h : ∀ b ∈ bs, p b = q b) :
    bs.dropWhile p = bs.dropWhile q := by
  induction bs with
  | nil => rfl
  | cons b bs ih =>
    rw [List.dropWhile_cons, List.dropWhile_cons, h b List.mem_cons_self,
      ih fun d hd => h d (List.mem_cons_of_mem b hd)]

/-- The blanks of a plain text are the blanks of its bytes. -/
theorem trimChars_charOf (h : Plain bs) :
    Text.trimChars (bs.map charOf)
      = ((bs.dropWhile blankByte).rdropWhile blankByte).map charOf := by
  have hblank : ∀ b : UInt8, plainByte b = true → Text.isBlank (charOf b) = blankByte b :=
    forall_byte (by decide +kernel)
  have hstart : bs.dropWhile (Text.isBlank ∘ charOf) = bs.dropWhile blankByte :=
    dropWhile_congr fun b hb => hblank b (h b hb)
  have hend : (bs.dropWhile blankByte).reverse.dropWhile (Text.isBlank ∘ charOf)
      = (bs.dropWhile blankByte).reverse.dropWhile blankByte :=
    dropWhile_congr fun b hb =>
      hblank b (h b ((List.dropWhile_suffix _).subset (List.mem_reverse.mp hb)))
  rw [Text.trimChars, Text.trimStartChars, List.dropWhile_map, hstart, Text.trimEndChars,
    Text.dropEndWhile, ← List.map_reverse, List.dropWhile_map, hend, ← List.map_reverse]
  rfl

/-- **A plain value is cut as its bytes are.** -/
theorem toList_mediaType (h : Plain value) :
    (mediaType (Utf8.textLossy value)).toList.map Char.toLower
      = (namedType value).map charOf := by
  have hascii : ∀ b : UInt8, plainByte b = true → b < 0x80 := forall_byte (by decide +kernel)
  have hsemicolon : (· != ';') ∘ charOf = (· != Ascii.byte ';') :=
    funext (forall_byte (by decide +kernel))
  have hlower : Char.toLower ∘ charOf = charOf ∘ lowerByte :=
    funext (forall_byte (by decide +kernel))
  have hplain : Plain (value.takeWhile (· != Ascii.byte ';')) :=
    fun b hb => h b ((List.takeWhile_prefix _).subset hb)
  rw [mediaType, Text.trim, String.toList_ofList, String.toList_ofList,
    Http.Target.textLossy_ascii fun b hb => hascii b (h b hb), Http.Target.asciiText,
    String.toList_ofList, List.takeWhile_map, hsemicolon, trimChars_charOf hplain, List.map_map,
    hlower, namedType, List.map_map]

/-! ### The verdict -/

theorem acceptsContentType_of_plain (hfirst : hs.first? "content-type" = some value)
    (h : Plain value) : acceptsContentType hs = true ↔ NamesJson value := by
  have htext : contentType hs = Utf8.textLossy value := by
    rw [contentType, hfirst]
    dsimp only
    rw [if_pos (plain_iff_all.mp h)]
  have hjson : jsonMediaType.toList.map Char.toLower = (Utf8.bytes jsonMediaType).map charOf := by
    decide +kernel
  rw [acceptsContentType, Ascii.sameLetters_iff, htext, toList_mediaType h, hjson, NamesJson]
  exact (List.map_injective_iff.mpr Http.Target.charOf_injective).eq_iff

/-- What has no text is no content type. -/
theorem acceptsContentType_of_not_plain (hfirst : hs.first? "content-type" = some value)
    (h : ¬Plain value) : acceptsContentType hs = false := by
  have htext : contentType hs = "" := by
    rw [contentType, hfirst]
    dsimp only
    rw [if_neg (mt plain_iff_all.mpr h)]
  rw [acceptsContentType, htext]
  decide +kernel

theorem acceptsContentType_of_none (hfirst : hs.first? "content-type" = none) :
    acceptsContentType hs = false := by
  have htext : contentType hs = "" := by rw [contentType, hfirst]
  rw [acceptsContentType, htext]
  decide +kernel

/-- **Only parameters can be other than plain** where the media type is the right one. -/
theorem plain_of_namesJson (h : NamesJson value) (hparameters : Plain (parameters value)) :
    Plain value := by
  have hletter : ∀ b : UInt8, lowerByte b ∈ Utf8.bytes jsonMediaType → plainByte b = true :=
    forall_byte (by decide +kernel)
  have hblank : ∀ b : UInt8, blankByte b = true → plainByte b = true :=
    forall_byte (by decide +kernel)
  intro b hb
  rw [← List.takeWhile_append_dropWhile (p := (· != Ascii.byte ';')) (l := value)] at hb
  rcases List.mem_append.mp hb with hb | hb
  · -- in front of the semicolon: a blank at either end, or a byte of the media type
    rw [← List.takeWhile_append_dropWhile (p := blankByte)
      (l := value.takeWhile (· != Ascii.byte ';'))] at hb
    rcases List.mem_append.mp hb with hb | hb
    · exact hblank b (List.mem_takeWhile_imp hb)
    · rw [← List.rdropWhile_append_rtakeWhile (p := blankByte)
        (l := (value.takeWhile (· != Ascii.byte ';')).dropWhile blankByte)] at hb
      rcases List.mem_append.mp hb with hb | hb
      · refine hletter b ?_
        rw [← (show namedType value = _ from h)]
        exact List.mem_map_of_mem hb
      · exact hblank b (List.mem_rtakeWhile_imp hb)
  · exact hparameters b hb

/-- **When a content type is accepted.** -/
theorem acceptsContentType_iff : acceptsContentType hs = true ↔
    ∃ value, hs.first? "content-type" = some value ∧ NamesJson value ∧
      Plain (parameters value) := by
  cases hfirst : hs.first? "content-type" with
  | none => simp [acceptsContentType_of_none hfirst]
  | some value =>
    by_cases hplain : Plain value
    · rw [acceptsContentType_of_plain hfirst hplain]
      have hparameters : Plain (parameters value) :=
        fun b hb => hplain b ((List.dropWhile_suffix _).subset hb)
      simp [hparameters]
    · rw [acceptsContentType_of_not_plain hfirst hplain]
      simp only [Bool.false_eq_true, Option.some.injEq, false_iff]
      rintro ⟨_, rfl, hjson, hparameters⟩
      exact hplain (plain_of_namesJson hjson hparameters)

/-- Of the bytes that a header value may have, the plain ones are those of ASCII. -/
theorem plain_iff_of_legal (h : Http.legalValue value = true) :
    Plain (parameters value) ↔ ∀ b ∈ parameters value, b < 0x80 := by
  have hbyte : ∀ b : UInt8, Http.valueByte b = true → (plainByte b = true ↔ b < 0x80) :=
    forall_byte (by decide +kernel)
  have hvalue : ∀ b ∈ parameters value, Http.valueByte b = true :=
    fun b hb => List.all_eq_true.mp h b ((List.dropWhile_suffix _).subset hb)
  exact forall₂_congr fun b hb => hbyte b (hvalue b hb)

/-- **Which purge requests are taken.** Take any header fields.

* They are accepted if and only if their first content type names JSON and its parameters are plain.
* So the media type alone decides if and only if there are none but plain parameters behind JSON.
* Two lists of fields with the same media type get the same verdict if and only if it is not JSON,
  or the parameters of both are plain, or those of neither.

Of the bytes that a header value may have, the plain ones are those of ASCII. -/
theorem accepted_iff (hs : Http.Headers) :
    (acceptsContentType hs = true ↔ ∃ value, hs.first? "content-type" = some value ∧
      NamesJson value ∧ Plain (parameters value)) ∧
    ((acceptsContentType hs = true ↔ ∃ value, hs.first? "content-type" = some value ∧
        NamesJson value) ↔
      ∀ value, hs.first? "content-type" = some value → NamesJson value →
        Plain (parameters value)) ∧
    (∀ (hs' : Http.Headers) (value other : List UInt8),
      hs.first? "content-type" = some value → hs'.first? "content-type" = some other →
      namedType value = namedType other →
      (acceptsContentType hs = acceptsContentType hs' ↔
        (NamesJson value → (Plain (parameters value) ↔ Plain (parameters other))))) ∧
    ∀ value, Http.legalValue value = true →
      (Plain (parameters value) ↔ ∀ b ∈ parameters value, b < 0x80) := by
  refine ⟨acceptsContentType_iff, ?_, ?_, fun value => plain_iff_of_legal⟩
  · rw [acceptsContentType_iff]
    constructor
    · rintro h value hfirst hjson
      obtain ⟨_, hsame, -, hparameters⟩ := h.mpr ⟨value, hfirst, hjson⟩
      obtain rfl := Option.some.inj (hfirst.symm.trans hsame)
      exact hparameters
    · intro h
      constructor
      · rintro ⟨value, hfirst, hjson, -⟩
        exact ⟨value, hfirst, hjson⟩
      · rintro ⟨value, hfirst, hjson⟩
        exact ⟨value, hfirst, hjson, h value hfirst hjson⟩
  · intro hs' value other hfirst hfirst' htype
    have hjson : NamesJson other ↔ NamesJson value := by rw [NamesJson, NamesJson, htype]
    rw [Bool.eq_iff_iff, acceptsContentType_iff, acceptsContentType_iff, hfirst, hfirst']
    simp only [Option.some.injEq, exists_eq_left', hjson]
    exact and_congr_right_iff

/-- A parameter and a blank, in the letters that are usual elsewhere. -/
def charsetGiven : Http.Headers :=
  [⟨"content-type", Utf8.bytes "Application/JSON ;charset=utf-8"⟩, ⟨"content-type", []⟩]

/-- The media type alone, behind a tab. -/
def typeAlone : Http.Headers :=
  [⟨"content-type", Utf8.bytes "\tapplication/json"⟩]

/-- Letters, blanks, plain parameters and later fields do not matter. -/
theorem accepted_iff_charset :
    charsetGiven.first? "content-type" = some (Utf8.bytes "Application/JSON ;charset=utf-8") ∧
      typeAlone.first? "content-type" = some (Utf8.bytes "\tapplication/json") ∧
      namedType (Utf8.bytes "Application/JSON ;charset=utf-8")
        = namedType (Utf8.bytes "\tapplication/json") ∧
      acceptsContentType charsetGiven = acceptsContentType typeAlone ∧
      acceptsContentType typeAlone = true := by
  have hcharset : charsetGiven.first? "content-type"
      = some (Utf8.bytes "Application/JSON ;charset=utf-8") := by decide +kernel
  have halone : typeAlone.first? "content-type" = some (Utf8.bytes "\tapplication/json") := by
    decide +kernel
  have htype : namedType (Utf8.bytes "Application/JSON ;charset=utf-8")
      = namedType (Utf8.bytes "\tapplication/json") := by decide +kernel
  obtain ⟨-, -, hverdict, -⟩ := accepted_iff charsetGiven
  obtain ⟨hiff, -⟩ := accepted_iff typeAlone
  refine ⟨hcharset, halone, htype, (hverdict typeAlone _ _ hcharset halone htype).mpr fun _ => ?_,
    hiff.mpr ⟨_, halone, by decide +kernel, ?_⟩⟩
  · exact iff_of_true (plain_iff_all.mpr (by decide +kernel))
      (plain_iff_all.mpr (by decide +kernel))
  · exact plain_iff_all.mpr (by decide +kernel)

/-- A title with an accent that is not of ASCII. -/
def accentedTitle : Http.Headers :=
  [⟨"content-type", Utf8.bytes "application/json; title=" ++ [0xe9]⟩]

/-- **The media type does not decide.** A request is refused for a byte in a parameter that a header
value may have; with the same media type and no parameter it is taken. -/
theorem refused_for_parameter :
    (∀ field ∈ accentedTitle, Http.legalValue field.value = true) ∧
      ¬(acceptsContentType accentedTitle = true ↔
        ∃ value, accentedTitle.first? "content-type" = some value ∧ NamesJson value) ∧
      namedType (Utf8.bytes "application/json; title=" ++ [0xe9])
        = namedType (Utf8.bytes "\tapplication/json") ∧
      acceptsContentType accentedTitle = false ∧ acceptsContentType typeAlone = true := by
  have hrefused : acceptsContentType accentedTitle = false := by decide +kernel
  refine ⟨by decide +kernel, fun h => ?_, by decide +kernel, hrefused, by decide +kernel⟩
  have htaken : acceptsContentType accentedTitle = true :=
    h.mpr ⟨Utf8.bytes "application/json; title=" ++ [0xe9], by decide +kernel, by decide +kernel⟩
  rw [hrefused] at htaken
  cases htaken

end Purge

end PurgeGateway
