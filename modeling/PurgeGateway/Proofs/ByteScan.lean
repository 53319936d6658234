import PurgeGateway.Proofs.Encoding
import PurgeGateway.Proofs.Grammar

/-!
# Templates scanned by byte offsets

A text is kept in UTF-8. A scan that moves over it by byte offsets has to take care that each of its
cuts falls between two characters, and that it gets on with every step. Here the scan is written on
bytes with a check at each cut and at each step, and `none` for a check that fails. None does, and
the segments are those that are cut out of the characters.

## Main definitions

* `Template.cutsAt`: a text can be cut at an offset.
* `Template.tagAtBytes?`: the tag at the front of a text in bytes.
* `Template.scanBytes?`: the segments of a text in bytes.

## Main results

* `tagAtBytes?_encode`: a tag is found in bytes as it is found in characters.
* `scanBytes?_encode`: every cut falls between two characters, and the scan comes to its end.
* `decomposed`: what a template is cut into, from its bytes and by the grammar.
-/

namespace PurgeGateway.Template

open Utf8 (encode encode_ne_nil byte_mem_encode_iff text?_encode length_encode_eq_zero_iff)

/-! ### Cuts -/

/-- A text can be cut at an offset: this is its end, or a character starts there. -/
def cutsAt (bs : List UInt8) (n : Nat) : Bool :=
  match bs.drop n with
  | [] => n == bs.length
  | b :: _ => !Utf8.continues b

/-- The text up to an offset, if it can be cut there. -/
def upTo? (bs : List UInt8) (n : Nat) : Option (List UInt8) :=
  if cutsAt bs n then some (bs.take n) else none

/-- The text behind an offset, if it can be cut there. -/
def behind? (bs : List UInt8) (n : Nat) : Option (List UInt8) :=
  if cutsAt bs n then some (bs.drop n) else none

/-- The text behind an offset, if it can be cut there and is shorter. -/
def onward? (bs : List UInt8) (n : Nat) : Option { more : List UInt8 // more.length < bs.length } :=
  if h : cutsAt bs n = true ∧ (bs.drop n).length < bs.length then some ⟨bs.drop n, h.2⟩ else none

/-! ### Tags -/

/-- A tag in bytes, with its spelling and how many bytes that takes up. -/
structure FoundBytes where
  tag : Tag
  source : String
  size : Nat

/-- The kind at the front of a text. -/
def kindAtBytes? (bs : List UInt8) : Option (List Char × Side × Subject) :=
  kinds.findSome? fun kind => ((encode kind.1).isPrefixOf? bs).map fun _ => kind

/-- The offset of the first closing brace. -/
def brace? (bs : List UInt8) : Option Nat :=
  bs.findIdx? (· == Ascii.byte '}')

/-- The tag whose key and spelling end at the given offsets of two texts. -/
def tagUpTo? (side : Side) (subject : Subject) (body : List UInt8) (close : Nat)
    (text : List UInt8) (size : Nat) : Option FoundBytes := do
  let key ← Utf8.text? (← upTo? body close)
  let source ← Utf8.text? (← upTo? text size)
  some ⟨⟨side, subject, Ascii.lowerText key⟩, source, size⟩

/-- The tag between `${` and `}` at the front of a text, given also the text behind its `${`. The
outer `none` stands for a cut that is none. -/
def delimitedBytes? (text inner : List UInt8) : Option (Option FoundBytes) :=
  match kindAtBytes? inner with
  | none => some none
  | some (spelling, side, subject) => do
    let body ← behind? inner (encode spelling).length
    match brace? body with
    | none => some none
    | some close =>
      if close = 0 then some none
      else
        (tagUpTo? side subject body close text (2 + (encode spelling).length + close + 1)).map some

/-- The tag without delimiters at the front of a text. -/
def bareBytes? (text : List UInt8) : Option (Option FoundBytes) :=
  match kindAtBytes? text with
  | none => some none
  | some (spelling, side, subject) => do
    let body ← behind? text (encode spelling).length
    let close := (brace? body).getD body.length
    if close = 0 then some none
    else (tagUpTo? side subject body close text ((encode spelling).length + close)).map some

/-- The tag at the front of a text, if one starts there. -/
def tagAtBytes? (text : List UInt8) : Option (Option FoundBytes) :=
  match (encode ['$', '{']).isPrefixOf? text with
  | some inner => delimitedBytes? text inner
  | none => bareBytes? text

/-! ### Segments -/

/-- The segments of a text behind a literal whose characters so far are given backwards. -/
def scanBytes? (literal : List Char) : List UInt8 → Option (List Segment)
  | [] => some (literalOf literal)
  | b :: rest =>
    match tagAtBytes? (b :: rest) with
    | none => none
    | some (some found) =>
      match onward? (b :: rest) found.size with
      | none => none
      | some more =>
        (scanBytes? [] more.1).map (literalOf literal ++ .tag found.tag found.source :: ·)
    | some none =>
      match (Utf8.next b rest).1 with
      | none => none
      | some c =>
        match onward? (b :: rest) c.utf8Size with
        | none => none
        | some more => scanBytes? (c :: literal) more.1
termination_by bs => bs.length
decreasing_by all_goals exact more.2

/-! ### Cuts between characters -/

theorem cutsAt_encode (a b : List Char) : cutsAt (encode (a ++ b)) (encode a).length = true := by
  rw [cutsAt, Utf8.encode_append, List.drop_left]
  cases h : encode b with
  | nil => simp
  | cons first more =>
    have hfirst : (encode b).head? = some first := by rw [h]; rfl
    simp [Utf8.continues_head_encode hfirst]

theorem upTo?_encode (a b : List Char) :
    upTo? (encode (a ++ b)) (encode a).length = some (encode a) := by
  rw [upTo?, cutsAt_encode, if_pos rfl, Utf8.encode_append, List.take_left]

theorem behind?_encode (a b : List Char) :
    behind? (encode (a ++ b)) (encode a).length = some (encode b) := by
  rw [behind?, cutsAt_encode, if_pos rfl, Utf8.encode_append, List.drop_left]

theorem onward?_encode {a b cs : List Char} (ha : a ≠ []) (h : a ++ b = cs) :
    ∃ hshorter, onward? (encode cs) (encode a).length = some ⟨encode b, hshorter⟩ := by
  subst h
  have hpos := List.length_pos_iff.mpr (encode_ne_nil ha)
  have hdrop : (encode (a ++ b)).drop (encode a).length = encode b := by
    rw [Utf8.encode_append, List.drop_left]
  have hshorter : (encode b).length < (encode (a ++ b)).length := by
    rw [Utf8.encode_append, List.length_append]
    omega
  refine ⟨hshorter, ?_⟩
  rw [onward?, dif_pos ⟨cutsAt_encode a b, by rw [hdrop]; exact hshorter⟩]
  simp only [hdrop]

/-! ### Looking for ASCII characters -/

/-- An ASCII text stands at the front of an encoded text if it stands at the front of the text. -/
theorem isPrefixOf?_encode {p : List Char} (hp : ∀ c ∈ p, c.toNat < 0x80) (cs : List Char) :
    (encode p).isPrefixOf? (encode cs) = (p.isPrefixOf? cs).map encode := by
  induction p generalizing cs with
  | nil => rfl
  | cons c p ih =>
    have hc := hp c List.mem_cons_self
    rw [Utf8.encode_cons, Utf8.utf8EncodeChar_ascii hc, List.singleton_append]
    cases cs with
    | nil => rfl
    | cons d cs =>
      rw [Utf8.encode_cons]
      obtain ⟨b, more, hbytes, -⟩ := Utf8.next_utf8EncodeChar d []
      rw [hbytes, List.cons_append]
      by_cases h : c = d
      · subst h
        rw [Utf8.utf8EncodeChar_ascii hc] at hbytes
        obtain ⟨rfl, rfl⟩ := List.cons.inj hbytes
        simp only [List.isPrefixOf?, beq_self_eq_true, if_true, List.nil_append]
        exact ih (fun x hx => hp x (List.mem_cons_of_mem _ hx)) cs
      · have hb : Ascii.byte c ≠ b := by
          rintro rfl
          exact h (Utf8.eq_of_byte_mem hc (by rw [hbytes]; exact List.mem_cons_self))
        simp [List.isPrefixOf?, h, hb]

theorem ascii_of_mem_kinds : ∀ kind ∈ kinds, ∀ c ∈ kind.1, c.toNat < 0x80 := by
  have hall : (kinds.all fun kind => kind.1.all fun c => c.toNat < 0x80) = true := by
    decide +kernel
  simpa only [List.all_eq_true, decide_eq_true_eq] using hall

theorem kindAtBytes?_encode (cs : List Char) :
    kindAtBytes? (encode cs) = (kindAt? cs).map (·.1) := by
  rw [kindAtBytes?, kindAt?]
  have hascii := ascii_of_mem_kinds
  revert hascii
  generalize kinds = all
  intro hascii
  induction all with
  | nil => rfl
  | cons kind all ih =>
    have hkind := hascii kind List.mem_cons_self
    rw [List.findSome?_cons, List.findSome?_cons, isPrefixOf?_encode hkind]
    cases kind.1.isPrefixOf? cs with
    | none => exact ih fun k hk => hascii k (List.mem_cons_of_mem _ hk)
    | some rest => rfl

theorem brace?_of_notMem {cs : List Char} (h : '}' ∉ cs) : brace? (encode cs) = none := by
  rw [brace?, List.findIdx?_eq_none_iff]
  intro b hb
  rw [beq_eq_false_iff_ne]
  rintro rfl
  exact h ((byte_mem_encode_iff (by decide)).mp hb)

theorem brace?_append {cs : List Char} (h : '}' ∉ cs) (rest : List Char) :
    brace? (encode (cs ++ '}' :: rest)) = some (encode cs).length := by
  have hnone : (encode cs).findIdx? (· == Ascii.byte '}') = none := brace?_of_notMem h
  rw [brace?, Utf8.encode_append, List.findIdx?_append, hnone, Utf8.encode_cons,
    Utf8.utf8EncodeChar_ascii (by decide), List.singleton_append, List.findIdx?_cons]
  simp

/-! ### Tags in bytes and in characters -/

/-- A tag that was found, in bytes. -/
def Found.toBytes (f : Found) : FoundBytes :=
  ⟨f.tag, String.ofList f.source, (encode f.source).length⟩

/-- A tag is cut out of two texts that are encoded, if its key and its spelling stand at the front
of them. -/
theorem tagUpTo?_encode (side : Side) (subject : Subject) (key body source text : List Char) :
    tagUpTo? side subject (encode (key ++ body)) (encode key).length (encode (source ++ text))
        (encode source).length
      = some ⟨⟨side, subject, keyText key⟩, String.ofList source, (encode source).length⟩ := by
  simp only [tagUpTo?, upTo?_encode, text?_encode, Option.bind_eq_bind, Option.bind_some, keyText]

/-- The size of a delimited tag. -/
theorem length_encode_delimited (spelling key : List Char) :
    2 + (encode spelling).length + (encode key).length + 1
      = (encode ('$' :: '{' :: (spelling ++ (key ++ ['}'])))).length := by
  simp only [Utf8.encode_cons, Utf8.encode_append, Utf8.encode_nil, List.length_append,
    Utf8.utf8EncodeChar_ascii (show '$'.toNat < 0x80 by decide),
    Utf8.utf8EncodeChar_ascii (show '{'.toNat < 0x80 by decide),
    Utf8.utf8EncodeChar_ascii (show '}'.toNat < 0x80 by decide), List.length_singleton,
    List.length_nil]
  omega

theorem delimitedBytes?_encode (inner : List Char) :
    delimitedBytes? (encode ('$' :: '{' :: inner)) (encode inner)
      = some ((delimited? inner).map Found.toBytes) := by
  rw [delimitedBytes?, delimited?, kindAtBytes?_encode]
  cases hkind : kindAt? inner with
  | none => rfl
  | some found =>
    obtain ⟨⟨spelling, side, subject⟩, body⟩ := found
    obtain rfl : spelling ++ body = inner := (append_of_kindAt? hkind).2
    simp only [Option.map_some, behind?_encode, Option.bind_eq_bind, Option.bind_some]
    have hopen := notMem_takeWhile body
    have hsplit : body.takeWhile (· != '}') ++ body.dropWhile (· != '}') = body :=
      List.takeWhile_append_dropWhile
    generalize body.takeWhile (· != '}') = key at hopen hsplit
    cases hdrop : body.dropWhile (· != '}') with
    | nil =>
      obtain rfl : key = body := by rw [← hsplit, hdrop, List.append_nil]
      rw [brace?_of_notMem hopen]
      rfl
    | cons close rest =>
      obtain rfl : close = '}' := head?_dropWhile body close (by rw [hdrop]; rfl)
      rw [hdrop] at hsplit
      subst hsplit
      simp only [brace?_append hopen, length_encode_eq_zero_iff, List.isEmpty_iff]
      by_cases hkey : key = []
      · simp [hkey]
      · -- the spelling ends one byte behind the key
        have htext : '$' :: '{' :: (spelling ++ (key ++ '}' :: rest))
            = '$' :: '{' :: (spelling ++ (key ++ ['}'])) ++ rest := by simp
        rw [if_neg hkey, if_neg hkey, length_encode_delimited, htext, tagUpTo?_encode]
        rfl

theorem bareBytes?_encode (cs : List Char) :
    bareBytes? (encode cs) = some ((bare? cs).map Found.toBytes) := by
  rw [bareBytes?, bare?, kindAtBytes?_encode]
  cases hkind : kindAt? cs with
  | none => rfl
  | some found =>
    obtain ⟨⟨spelling, side, subject⟩, body⟩ := found
    obtain rfl : spelling ++ body = cs := (append_of_kindAt? hkind).2
    simp only [Option.map_some, behind?_encode, Option.bind_eq_bind, Option.bind_some]
    have hopen := notMem_takeWhile body
    have hsplit : body.takeWhile (· != '}') ++ body.dropWhile (· != '}') = body :=
      List.takeWhile_append_dropWhile
    have hrest := head?_dropWhile body
    generalize body.takeWhile (· != '}') = key at hopen hsplit
    generalize body.dropWhile (· != '}') = rest at hsplit hrest
    subst hsplit
    -- the run ends with the text, or in front of a brace
    have hclose : (brace? (encode (key ++ rest))).getD (encode (key ++ rest)).length
        = (encode key).length := by
      cases rest with
      | nil => rw [List.append_nil, brace?_of_notMem hopen]; rfl
      | cons close rest =>
        obtain rfl : close = '}' := hrest close rfl
        rw [brace?_append hopen]
        rfl
    simp only [hclose, length_encode_eq_zero_iff, List.isEmpty_iff]
    by_cases hkey : key = []
    · simp [hkey]
    · have hsize : (encode spelling).length + (encode key).length
          = (encode (spelling ++ key)).length := by
        rw [Utf8.encode_append, List.length_append]
      rw [if_neg hkey, if_neg hkey, hsize, ← List.append_assoc, tagUpTo?_encode]
      rfl

/-- **A tag is found in bytes as it is found in characters**, and every cut falls between two of
them. -/
theorem tagAtBytes?_encode (cs : List Char) :
    tagAtBytes? (encode cs) = some ((tagAt? cs).map Found.toBytes) := by
  have hopen : ∀ c ∈ ['$', '{'], c.toNat < 0x80 := by
    simp only [List.forall_mem_cons]
    exact ⟨by decide, by decide, fun _ h => nomatch h⟩
  rw [tagAtBytes?, isPrefixOf?_encode hopen]
  cases h : ['$', '{'].isPrefixOf? cs with
  | some inner =>
    obtain rfl : ['$', '{'] ++ inner = cs := List.isPrefixOf?_eq_some_iff_append_eq.mp h
    exact delimitedBytes?_encode inner
  | none =>
    have hbare : tagAt? cs = bare? cs := by
      unfold tagAt?
      split
      · simp [List.isPrefixOf?] at h
      · rfl
    rw [hbare]
    exact bareBytes?_encode cs

/-! ### The whole scan -/

theorem scanBytes?_of_tag {literal : List Char} {bs more : List UInt8} {found : FoundBytes}
    (hbs : bs ≠ []) (hfound : tagAtBytes? bs = some (some found))
    (honward : ∃ h, onward? bs found.size = some ⟨more, h⟩) :
    scanBytes? literal bs
      = (scanBytes? [] more).map (literalOf literal ++ .tag found.tag found.source :: ·) := by
  obtain ⟨h, honward⟩ := honward
  cases bs with
  | nil => exact absurd rfl hbs
  | cons b rest =>
    rw [scanBytes?]
    simp only [hfound, honward]

theorem scanBytes?_of_char {literal : List Char} {c : Char} {bs more : List UInt8}
    (hnone : tagAtBytes? bs = some none)
    (hnext : ∃ b rest, bs = b :: rest ∧ (Utf8.next b rest).1 = some c)
    (honward : ∃ h, onward? bs c.utf8Size = some ⟨more, h⟩) :
    scanBytes? literal bs = scanBytes? (c :: literal) more := by
  obtain ⟨h, honward⟩ := honward
  obtain ⟨b, rest, rfl, hnext⟩ := hnext
  rw [scanBytes?]
  simp only [hnone, hnext, honward]

/-- **Every cut falls between two characters, and the scan comes to its end** with the segments that
are cut out of the characters. -/
theorem scanBytes?_encode (literal cs : List Char) :
    scanBytes? literal (encode cs) = some (cut literal cs) := by
  induction literal, cs using cut.induct with
  | case1 literal => rw [Utf8.encode_nil, scanBytes?, cut_nil]
  | case2 literal c rest f hf ih =>
    obtain ⟨hwhole, hspelled⟩ := tagAt?_eq_some_iff.mp hf
    have hbytes : tagAtBytes? (encode (c :: rest)) = some (some f.toBytes) := by
      rw [tagAtBytes?_encode, hf]
      rfl
    rw [scanBytes?_of_tag (encode_ne_nil (List.cons_ne_nil c rest)) hbytes
      (onward?_encode hspelled.source_ne_nil hwhole), ih, ← hwhole, cut_of_spelled hspelled]
    rfl
  | case3 literal c rest hnone ih =>
    have hbytes : tagAtBytes? (encode (c :: rest)) = some none := by
      rw [tagAtBytes?_encode, hnone]
      rfl
    have hsize : (encode [c]).length = c.utf8Size := by
      simp [encode, String.length_utf8EncodeChar]
    have honward := onward?_encode (List.cons_ne_nil c []) (List.singleton_append (l := rest))
    rw [hsize] at honward
    obtain ⟨b, more, hchar, hnext⟩ := Utf8.next_utf8EncodeChar c (encode rest)
    rw [cut_of_none hnone, ← ih]
    refine scanBytes?_of_char hbytes ⟨b, more ++ encode rest, ?_, by rw [hnext]⟩ honward
    rw [Utf8.encode_cons, hchar, List.cons_append]

/-- **What a template is cut into.** Take any template.

* A scan of its bytes makes no cut within a character and comes to its end, with the segments of the
  template.
* These are the one leftmost decomposition of its text: they make up the text, no literal is empty
  or next to another, and a tag starts wherever one is spelled, unless another covers that place. -/
theorem decomposed (t : Template) :
    scanBytes? [] (Utf8.bytes t.text) = some t.segments ∧
      ∀ segs, Leftmost t.text.toList segs ↔ segs = t.segments := by
  refine ⟨scanBytes?_encode [] t.text.toList, fun segs => ⟨eq_cut_of_leftmost, ?_⟩⟩
  rintro rfl
  exact leftmost_segments t

/-- Where no brace closes a tag, what is behind its dollar sign and its brace may still be one. -/
example : segments ⟨"é$\x7bREQUEST:Path"⟩
    = [.literal "é$\x7b", .tag ⟨.request, .part, "path"⟩ "REQUEST:Path"] := by
  decide +kernel

end PurgeGateway.Template
