import PurgeGateway.Proofs.Extraction

/-!
# What fields are called

A field is called by what an operator wrote. A template that is one tag gives its key, as it is
written and not as it is looked up; every other template gives its whole text, and loses a kind at
its front. The name is taken from the text and not from the segments, so it has to be shown that
both agree on what the kind is, and what the key: a key may itself start with the spelling of a
kind, and may hold what opens a delimited tag.

A text that is nothing but a kind would be left without a name. There is no tag in it, so it is its
own value in every exchange, and no field is made of it.

## Main definitions

* `Template.IsTag`: a text is exactly one tag, and writes its key in a certain way.

## Main results

* `Template.segments_eq_singleton_iff`: which texts are cut into one tag.
* `Template.displayName_of_isTag`, `Template.displayName_of_not_isTag`: the two sorts of names.
* `Template.render_of_displayName_eq_empty`: what has no name is never changed.
* `Extractor.named`: the names of templates and of fields, all told.
-/

namespace PurgeGateway

namespace Template

variable {t : Template} {tag : Tag} {source : String} {text cs key : List Char} {side : Side}
  {subject : Subject}

/-! ### Texts that are one tag -/

/-- A text is exactly one tag, with delimiters or without, and writes its key in the given way. What
is looked up is the same key with small letters. -/
structure IsTag (text : List Char) (tag : Tag) (key : List Char) : Prop where
  spelled : text = kindText tag.side tag.subject ++ key ∨
    text = '$' :: '{' :: (kindText tag.side tag.subject ++ (key ++ ['}']))
  run : IsRun key
  lowered : tag.key = Ascii.lowerText (String.ofList key)

theorem IsTag.spells (h : IsTag text tag key) : Spelled tag text [] := by
  obtain ⟨side, subject, lower⟩ := tag
  obtain ⟨hspelled, hrun, hlower⟩ := h
  obtain rfl : lower = Ascii.lowerText (String.ofList key) := hlower
  rcases hspelled with rfl | rfl
  · exact .bare hrun (by simp)
  · exact .delimited hrun

theorem exists_isTag (h : Spelled tag text []) : ∃ key, IsTag text tag key := by
  cases h with
  | delimited hrun => exact ⟨_, .inr rfl, hrun, rfl⟩
  | bare hrun _ => exact ⟨_, .inl rfl, hrun, rfl⟩

/-- **The templates that are cut into one tag** are those whose text is one tag. -/
theorem segments_eq_singleton_iff :
    t.segments = [.tag tag source] ↔ source = t.text ∧ ∃ key, IsTag t.text.toList tag key := by
  constructor
  · intro h
    have hleftmost := leftmost_segments t
    rw [h] at hleftmost
    obtain ⟨rest, hrest, hspelled, hnil⟩ := leftmost_tag_cons.mp hleftmost
    obtain rfl : [] = rest := hnil.whole
    rw [List.append_nil] at hrest
    exact ⟨String.toList_inj.mp hrest.symm, exists_isTag (hrest ▸ hspelled)⟩
  · rintro ⟨rfl, key, h⟩
    have hleftmost : Leftmost t.text.toList [.tag tag t.text] :=
      leftmost_tag_cons.mpr ⟨[], (List.append_nil _).symm, h.spells, leftmost_nil⟩
    exact (eq_cut_of_leftmost hleftmost).symm

/-! ### Kinds at the front -/

theorem withoutKind_kindText (side : Side) (subject : Subject) (body : List Char) :
    withoutKind (kindText side subject ++ body) = body := by
  rw [withoutKind, kindAt?_append]

theorem withoutKind_eq_self (h : ∀ side subject, ¬kindText side subject <+: cs) :
    withoutKind cs = cs := by
  rw [withoutKind]
  split
  · next kind body hkind =>
    obtain ⟨source, side, subject⟩ := kind
    have hbody := (kindAt?_eq_some_iff.mp hkind).2
    exact absurd ⟨body, hbody.symm⟩ (h side subject)
  · rfl

/-- A kind is taken off once, if there is one. -/
theorem withoutKind_cases (cs : List Char) :
    (∃ side subject, cs = kindText side subject ++ withoutKind cs) ∨
      (∀ side subject, ¬kindText side subject <+: cs) ∧ withoutKind cs = cs := by
  by_cases h : ∃ side subject, kindText side subject <+: cs
  · obtain ⟨side, subject, body, rfl⟩ := h
    exact .inl ⟨side, subject, by rw [withoutKind_kindText]⟩
  · have hnone : ∀ side subject, ¬kindText side subject <+: cs :=
      fun side subject hkind => h ⟨side, subject, hkind⟩
    exact .inr ⟨hnone, withoutKind_eq_self hnone⟩

/-! ### The name of a template -/

theorem insideDelimiters?_of_delimited (hsource : source.toList = '$' :: '{' :: (cs ++ ['}'])) :
    insideDelimiters? source = some cs := by
  simp [insideDelimiters?, hsource]

/-- No kind starts with a delimiter. -/
theorem insideDelimiters?_of_kind (hsource : source.toList = kindText side subject ++ cs) :
    insideDelimiters? source = none := by
  rw [insideDelimiters?, hsource]
  cases side <;> cases subject <;> rfl

/-- **One tag is called by its key**, as it is written. -/
theorem displayName_of_isTag (h : IsTag t.text.toList tag key) :
    t.displayName = String.ofList key := by
  have hsegs : t.segments = [.tag tag t.text] := segments_eq_singleton_iff.mpr ⟨rfl, key, h⟩
  rw [displayName, hsegs]
  dsimp only
  rcases h.spelled with hbare | hdelimited
  · rw [insideDelimiters?_of_kind hbare]
    dsimp only
    rw [hbare, withoutKind_kindText]
  · rw [← List.append_assoc] at hdelimited
    rw [insideDelimiters?_of_delimited hdelimited]
    dsimp only
    rw [withoutKind_kindText]

/-- **Everything else is called by its text**, without a kind at its front. -/
theorem displayName_of_not_isTag (h : ∀ tag key, ¬IsTag t.text.toList tag key) :
    t.displayName = String.ofList (withoutKind t.text.toList) := by
  rw [displayName]
  split
  · next tag source hsegs =>
    obtain ⟨-, key, hkey⟩ := segments_eq_singleton_iff.mp hsegs
    exact absurd hkey (h tag key)
  · rfl

/-- A kind alone is no tag, for want of a key. -/
theorem segments_kindText (side : Side) (subject : Subject) :
    segments ⟨String.ofList (kindText side subject)⟩
      = [.literal (String.ofList (kindText side subject))] := by
  cases side <;> cases subject <;> decide +kernel

/-- A template without a name holds no tag: its text is empty, or a kind. -/
theorem tag_notMem_of_displayName_eq_empty (h : t.displayName = "") :
    Segment.tag tag source ∉ t.segments := by
  have hnot : ∀ tag key, ¬IsTag t.text.toList tag key := by
    intro tag key htag
    rw [displayName_of_isTag htag] at h
    exact htag.run.nonempty (by simpa using h)
  rw [displayName_of_not_isTag hnot] at h
  have hempty : withoutKind t.text.toList = [] := by simpa using h
  rcases withoutKind_cases t.text.toList with ⟨side, subject, htext⟩ | ⟨-, htext⟩
  · rw [hempty, List.append_nil] at htext
    obtain rfl : t = ⟨String.ofList (kindText side subject)⟩ := by
      cases t
      simpa [String.ext_iff] using htext
    simp [segments_kindText]
  · rw [segments, ← htext, hempty, cut_nil]
    simp [literalOf]

/-- **What has no name is never changed.** -/
theorem render_of_displayName_eq_empty (h : t.displayName = "") (half : Half) :
    t.render half = t.text :=
  render_eq_text (leftmost_segments t)
    fun _ _ hmem => absurd hmem (tag_notMem_of_displayName_eq_empty h)

end Template

namespace Extractor

/-! ### The names of fields -/

theorem name_ne_empty_of_mem_collect {templates : List Template} {half : Half}
    {f : String × String} (h : f ∈ (collect templates half).entries) : f.1 ≠ "" := by
  obtain ⟨t, -, hfield⟩ := List.mem_filterMap.mp h
  rw [field?] at hfield
  split at hfield
  · cases hfield
  · next hchanged =>
    obtain rfl := Option.some.inj hfield
    exact fun hname => hchanged (Template.render_of_displayName_eq_empty hname half)

theorem name_ne_empty_of_mem_userFields {x : Extractor} {request : Http.Request}
    {f : String × String} (h : f ∈ (x.userFields request).entries) : f.1 ≠ "" := by
  rw [userFields] at h
  split at h
  · obtain rfl := List.mem_singleton.mp h
    exact (by decide : jwtUserField ≠ "")
  · cases h

/-- **What fields are called.** Take any template.

* It is cut into a single tag if and only if its text is one tag, with delimiters or without.
* It is then called by its key as the text writes it, which up to the case of letters is the key
  that is looked up.
* Otherwise it is called by its whole text, or by what is behind a kind if the text starts with one.

Whatever the templates and the acting user are, no field of an exchange is without a name. -/
theorem named :
    (∀ t : Template,
      (∀ tag source, t.segments = [.tag tag source] ↔
        source = t.text ∧ ∃ key, Template.IsTag t.text.toList tag key) ∧
      (∀ tag key, Template.IsTag t.text.toList tag key →
        t.displayName = String.ofList key ∧ Ascii.lowerText t.displayName = tag.key) ∧
      ((∀ tag key, ¬Template.IsTag t.text.toList tag key) →
        (∃ side subject,
          t.text.toList = Template.kindText side subject ++ t.displayName.toList) ∨
        (∀ side subject, ¬Template.kindText side subject <+: t.text.toList) ∧
          t.displayName = t.text)) ∧
    ∀ (x : Extractor) (request : Http.Request) (response : Http.Response),
      ∀ f ∈ (x.extract request response).entries, f.1 ≠ "" := by
  refine ⟨fun t => ⟨fun tag source => Template.segments_eq_singleton_iff, fun tag key h => ?_,
    fun h => ?_⟩, fun x request response f hf => ?_⟩
  · have hname := Template.displayName_of_isTag h
    exact ⟨hname, by rw [hname, h.lowered]⟩
  · have hname := Template.displayName_of_not_isTag h
    rcases Template.withoutKind_cases t.text.toList with ⟨side, subject, htext⟩ | ⟨hnone, htext⟩
    · exact .inl ⟨side, subject, by rw [hname, String.toList_ofList]; exact htext⟩
    · exact .inr ⟨hnone, by rw [hname, htext, String.ofList_toList]⟩
  · rw [extract, responseFields, requestFields, FieldSet.entries_append, FieldSet.entries_append,
      List.mem_append, List.mem_append] at hf
    rcases hf with hf | hf | hf
    · exact name_ne_empty_of_mem_collect hf
    · exact name_ne_empty_of_mem_userFields hf
    · exact name_ne_empty_of_mem_collect hf

/-- A tag whose key starts like a tag itself, with another kind. -/
def nestedTag : Template :=
  ⟨"$\x7bRESPONSE_HEADER:REQUEST:$\x7bId\x7d"⟩

/-- The inner kind stays in the name, and so does what would open a tag. -/
theorem named_nested :
    Template.IsTag nestedTag.text.toList ⟨.response, .header, "request:$\x7bid"⟩
      "REQUEST:$\x7bId".toList ∧
    nestedTag.displayName = "REQUEST:$\x7bId" ∧
    ("REQUEST:$\x7bId", "") ∈ (({ templates := [nestedTag] } : Extractor).extract {} {}).entries ∧
    "REQUEST:$\x7bId" ≠ "" := by
  have htag : Template.IsTag nestedTag.text.toList ⟨.response, .header, "request:$\x7bid"⟩
      "REQUEST:$\x7bId".toList :=
    ⟨.inr (by decide +kernel), ⟨by decide +kernel, by decide +kernel⟩, by decide +kernel⟩
  have hfield : ("REQUEST:$\x7bId", "") ∈
      (({ templates := [nestedTag] } : Extractor).extract {} {}).entries := by
    decide +kernel
  obtain ⟨htemplate, hnames⟩ := named
  exact ⟨htag, ((htemplate nestedTag).2.1 _ _ htag).1, hfield, hnames _ _ _ _ hfield⟩

end Extractor

end PurgeGateway
