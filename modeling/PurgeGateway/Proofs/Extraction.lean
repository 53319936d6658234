import PurgeGateway.Fields
import PurgeGateway.Proofs.Grammar

/-!
# What the fields of an exchange are

A template says something about one half of an exchange if and only if filling it in changes its
text. Segments make up the whole of a template, so one that has no tag of a half is its own value
there; and a value that a tag stands for is never read again, whatever it looks like.

The token of the acting user is one more header of the request. Nothing but the field of the user
and the templates that read the header can tell two requests apart that differ only in the token. To
say so of a list in which names repeat and entries come and go, each field is traced to the place
that it was taken from; without the places the traced fields are the fields.

## Main definitions

* `Template.Segment.filled`: what a segment turns into.
* `Extractor.changed`: the templates that one half of an exchange changes, with their values.
* `Extractor.NamesUser`: the token of a request names a user.
* `Extractor.Origin`, `Extractor.traced`: the fields with the places that they were taken from.
* `Tag.readsHeader`: the value of a tag depends on a header of the request.

## Main results

* `Template.toList_render`: a template filled in, segment by segment.
* `Extractor.userFields_eq_iff`: when there is a field for the acting user.
* `Extractor.traced_apart`: what a header cannot change.
* `Extractor.extracted`: the fields of an exchange, all told.
-/

namespace PurgeGateway

/-! ### Texts that are not empty -/

namespace Utf8

theorem textLossy_eq_empty_iff {bs : List UInt8} : textLossy bs = "" ↔ bs = [] := by
  constructor
  · intro h
    cases bs with
    | nil => rfl
    | cons b rest => simp [textLossy, decodeLossy, scan_cons, String.ext_iff] at h
  · rintro rfl
    simp [textLossy, decodeLossy]

end Utf8

/-! ### Headers apart from one -/

namespace Http

theorem Headers.first?_without {name other : String} (hs : Headers) (h : other ≠ name) :
    (hs.without name).first? other = hs.first? other := by
  induction hs with
  | nil => rfl
  | cons field hs ih =>
    unfold first? without at ih ⊢
    rw [List.filter_cons]
    split
    · rw [List.find?_cons, List.find?_cons]
      split
      · rfl
      · exact ih
    · next hname =>
      have hname : field.name = name := by simpa using hname
      have hother : (field.name == other) = false := by simpa [hname] using Ne.symm h
      rw [ih, List.find?_cons, hother]

/-- Two requests are the same but for the values that they have under a header name. -/
structure Request.SameBut (name : String) (a b : Request) : Prop where
  method : a.method = b.method
  target : a.target = b.target
  version : a.version = b.version
  headers : a.headers.without name = b.headers.without name
  body : a.body = b.body

variable {name : String} {a b : Request}

theorem Request.SameBut.lookup (h : a.SameBut name b) {other : String}
    (hother : headerName? (Utf8.bytes other) ≠ some name) :
    a.headers.lookup other = b.headers.lookup other := by
  unfold Headers.lookup
  split
  · next kept hkept =>
    have hne : kept ≠ name := fun heq => hother (heq ▸ hkept)
    rw [← Headers.first?_without a.headers hne, h.headers, Headers.first?_without b.headers hne]
  · rfl

end Http

/-! ### Which tags read a header -/

/-- The value of a tag depends on a header of the request: the tag asks for it by name, or for the
part of the request that is taken from it. -/
def Tag.readsHeader (name : String) (tag : Tag) : Bool :=
  tag.side == .request &&
    match tag.subject with
    | .header => Http.headerName? (Utf8.bytes tag.key) == some name
    | .part => (tag.key == "host" || tag.key == "referer") && tag.key == name

/-- One of the request tags of a template depends on a header. -/
def Template.readsHeader (name : String) (t : Template) : Bool :=
  t.tags.any (·.readsHeader name)

theorem Http.headerName?_host : headerName? (Utf8.bytes "host") = some "host" := by
  decide +kernel

theorem Http.headerName?_referer : headerName? (Utf8.bytes "referer") = some "referer" := by
  decide +kernel

section
variable {name : String} {a b : Http.Request}

/-- The parts of two requests that differ under one header name agree, those aside that are taken
from it. -/
theorem Http.Request.SameBut.part (h : a.SameBut name b) {key : String}
    (hkey : ¬((key = "host" ∨ key = "referer") ∧ key = name)) : a.part key = b.part key := by
  have hhost : key = "host" → a.headers.lookup "host" = b.headers.lookup "host" := by
    rintro rfl
    refine h.lookup ?_
    rw [headerName?_host]
    exact fun heq => hkey ⟨.inl rfl, Option.some.inj heq⟩
  have hreferer : key = "referer" → a.headers.lookup "referer" = b.headers.lookup "referer" := by
    rintro rfl
    refine h.lookup ?_
    rw [headerName?_referer]
    exact fun heq => hkey ⟨.inr rfl, Option.some.inj heq⟩
  unfold Http.Request.part
  split
  case h_2 => rw [Http.Request.host, Http.Request.host, hhost rfl, h.target]
  case h_7 => exact hreferer rfl
  all_goals simp only [h.method, h.target, h.version, h.body]

theorem Half.resolve_eq_of_sameBut (h : a.SameBut name b) {tag : Tag}
    (htag : tag.readsHeader name = false) :
    (Half.request a).resolve tag = (Half.request b).resolve tag := by
  obtain ⟨side, subject, key⟩ := tag
  cases side with
  | response => rfl
  | request =>
    cases subject with
    | part =>
      refine h.part ?_
      rintro ⟨hpart, rfl⟩
      have hnot : ¬key = "host" ∧ ¬key = "referer" := by simpa [Tag.readsHeader] using htag
      exact hpart.elim hnot.1 hnot.2
    | header =>
      refine h.lookup fun hkey => ?_
      simp [Tag.readsHeader, hkey] at htag

end

/-! ### Filling in -/

/-- A half of an exchange by its side. -/
def Half.on (request : Http.Request) (response : Http.Response) : Side → Half
  | .request => .request request
  | .response => .response response

namespace Template

variable {t : Template} {segs : List Segment} {h : Half}

/-- What a segment turns into when one half of an exchange is filled in. A literal and a tag of the
other half stay as they are written; a tag of this half gives way to its value. -/
def Segment.filled (h : Half) : Segment → List Char
  | .literal text => text.toList
  | .tag t source => if t.side = h.side then (h.resolve t).toList else source.toList

theorem Segment.toList_render (h : Half) (seg : Segment) :
    (seg.render h).toList = seg.filled h := by
  cases seg with
  | literal text => simp only [Segment.render, Segment.filled]
  | tag t source =>
    rw [Segment.render, Segment.filled]
    split <;> rfl

/-- **A template is filled in segment by segment**, so no value is looked at a second time. -/
theorem toList_render (hsegs : Leftmost t.text.toList segs) (h : Half) :
    (t.render h).toList = segs.flatMap (Segment.filled h) := by
  have hcut : t.segments = segs := (eq_cut_of_leftmost hsegs).symm
  rw [render, hcut, String.toList_join, List.flatMap_map]
  exact List.flatMap_congr fun seg _ => seg.toList_render h

/-- Without tags of a half there is nothing to fill in. -/
theorem render_eq_text (hsegs : Leftmost t.text.toList segs)
    (htags : ∀ tag source, Segment.tag tag source ∈ segs → tag.side ≠ h.side) :
    t.render h = t.text := by
  rw [String.ext_iff, toList_render hsegs, ← hsegs.whole]
  refine List.flatMap_congr fun seg hseg => ?_
  cases seg with
  | literal text => simp only [Segment.filled, Segment.source]
  | tag t source => simp only [Segment.filled, Segment.source, if_neg (htags t source hseg)]

theorem render_eq_of_sameBut {name : String} {a b : Http.Request} (hsame : a.SameBut name b)
    (ht : t.readsHeader name = false) : t.render (.request a) = t.render (.request b) := by
  rw [render, render]
  congr 1
  refine List.map_congr_left fun seg hseg => ?_
  cases seg with
  | literal text => simp only [Segment.render]
  | tag t' source =>
    have hmem : t' ∈ t.tags := List.mem_filterMap.mpr ⟨_, hseg, rfl⟩
    have htag : t'.readsHeader name = false := by
      simpa using List.any_eq_false.mp ht t' hmem
    rw [Segment.render, Segment.render, Half.resolve_eq_of_sameBut hsame htag]
    rfl

end Template

/-! ### The fields in their order -/

namespace Extractor

/-- The templates that filling in one half of an exchange changes, each with its name and value. -/
def changed (h : Half) (templates : List Template) : List (String × String) :=
  (templates.filter fun t => t.render h ≠ t.text).map fun t => (t.displayName, t.render h)

theorem entries_collect (templates : List Template) (h : Half) :
    (collect templates h).entries = changed h templates := by
  rw [collect, changed, ← List.filterMap_eq_map, List.filterMap_filter]
  refine List.filterMap_congr fun t _ => ?_
  by_cases ht : t.render h = t.text
  · simp [field?, ht]
  · simp [field?, ht]

theorem entries_extract (x : Extractor) (request : Http.Request) (response : Http.Response) :
    (x.extract request response).entries
      = changed (.response response) x.templates ++ (x.userFields request).entries
        ++ changed (.request request) x.templates := by
  simp only [extract, responseFields, requestFields, FieldSet.entries_append, entries_collect,
    List.append_assoc]

/-! ### The acting user -/

/-- The token of a request names a user: it is the first value, and no empty one, under the header
that the settings name, and the claim that they name is the user. -/
def NamesUser (x : Extractor) (request : Http.Request) (name : String) : Prop :=
  ∃ user kept value, x.user = some user ∧ Http.headerName? (Utf8.bytes user.header) = some kept ∧
    request.headers.first? kept = some value ∧ value ≠ [] ∧
      Jwt.claim (Utf8.textLossy value) user.claim = .ok (some name)

theorem userClaim_eq_iff {x : Extractor} {request : Http.Request} {name : String} :
    x.userClaim request = .ok (some name) ↔ x.NamesUser request name := by
  unfold userClaim NamesUser
  cases x.user with
  | none => simp
  | some user =>
    cases hkept : Http.headerName? (Utf8.bytes user.header) with
    | none => simp [Http.Headers.lookup, hkept]
    | some kept =>
      cases hfirst : request.headers.first? kept with
      | none => simp [Http.Headers.lookup, hkept, hfirst]
      | some value =>
        rcases eq_or_ne value [] with rfl | hvalue
        · simp [Http.Headers.lookup, hkept, hfirst, Utf8.textLossy_eq_empty_iff.mpr]
        · have htext : Utf8.textLossy value ≠ "" := mt Utf8.textLossy_eq_empty_iff.mp hvalue
          simp [Http.Headers.lookup, hkept, hfirst, hvalue, htext]

/-- **The field of the acting user** is there if and only if the token names one. -/
theorem userFields_eq_iff {x : Extractor} {request : Http.Request} {name : String} :
    (x.userFields request).entries = [(jwtUserField, name)] ↔ x.NamesUser request name := by
  rw [← userClaim_eq_iff, userFields]
  split
  · next user huser => simp [huser]
  · next hnone =>
    refine iff_of_false (by simp) ?_
    exact hnone name

theorem userFields_eq_nil {x : Extractor} {request : Http.Request}
    (hnone : ∀ name, ¬x.NamesUser request name) : (x.userFields request).entries = [] := by
  rw [userFields]
  split
  · next user huser => exact absurd (userClaim_eq_iff.mp huser) (hnone user)
  · rfl

/-! ### Where each field comes from -/

/-- The place that a field is taken from: a template filled in from one half of an exchange, or the
token of the acting user. -/
inductive Origin
  | template (side : Side) (index : Nat)
  | user
  deriving DecidableEq, Repr

/-- The templates that filling in one half changes, with their places, names and values. -/
def tracedFrom (templates : List Template) (h : Half) : List (Origin × String × String) :=
  (templates.zipIdx.filter fun p => p.1.render h ≠ p.1.text).map fun p =>
    (.template h.side p.2, p.1.displayName, p.1.render h)

/-- The fields of an exchange with their places. -/
def traced (x : Extractor) (request : Http.Request) (response : Http.Response) :
    List (Origin × String × String) :=
  tracedFrom x.templates (.response response)
    ++ (x.userFields request).entries.map (fun f => (.user, f))
    ++ tracedFrom x.templates (.request request)

/-- The places in their order. -/
def origins (x : Extractor) : List Origin :=
  (List.range x.templates.length).map (.template .response) ++ [.user]
    ++ (List.range x.templates.length).map (.template .request)

/-- The field of a place can depend on a header of the request. -/
def touched (x : Extractor) (name : String) : Origin → Bool
  | .template .response _ => false
  | .user => true
  | .template .request i => x.templates[i]?.any (·.readsHeader name)

theorem map_snd_tracedFrom (templates : List Template) (h : Half) :
    (tracedFrom templates h).map Prod.snd = changed h templates := by
  have hfst : (templates.zipIdx.filter fun p => p.1.render h ≠ p.1.text).map Prod.fst
      = templates.filter fun t => t.render h ≠ t.text := by
    conv => rhs; rw [← List.zipIdx_map_fst 0 templates, List.filter_map]
    rfl
  rw [changed, ← hfst, tracedFrom, List.map_map, List.map_map]
  rfl

theorem map_fst_tracedFrom (templates : List Template) (h : Half) :
    ((tracedFrom templates h).map Prod.fst).Sublist
      ((List.range templates.length).map (.template h.side)) := by
  rw [List.range_eq_range', ← List.zipIdx_map_snd 0 templates, tracedFrom, List.map_map,
    List.map_map]
  exact List.filter_sublist.map _

/-- Without their places the traced fields are the fields. -/
theorem map_snd_traced (x : Extractor) (request : Http.Request) (response : Http.Response) :
    (x.traced request response).map Prod.snd = (x.extract request response).entries := by
  rw [traced, List.map_append, List.map_append, map_snd_tracedFrom, map_snd_tracedFrom,
    List.map_map, entries_extract]
  congr 2
  exact List.map_id _

theorem length_userFields_le (x : Extractor) (request : Http.Request) :
    (x.userFields request).entries.length ≤ 1 := by
  rw [userFields]
  split <;> simp

/-- No place gives more than one field, and the fields come in the order of their places. -/
theorem map_fst_traced (x : Extractor) (request : Http.Request) (response : Http.Response) :
    ((x.traced request response).map Prod.fst).Sublist x.origins := by
  rw [traced, List.map_append, List.map_append, origins]
  refine ((map_fst_tracedFrom _ _).append ?_).append (map_fst_tracedFrom _ _)
  have hone := x.length_userFields_le request
  match (x.userFields request).entries, hone with
  | [], _ => exact List.nil_sublist _
  | [_], _ => exact List.Sublist.refl _

theorem mem_tracedFrom {templates : List Template} {h : Half} {side : Side} {i : Nat}
    {f : String × String} :
    (.template side i, f) ∈ tracedFrom templates h ↔
      side = h.side ∧ ∃ t, templates[i]? = some t ∧ t.render h ≠ t.text ∧
        f = (t.displayName, t.render h) := by
  simp only [tracedFrom, List.mem_map, List.mem_filter, List.mem_zipIdx_iff_getElem?]
  constructor
  · rintro ⟨⟨t, j⟩, ⟨hget, hne⟩, heq⟩
    obtain ⟨horigin, rfl⟩ := Prod.mk.inj heq
    obtain ⟨rfl, rfl⟩ := Origin.template.inj horigin
    exact ⟨rfl, t, hget, by simpa using hne, rfl⟩
  · rintro ⟨rfl, t, hget, hne, rfl⟩
    exact ⟨(t, i), ⟨hget, by simpa using hne⟩, rfl⟩

/-! ### Apart from one header -/

theorem tracedFrom_apart (x : Extractor) {name : String} {a b : Http.Request}
    (h : a.SameBut name b) :
    (tracedFrom x.templates (.request a)).filter (fun f => !x.touched name f.1)
      = (tracedFrom x.templates (.request b)).filter (fun f => !x.touched name f.1) := by
  -- at the place of a template the header is read if and only if the template reads it
  have htouched : ∀ p ∈ x.templates.zipIdx,
      x.touched name (.template .request p.2) = p.1.readsHeader name := by
    intro p hp
    rw [touched, List.mem_zipIdx_iff_getElem?.mp hp]
    rfl
  have hrender : ∀ p ∈ x.templates.zipIdx, (!x.touched name (.template .request p.2)) = true →
      p.1.render (.request a) = p.1.render (.request b) := by
    intro p hp hnot
    refine Template.render_eq_of_sameBut h ?_
    rw [← htouched p hp]
    simpa using hnot
  have hchanged : x.templates.zipIdx.filter (fun p => !x.touched name (.template .request p.2) &&
        decide (p.1.render (.request a) ≠ p.1.text))
      = x.templates.zipIdx.filter (fun p => !x.touched name (.template .request p.2) &&
        decide (p.1.render (.request b) ≠ p.1.text)) := by
    refine List.filter_congr fun p hp => ?_
    cases hnot : !x.touched name (.template .request p.2) with
    | false => rfl
    | true => rw [hrender p hp hnot]
  simp only [tracedFrom, List.filter_map, List.filter_filter, Function.comp_def, Half.side]
  rw [hchanged]
  refine List.map_congr_left fun p hp => ?_
  obtain ⟨hp, hnot⟩ := List.mem_filter.mp hp
  rw [hrender p hp (Bool.and_eq_true_iff.mp hnot).1]

/-- **What a header cannot change.** Where two requests differ under the header of the token alone,
the fields from all places are the same that do not read it. -/
theorem traced_apart (x : Extractor) {name : String} {a b : Http.Request} (h : a.SameBut name b)
    (response : Http.Response) :
    (x.traced a response).filter (fun f => !x.touched name f.1)
      = (x.traced b response).filter (fun f => !x.touched name f.1) := by
  have huser : ∀ fields : List (String × String),
      (fields.map fun f => (Origin.user, f)).filter (fun f => !x.touched name f.1) = [] := by
    intro fields
    rw [List.filter_eq_nil_iff]
    rintro f hf
    obtain ⟨_, _, rfl⟩ := List.mem_map.mp hf
    simp [touched]
  simp only [traced, List.filter_append, huser, x.tracedFrom_apart h]

/-! ### All told -/

/-- What the traced fields are, place by place. -/
theorem mem_traced {x : Extractor} {request : Http.Request} {response : Http.Response}
    {side : Side} {i : Nat} {f : String × String} :
    (.template side i, f) ∈ x.traced request response ↔
      ∃ t, x.templates[i]? = some t ∧ t.render (.on request response side) ≠ t.text ∧
        f = (t.displayName, t.render (.on request response side)) := by
  have huser : (Origin.template side i, f) ∉
      (x.userFields request).entries.map fun f => (Origin.user, f) := by simp
  cases side <;> simp [traced, mem_tracedFrom, Half.side, Half.on]

/-- **The fields of an exchange.** They are those of the templates that the response changes, the
field of the acting user, and those of the templates that the request changes. A template is filled
in segment by segment, and one without a tag of a half says nothing about it. There is a field for
the user if and only if the token names one. Each field has a place of its own, and whatever stands
under the header of the token, the fields of the places that do not read it stay what they are, in
their order. -/
theorem extracted (x : Extractor) :
    (∀ request response,
      (x.extract request response).entries
        = changed (.response response) x.templates ++ (x.userFields request).entries
          ++ changed (.request request) x.templates) ∧
    (∀ request response,
      (x.traced request response).map Prod.snd = (x.extract request response).entries ∧
      ((x.traced request response).map Prod.fst).Sublist x.origins ∧
      ∀ side i f, (.template side i, f) ∈ x.traced request response ↔
        ∃ t, x.templates[i]? = some t ∧ t.render (.on request response side) ≠ t.text ∧
          f = (t.displayName, t.render (.on request response side))) ∧
    (∀ (t : Template) segs, Template.Leftmost t.text.toList segs →
      (∀ h, (t.render h).toList = segs.flatMap (Template.Segment.filled h)) ∧
      ∀ side, (∀ tag source, Template.Segment.tag tag source ∈ segs → tag.side ≠ side) →
        ∀ i, x.templates[i]? = some t → ∀ request response f,
          (.template side i, f) ∉ x.traced request response) ∧
    (∀ request,
      (∀ name, (x.userFields request).entries = [("jwt_user", name)] ↔ x.NamesUser request name) ∧
      ((∀ name, ¬x.NamesUser request name) → (x.userFields request).entries = [])) ∧
    (∀ user name, x.user = some user → Http.headerName? (Utf8.bytes user.header) = some name →
      ∀ a b : Http.Request, a.SameBut name b → ∀ response,
        (x.traced a response).filter (fun f => !x.touched name f.1)
          = (x.traced b response).filter (fun f => !x.touched name f.1)) := by
  refine ⟨x.entries_extract, fun request response => ⟨x.map_snd_traced request response,
    x.map_fst_traced request response, fun _ _ _ => mem_traced⟩, ?_,
    fun request => ⟨fun name => userFields_eq_iff, userFields_eq_nil⟩,
    fun _ _ _ _ a b h => x.traced_apart h⟩
  intro t segs hsegs
  refine ⟨Template.toList_render hsegs, ?_⟩
  intro side htags i hget request response f hmem
  obtain ⟨t', hget', hne, -⟩ := mem_traced.mp hmem
  obtain rfl : t' = t := Option.some.inj (hget'.symm.trans hget)
  refine hne (Template.render_eq_text hsegs fun tag source htag => ?_)
  cases side <;> exact htags tag source htag

/-! ### A token that is none -/

/-- Templates with tags of both halves, and a user. -/
def labelled : Extractor where
  templates := [⟨"$\x7bREQUEST:method\x7d by $\x7bRESPONSE:status\x7d"⟩,
    ⟨"$\x7bREQUEST_HEADER:authorization\x7d"⟩]
  user := some ⟨"Authorization", "sub"⟩

/-- A request with a token in which `sub` is `ann`. -/
def signedIn : Http.Request where
  headers := [⟨"authorization", Utf8.bytes "e30.eyJzdWIiOiJhbm4ifQ.c2ln"⟩]

/-- The same request with something else in the place of the token. -/
def garbled : Http.Request where
  headers := [⟨"authorization", Utf8.bytes "$\x7bREQUEST:method\x7d"⟩]

theorem extracted_garbled :
    labelled.user = some ⟨"Authorization", "sub"⟩ ∧
      Http.headerName? (Utf8.bytes "Authorization") = some "authorization" ∧
      signedIn.SameBut "authorization" garbled ∧
      (labelled.traced signedIn {}).filter (fun f => !labelled.touched "authorization" f.1)
        = (labelled.traced garbled {}).filter (fun f => !labelled.touched "authorization" f.1) ∧
      (labelled.userFields signedIn).entries = [("jwt_user", "ann")] := by
  have hname : Http.headerName? (Utf8.bytes "Authorization") = some "authorization" := by
    decide +kernel
  have hsame : signedIn.SameBut "authorization" garbled :=
    ⟨rfl, rfl, rfl, by decide +kernel, rfl⟩
  have htoken : labelled.NamesUser signedIn "ann" :=
    ⟨⟨"Authorization", "sub"⟩, "authorization", Utf8.bytes "e30.eyJzdWIiOiJhbm4ifQ.c2ln", rfl,
      hname, by decide +kernel, by decide +kernel, by decide +kernel⟩
  obtain ⟨-, -, -, huser, hheader⟩ := extracted labelled
  exact ⟨rfl, hname, hsame, hheader _ _ rfl hname _ _ hsame {},
    ((huser signedIn).1 "ann").mpr htoken⟩

end Extractor

end PurgeGateway
