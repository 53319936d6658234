import PurgeGateway.Http.Message
import PurgeGateway.Text.Ascii

/-!
# Field templates

A template is a text with tags in it. A tag names one half of an exchange, says whether it wants a
part of it or a header, and gives a key. Two spellings exist: `${REQUEST:method}` ends at its
brace, and the bare `REQUEST:method` ends before the next closing brace or with the text. A key is
never empty, and its letters are kept small.

## Main definitions

* `Tag`: what is looked up.
* `Template.tagAt?`: the tag at the front of a text.
* `Template.segments`: a text cut into literals and tags.
* `Template.displayName`: the name under which a template's value is reported.

## Main results

* `source_append_of_tagAt?`: a tag and the rest behind it make up the text.
-/

namespace PurgeGateway

/-- The half of an exchange that a tag reads. -/
inductive Side
  | request
  | response
  deriving DecidableEq, Repr, Inhabited

/-- What a tag wants of its half: a named part, or a header. -/
inductive Subject
  | part
  | header
  deriving DecidableEq, Repr, Inhabited

/-- A tag. The key has no capitals. -/
structure Tag where
  side : Side
  subject : Subject
  key : String
  deriving DecidableEq, Repr, Inhabited

/-- A template as configured. -/
structure Template where
  text : String
  deriving DecidableEq, Repr, Inhabited

namespace Template

/-! ### Tags -/

/-- What may stand in front of a key, each with the half and the subject that it names. -/
def kinds : List (List Char × Side × Subject) :=
  [("REQUEST_HEADER:".toList, .request, .header),
   ("RESPONSE_HEADER:".toList, .response, .header),
   ("REQUEST:".toList, .request, .part),
   ("RESPONSE:".toList, .response, .part)]

/-- A kind at the front of a text: its spelling, what it names, and the text behind it. -/
def kindAt? (cs : List Char) : Option ((List Char × Side × Subject) × List Char) :=
  kinds.findSome? fun kind => (kind.1.isPrefixOf? cs).map fun rest => (kind, rest)

/-- The text without a kind at its front. -/
def withoutKind (cs : List Char) : List Char :=
  match kindAt? cs with
  | some (_, rest) => rest
  | none => cs

/-- A key with its letters made small. -/
def keyText (key : List Char) : String :=
  Ascii.lowerText (String.ofList key)

/-- A tag with its spelling, and the text behind it. -/
structure Found where
  tag : Tag
  source : List Char
  rest : List Char

/-- The tag between `${` and `}` at the front of a text, given the text behind its `${`. -/
def delimited? (inner : List Char) : Option Found :=
  match kindAt? inner with
  | some ((spelling, side, subject), body) =>
    let key := body.takeWhile (· != '}')
    match body.dropWhile (· != '}') with
    | close :: rest =>
      if key.isEmpty then none
      else some ⟨⟨side, subject, keyText key⟩, '$' :: '{' :: (spelling ++ (key ++ [close])), rest⟩
    | [] => none
  | none => none

/-- The tag without delimiters at the front of a text. -/
def bare? (cs : List Char) : Option Found :=
  match kindAt? cs with
  | some ((spelling, side, subject), body) =>
    let key := body.takeWhile (· != '}')
    if key.isEmpty then none
    else some ⟨⟨side, subject, keyText key⟩, spelling ++ key, body.dropWhile (· != '}')⟩
  | none => none

/-- The tag at the front of a text, if one starts there. -/
def tagAt? (cs : List Char) : Option Found :=
  match cs with
  | '$' :: '{' :: inner => delimited? inner
  | _ => bare? cs

theorem append_of_isPrefixOf? {a b rest : List Char} (h : a.isPrefixOf? b = some rest) :
    a ++ rest = b := by
  induction a generalizing b with
  | nil => exact (Option.some.inj h).symm
  | cons x a ih =>
    cases b with
    | nil => exact nomatch (show none = some rest from h)
    | cons y b =>
      change (if x == y then a.isPrefixOf? b else none) = some rest at h
      split at h
      · next hxy => simp [ih h, eq_of_beq hxy]
      · simp at h

theorem append_of_kindAt? {cs rest : List Char} {kind : List Char × Side × Subject}
    (h : kindAt? cs = some (kind, rest)) : kind ∈ kinds ∧ kind.1 ++ rest = cs := by
  obtain ⟨k, hk, h⟩ := List.exists_of_findSome?_eq_some h
  obtain ⟨r, hr, h⟩ := Option.map_eq_some_iff.1 h
  obtain ⟨rfl, rfl⟩ := Prod.mk.injEq .. ▸ h
  exact ⟨hk, append_of_isPrefixOf? hr⟩

theorem append_of_delimited? {inner : List Char} {f : Found} (h : delimited? inner = some f) :
    f.source ++ f.rest = '$' :: '{' :: inner := by
  unfold delimited? at h
  split at h
  case h_1 spelling side subject body hk =>
    have hk := (append_of_kindAt? hk).2
    dsimp only at h
    split at h
    case h_1 close rest hb =>
      split at h
      · simp at h
      · obtain rfl := Option.some.inj h
        have whole : body.takeWhile (· != '}') ++ close :: rest = body := by
          rw [← hb]; exact List.takeWhile_append_dropWhile
        calc
          _ = '$' :: '{' :: (spelling ++ (body.takeWhile (· != '}') ++ close :: rest)) := by simp
          _ = '$' :: '{' :: inner := by rw [whole, ← hk]
    · simp at h
  · simp at h

theorem append_of_bare? {cs : List Char} {f : Found} (h : bare? cs = some f) :
    f.source ++ f.rest = cs := by
  unfold bare? at h
  split at h
  case h_1 spelling side subject body hk =>
    have hk := (append_of_kindAt? hk).2
    dsimp only at h
    split at h
    · simp at h
    · obtain rfl := Option.some.inj h
      simp [← hk]
  · simp at h

/-- A tag's spelling and the text behind it make up the text that the tag was found in. -/
theorem source_append_of_tagAt? {cs : List Char} {f : Found} (h : tagAt? cs = some f) :
    f.source ++ f.rest = cs := by
  unfold tagAt? at h
  split at h
  · exact append_of_delimited? h
  · exact append_of_bare? h

theorem source_ne_nil_of_delimited? {inner : List Char} {f : Found}
    (h : delimited? inner = some f) : f.source ≠ [] := by
  unfold delimited? at h
  split at h
  · dsimp only at h
    split at h
    · split at h
      · simp at h
      · obtain rfl := Option.some.inj h
        simp
    · simp at h
  · simp at h

theorem source_ne_nil_of_bare? {cs : List Char} {f : Found} (h : bare? cs = some f) :
    f.source ≠ [] := by
  unfold bare? at h
  split at h
  · dsimp only at h
    split at h
    case h_1.isFalse hk => obtain rfl := Option.some.inj h; simp_all
    · simp at h
  · simp at h

theorem source_ne_nil_of_tagAt? {cs : List Char} {f : Found} (h : tagAt? cs = some f) :
    f.source ≠ [] := by
  unfold tagAt? at h
  split at h
  · exact source_ne_nil_of_delimited? h
  · exact source_ne_nil_of_bare? h

theorem length_rest_of_tagAt? {cs : List Char} {f : Found} (h : tagAt? cs = some f) :
    f.rest.length < cs.length := by
  rw [← source_append_of_tagAt? h, List.length_append]
  have := List.length_pos_iff.2 (source_ne_nil_of_tagAt? h)
  omega

/-! ### Segments -/

/-- A piece of a template: text to copy, or a tag with its spelling. -/
inductive Segment
  | literal (text : String)
  | tag (tag : Tag) (source : String)
  deriving DecidableEq, Repr, Inhabited

/-- The literal whose characters are given backwards, or nothing if there are none. -/
def literalOf (reversed : List Char) : List Segment :=
  if reversed.isEmpty then [] else [.literal (String.ofList reversed.reverse)]

/-- The segments of a text behind a literal whose characters so far are given backwards. -/
def cut (literal : List Char) : List Char → List Segment
  | [] => literalOf literal
  | c :: rest =>
    match _h : tagAt? (c :: rest) with
    | some f => literalOf literal ++ .tag f.tag (String.ofList f.source) :: cut [] f.rest
    | none => cut (c :: literal) rest
termination_by cs => cs.length
decreasing_by
  · exact length_rest_of_tagAt? _h
  · simp

/-- The segments of a template in order. No two literals are neighbours, and none is empty. -/
def segments (t : Template) : List Segment :=
  cut [] t.text.toList

/-- The tag of a segment. -/
def Segment.tag? : Segment → Option Tag
  | .literal _ => none
  | .tag t _ => some t

/-- The tags of a template in order. -/
def tags (t : Template) : List Tag :=
  t.segments.filterMap Segment.tag?

/-! ### Names -/

/-- The text between the delimiters of a tag. -/
def insideDelimiters? (source : String) : Option (List Char) :=
  match source.toList with
  | '$' :: '{' :: inner => if inner.getLast? = some '}' then some inner.dropLast else none
  | _ => none

/-- The name under which the value of a template is reported. A template that is one delimited tag
is named by its key as written; every other one by its text without a kind at the front. -/
def displayName (t : Template) : String :=
  match t.segments with
  | [.tag _ source] =>
    match insideDelimiters? source with
    | some inner => String.ofList (withoutKind inner)
    | none => String.ofList (withoutKind t.text.toList)
  | _ => String.ofList (withoutKind t.text.toList)

end Template

end PurgeGateway
