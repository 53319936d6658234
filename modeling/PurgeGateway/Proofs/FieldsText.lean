import PurgeGateway.Proofs.Flattened

/-!
# Fields in a line of text

The names and the values of fields come from whoever calls, and may hold any character. Their text
is one line all the same: what is a control is written with other characters, in names and values
alike. Nothing is lost by that, since the text is read back as the fields in their order, repeated
names and all. So two sets of fields have the same text only if they are the same set.

## Main definitions

* `FieldSet.Recipe`: how a set of fields was put together, with `build` and `pairs`.
* `FieldSet.ofText?`: the fields that a text holds, member by member.

## Main results

* `Json.Legible.printable`: no control is in the text of a value without numbers.
* `FieldSet.ofText?_text`: the text of fields is read back.
* `FieldSet.get?_append`: the first value in one set or else in the other.
* `FieldSet.text_faithful`: all of this, however the fields were put together.
-/

namespace PurgeGateway

/-! ### Characters of texts -/

namespace Json

/-- No control below the blank is among the characters. -/
def Printable (cs : List Char) : Prop :=
  ∀ c ∈ cs, 0x20 ≤ c.toNat

instance (cs : List Char) : Decidable (Printable cs) :=
  List.decidableBAll (fun c : Char => 0x20 ≤ c.toNat) cs

theorem printable_append {cs ds : List Char} :
    Printable (cs ++ ds) ↔ Printable cs ∧ Printable ds :=
  List.forall_mem_append

theorem printable_cons {c : Char} {cs : List Char} :
    Printable (c :: cs) ↔ 0x20 ≤ c.toNat ∧ Printable cs :=
  List.forall_mem_cons

theorem printable_escape (c : Char) : Printable (escape c) := by
  have hcontrols : ∀ n < 0x20, Printable (['\\', 'u'] ++ Ascii.hexPadded 4 n) := by decide
  rw [escape]
  iterate 7
    split
    · decide
  split
  · next hcontrol => exact hcontrols c.toNat hcontrol
  · next hprintable =>
    intro d hd
    rw [List.mem_singleton.mp hd]
    exact Nat.le_of_not_lt hprintable

theorem printable_renderText (s : String) : Printable (renderText s) := by
  have hescaped : Printable (s.toList.flatMap escape) := by
    intro d hd
    obtain ⟨c, -, hc⟩ := List.mem_flatMap.mp hd
    exact printable_escape c d hc
  rw [renderText, List.cons_append, printable_cons, printable_append]
  exact ⟨by decide, hescaped, by decide⟩

theorem printable_renderItems {items : List Json} (h : ∀ j ∈ items, Printable j.render)
    (first : Bool) : Printable (renderItems first items) := by
  induction items generalizing first with
  | nil => rw [renderItems]; decide
  | cons j items ih =>
    have hcomma : Printable (if first then [] else [',']) := by cases first <;> decide
    rw [renderItems, printable_append, printable_append]
    exact ⟨⟨hcomma, h j List.mem_cons_self⟩,
      ih (fun i hi => h i (List.mem_cons_of_mem j hi)) false⟩

theorem printable_renderMembers {members : List (String × Json)}
    (h : ∀ m ∈ members, Printable m.2.render) (first : Bool) :
    Printable (renderMembers first members) := by
  induction members generalizing first with
  | nil => rw [renderMembers]; decide
  | cons m members ih =>
    obtain ⟨name, j⟩ := m
    have hcomma : Printable (if first then [] else [',']) := by cases first <;> decide
    rw [renderMembers, printable_append, printable_append, printable_cons, printable_append]
    exact ⟨⟨hcomma, printable_renderText name⟩, by decide, h (name, j) List.mem_cons_self,
      ih (fun i hi => h i (List.mem_cons_of_mem _ hi)) false⟩

/-- **No control is in the text of a value** without numbers, whatever is in its texts. -/
theorem Legible.printable {depth : Nat} {j : Json} (h : Legible depth j) :
    Printable j.compact.toList := by
  rw [compact, String.toList_ofList]
  induction h with
  | null depth => rw [render]; decide
  | bool depth b => cases b <;> rw [render] <;> decide
  | text depth s => rw [render]; exact printable_renderText s
  | array _ ih =>
    rw [render, printable_cons]
    exact ⟨by decide, printable_renderItems ih true⟩
  | object _ ih =>
    rw [render, printable_cons]
    exact ⟨by decide, printable_renderMembers ih true⟩

end Json

/-! ### Fields -/

namespace FieldSet

/-- How a set of fields is put together. -/
inductive Recipe
  | new
  | push (r : Recipe) (name value : String)
  | append (r other : Recipe)

/-- The set that comes of it. -/
def Recipe.build : Recipe → FieldSet
  | .new => {}
  | .push r name value => r.build.push name value
  | .append r other => r.build.append other.build

/-- The names and values that were put in, in their order. -/
def Recipe.pairs : Recipe → List (String × String)
  | .new => []
  | .push r name value => r.pairs ++ [(name, value)]
  | .append r other => r.pairs ++ other.pairs

/-- A set has what was put in. -/
theorem Recipe.entries_build (r : Recipe) : r.build.entries = r.pairs := by
  induction r with
  | new => rfl
  | push r name value ih => rw [build, entries_push, ih, pairs]
  | append r other ih ih' => rw [build, entries_append, ih, ih', pairs]

/-- The name and the value of a member that is a text. -/
def field? (m : String × Json) : Option (String × String) :=
  match m.2 with
  | .text value => some (m.1, value)
  | _ => none

/-- The fields that a text holds: it is a JSON object, and its members are texts. They are taken one
by one, repeated names and all. -/
def ofText? (text : String) : Option FieldSet :=
  match Json.read? (Utf8.bytes text) with
  | some (.object members) => (members.mapM field?).map FieldSet.mk
  | _ => none

/-- **There is one way to read the text** by the grammar: as an object with the fields for its
members. -/
theorem reads_text_iff (fs : FieldSet) (j : Json) :
    (∃ tree, Json.WritesText Json.maxDepth (Utf8.bytes fs.text) tree ∧ Json.StandsFor tree j) ↔
      j = .object fs.members := by
  rw [← Json.read?_eq_some_iff, read?_text, Option.some.injEq, eq_comm]

theorem mapM_field?_members (fs : FieldSet) : fs.members.mapM field? = some fs.entries := by
  rw [members]
  induction fs.entries with
  | nil => rfl
  | cons e entries ih => rw [List.map_cons, List.mapM_cons, ih]; rfl

theorem legible_toJson (fs : FieldSet) : Json.Legible Json.maxDepth fs.toJson := by
  refine .object fun m hm => ?_
  obtain ⟨e, -, rfl⟩ := List.mem_map.mp hm
  exact .text 126 e.2

/-- **The text of fields is read back** as these fields. -/
theorem ofText?_text (fs : FieldSet) : ofText? fs.text = some fs := by
  rw [ofText?, read?_text]
  dsimp only
  rw [mapM_field?_members]
  rfl

/-- **Two sets with one text are one set.** -/
theorem text_inj {fs gs : FieldSet} : fs.text = gs.text ↔ fs = gs := by
  refine ⟨fun h => ?_, fun h => h ▸ rfl⟩
  have hread := ofText?_text fs
  rw [h, ofText?_text] at hread
  exact (Option.some.inj hread).symm

/-- What is found under a name is what was put in under it first. -/
theorem get?_eq_some_iff {fs : FieldSet} {name value : String} :
    fs.get? name = some value ↔ ∃ before behind, fs.entries = before ++ (name, value) :: behind ∧
      ∀ e ∈ before, e.1 ≠ name := by
  rw [get?, Option.map_eq_some_iff]
  constructor
  · rintro ⟨e, hfind, rfl⟩
    obtain ⟨hname, before, behind, hsplit, hbefore⟩ := List.find?_eq_some_iff_append.mp hfind
    obtain rfl : e.1 = name := by simpa using hname
    exact ⟨before, behind, hsplit, fun e' he' => by simpa using hbefore e' he'⟩
  · rintro ⟨before, behind, hsplit, hbefore⟩
    refine ⟨(name, value), List.find?_eq_some_iff_append.mpr ⟨by simp, before, behind, hsplit, ?_⟩,
      rfl⟩
    intro e he
    simpa using hbefore e he

/-- **What two sets have under a name**: what the first has, or else what the second has. -/
theorem get?_append (fs gs : FieldSet) (name : String) :
    (fs.append gs).get? name = (fs.get? name).or (gs.get? name) := by
  rw [get?, get?, get?, entries_append, List.find?_append]
  cases fs.entries.find? (·.1 == name) <;> rfl

/-- **The text of fields tells them all in one line.** However a set was put together, its text is
read as an object with one member for each name and value that was put in, in their order, and in no
other way; no control is in it. So two sets have one text only if the same was put into both. The
text of a set behind another is read as the fields of the one and then those of the other, and what
is found under a name is the first value in the one, or else the first in the other. -/
theorem text_faithful :
    (∀ r : Recipe,
      (∀ j, (∃ tree, Json.WritesText Json.maxDepth (Utf8.bytes r.build.text) tree ∧
          Json.StandsFor tree j) ↔ j = .object (r.pairs.map fun e => (e.1, .text e.2))) ∧
        ofText? r.build.text = some ⟨r.pairs⟩ ∧ Json.Printable r.build.text.toList) ∧
      (∀ r other : Recipe, r.build.text = other.build.text ↔ r.pairs = other.pairs) ∧
      ∀ fs gs : FieldSet,
        ofText? (fs.append gs).text = some ⟨fs.entries ++ gs.entries⟩ ∧
          ∀ name, (fs.append gs).get? name = (fs.get? name).or (gs.get? name) ∧
            ∀ value, fs.get? name = some value ↔ ∃ before behind,
              fs.entries = before ++ (name, value) :: behind ∧ ∀ e ∈ before, e.1 ≠ name := by
  have hbuild : ∀ r : Recipe, r.build = ⟨r.pairs⟩ := fun r => by rw [← r.entries_build]
  refine ⟨fun r => ⟨fun j => ?_, ?_, (legible_toJson _).printable⟩, fun r other => ?_,
    fun fs gs => ⟨ofText?_text _, fun name => ⟨get?_append fs gs name, fun _ => get?_eq_some_iff⟩⟩⟩
  · rw [reads_text_iff, members, r.entries_build]
  · rw [ofText?_text, hbuild]
  · rw [text_inj, hbuild, hbuild, FieldSet.mk.injEq]

/-- A quote and the end of a line are written with other characters. -/
example : (((({} : FieldSet).push "a\"b" "\n").push "a\"b" "é").text)
    = "\x7b\"a\\\"b\":\"\\n\",\"a\\\"b\":\"é\"\x7d" := by
  decide

end FieldSet

end PurgeGateway
