import PurgeGateway.Json.Printer
import PurgeGateway.Proofs.ValueGrammar

/-!
# JSON texts read back

What the writer writes is a text of the grammar that stands for the value it was given: a character
is written in a way that spells it, an item or a member in a way that writes it. So the reader,
which takes every text of the grammar, reads the value back.

## Main definitions

* `Json.Legible`: a value without numbers that is nested so deep at most.

## Main results

* `Json.reads_render`: what is written is a text of the grammar.
* `Json.read?_compact`: a value is read back.
-/

namespace PurgeGateway.Json

open Utf8 (encode)

variable {depth : Nat} {j : Json}

/-- The bytes write a tree that stands for the value. -/
def Reads (depth : Nat) (bs : List UInt8) (j : Json) : Prop :=
  ∃ tree, Writes depth bs tree ∧ StandsFor tree j

theorem Reads.led {bs : List UInt8} (h : Reads depth bs j) :
    ∃ tree, Led (Writes depth) bs tree ∧ StandsFor tree j := by
  obtain ⟨tree, hwrites, hstands⟩ := h
  exact ⟨tree, .solid hwrites, hstands⟩

/-! ### Strings -/

theorem encode_renderText (s : String) : encode (renderText s)
    = Ascii.byte '"' :: (encode (s.toList.flatMap escape) ++ [Ascii.byte '"']) := by
  rw [renderText, List.cons_append, Utf8.encode_cons, Utf8.encode_append]
  rfl

theorem textOfUnits?_map_toNat (s : String) :
    textOfUnits? (s.toList.map Char.toNat) = some s := by
  rw [textOfUnits?, charsOf?_map_toNat, Option.map_some, String.ofList_toList]

theorem writes_renderText (s : String) :
    Writes depth (encode (renderText s)) (.text (s.toList.map Char.toNat)) := by
  rw [encode_renderText]
  exact .scalar (.text (spellsUnits_render s.toList))

theorem reads_text (s : String) : Reads depth (encode (render (.text s))) (.text s) := by
  rw [render]
  refine ⟨_, writes_renderText s, ?_⟩
  rw [StandsFor, Tree.value?, textOfUnits?_map_toNat]
  rfl

/-! ### Items and members -/

/-- The items of an array are written as a list, if each of them is written. -/
theorem writesList_renderItems (items : List Json)
    (h : ∀ j ∈ items, Reads depth (encode j.render) j) (hne : items ≠ []) :
    ∃ front, encode (renderItems true items) = front ++ [Ascii.byte ']'] ∧
      WritesList (fun bs j => ∃ tree, Led (Writes depth) bs tree ∧ StandsFor tree j) front
        items := by
  induction items with
  | nil => exact absurd rfl hne
  | cons j items ih =>
    have hj := (h j List.mem_cons_self).led
    cases items with
    | nil =>
      refine ⟨encode j.render ++ [], ?_, .last hj isBlank_nil⟩
      rw [renderItems, renderItems]
      simp [Utf8.encode_cons, Utf8.utf8EncodeChar_ascii]
    | cons k items =>
      obtain ⟨front, hfront, hlist⟩ :=
        ih (fun i hi => h i (List.mem_cons_of_mem j hi)) (List.cons_ne_nil k items)
      refine ⟨encode j.render ++ ([] ++ Ascii.byte ',' :: front), ?_, .cons hj isBlank_nil hlist⟩
      have hcomma : encode (renderItems false (k :: items))
          = Ascii.byte ',' :: encode (renderItems true (k :: items)) := by
        rw [renderItems, renderItems]
        rfl
      rw [renderItems, Utf8.encode_append, hcomma, hfront]
      simp

theorem writesMember_render {α : Type} {value : List UInt8 → α → Prop} {bs : List UInt8} {a : α}
    (name : String) (h : value bs a) :
    WritesMember value (encode (renderText name) ++ Ascii.byte ':' :: bs)
      (name.toList.map Char.toNat, a) := by
  have hmember : WritesMember value _ (name.toList.map Char.toNat, a) :=
    .mk isBlank_nil (spellsUnits_render name.toList) isBlank_nil (.solid h)
  rw [encode_renderText]
  simpa using hmember

/-- The members of an object are written as a list, if each of them is written. -/
theorem writesList_renderMembers {E : List UInt8 → String × Json → Prop}
    (members : List (String × Json))
    (h : ∀ m ∈ members, E (encode (renderText m.1) ++ Ascii.byte ':' :: encode m.2.render) m)
    (hne : members ≠ []) :
    ∃ front, encode (renderMembers true members) = front ++ [Ascii.byte '}'] ∧
      WritesList E front members := by
  induction members with
  | nil => exact absurd rfl hne
  | cons m members ih =>
    obtain ⟨name, j⟩ := m
    have hmember := h (name, j) List.mem_cons_self
    cases members with
    | nil =>
      refine ⟨_, ?_, .last hmember isBlank_nil⟩
      rw [renderMembers, renderMembers]
      simp [Utf8.encode_cons, Utf8.utf8EncodeChar_ascii]
    | cons next members =>
      obtain ⟨front, hfront, hlist⟩ :=
        ih (fun i hi => h i (List.mem_cons_of_mem _ hi)) (List.cons_ne_nil next members)
      refine ⟨_, ?_, .cons hmember isBlank_nil hlist⟩
      have hcomma : encode (renderMembers false (next :: members))
          = Ascii.byte ',' :: encode (renderMembers true (next :: members)) := by
        rw [renderMembers, renderMembers]
        rfl
      rw [renderMembers, Utf8.encode_append, Utf8.encode_append, Utf8.encode_cons,
        Utf8.encode_append, hcomma, hfront]
      simp [Utf8.utf8EncodeChar_ascii]

/-! ### Values -/

/-- The value holds no numbers and is nested so deep at most. -/
inductive Legible : Nat → Json → Prop
  | null (depth : Nat) : Legible depth .null
  | bool (depth : Nat) (b : Bool) : Legible depth (.bool b)
  | text (depth : Nat) (s : String) : Legible depth (.text s)
  | array {depth : Nat} {items : List Json} (h : ∀ j ∈ items, Legible depth j) :
    Legible (depth + 1) (.array items)
  | object {depth : Nat} {members : List (String × Json)} (h : ∀ m ∈ members, Legible depth m.2) :
    Legible (depth + 1) (.object members)

theorem reads_array {items : List Json} (h : ∀ j ∈ items, Reads depth (encode j.render) j) :
    Reads (depth + 1) (encode (render (.array items))) (.array items) := by
  rw [render, Utf8.encode_cons]
  cases items with
  | nil => exact ⟨.array [], .inr (.noItems isBlank_nil), rfl⟩
  | cons j items =>
    obtain ⟨front, hfront, hlist⟩ :=
      writesList_renderItems (j :: items) h (List.cons_ne_nil j items)
    obtain ⟨trees, htrees, hall⟩ := writesList_exists_iff.mp hlist
    rw [hfront]
    refine ⟨.array trees, .inr (.items htrees), ?_⟩
    rw [StandsFor, Tree.value?, itemValues?_eq_some_iff.mpr hall]
    rfl

theorem reads_object {members : List (String × Json)}
    (h : ∀ m ∈ members, Reads depth (encode m.2.render) m.2) :
    Reads (depth + 1) (encode (render (.object members))) (.object members) := by
  rw [render, Utf8.encode_cons]
  cases members with
  | nil => exact ⟨.object [], .inr (.noMembers isBlank_nil), rfl⟩
  | cons m members =>
    have hmember : ∀ member ∈ m :: members, ∃ m, WritesMember (Writes depth)
        (encode (renderText member.1) ++ Ascii.byte ':' :: encode member.2.render) m ∧
          MemberStandsFor m member := by
      intro member hmem
      obtain ⟨tree, hwrites, hstands⟩ := h member hmem
      exact ⟨_, writesMember_render member.1 hwrites, textOfUnits?_map_toNat member.1, hstands⟩
    obtain ⟨front, hfront, hlist⟩ := writesList_renderMembers
      (E := fun bs member => ∃ m, WritesMember (Writes depth) bs m ∧ MemberStandsFor m member)
      (m :: members) hmember (List.cons_ne_nil m members)
    obtain ⟨trees, htrees, hall⟩ := writesList_exists_iff.mp hlist
    rw [hfront]
    refine ⟨.object trees, .inr (.members htrees), ?_⟩
    rw [StandsFor, Tree.value?, memberValues?_eq_some_iff.mpr hall]
    rfl

/-- **What is written is a text of the grammar** that stands for the value. -/
theorem reads_render (h : Legible depth j) : Reads depth (encode j.render) j := by
  induction h with
  | null depth => exact ⟨.null, .scalar .null, rfl⟩
  | bool depth b =>
    cases b with
    | true => exact ⟨.bool true, .scalar .yes, rfl⟩
    | false => exact ⟨.bool false, .scalar .no, rfl⟩
  | text depth s => exact reads_text s
  | array _ ih => exact reads_array ih
  | object _ ih => exact reads_object ih

/-- **A value is read back.** -/
theorem read?_compact (h : Legible maxDepth j) : read? (Utf8.bytes j.compact) = some j := by
  obtain ⟨tree, hwrites, hstands⟩ := reads_render h
  have htext := WritesText.mk (.solid hwrites) isBlank_nil
  rw [Utf8.bytes, compact, String.toList_ofList]
  rw [List.append_nil] at htext
  exact read?_eq_some_iff.mpr ⟨tree, htext, hstands⟩

end PurgeGateway.Json
