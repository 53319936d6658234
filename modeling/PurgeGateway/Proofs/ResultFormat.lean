import PurgeGateway.Proofs.Members
import PurgeGateway.Proofs.OutlineGrammar
import PurgeGateway.Purge.Result

/-!
# The format of results

A result is an object with five members. What is written under a name is what stood there when it
was read, and nothing for a null; a member that was missing is written with the value that it has by
itself, or not at all. A result is known from what is written under its names, so the results that
an object tells are told in these terms, name by name.

Members are set one after the other, and a name may be there once. So when a member is set nothing
stands under its name any more, and what is written there in the end is decided.

## Main definitions

* `Result.field`: what is written under a name.
* `Result.Keeps`: what is written under a name, given what stands there.
* `Result.Tells`: the results that an object tells.

## Main results

* `Result.setMember?_eq_some_iff`: what a value sets.
* `Result.foldlM_eq_some_iff`: what members make up.
* `Result.ofBytes?_eq_some_iff`: the objects that are read.
* `Result.ofBytes?_compact`: a result is read back.
-/

namespace PurgeGateway.Purge.Result

open Json (Stretch WritesObject namedValues foundValues textOfUnits?)

variable {r s : Result} {name : String} {j : Json}

/-! ### What is written -/

/-- The members that are written. -/
def members (r : Result) : List (String × Json) :=
  [("httpStatus", Json.int r.httpStatus.toNat), ("detail", .text r.detail)] ++
    member "purgeId" (r.purgeId.map .text) ++
    member "supportId" (r.supportId.map .text) ++
    member "estimatedSeconds" (r.estimatedSeconds.map fun n => Json.int n.toNat)

theorem toJson_eq (r : Result) : r.toJson = .object r.members := rfl

theorem names_member_sublist (name : String) (value : Option Json) :
    ((member name value).map (·.1)).Sublist [name] := by
  cases value with
  | none => exact List.nil_sublist [name]
  | some j => exact List.Sublist.refl [name]

/-- The names that are written are known ones, in their order. -/
theorem names_sublist (r : Result) : (r.members.map (·.1)).Sublist memberNames := by
  rw [members, List.map_append, List.map_append, List.map_append]
  exact (((List.Sublist.refl _).append (names_member_sublist _ _)).append
    (names_member_sublist _ _)).append (names_member_sublist _ _)

/-- What is written under a name, if anything is. -/
def field (r : Result) (name : String) : Option Json :=
  r.members.lookup name

theorem lookup_member (name other : String) (value : Option Json) :
    (member name value).lookup other = if name = other then value else none := by
  cases value with
  | none => rw [member, List.lookup_nil, ite_self]
  | some j => rw [member, lookup_cons_eq_ite, List.lookup_nil]

theorem field_eq (r : Result) (name : String) : r.field name =
    (((if "httpStatus" = name then some (Json.int r.httpStatus.toNat)
      else if "detail" = name then some (.text r.detail) else none).or
      (if "purgeId" = name then r.purgeId.map .text else none)).or
      (if "supportId" = name then r.supportId.map .text else none)).or
      (if "estimatedSeconds" = name then r.estimatedSeconds.map fun n => Json.int n.toNat
        else none) := by
  simp only [field, members, List.lookup_append, lookup_cons_eq_ite, lookup_member,
    List.lookup_nil]

theorem field_httpStatus (r : Result) :
    r.field "httpStatus" = some (Json.int r.httpStatus.toNat) := by
  simp [field_eq]

theorem field_detail (r : Result) : r.field "detail" = some (.text r.detail) := by
  simp [field_eq]

theorem field_purgeId (r : Result) : r.field "purgeId" = r.purgeId.map .text := by
  simp [field_eq]

theorem field_supportId (r : Result) : r.field "supportId" = r.supportId.map .text := by
  simp [field_eq]

theorem field_estimatedSeconds (r : Result) :
    r.field "estimatedSeconds" = r.estimatedSeconds.map fun n => Json.int n.toNat := by
  simp [field_eq]

theorem forall_memberNames {P : String → Prop} : (∀ name ∈ memberNames, P name) ↔
    P "httpStatus" ∧ P "detail" ∧ P "purgeId" ∧ P "supportId" ∧ P "estimatedSeconds" := by
  simp [memberNames]

theorem text_injective : Function.Injective Json.text :=
  fun _ _ => Json.text.inj

theorem int_inj {m n : Nat} : Json.int m = Json.int n ↔ m = n := by
  rw [Json.int, Json.int, Json.number.injEq, Json.Number.integer.injEq, Int.natCast_inj]

theorem count_injective : Function.Injective fun n : UInt64 => Json.int n.toNat :=
  fun _ _ h => UInt64.toNat_inj.mp (int_inj.mp h)

/-- **A result is known from what is written** under its names. -/
theorem eq_of_field (h : ∀ name ∈ memberNames, r.field name = s.field name) : r = s := by
  obtain ⟨hstatus, hdetail, hpurgeId, hsupportId, hseconds⟩ := forall_memberNames.mp h
  rw [field_httpStatus, field_httpStatus, Option.some.injEq, int_inj] at hstatus
  rw [field_detail, field_detail] at hdetail
  rw [field_purgeId, field_purgeId] at hpurgeId
  rw [field_supportId, field_supportId] at hsupportId
  rw [field_estimatedSeconds, field_estimatedSeconds] at hseconds
  cases r
  cases s
  rw [mk.injEq]
  exact ⟨UInt16.toNat_inj.mp hstatus, text_injective (Option.some.inj hdetail),
    Option.map_injective text_injective hpurgeId, Option.map_injective text_injective hsupportId,
    Option.map_injective count_injective hseconds⟩

/-! ### Values of members -/

theorem naturalOf?_eq_some_iff {limit n : Nat} :
    naturalOf? limit j = some n ↔ n < limit ∧ j = Json.int n := by
  constructor
  · intro h
    unfold naturalOf? at h
    split at h
    · next z =>
      split at h
      · next hrange =>
        obtain rfl := Option.some.inj h
        refine ⟨by omega, ?_⟩
        rw [Json.int, Int.toNat_of_nonneg hrange.1]
      · cases h
    · cases h
  · rintro ⟨hn, rfl⟩
    have hrange : (0 : Int) ≤ n ∧ (n : Int) < limit := by omega
    rw [Json.int, naturalOf?, if_pos hrange, Int.toNat_natCast]

theorem statusOf?_eq_some_iff {n : UInt16} : statusOf? j = some n ↔ j = Json.int n.toNat := by
  rw [statusOf?, Option.map_eq_some_iff]
  constructor
  · rintro ⟨m, hm, rfl⟩
    obtain ⟨hlt, rfl⟩ := naturalOf?_eq_some_iff.mp hm
    rw [UInt16.toNat_ofNat_of_lt' hlt]
  · rintro rfl
    exact ⟨n.toNat, naturalOf?_eq_some_iff.mpr ⟨n.toNat_lt, rfl⟩, UInt16.ofNat_toNat⟩

theorem detailOf?_eq_some_iff {t : String} : detailOf? j = some t ↔ j = .text t := by
  cases j <;> simp [detailOf?]

theorem optionalTextOf?_eq_some_iff {o : Option String} :
    optionalTextOf? j = some o ↔ j = (o.map .text).getD .null := by
  cases j <;> cases o <;> simp [optionalTextOf?]

theorem optionalCountOf?_eq_some_iff {o : Option UInt64} :
    optionalCountOf? j = some o ↔ j = (o.map fun n => Json.int n.toNat).getD .null := by
  constructor
  · intro h
    unfold optionalCountOf? at h
    split at h
    · cases h
      rfl
    · obtain ⟨n, hn, rfl⟩ := Option.map_eq_some_iff.mp h
      obtain ⟨hlt, rfl⟩ := naturalOf?_eq_some_iff.mp hn
      rw [Option.map_some, Option.getD_some, UInt64.toNat_ofNat_of_lt' hlt]
  · rintro rfl
    cases o with
    | none => rfl
    | some n =>
      have hnatural := naturalOf?_eq_some_iff.mpr
        ⟨show n.toNat < 0x10000000000000000 from n.toNat_lt, rfl⟩
      rw [Option.map_some, Option.getD_some]
      rw [Json.int] at hnatural ⊢
      rw [optionalCountOf?, hnatural, Option.map_some, UInt64.ofNat_toNat]
      rintro ⟨⟩

/-- The result with one member set from a value that was read. -/
def setMember? (r : Result) (name : String) (j : Json) : Option Result :=
  match name with
  | "httpStatus" => (statusOf? j).map fun status => { r with httpStatus := status }
  | "detail" => (detailOf? j).map fun detail => { r with detail }
  | "purgeId" => (optionalTextOf? j).map fun id => { r with purgeId := id }
  | "supportId" => (optionalTextOf? j).map fun id => { r with supportId := id }
  | "estimatedSeconds" => (optionalCountOf? j).map fun seconds =>
    { r with estimatedSeconds := seconds }
  | _ => some r

/-- A member is set as said below, if its own values are and what is put in their place is written
under its name only. -/
theorem map_put_eq_some_iff {α : Type} {decode : Json → Option α} {put : α → Result}
    (hdecode : ∀ v, decode j = some v ↔ j = ((put v).field name).getD .null)
    (hput : ∀ v, ∀ other ∈ memberNames, other ≠ name → (put v).field other = r.field other)
    (hsome : ∃ v, (put v).field name = s.field name) :
    (decode j).map put = some s ↔ j = (s.field name).getD .null ∧
      ∀ other ∈ memberNames, other ≠ name → s.field other = r.field other := by
  rw [Option.map_eq_some_iff]
  constructor
  · rintro ⟨v, hv, rfl⟩
    exact ⟨(hdecode v).mp hv, hput v⟩
  · rintro ⟨hj, hothers⟩
    obtain ⟨v, hv⟩ := hsome
    refine ⟨v, (hdecode v).mpr (by rw [hv, hj]), eq_of_field fun other hother => ?_⟩
    by_cases hname : other = name
    · rw [hname, hv]
    · rw [hput v other hother hname, hothers other hother hname]

/-- **A value sets a member** if and only if it is the value that is written then, null if nothing
is written, and nothing is written otherwise than before under the other names. -/
theorem setMember?_eq_some_iff (hname : name ∈ memberNames) : setMember? r name j = some s ↔
    j = (s.field name).getD .null ∧
      ∀ other ∈ memberNames, other ≠ name → s.field other = r.field other := by
  simp only [memberNames, List.mem_cons, List.not_mem_nil, or_false] at hname
  obtain rfl | rfl | rfl | rfl | rfl := hname
  · refine map_put_eq_some_iff (fun v => ?_) (fun v => forall_memberNames.mpr (by simp [field_eq]))
      ⟨s.httpStatus, by rw [field_httpStatus, field_httpStatus]⟩
    rw [statusOf?_eq_some_iff, field_httpStatus, Option.getD_some]
  · refine map_put_eq_some_iff (fun v => ?_) (fun v => forall_memberNames.mpr (by simp [field_eq]))
      ⟨s.detail, by rw [field_detail, field_detail]⟩
    rw [detailOf?_eq_some_iff, field_detail, Option.getD_some]
  · refine map_put_eq_some_iff (fun v => ?_) (fun v => forall_memberNames.mpr (by simp [field_eq]))
      ⟨s.purgeId, by rw [field_purgeId, field_purgeId]⟩
    rw [optionalTextOf?_eq_some_iff, field_purgeId]
  · refine map_put_eq_some_iff (fun v => ?_) (fun v => forall_memberNames.mpr (by simp [field_eq]))
      ⟨s.supportId, by rw [field_supportId, field_supportId]⟩
    rw [optionalTextOf?_eq_some_iff, field_supportId]
  · refine map_put_eq_some_iff (fun v => ?_) (fun v => forall_memberNames.mpr (by simp [field_eq]))
      ⟨s.estimatedSeconds, by rw [field_estimatedSeconds, field_estimatedSeconds]⟩
    rw [optionalCountOf?_eq_some_iff, field_estimatedSeconds]

/-- A result with the member of another one under a name. -/
def withField (r s : Result) (name : String) : Result where
  httpStatus := if name = "httpStatus" then s.httpStatus else r.httpStatus
  detail := if name = "detail" then s.detail else r.detail
  purgeId := if name = "purgeId" then s.purgeId else r.purgeId
  supportId := if name = "supportId" then s.supportId else r.supportId
  estimatedSeconds := if name = "estimatedSeconds" then s.estimatedSeconds else r.estimatedSeconds

theorem field_withField (r s : Result) (name : String) : ∀ other ∈ memberNames,
    (r.withField s name).field other = if name = other then s.field other else r.field other := by
  refine forall_memberNames.mpr ⟨?_, ?_, ?_, ?_, ?_⟩ <;>
    simp only [field_httpStatus, field_detail, field_purgeId, field_supportId,
      field_estimatedSeconds, withField] <;> split <;> rfl

/-! ### One member after the other -/

/-- What stands under a name: the value of each member of that name, if it can be read. -/
def under (name : String) (values : List (String × Option Json)) : List (Option Json) :=
  (values.filter (·.1 == name)).map (·.2)

theorem under_cons (name : String) (m : String × Option Json)
    (values : List (String × Option Json)) : under name (m :: values)
      = if m.1 = name then m.2 :: under name values else under name values := by
  by_cases h : m.1 = name <;> simp [under, h]

/-- What is written under a name, given what was written before and what stands there: the same as
before if nothing does, and the value if one does, where null stands for nothing. -/
inductive Keeps (before : Option Json) : List (Option Json) → Option Json → Prop
  | absent : Keeps before [] before
  | present (after : Option Json) : Keeps before [some (after.getD .null)] after

theorem keeps_nil_iff {before after : Option Json} : Keeps before [] after ↔ after = before := by
  constructor
  · rintro ⟨⟩
    rfl
  · rintro rfl
    exact .absent

theorem keeps_singleton_iff {before after : Option Json} {v : Option Json} :
    Keeps before [v] after ↔ v = some (after.getD .null) := by
  constructor
  · rintro ⟨⟩
    rfl
  · rintro rfl
    exact .present after

theorem Keeps.length_le {before after : Option Json} {vs : List (Option Json)}
    (h : Keeps before vs after) : vs.length ≤ 1 := by
  cases h with
  | absent => exact Nat.zero_le 1
  | present _ => exact Nat.le_refl 1

/-- The result with one member set, if its name is known. -/
def setValue? (r : Result) (m : String × Option Json) : Option Result :=
  if m.1 ∈ memberNames then m.2.bind (setMember? r m.1) else some r

theorem withMember?_eq (r : Result) (name : String) (value : Stretch) :
    withMember? r name value = setValue? r (name, value.value?) := by
  rw [setValue?]
  by_cases hname : name ∈ memberNames
  · rw [if_pos hname]
    simp only [memberNames, List.mem_cons, List.not_mem_nil, or_false] at hname
    obtain rfl | rfl | rfl | rfl | rfl := hname <;>
      exact Option.bind_congr fun j _ => Option.map_eq_bind.symm
  · rw [if_neg hname]
    simp only [memberNames, List.mem_cons, List.not_mem_nil, or_false, not_or] at hname
    simp [withMember?, hname]

theorem ofMembers?_eq (found : List (String × Stretch)) :
    ofMembers? found = (foundValues found).foldlM setValue? {} := by
  rw [ofMembers?, foundValues, List.foldlM_map]
  simp only [withMember?_eq]

section
variable {t : Result} {v : Option Json} {values : List (String × Option Json)}

/-- One step: a member that is set, and what is kept after it. -/
theorem keeps_cons (hname : name ∈ memberNames) (halone : under name values = [])
    (hset : setMember? r name j = some t)
    (h : ∀ other ∈ memberNames, Keeps (t.field other) (under other values) (s.field other)) :
    ∀ other ∈ memberNames,
      Keeps (r.field other) (under other ((name, some j) :: values)) (s.field other) := by
  obtain ⟨hj, hothers⟩ := (setMember?_eq_some_iff hname).mp hset
  intro other hother
  have hkept := h other hother
  rw [under_cons]
  split
  · next heq =>
    obtain rfl : name = other := heq
    rw [halone, keeps_nil_iff] at hkept
    rw [halone, keeps_singleton_iff, hj, hkept]
  · next hne =>
    rw [← hothers other hother (Ne.symm hne)]
    exact hkept

/-- One step back: the member is set to what is kept in the end. -/
theorem exists_of_keeps_cons (hname : name ∈ memberNames) (halone : under name values = [])
    (h : ∀ other ∈ memberNames,
      Keeps (r.field other) (under other ((name, v) :: values)) (s.field other)) :
    ∃ j, v = some j ∧ ∃ t, setMember? r name j = some t ∧
      ∀ other ∈ memberNames, Keeps (t.field other) (under other values) (s.field other) := by
  have hhere := h name hname
  rw [under_cons, if_pos rfl, halone, keeps_singleton_iff] at hhere
  have hfield := field_withField r s name
  refine ⟨_, hhere, r.withField s name, (setMember?_eq_some_iff hname).mpr ⟨?_, ?_⟩, ?_⟩
  · rw [hfield name hname, if_pos rfl]
  · intro other hother hne
    rw [hfield other hother, if_neg (Ne.symm hne)]
  · intro other hother
    have hkept := h other hother
    rw [under_cons] at hkept
    rw [hfield other hother]
    split
    · next heq =>
      obtain rfl : name = other := heq
      rw [halone]
      exact .absent
    · next hne =>
      rw [if_neg hne] at hkept
      exact hkept

end

/-- **What members make up**, if each known name is there once at most: under each name is written
what its member keeps. -/
theorem foldlM_eq_some_iff (values : List (String × Option Json)) :
    (∀ name ∈ memberNames, (under name values).length ≤ 1) → ∀ r : Result,
      (values.foldlM setValue? r = some s ↔
        ∀ name ∈ memberNames, Keeps (r.field name) (under name values) (s.field name)) := by
  induction values with
  | nil =>
    intro _ r
    rw [List.foldlM_nil, Option.pure_def, Option.some.injEq]
    constructor
    · rintro rfl name _
      exact .absent
    · exact fun h => eq_of_field fun name hname => (keeps_nil_iff.mp (h name hname)).symm
  | cons m values ih =>
    intro honce r
    obtain ⟨name, v⟩ := m
    have hlater : ∀ other ∈ memberNames, (under other values).length ≤ 1 := by
      intro other hother
      have hlength := honce other hother
      rw [under_cons] at hlength
      split at hlength
      · exact Nat.le_of_succ_le hlength
      · exact hlength
    rw [List.foldlM_cons, Option.bind_eq_bind, setValue?]
    by_cases hname : name ∈ memberNames
    · have halone : under name values = [] := by
        have hlength := honce name hname
        rw [under_cons, if_pos rfl, List.length_cons] at hlength
        exact List.length_eq_zero_iff.mp (by omega)
      rw [if_pos hname, Option.bind_assoc]
      simp only [Option.bind_eq_some_iff]
      constructor
      · rintro ⟨j, rfl, t, hset, hfold⟩
        exact keeps_cons hname halone hset ((ih hlater t).mp hfold)
      · intro h
        obtain ⟨j, hv, t, hset, hkept⟩ := exists_of_keeps_cons hname halone h
        exact ⟨j, hv, t, hset, (ih hlater t).mpr hkept⟩
    · rw [if_neg hname, Option.bind_some, ih hlater]
      refine forall₂_congr fun other hother => ?_
      have hne : name ≠ other := by
        rintro rfl
        exact hname hother
      rw [under_cons, if_neg hne]

/-! ### Objects that are read -/

theorem namesOnce_iff (found : List (String × Stretch)) : namesOnce found = true ↔
    ∀ name ∈ memberNames, (under name (foundValues found)).length ≤ 1 := by
  have hlength : ∀ name, (under name (foundValues found)).length
      = (found.filter (·.1 == name)).length := by
    intro name
    rw [under, foundValues, List.length_map, List.filter_map, List.length_map]
    rfl
  simp only [namesOnce, List.all_eq_true, decide_eq_true_eq, hlength]

theorem ofOutline?_object_iff (found : List (String × Stretch)) :
    ofOutline? (.object found) = some r ↔ ∀ name ∈ memberNames,
      Keeps (({} : Result).field name) (under name (foundValues found)) (r.field name) := by
  rw [ofOutline?]
  constructor
  · intro h
    split at h
    · next honce =>
      rw [ofMembers?_eq] at h
      exact (foldlM_eq_some_iff _ ((namesOnce_iff found).mp honce) {}).mp h
    · cases h
  · intro h
    have honce := fun name hname => (h name hname).length_le
    rw [if_pos ((namesOnce_iff found).mpr honce), ofMembers?_eq]
    exact (foldlM_eq_some_iff _ honce {}).mpr h

section
variable {body other : List UInt8} {members others : List (List Nat × List UInt8)}

/-- The results that an object tells. Its names are texts, and under each of the known ones it has
one value at most, which the result keeps. -/
structure Tells (members : List (List Nat × List UInt8)) (r : Result) : Prop where
  named : ∀ m ∈ members, textOfUnits? m.1 ≠ none
  keeps : ∀ name ∈ memberNames,
    Keeps (({} : Result).field name) (under name (namedValues members)) (r.field name)

/-- **The objects that are read.** -/
theorem ofBytes?_eq_some_iff (h : WritesObject body members) :
    ofBytes? body = some r ↔ Tells members r := by
  rw [ofBytes?]
  by_cases hnamed : ∀ m ∈ members, textOfUnits? m.1 ≠ none
  · obtain ⟨found, houtline, hvalues⟩ := Json.outline?_of_named h hnamed
    rw [houtline, Option.bind_some, ofOutline?_object_iff, hvalues]
    exact ⟨fun hkeeps => ⟨hnamed, hkeeps⟩, Tells.keeps⟩
  · have hunnamed : ∃ m ∈ members, textOfUnits? m.1 = none := by simpa using hnamed
    rw [Json.outline?_of_unnamed h hunnamed, Option.bind_none]
    exact iff_of_false (Option.some_ne_none r).symm fun htells => hnamed htells.named

end

/-! ### What is written is read back -/

theorem reads_member {depth : Nat} {value : Option Json}
    (h : ∀ j ∈ value, Json.Reads depth (Utf8.encode j.render) j) (name : String) :
    ∀ m ∈ member name value, Json.Reads depth (Utf8.encode m.2.render) m.2 := by
  cases value with
  | none => exact List.forall_mem_nil _
  | some j => exact List.forall_mem_singleton.mpr (h j rfl)

/-- Every value that is written can be read. -/
theorem reads_members (depth : Nat) (r : Result) :
    ∀ m ∈ r.members, Json.Reads depth (Utf8.encode m.2.render) m.2 := by
  have hstatus : r.httpStatus.toNat ≤ Json.Number.maxNatural :=
    Nat.le_trans (Nat.le_of_lt r.httpStatus.toNat_lt) (by decide)
  have htext : ∀ o : Option String, ∀ j ∈ o.map Json.text,
      Json.Reads depth (Utf8.encode j.render) j := by
    rintro (_ | s) j hj <;> cases hj
    exact Json.reads_text s
  have hcount : ∀ o : Option UInt64, ∀ j ∈ o.map fun n => Json.int n.toNat,
      Json.Reads depth (Utf8.encode j.render) j := by
    rintro (_ | n) j hj <;> cases hj
    exact Json.reads_natural (Nat.le_of_lt_succ n.toNat_lt)
  rw [members]
  refine List.forall_mem_append.mpr ⟨List.forall_mem_append.mpr ⟨List.forall_mem_append.mpr
    ⟨List.forall_mem_cons.mpr ⟨?_, List.forall_mem_singleton.mpr ?_⟩, ?_⟩, ?_⟩, ?_⟩
  · exact Json.reads_natural hstatus
  · exact Json.reads_text r.detail
  · exact reads_member (htext r.purgeId) "purgeId"
  · exact reads_member (htext r.supportId) "supportId"
  · exact reads_member (hcount r.estimatedSeconds) "estimatedSeconds"

/-- Where each name stands once, its value is all that stands under it. -/
theorem under_of_nodup {ms : List (String × Json)} (h : (ms.map (·.1)).Nodup) (name : String) :
    under name (ms.map fun m => (m.1, some m.2)) = (ms.lookup name).toList.map some := by
  induction ms with
  | nil => rfl
  | cons m ms ih =>
    obtain ⟨hm, hrest⟩ := List.nodup_cons.mp h
    rw [List.map_cons, under_cons, ih hrest, lookup_cons_eq_ite]
    split
    · next heq =>
      rw [lookup_eq_none_iff_notMem.mpr (heq ▸ hm)]
      rfl
    · rfl

/-- What a result writes is what it keeps of it. -/
theorem keeps_field (r : Result) : ∀ name ∈ memberNames,
    Keeps (({} : Result).field name) ((r.field name).toList.map some) (r.field name) := by
  have hoptional : ∀ {before after : Option Json}, before = none →
      Keeps before (after.toList.map some) after := by
    rintro before (_ | j) rfl
    · exact .absent
    · exact .present (some j)
  refine forall_memberNames.mpr ⟨?_, ?_, ?_, ?_, ?_⟩
  · rw [field_httpStatus r]
    exact .present (some _)
  · rw [field_detail r]
    exact .present (some _)
  · exact hoptional rfl
  · exact hoptional rfl
  · exact hoptional rfl

/-- **A result is read back.** -/
theorem ofBytes?_compact (r : Result) : ofBytes? (Utf8.bytes r.toJson.compact) = some r := by
  rw [toJson_eq]
  refine (ofBytes?_eq_some_iff (Json.writesObject_compact (reads_members 0 r))).mpr ⟨?_, ?_⟩
  · refine List.forall_mem_map.mpr fun m _ => ?_
    rw [Json.named_writtenMember]
    exact Option.some_ne_none m.1
  · intro name hname
    rw [Json.namedValues_writtenMember (reads_members Json.maxDepth r),
      under_of_nodup ((names_sublist r).nodup (by decide))]
    exact r.keeps_field name hname

end PurgeGateway.Purge.Result
