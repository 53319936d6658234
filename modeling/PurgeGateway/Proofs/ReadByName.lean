import PurgeGateway.Proofs.ResultFormat

/-!
# Results read by name

The invalidation API may write a result in many ways, and the gateway reads all of them and writes
one. What it writes it would read again as the same result, so that nothing changes when it is read
and written once more. And of an object nothing counts but the values under the known names: not
their order, not the members beside them, not the way in which they are spelled.

An object is refused for a known name that is there twice and for a value that is not of the kind
its name asks for. It is refused as well for a name that is no text, half of a surrogate pair in it;
of other members not even the values are read.

## Main definitions

* `Result.ReadByName`: how an object is read.

## Main results

* `Result.readByName`: every object is read so.
* `Result.decoded_as_written`: the same, and that reading and writing agree.
-/

namespace PurgeGateway.Purge.Result

open Json (WritesObject namedValues textOfUnits?)

variable {r s : Result} {name : String}

/-! ### What is sent on -/

/-- A result as it is sent on. -/
def written (r : Result) : List UInt8 :=
  Utf8.bytes r.toJson.compact

/-- A body that is read and sent on. -/
def rewritten? (body : List UInt8) : Option (List UInt8) :=
  (ofBytes? body).map written

/-- The members that may be left out, with the values that they have. -/
def optionals (r : Result) : List (String × Option Json) :=
  [("purgeId", r.purgeId.map .text), ("supportId", r.supportId.map .text),
    ("estimatedSeconds", r.estimatedSeconds.map fun n => Json.int n.toNat)]

/-- The values of the members with known names. -/
def known (members : List (List Nat × List UInt8)) : List (String × Option Json) :=
  (namedValues members).filter (·.1 ∈ memberNames)

/-- No result writes a null. -/
theorem field_ne_null (r : Result) : ∀ name ∈ memberNames, r.field name ≠ some .null := by
  have htext : ∀ o : Option String, o.map Json.text ≠ some .null := by
    rintro (_ | t) h <;> cases h
  have hcount : ∀ o : Option UInt64, (o.map fun n => Json.int n.toNat) ≠ some .null := by
    rintro (_ | n) h <;> cases h
  refine forall_memberNames.mpr ⟨?_, ?_, ?_, ?_, ?_⟩
  · rw [field_httpStatus]
    rintro ⟨⟩
  · rw [field_detail]
    rintro ⟨⟩
  · rw [field_purgeId]
    exact htext r.purgeId
  · rw [field_supportId]
    exact htext r.supportId
  · rw [field_estimatedSeconds]
    exact hcount r.estimatedSeconds

/-- A member that may be left out is written if it has a value, and is known. -/
theorem field_of_mem_optionals {o : String × Option Json} (ho : o ∈ r.optionals) :
    o.1 ∈ memberNames ∧ ({} : Result).field o.1 = none ∧ r.field o.1 = o.2 := by
  simp only [optionals, List.mem_cons, List.not_mem_nil, or_false] at ho
  obtain rfl | rfl | rfl := ho
  · exact ⟨(by decide : "purgeId" ∈ memberNames), rfl, r.field_purgeId⟩
  · exact ⟨(by decide : "supportId" ∈ memberNames), rfl, r.field_supportId⟩
  · exact ⟨(by decide : "estimatedSeconds" ∈ memberNames), rfl, r.field_estimatedSeconds⟩

theorem Keeps.eq_of_mem {before after v : Option Json} {vs : List (Option Json)}
    (h : Keeps before vs after) (hv : v ∈ vs) : v = some (after.getD .null) := by
  cases h with
  | absent => cases hv
  | present _ => exact List.mem_singleton.mp hv

theorem Keeps.perm {before after : Option Json} {vs ws : List (Option Json)}
    (h : Keeps before vs after) (hperm : vs.Perm ws) : Keeps before ws after := by
  cases h with
  | absent =>
    obtain rfl := hperm.nil_eq
    exact .absent
  | present _ =>
    obtain rfl := List.singleton_perm.mp hperm
    exact .present after

/-- A member that nothing but null stands for has no value. -/
theorem Keeps.eq_none {after : Option Json} {vs : List (Option Json)} (h : Keeps none vs after)
    (hnull : ∀ v ∈ vs, v = some .null) (hne : after ≠ some .null) : after = none := by
  cases h with
  | absent => rfl
  | present _ =>
    have hvalue := hnull _ (List.mem_singleton_self _)
    cases after with
    | none => rfl
    | some j => exact absurd hvalue hne

/-- One result at most keeps what stands under the names. -/
theorem eq_of_keeps {values : List (String × Option Json)}
    (h : ∀ name ∈ memberNames,
      Keeps (({} : Result).field name) (under name values) (r.field name))
    (h' : ∀ name ∈ memberNames,
      Keeps (({} : Result).field name) (under name values) (s.field name)) : r = s := by
  have honce := fun name hname => (h name hname).length_le
  have hr := (foldlM_eq_some_iff values honce {}).mpr h
  exact Option.some.inj (hr.symm.trans ((foldlM_eq_some_iff values honce {}).mpr h'))

section
variable {body other : List UInt8} {members others : List (List Nat × List UInt8)}

theorem under_known (hname : name ∈ memberNames) :
    under name (known members) = under name (namedValues members) := by
  rw [under, under, known, List.filter_filter]
  refine congrArg _ (List.filter_congr fun m _ => ?_)
  by_cases h : m.1 = name
  · simp [h, hname]
  · simp [h]

theorem keeps_of_perm (hperm : (known members).Perm (known others))
    (h : ∀ name ∈ memberNames,
      Keeps (({} : Result).field name) (under name (namedValues members)) (r.field name)) :
    ∀ name ∈ memberNames,
      Keeps (({} : Result).field name) (under name (namedValues others)) (r.field name) := by
  intro name hname
  have hkeeps := h name hname
  rw [← under_known hname] at hkeeps ⊢
  exact hkeeps.perm ((hperm.filter _).map _)

theorem ofBytes?_eq_none (h : WritesObject body members) (hnot : ∀ r, ¬Tells members r) :
    ofBytes? body = none :=
  Option.eq_none_iff_forall_not_mem.mpr fun r hr => hnot r ((ofBytes?_eq_some_iff h).mp hr)

/-- How an object is read: by the names of its members.

It tells the result that it is read as. Another object with the same values under the known names,
in any order and among any other members, is read as the same result if both are read; and it is
read if the other one is, if all names are texts. A member that may be left out, if nothing but
null stands under its name, has no value and is not written. And an object is refused if a known
name is there twice, if a status is no integer of 16 bits, or if a count of seconds is neither null
nor an integer of 64 bits. -/
structure ReadByName (body : List UInt8) (members : List (List Nat × List UInt8)) : Prop where
  tells : ∀ r, ofBytes? body = some r ↔ Tells members r
  any_order : ∀ other others, WritesObject other others → (known members).Perm (known others) →
    (∀ r s, ofBytes? body = some r → ofBytes? other = some s → r = s) ∧
      ((∀ m ∈ members ++ others, textOfUnits? m.1 ≠ none) → ofBytes? body = ofBytes? other)
  omitted : ∀ r, ofBytes? body = some r → ∀ o ∈ r.optionals,
    (∀ v ∈ under o.1 (namedValues members), v = some .null) →
      o.2 = none ∧ ∀ ms, r.toJson = .object ms → o.1 ∉ ms.map (·.1)
  repeated : (∃ name ∈ memberNames, 2 ≤ (under name (namedValues members)).length) →
    ofBytes? body = none
  status : (∃ v ∈ under "httpStatus" (namedValues members),
    ∀ z : Int, 0 ≤ z → z ≤ 65535 → v ≠ some (.number (.integer z))) → ofBytes? body = none
  seconds : (∃ v ∈ under "estimatedSeconds" (namedValues members), v ≠ some .null ∧
    ∀ z : Int, 0 ≤ z → z ≤ 18446744073709551615 → v ≠ some (.number (.integer z))) →
      ofBytes? body = none

theorem readByName (h : WritesObject body members) : ReadByName body members where
  tells r := ofBytes?_eq_some_iff h
  any_order other others hother hperm := by
    refine ⟨fun r s hr hs => ?_, fun hnamed => Option.ext fun r => ?_⟩
    · have hkeeps := keeps_of_perm hperm ((ofBytes?_eq_some_iff h).mp hr).keeps
      exact eq_of_keeps hkeeps ((ofBytes?_eq_some_iff hother).mp hs).keeps
    · obtain ⟨hmembers, hothers⟩ := List.forall_mem_append.mp hnamed
      rw [ofBytes?_eq_some_iff h, ofBytes?_eq_some_iff hother]
      exact ⟨fun ht => ⟨hothers, keeps_of_perm hperm ht.keeps⟩,
        fun ht => ⟨hmembers, keeps_of_perm hperm.symm ht.keeps⟩⟩
  omitted r hr o ho hnull := by
    obtain ⟨hname, hbefore, hafter⟩ := field_of_mem_optionals ho
    have hkeeps := ((ofBytes?_eq_some_iff h).mp hr).keeps o.1 hname
    rw [hbefore] at hkeeps
    have hnone := hkeeps.eq_none hnull (r.field_ne_null o.1 hname)
    refine ⟨hafter.symm.trans hnone, ?_⟩
    rintro ms hms
    rw [toJson_eq] at hms
    rw [← Json.object.inj hms]
    exact lookup_eq_none_iff_notMem.mp hnone
  repeated := by
    rintro ⟨name, hname, htwice⟩
    refine ofBytes?_eq_none h fun r htells => ?_
    have hlength := (htells.keeps name hname).length_le
    omega
  status := by
    rintro ⟨v, hv, hrange⟩
    refine ofBytes?_eq_none h fun r htells => ?_
    have hvalue := (htells.keeps "httpStatus" (by decide)).eq_of_mem hv
    rw [field_httpStatus, Option.getD_some] at hvalue
    have hlt := r.httpStatus.toNat_lt
    exact hrange r.httpStatus.toNat (by omega) (by omega) hvalue
  seconds := by
    rintro ⟨v, hv, hnull, hrange⟩
    refine ofBytes?_eq_none h fun r htells => ?_
    have hvalue := (htells.keeps "estimatedSeconds" (by decide)).eq_of_mem hv
    rw [field_estimatedSeconds] at hvalue
    cases hseconds : r.estimatedSeconds with
    | none => exact hnull (by rw [hvalue, hseconds]; rfl)
    | some n =>
      rw [hseconds, Option.map_some, Option.getD_some] at hvalue
      have hlt := n.toNat_lt
      exact hrange n.toNat (by omega) (by omega) hvalue

end

/-- **Reading and writing agree.** A result is read back from what it is written as; a body that is
read and sent on is not changed by reading it and sending it on again; and an object is read by the
names of its members. -/
theorem decoded_as_written :
    (∀ r : Result, ofBytes? r.written = some r) ∧
    (∀ body text, rewritten? body = some text → rewritten? text = some text) ∧
    ∀ body members, WritesObject body members → ReadByName body members := by
  refine ⟨ofBytes?_compact, ?_, fun body members h => readByName h⟩
  intro body text hbody
  obtain ⟨r, -, rfl⟩ := Option.map_eq_some_iff.mp hbody
  rw [rewritten?, written, ofBytes?_compact, Option.map_some]
  rfl

/-- An object with a null under one of the names. -/
def told : List (String × Json) :=
  [("detail", .text "☃"), ("httpStatus", Json.int 201), ("purgeId", .null)]

/-- The same the other way around, and a member that nobody knows. -/
def toldAround : List (String × Json) :=
  [("purgeId", .null), ("httpStatus", Json.int 201), ("note", .array [.object []]),
    ("detail", .text "☃")]

/-- An object with a name twice. -/
def toldTwice : List (String × Json) :=
  [("detail", .text "☃"), ("detail", .text "☃")]

/-- An object with a status of 17 bits. -/
def toldWide : List (String × Json) :=
  [("httpStatus", Json.int 65536)]

/-- An object with a text for a count. -/
def toldUncounted : List (String × Json) :=
  [("estimatedSeconds", .text "5")]

theorem decoded_as_written_told :
    ∃ r : Result, ofBytes? (Utf8.bytes (Json.object told).compact) = some r ∧
      ofBytes? (Utf8.bytes (Json.object toldAround).compact) = some r ∧
      r.purgeId.map Json.text = none ∧ ofBytes? r.written = some r ∧
      rewritten? r.written = some r.written ∧
      ofBytes? (Utf8.bytes (Json.object toldTwice).compact) = none ∧
      ofBytes? (Utf8.bytes (Json.object toldWide).compact) = none ∧
      ofBytes? (Utf8.bytes (Json.object toldUncounted).compact) = none := by
  obtain ⟨hback, hfixed, hobject⟩ := decoded_as_written
  have hnull : Json.Reads Json.maxDepth (Utf8.encode Json.null.render) .null :=
    Json.reads_render (.null _)
  have htext : ∀ t : String,
      Json.Reads Json.maxDepth (Utf8.encode (Json.text t).render) (.text t) := Json.reads_text
  have hint : ∀ n : Nat, n ≤ 65536 →
      Json.Reads Json.maxDepth (Utf8.encode (Json.int n).render) (Json.int n) :=
    fun n hn => Json.reads_natural (Nat.le_trans hn (by decide))
  have hnote : Json.Reads Json.maxDepth (Utf8.encode (Json.array [.object []]).render)
      (.array [.object []]) :=
    Json.reads_render (.array (List.forall_mem_singleton.mpr (.object (List.forall_mem_nil _))))
  have htold : ∀ m ∈ told, Json.Reads Json.maxDepth (Utf8.encode m.2.render) m.2 := by
    simpa [told] using ⟨htext "☃", hint 201 (by decide), hnull⟩
  have haround : ∀ m ∈ toldAround, Json.Reads Json.maxDepth (Utf8.encode m.2.render) m.2 := by
    simpa [toldAround] using ⟨hnull, hint 201 (by decide), hnote, htext "☃"⟩
  have htwice : ∀ m ∈ toldTwice, Json.Reads Json.maxDepth (Utf8.encode m.2.render) m.2 := by
    simpa [toldTwice] using htext "☃"
  have hwide : ∀ m ∈ toldWide, Json.Reads Json.maxDepth (Utf8.encode m.2.render) m.2 := by
    simpa [toldWide] using hint 65536 (by decide)
  have huncounted : ∀ m ∈ toldUncounted,
      Json.Reads Json.maxDepth (Utf8.encode m.2.render) m.2 := by
    simpa [toldUncounted] using htext "5"
  have hread : ofBytes? (Utf8.bytes (Json.object told).compact)
      = some { httpStatus := 201, detail := "☃" } := by
    decide +kernel
  have hfirst := hobject _ _ (Json.writesObject_compact htold)
  have hperm : (known (told.map Json.writtenMember)).Perm
      (known (toldAround.map Json.writtenMember)) := by
    rw [known, known, Json.namedValues_writtenMember htold, Json.namedValues_writtenMember haround]
    exact (List.reverse_perm _).symm
  have hnamed : ∀ m ∈ told.map Json.writtenMember ++ toldAround.map Json.writtenMember,
      textOfUnits? m.1 ≠ none := by
    rw [← List.map_append]
    refine List.forall_mem_map.mpr fun m _ => ?_
    rw [Json.named_writtenMember]
    exact Option.some_ne_none m.1
  obtain ⟨-, hsame⟩ := hfirst.any_order _ _ (Json.writesObject_compact haround) hperm
  refine ⟨_, hread, (hsame hnamed).symm.trans hread, ?_, hback _, ?_, ?_, ?_, ?_⟩
  · refine (hfirst.omitted _ hread ("purgeId", _) List.mem_cons_self ?_).1
    rw [Json.namedValues_writtenMember htold]
    simp [under, told]
  · refine hfixed (Utf8.bytes (Json.object told).compact) _ ?_
    rw [rewritten?, hread, Option.map_some]
  · refine (hobject _ _ (Json.writesObject_compact htwice)).repeated ⟨"detail", by decide, ?_⟩
    rw [Json.namedValues_writtenMember htwice]
    simp [under, toldTwice]
  · refine (hobject _ _ (Json.writesObject_compact hwide)).status ⟨some (Json.int 65536), ?_, ?_⟩
    · rw [Json.namedValues_writtenMember hwide]
      simp [under, toldWide]
    · intro z _ hz h
      have hsame : (65536 : Int) = z :=
        Json.Number.integer.inj (Json.number.inj (Option.some.inj h))
      omega
  · refine (hobject _ _ (Json.writesObject_compact huncounted)).seconds ⟨some (.text "5"), ?_, ?_⟩
    · rw [Json.namedValues_writtenMember huncounted]
      simp [under, toldUncounted]
    · exact ⟨by simp, fun z _ _ => by simp⟩

end PurgeGateway.Purge.Result
