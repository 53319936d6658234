import PurgeGateway.Proofs.Judged
import PurgeGateway.Proofs.RequestFormat
import PurgeGateway.Proofs.SignedOrRefused

/-!
# The paths that are sent

Between the caller and the invalidation API the paths of a purge are read from one JSON text and
written to another. The two texts spell strings in different ways: the caller may write any escape,
the gateway writes few. That nothing is lost on the way is therefore said of the two texts and not
of the request between them: the caller lists some paths if and only if the text that is sent reads
as an object with these paths, and nothing else, under `objects`.

What a body lists is said on the text as its grammar divides it, and the body has to be read in full
for it, as for the format of requests.

## Main definitions

* `Lists`: the paths that a tree lists.
* `AsksToPurge`: the paths that a body lists.

## Main results

* `asksToPurge_iff`, `asksToPurge_iff_read?`: they are the paths of the request that is read, and
  those that the text that is sent for it holds.
* `nothing_lost`: they are the paths that are sent.
-/

namespace PurgeGateway.Purge

open Json (Tree WritesText)

variable {tree : Tree} {body : List UInt8} {r : Request} {paths other : List String}

/-! ### What a body lists -/

/-- The paths that a tree lists: an object lists them under their name, an array as its fourth
value. -/
inductive Lists : Tree → List String → Prop
  | object {members : List (List Nat × Tree)} {items : List Tree} {paths : List String}
      (hlast : LastUnder "paths" members (.array items)) (h : List.Forall₂ IsText items paths) :
    Lists (.object members) paths
  | array {purgeType action network : Tree} {items rest : List Tree} {paths : List String}
      (h : List.Forall₂ IsText items paths) :
    Lists (.array (purgeType :: action :: network :: .array items :: rest)) paths

/-- The body lists the paths, and all that it holds can be held. -/
def AsksToPurge (body : List UInt8) (paths : List String) : Prop :=
  ∃ tree, WritesText Json.maxDepth body tree ∧ tree.Representable ∧ Lists tree paths

theorem isText_rightUnique : Relator.RightUnique IsText := by
  rintro tree s t ⟨units, rfl, hs⟩ ⟨others, heq, ht⟩
  obtain rfl := Tree.text.inj heq
  exact Option.some.inj (hs.symm.trans ht)

theorem Lists.unique (h : Lists tree paths) (h' : Lists tree other) : paths = other := by
  cases h with
  | object hlast htexts =>
    cases h' with
    | object hother htexts' =>
      obtain rfl := Tree.array.inj (hlast.unique hother)
      exact List.right_unique_forall₂' isText_rightUnique htexts htexts'
  | array htexts =>
    cases h' with
    | array htexts' => exact List.right_unique_forall₂' isText_rightUnique htexts htexts'

/-- A tree that describes a request lists its paths. -/
theorem Describes.lists (h : Describes tree r) : Lists tree r.paths := by
  cases h with
  | object _ _ _ hlast _ h =>
    obtain ⟨items, rfl, htexts⟩ := h.paths
    exact .object hlast htexts
  | four h =>
    obtain ⟨items, rfl, htexts⟩ := h.paths
    exact .array htexts
  | five h =>
    obtain ⟨items, rfl, htexts⟩ := h.paths
    exact .array htexts

/-- **A body that is read lists the paths of its request**, and no others. -/
theorem asksToPurge_iff (h : Request.ofBytes body = .ok r) :
    AsksToPurge body paths ↔ paths = r.paths := by
  constructor
  · rintro ⟨tree, htext, hrepresentable, hlists⟩
    -- this tree stands for the value that the request was read from, so it describes the request
    obtain ⟨j, hread, hrequest⟩ := Request.ofBytes_eq_ok_iff_read.mp h
    obtain ⟨k, hstands⟩ := Json.representable_iff.mp hrepresentable
    have hsame := Json.read?_eq_some_iff.mpr ⟨tree, htext, hstands⟩
    obtain rfl := Option.some.inj (hread.symm.trans hsame)
    exact hlists.unique ((ofJson?_iff hstands).mp hrequest).lists
  · rintro rfl
    obtain ⟨tree, htext, hrepresentable, hdescribes⟩ := Request.ofBytes_eq_ok_iff.mp h
    exact ⟨tree, htext, hrepresentable, hdescribes.lists⟩

/-! ### What is sent -/

/-- The text that is sent is read as the value that was written. -/
theorem Request.read?_objects (r : Request) :
    Json.read? (Utf8.bytes r.objects.compact) = some r.objects := by
  have hlegible : Json.Legible Json.maxDepth r.objects := by
    refine .object (List.forall_mem_singleton.mpr (.array ?_))
    exact List.forall_mem_map.mpr fun path _ => .text _ path
  exact Json.read?_compact hlegible

theorem Request.objects_eq_iff : r.objects = .object [("objects", .array (paths.map .text))] ↔
    r.paths = paths := by
  have htext : Function.Injective Json.text := fun _ _ => Json.text.inj
  simp [Request.objects, htext.list_map.eq_iff]

/-- **The paths that a body lists are those that are sent for it.** -/
theorem asksToPurge_iff_read? (h : Request.ofBytes body = .ok r) : AsksToPurge body paths ↔
    Json.read? (Utf8.bytes r.objects.compact)
      = some (.object [("objects", .array (paths.map .text))]) := by
  rw [asksToPurge_iff h, r.read?_objects, Option.some.injEq, Request.objects_eq_iff, eq_comm]

/-- **Nothing is lost** between what a caller asks to purge and what is sent. The body of a request
that is read lists some paths, and these are what the text that is sent gives for `objects`, its
only name. The text is that of another request if and only if that has the same paths. It is the
body of the request that a signature is asked for, and stays so in the request that is signed. -/
theorem nothing_lost (h : Request.ofBytes body = .ok r) :
    (∃ paths, AsksToPurge body paths) ∧
    (∀ paths, AsksToPurge body paths ↔ Json.read? (Utf8.bytes r.objects.compact)
      = some (.object [("objects", .array (paths.map .text))])) ∧
    (∀ other : Request, r.objects.compact = other.objects.compact ↔ r.paths = other.paths) ∧
    ∀ api headers outbound, Gateway.Routed api headers body r outbound →
      outbound.body = some (.buffered (Utf8.bytes r.objects.compact)) ∧
      ∀ stamp order file signed, Signer.ofFile stamp order file outbound = .ok signed →
        signed.body = outbound.body := by
  refine ⟨⟨r.paths, (asksToPurge_iff h).mpr rfl⟩, fun paths => asksToPurge_iff_read? h, ?_, ?_⟩
  · intro other
    constructor
    · intro htext
      have hread := r.read?_objects
      rw [htext, other.read?_objects] at hread
      exact Request.objects_eq_iff.mp (Option.some.inj hread).symm
    · intro hpaths
      rw [Request.objects, Request.objects, hpaths]
  · intro api headers outbound hrouted
    refine ⟨hrouted.isCallFor.body, fun stamp order file signed hsigned => ?_⟩
    obtain ⟨_, _, _, hsame⟩ := Signing.signed_of_ofFile hsigned
    exact hsame.body

/-- A body that lists a path in escapes, an empty one twice, and one without any. -/
def escaped : List UInt8 :=
  Utf8.bytes ("[\"urls\",\"delete\",\"staging\"," ++
    "[\"\\ud83d\\ude00\\u0000\\\"\\/\\\\\\n\",\"\",\"\x7f☃\",\"\"]]")

/-- The request that it writes. -/
def escapedRequest : Request :=
  ⟨"urls", .delete, .staging, ["😀\x00\"/\\\n", "", "\x7f☃", ""], false⟩

theorem nothing_lost_escaped :
    Request.ofBytes escaped = .ok escapedRequest ∧
    AsksToPurge escaped ["😀\x00\"/\\\n", "", "\x7f☃", ""] ∧
    ∃ outbound signed,
      Gateway.Routed "https://[::1]" [⟨"content-type", Utf8.bytes "application/json"⟩] escaped
        escapedRequest outbound ∧
      Signer.ofFile ⟨"now", "once"⟩ [] (some (Utf8.bytes Signing.replaced)) outbound = .ok signed ∧
      signed.body = some (.buffered (Utf8.bytes
        "\x7b\"objects\":[\"😀\\u0000\\\"/\\\\\\n\",\"\",\"\x7f☃\",\"\"]\x7d")) := by
  have hread : Request.ofBytes escaped = .ok escapedRequest := by decide +kernel
  obtain ⟨-, hpaths, -, hsent⟩ := nothing_lost hread
  have hsome : ((escapedRequest.url? "https://[::1]").bind
      (Stage.outbound? escapedRequest)).isSome = true := by
    decide +kernel
  obtain ⟨outbound, haddress⟩ := Option.isSome_iff_exists.mp hsome
  have hrouted : Gateway.Routed "https://[::1]" [⟨"content-type", Utf8.bytes "application/json"⟩]
      escaped escapedRequest outbound := ⟨by decide +kernel, hread, haddress⟩
  obtain ⟨hbody, hsigned⟩ := hsent _ _ _ hrouted
  have hload : Credentials.load (some (Utf8.bytes Signing.replaced)) = .ok Signing.letters :=
    Signing.load_of_ofEdgerc? (by decide +kernel) (by decide +kernel)
  obtain ⟨signed, hsign⟩ : ∃ signed, Signer.ofFile ⟨"now", "once"⟩ []
      (some (Utf8.bytes Signing.replaced)) outbound = .ok signed := by
    rw [Signing.sign_of_load hload ⟨by decide +kernel, by decide +kernel⟩ Signing.isUsable_once,
      hbody]
    exact ⟨_, rfl⟩
  have htext : escapedRequest.objects.compact
      = "\x7b\"objects\":[\"😀\\u0000\\\"/\\\\\\n\",\"\",\"\x7f☃\",\"\"]\x7d" := by
    decide +kernel
  refine ⟨hread, (hpaths _).mpr ?_, outbound, signed, hrouted, hsign, ?_⟩
  · exact escapedRequest.read?_objects
  · rw [hsigned _ _ _ _ hsign, hbody, htext]

end PurgeGateway.Purge
