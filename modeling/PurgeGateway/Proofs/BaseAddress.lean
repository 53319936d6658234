import PurgeGateway.Config.Validation
import PurgeGateway.Proofs.Trimmed
import PurgeGateway.Purge.Request

/-!
# The address that calls start with

The address of the invalidation API is made from the configured host: blanks are taken off its ends,
then slashes off its end, and a host without a scheme is given one. The address can be built upon if
an authority stands behind its scheme, with no blank at its ends and no slash at its end; and a
configuration that has such an address for its host makes the same address again.

A host is valid if it is not blank, and that is not enough. A host of slashes leaves nothing; one
that has a slash where its authority should start has none; and a blank in front of the slashes at
its end stays, since blanks are taken off once, before the slashes.

## Main definitions

* `Config.Api.behindScheme?`: what an address holds behind its scheme.
* `Config.Api.IsBase`: an address that can be built upon.
* `Config.Api.NamesAuthority`: what a host needs for that.

## Main results

* `isBase_baseUrl_iff`: the hosts that give addresses that can be built upon.
* `baseUrl_of_isBase`: such an address is made again from itself.
* `url?_append_slashes`: slashes behind an address do not matter to what is built upon it.
* `built_upon_iff`: all of it for a configuration.
* `not_built_upon`: valid hosts whose addresses cannot be built upon.
-/

namespace PurgeGateway.Config.Api

/-! ### Addresses -/

/-- The text behind the first `://`. -/
def behindScheme? : List Char → Option (List Char)
  | [] => none
  | c :: cs =>
    match "://".toList.isPrefixOf? (c :: cs) with
    | some behind => some behind
    | none => behindScheme? cs

/-- The authority at the front of a text: it goes up to a slash, a question mark or a hash sign. -/
def authority (behind : List Char) : List Char :=
  behind.takeWhile fun c => c != '/' && c != '?' && c != '#'

/-- The address can be built upon: an authority stands behind its scheme, no blank at its ends and
no slash at its end. -/
structure IsBase (address : String) : Prop where
  authority : ∃ behind, behindScheme? address.toList = some behind ∧ authority behind ≠ []
  front : ∀ c ∈ address.toList.head?, Text.isBlank c = false
  back : ∀ c ∈ address.toList.getLast?, Text.isBlank c = false ∧ c ≠ '/'

/-- What is left of a host without blanks at its ends and then without slashes at its end. -/
def core (host : String) : String :=
  Text.trimEndOf '/' (Text.trim host)

/-- The host names an authority, and no blank stands in front of the slashes at its end. -/
structure NamesAuthority (host : String) : Prop where
  authority : authority ((behindScheme? (core host).toList).getD (core host).toList) ≠ []
  back : ∀ c ∈ (core host).toList.getLast?, Text.isBlank c = false

variable {a : Api} {host address base : String} {cs : List Char} {c : Char}

theorem hasScheme_eq_isSome (cs : List Char) : hasScheme cs = (behindScheme? cs).isSome := by
  induction cs with
  | nil => rfl
  | cons c cs ih =>
    have hprefix : ("://".toList.isPrefixOf? (c :: cs)).isSome
        = "://".toList.isPrefixOf (c :: cs) := by
      rw [Bool.eq_iff_iff, List.isPrefixOf_iff_prefix, Option.isSome_iff_exists]
      simp only [List.isPrefixOf?_eq_some_iff_append_eq, List.IsPrefix]
    rw [hasScheme, behindScheme?, ← hprefix, ih]
    cases "://".toList.isPrefixOf? (c :: cs) with
    | none => rfl
    | some behind => rfl

theorem baseUrl_eq (a : Api) : a.baseUrl
    = if (behindScheme? (core a.host).toList).isSome then core a.host
      else "https://" ++ core a.host := by
  rw [← hasScheme_eq_isSome]
  rfl

/-- The scheme that is added is the first one. -/
theorem behindScheme?_https (cs : List Char) :
    behindScheme? ("https://".toList ++ cs) = some cs :=
  rfl

theorem core_front (h : c ∈ (core host).toList.head?) : Text.isBlank c = false := by
  rw [core, Text.trimEndOf, String.toList_ofList, Text.trim, String.toList_ofList] at h
  exact Text.head?_of_prefix_trimChars (Text.dropEndWhile_isPrefix_self _ _) h

theorem core_back (h : c ∈ (core host).toList.getLast?) : c ≠ '/' := by
  rw [core, Text.trimEndOf, String.toList_ofList] at h
  simpa using Text.getLast?_dropEndWhile h

theorem core_eq_self (hfront : ∀ c ∈ address.toList.head?, Text.isBlank c = false)
    (hback : ∀ c ∈ address.toList.getLast?, Text.isBlank c = false ∧ c ≠ '/') :
    core address = address := by
  have htrim : Text.trim address = address := by
    rw [Text.trim, Text.trimChars_eq_self_iff.mpr ⟨hfront, fun c hc => (hback c hc).1⟩,
      String.ofList_toList]
  rw [core, htrim, Text.trimEndOf, Text.dropEndWhile_eq_self, String.ofList_toList]
  intro c hc
  simpa using (hback c hc).2

/-- An authority is part of the text that it stands in. -/
theorem ne_nil_of_authority (h : authority cs ≠ []) : cs ≠ [] := by
  rintro rfl
  exact h rfl

/-- **The hosts that give addresses that can be built upon.** -/
theorem isBase_baseUrl_iff : IsBase a.baseUrl ↔ NamesAuthority a.host := by
  rw [baseUrl_eq]
  cases hscheme : behindScheme? (core a.host).toList with
  | some behind =>
    simp only [Option.isSome_some, if_true]
    constructor
    · rintro ⟨⟨_, hbehind, hauthority⟩, -, hback⟩
      refine ⟨?_, fun c hc => (hback c hc).1⟩
      rwa [hbehind, Option.getD_some]
    · rintro ⟨hauthority, hback⟩
      refine ⟨⟨behind, hscheme, ?_⟩, fun _ => core_front, fun c hc => ⟨hback c hc, core_back hc⟩⟩
      rwa [hscheme, Option.getD_some] at hauthority
  | none =>
    -- the scheme that is added stands in front; the end is that of the host, if anything is left
    have hlast : (core a.host).toList ≠ [] → ("https://" ++ core a.host).toList.getLast?
        = (core a.host).toList.getLast? := by
      intro hne
      rw [String.toList_append, List.getLast?_append_of_ne_nil _ hne]
    have hbehind : behindScheme? ("https://" ++ core a.host).toList
        = some (core a.host).toList := by
      rw [String.toList_append, behindScheme?_https]
    simp only [Option.isSome_none, Bool.false_eq_true, if_false]
    constructor
    · rintro ⟨⟨_, hfound, hauthority⟩, -, hback⟩
      obtain rfl := Option.some.inj (hbehind.symm.trans hfound)
      rw [hlast (ne_nil_of_authority hauthority)] at hback
      refine ⟨?_, fun c hc => (hback c hc).1⟩
      rwa [hscheme, Option.getD_none]
    · rintro ⟨hauthority, hback⟩
      rw [hscheme, Option.getD_none] at hauthority
      refine ⟨⟨_, hbehind, hauthority⟩, ?_, ?_⟩
      · rw [String.toList_append]
        rintro c ⟨⟩
        decide
      · rw [hlast (ne_nil_of_authority hauthority)]
        exact fun c hc => ⟨hback c hc, core_back hc⟩

/-- **An address that can be built upon is made again from itself.** -/
theorem baseUrl_of_isBase (h : IsBase address) (a : Api) :
    Api.baseUrl { a with host := address } = address := by
  obtain ⟨⟨behind, hbehind, -⟩, hfront, hback⟩ := h
  rw [baseUrl_eq, core_eq_self hfront hback, hbehind]
  rfl

/-- A host that names an authority is valid. -/
theorem validate_of_namesAuthority (h : NamesAuthority a.host) : a.validate = .ok () := by
  rw [validate, if_neg]
  intro hblank
  have hcore : (core a.host).toList = [] := by
    rw [core, Text.blankText_iff.mp hblank]
    rfl
  have hauthority := h.authority
  rw [hcore] at hauthority
  exact hauthority rfl

/-- Slashes behind an address do not matter to what is built upon it. -/
theorem url?_append_slashes (r : Purge.Request) (base : String) (n : Nat) :
    r.url? (base ++ String.ofList (List.replicate n '/')) = r.url? base := by
  have htrim : Text.trimEndOf '/' (base ++ String.ofList (List.replicate n '/'))
      = Text.trimEndOf '/' base := by
    rw [Text.trimEndOf, String.toList_append, String.toList_ofList,
      Text.dropEndWhile_append_replicate (by decide), Text.trimEndOf]
  rw [Purge.Request.url?, htrim, Purge.Request.url?]

/-- **What is built upon.** Take any configuration of the API.

* Its address can be built upon and is made again from itself, if and only if the host names an
  authority and no blank stands in front of the slashes at its end.
* Such a host is valid.
* What is built upon an address, that one or another, does not depend on slashes behind it. -/
theorem built_upon_iff (a : Api) :
    (IsBase a.baseUrl ∧ Api.baseUrl { a with host := a.baseUrl } = a.baseUrl ↔
      NamesAuthority a.host) ∧
    (NamesAuthority a.host → a.validate = .ok ()) ∧
    ∀ (r : Purge.Request) (base : String) (n : Nat),
      r.url? (base ++ String.ofList (List.replicate n '/')) = r.url? base := by
  refine ⟨?_, validate_of_namesAuthority, url?_append_slashes⟩
  rw [← isBase_baseUrl_iff]
  exact ⟨And.left, fun h => ⟨h, baseUrl_of_isBase h a⟩⟩

/-- A scheme alone, with blanks and slashes around it, is taken for a host. -/
theorem built_upon_iff_scheme :
    NamesAuthority "\thttps:// " ∧ Api.validate { host := "\thttps:// " } = .ok () ∧
      Api.baseUrl { host := "\thttps:// " } = "https://https:" ∧ IsBase "https://https:" := by
  have hlast : (core "\thttps:// ").toList.getLast? = some ':' := by decide +kernel
  have hnames : NamesAuthority "\thttps:// " := by
    refine ⟨by decide +kernel, ?_⟩
    rw [hlast]
    rintro c ⟨⟩
    decide
  obtain ⟨hiff, hvalid, -⟩ := built_upon_iff { host := "\thttps:// " }
  have hbase : Api.baseUrl { host := "\thttps:// " } = "https://https:" := by decide +kernel
  refine ⟨hnames, hvalid hnames, hbase, ?_⟩
  rw [← hbase]
  exact (hiff.mpr hnames).1

/-- **A valid host is not enough.** A blank in front of the slashes at the end of a host stays, and
goes when the address is made again; a host of slashes leaves a scheme alone; and behind a slash
there is no authority. -/
theorem not_built_upon :
    (Api.validate { host := "a /" } = .ok () ∧ Api.baseUrl { host := "a /" } = "https://a " ∧
      ¬IsBase "https://a " ∧ Api.baseUrl { host := "https://a " } = "https://a") ∧
    (Api.validate { host := "/" } = .ok () ∧ Api.baseUrl { host := "/" } = "https://" ∧
      ¬IsBase "https://" ∧ Api.baseUrl { host := "https://" } = "https://https:") ∧
    Api.validate { host := "/a" } = .ok () ∧ Api.baseUrl { host := "/a" } = "https:///a" ∧
      ¬IsBase "https:///a" := by
  refine ⟨⟨by decide +kernel, by decide +kernel, fun h => ?_, by decide +kernel⟩,
    ⟨by decide +kernel, by decide +kernel, fun h => ?_, by decide +kernel⟩,
    by decide +kernel, by decide +kernel, fun h => ?_⟩
  · exact absurd (h.back ' ' (by decide +kernel)).1 (by decide)
  · exact (h.back '/' (by decide +kernel)).2 rfl
  · obtain ⟨behind, hbehind, hauthority⟩ := h.authority
    obtain rfl : "/a".toList = behind := Option.some.inj hbehind
    exact hauthority rfl

end PurgeGateway.Config.Api
