import PurgeGateway.Proofs.Authorized
import PurgeGateway.Proofs.Decoding
import PurgeGateway.Proofs.Fetching
import Mathlib.Data.List.Permutation

/-!
# Signed or refused

The credentials file is read again for each request. Whoever can write it can put into it what they
like, escapes that stand for controls among it, and whoever makes a request can put any header
fields into that. There are two outcomes all the same: the request goes out with one `Authorization`
header, whose value comes from the file as it is and may stand in a header, and otherwise as it
came; or it is refused for the first of four causes that applies.

What a file holds is what its settings put under `default`: a table that has the credentials under
their names, or a list that has them in their order. The entries of a file are put down in an order
that is not fixed, and if ways lead down from `default` that may make a difference; so all is said
for each order. In a file without such ways it makes none, and the credentials are those of the last
section `default`.

## Main definitions

* `Credentials.Spells`: the credentials that a table or a list has.
* `Credentials.Holds`: the credentials that a file holds, if its entries are put down in an order.
* `Credentials.Unread`: a file holds no credentials.
* `Signing.Refused`: why a request is refused.
* `Signing.Signed`: what a signed request is.

## Main results

* `Credentials.unread_iff`: a file holds credentials unless it is unread.
* `Signing.signed_or_refused`: the two outcomes.
* `Signing.signed_by_path`: with ways down, a file without a section may do, and one with it not.
-/

namespace PurgeGateway

/-! ### Controls -/

/-- A control other than the tab is among the bytes of the text. -/
def HasControl (s : String) : Prop :=
  ∃ b ∈ Utf8.bytes s, (b < 0x20 ∨ b = 0x7f) ∧ b ≠ 0x09

theorem hasControl_iff {s : String} :
    HasControl s ↔ Http.legalValue (Utf8.bytes s) = false := by
  have hbyte : ∀ b : UInt8, Http.valueByte b = false ↔ (b < 0x20 ∨ b = 0x7f) ∧ b ≠ 0x09 := by
    intro b
    rw [Http.valueByte, Bool.or_eq_false_iff, Bool.and_eq_false_iff, beq_eq_false_iff_ne]
    simp
  rw [HasControl, Http.legalValue, List.all_eq_false]
  simp only [Bool.not_eq_true, hbyte]

namespace Credentials

variable {file : Option (List UInt8)} {c : Credentials} {sections : List Ini.Section}
  {order : Nested.Order} {text : String} {v : Nested.Value}

/-! ### What a value spells -/

/-- A text is found: it stands there, or nothing does and it is empty. -/
def Found (found : Option Nested.Value) (s : String) : Prop :=
  found = some (.text s) ∨ found = none ∧ s = ""

/-- A table spells credentials if each is found under its name, and a list if each is found at its
place. -/
inductive Spells : Nested.Value → Credentials → Prop
  | table {members : List (String × Nested.Value)} {c : Credentials}
      (h : ∀ setting ∈ c.settings, Found (members.lookup setting.1) setting.2) :
    Spells (.table members) c
  | list {items : List Nested.Value} {c : Credentials}
      (h : ∀ place ∈ c.settings.zipIdx, Found items[place.2]? place.1.2) : Spells (.list items) c

/-- The value spells no credentials: it is no table and no list, or something other than a text
stands under one of their names or at one of their places. -/
inductive Unspelled : Nested.Value → Prop
  | other {v : Nested.Value} (htable : ∀ members, v ≠ .table members)
      (hlist : ∀ items, v ≠ .list items) : Unspelled v
  | table {members : List (String × Nested.Value)} {name : String} {v : Nested.Value}
      (hname : name ∈ ["host", "client_secret", "client_token", "access_token"])
      (h : members.lookup name = some v) (hv : ∀ s, v ≠ .text s) : Unspelled (.table members)
  | list {items : List Nested.Value} {n : Nat} {v : Nested.Value} (hn : n < 4)
      (h : items[n]? = some v) (hv : ∀ s, v ≠ .text s) : Unspelled (.list items)

theorem textOf?_eq_some_iff {found : Option Nested.Value} {s : String} :
    textOf? found = some s ↔ Found found s := by
  rw [Found]
  rcases found with _ | _ | _ | _ | _
  all_goals simp [textOf?, eq_comm]

theorem textOf?_eq_none_iff {found : Option Nested.Value} :
    textOf? found = none ↔ ∃ v, found = some v ∧ ∀ s, v ≠ .text s := by
  rcases found with _ | _ | _ | _ | _
  all_goals simp [textOf?]

theorem ofSettings?_eq_some_iff {found : String → Nat → Option Nested.Value} :
    ofSettings? found = some c ↔ Found (found "host" 0) c.host ∧
      Found (found "client_secret" 1) c.clientSecret ∧
        Found (found "client_token" 2) c.clientToken ∧
          Found (found "access_token" 3) c.accessToken := by
  obtain ⟨host, clientSecret, clientToken, accessToken⟩ := c
  simp only [ofSettings?, ← textOf?_eq_some_iff]
  simp [Option.bind_eq_some_iff]

theorem ofSettings?_eq_none_iff {found : String → Nat → Option Nested.Value} :
    ofSettings? found = none ↔ textOf? (found "host" 0) = none ∨
      textOf? (found "client_secret" 1) = none ∨ textOf? (found "client_token" 2) = none ∨
        textOf? (found "access_token" 3) = none := by
  rw [ofSettings?]
  cases textOf? (found "host" 0) <;> cases textOf? (found "client_secret" 1) <;>
    cases textOf? (found "client_token" 2) <;> cases textOf? (found "access_token" 3) <;> simp

/-- Credentials are had from a value that spells them. -/
theorem ofValue?_eq_some_iff : ofValue? v = some c ↔ Spells v c := by
  cases v with
  | nothing | text =>
    constructor
    all_goals
      intro h
      cases h
  | table members =>
    rw [ofValue?, ofSettings?_eq_some_iff]
    constructor
    · intro h
      exact .table (by simpa [settings] using h)
    · rintro ⟨h⟩
      simpa [settings] using h
  | list items =>
    rw [ofValue?, ofSettings?_eq_some_iff]
    constructor
    · intro h
      exact .list (by simpa [settings] using h)
    · rintro (_ | h)
      simpa [settings] using h

/-- No credentials are had from a value that spells none. -/
theorem ofValue?_eq_none_iff : ofValue? v = none ↔ Unspelled v := by
  cases v with
  | nothing | text =>
    refine ⟨fun _ => .other ?_ ?_, fun _ => rfl⟩
    all_goals
      intro _ h
      cases h
  | table members =>
    simp only [ofValue?, ofSettings?_eq_none_iff, textOf?_eq_none_iff]
    constructor
    · rintro (⟨v, h, hv⟩ | ⟨v, h, hv⟩ | ⟨v, h, hv⟩ | ⟨v, h, hv⟩)
      all_goals exact .table (by simp) h hv
    · rintro (_ | @⟨_, name, v, hname, h, hv⟩)
      · next htable _ => exact absurd rfl (htable members)
      · simp only [List.mem_cons, List.not_mem_nil, or_false] at hname
        obtain rfl | rfl | rfl | rfl := hname
        · exact .inl ⟨v, h, hv⟩
        · exact .inr (.inl ⟨v, h, hv⟩)
        · exact .inr (.inr (.inl ⟨v, h, hv⟩))
        · exact .inr (.inr (.inr ⟨v, h, hv⟩))
  | list items =>
    simp only [ofValue?, ofSettings?_eq_none_iff, textOf?_eq_none_iff]
    constructor
    · rintro (⟨v, h, hv⟩ | ⟨v, h, hv⟩ | ⟨v, h, hv⟩ | ⟨v, h, hv⟩)
      all_goals exact .list (by simp) h hv
    · rintro (_ | _ | @⟨_, n, v, hn, h, hv⟩)
      · next _ hlist => exact absurd rfl (hlist items)
      · obtain rfl | rfl | rfl | rfl : n = 0 ∨ n = 1 ∨ n = 2 ∨ n = 3 := by omega
        · exact .inl ⟨v, h, hv⟩
        · exact .inr (.inl ⟨v, h, hv⟩)
        · exact .inr (.inr (.inl ⟨v, h, hv⟩))
        · exact .inr (.inr (.inr ⟨v, h, hv⟩))

/-! ### What a file holds -/

/-- The file is a text of settings, and what they put under `default` in this order spells the
credentials. -/
def Holds (order : Nested.Order) (file : Option (List UInt8)) (c : Credentials) : Prop :=
  ∃ text sections v, file = some (Utf8.bytes text) ∧ Ini.sections? text = some sections ∧
    (Nested.build order sections).members.lookup sectionName = some v ∧ Spells v c

/-- The file holds no credentials: there is none, or it is no text, or no text of settings, or these
put nothing under `default` in this order, or nothing that spells credentials. -/
inductive Unread (order : Nested.Order) : Option (List UInt8) → Prop
  | noFile : Unread order none
  | noText {bytes : List UInt8} (h : ∀ text, bytes ≠ Utf8.bytes text) : Unread order (some bytes)
  | noSettings {text : String} (h : Ini.sections? text = none) :
    Unread order (some (Utf8.bytes text))
  | noPlace {text : String} {sections : List Ini.Section} (h : Ini.sections? text = some sections)
      (hplace : (Nested.build order sections).members.lookup sectionName = none) :
    Unread order (some (Utf8.bytes text))
  | unspelled {text : String} {sections : List Ini.Section} {v : Nested.Value}
      (h : Ini.sections? text = some sections)
      (hplace : (Nested.build order sections).members.lookup sectionName = some v)
      (hv : Unspelled v) : Unread order (some (Utf8.bytes text))

theorem bind_text?_eq_some_iff :
    file.bind Utf8.text? = some text ↔ file = some (Utf8.bytes text) := by
  constructor
  · intro h
    obtain ⟨bytes, rfl, htext⟩ := Option.bind_eq_some_iff.mp h
    obtain ⟨cs, hcs, rfl⟩ := Option.map_eq_some_iff.mp htext
    rw [Utf8.bytes, String.toList_ofList, Utf8.encode_of_decode? hcs]
  · rintro rfl
    exact Utf8.text?_bytes text

theorem ofEdgerc?_eq_some_iff : ofEdgerc? text order = some c ↔ ∃ sections v,
    Ini.sections? text = some sections ∧
      (Nested.build order sections).members.lookup sectionName = some v ∧ Spells v c := by
  simp only [ofEdgerc?, Option.bind_eq_bind, Option.bind_eq_some_iff, ofValue?_eq_some_iff]
  constructor
  · rintro ⟨sections, h, v, hv⟩
    exact ⟨sections, v, h, hv⟩
  · rintro ⟨sections, v, h, hv⟩
    exact ⟨sections, h, v, hv⟩

theorem ofEdgerc?_eq_none_iff : ofEdgerc? text order = none ↔ Ini.sections? text = none ∨
    ∃ sections, Ini.sections? text = some sections ∧
      ((Nested.build order sections).members.lookup sectionName = none ∨
        ∃ v, (Nested.build order sections).members.lookup sectionName = some v ∧ Unspelled v) := by
  rw [ofEdgerc?]
  cases hsections : Ini.sections? text with
  | none => simp
  | some sections =>
    simp only [Option.bind_eq_bind, Option.bind_some, ← ofValue?_eq_none_iff, reduceCtorEq,
      false_or, Option.some.injEq, exists_eq_left']
    generalize (Nested.build order sections).members.lookup sectionName = found
    cases found <;> simp

/-- Credentials are had from the file if it holds them. -/
theorem ofFile?_eq_some_iff :
    (file.bind Utf8.text?).bind (ofEdgerc? · order) = some c ↔ Holds order file c := by
  rw [Option.bind_eq_some_iff, Holds]
  constructor
  · rintro ⟨text, htext, h⟩
    obtain ⟨sections, v, h⟩ := ofEdgerc?_eq_some_iff.mp h
    exact ⟨text, sections, v, bind_text?_eq_some_iff.mp htext, h⟩
  · rintro ⟨text, sections, v, htext, h⟩
    exact ⟨text, bind_text?_eq_some_iff.mpr htext, ofEdgerc?_eq_some_iff.mpr ⟨sections, v, h⟩⟩

theorem ofFile?_bytes (text : String) (order : Nested.Order) :
    ((some (Utf8.bytes text)).bind Utf8.text?).bind (ofEdgerc? · order) = ofEdgerc? text order := by
  rw [Option.bind_some, Utf8.text?_bytes, Option.bind_some]

/-- No credentials are had from the file if it is unread. -/
theorem ofFile?_eq_none_iff :
    (file.bind Utf8.text?).bind (ofEdgerc? · order) = none ↔ Unread order file := by
  constructor
  · intro h
    cases file with
    | none => exact .noFile
    | some bytes =>
      by_cases htext : ∃ text, bytes = Utf8.bytes text
      · obtain ⟨text, rfl⟩ := htext
        rw [ofFile?_bytes, ofEdgerc?_eq_none_iff] at h
        obtain h | ⟨sections, h, hplace | ⟨v, hplace, hv⟩⟩ := h
        · exact .noSettings h
        · exact .noPlace h hplace
        · exact .unspelled h hplace hv
      · exact .noText (not_exists.mp htext)
  · intro h
    cases h with
    | noFile => rfl
    | noText h =>
      rw [Option.bind_eq_none_iff]
      intro text htext
      exact absurd (Option.some.inj (bind_text?_eq_some_iff.mp htext)) (h text)
    | noSettings h =>
      rw [ofFile?_bytes, ofEdgerc?_eq_none_iff]
      exact .inl h
    | noPlace h hplace =>
      rw [ofFile?_bytes, ofEdgerc?_eq_none_iff]
      exact .inr ⟨_, h, .inl hplace⟩
    | unspelled h hplace hv =>
      rw [ofFile?_bytes, ofEdgerc?_eq_none_iff]
      exact .inr ⟨_, h, .inr ⟨_, hplace, hv⟩⟩

/-- **A file holds credentials unless it is unread.** -/
theorem unread_iff : Unread order file ↔ ∀ c, ¬Holds order file c := by
  rw [← ofFile?_eq_none_iff, Option.eq_none_iff_forall_ne_some]
  simp only [← ofFile?_eq_some_iff, ne_eq]

/-- A file without paths holds what its last section `default` says, in every order. -/
theorem holds_iff_of_pathless (hsections : Ini.sections? text = some sections)
    (h : Nested.Pathless sections sectionName) : Holds order (some (Utf8.bytes text)) c ↔
      ∃ s, Ini.lastSection? sections sectionName = some s ∧ c = ofTexts s.settings := by
  rw [← ofFile?_eq_some_iff, ofFile?_bytes, ofEdgerc?_of_pathless hsections h,
    Option.map_eq_some_iff]
  simp only [eq_comm]

/-! ### Blank secrets -/

/-- No secret is blank. -/
def IsComplete (c : Credentials) : Prop :=
  ∀ secret : Secret, Text.blankText (secret.get c) = false

/-- The secret is blank, and none that comes before it is. -/
def FirstBlank (c : Credentials) (secret : Secret) : Prop :=
  Text.blankText (secret.get c) = true ∧ ∃ before after,
    [Secret.clientSecret, .clientToken, .accessToken] = before ++ secret :: after ∧
      ∀ s ∈ before, Text.blankText (s.get c) = false

theorem missing?_eq_none_iff : c.missing? = none ↔ c.IsComplete := by
  rw [missing?, List.find?_eq_none, IsComplete]
  constructor
  · intro h secret
    cases secret
    all_goals exact Bool.not_eq_true _ ▸ h _ (by decide)
  · intro h secret _
    rw [h secret]
    exact Bool.false_ne_true

theorem missing?_eq_some_iff {secret : Secret} :
    c.missing? = some secret ↔ c.FirstBlank secret := by
  rw [missing?, List.find?_eq_some_iff_append, FirstBlank]
  simp only [Bool.not_eq_true']

/-! ### What is loaded -/

theorem load_eq_ok_iff : load file order = .ok c ↔ Holds order file c ∧ c.IsComplete := by
  rw [load, ← ofFile?_eq_some_iff, ← missing?_eq_none_iff]
  cases (file.bind Utf8.text?).bind (ofEdgerc? · order) with
  | none => simp
  | some found =>
    dsimp only
    cases hmissing : found.missing? with
    | none =>
      rw [Except.ok.injEq, Option.some.injEq]
      exact ⟨fun h => ⟨h, h ▸ hmissing⟩, fun h => h.1⟩
    | some secret =>
      constructor
      · intro h
        cases h
      · rintro ⟨h, hcomplete⟩
        rw [Option.some.inj h, hcomplete] at hmissing
        cases hmissing

theorem load_eq_unreadable_iff : load file order = .error .unreadable ↔ Unread order file := by
  rw [load, ← ofFile?_eq_none_iff]
  cases (file.bind Utf8.text?).bind (ofEdgerc? · order) with
  | none => simp
  | some found =>
    dsimp only
    cases found.missing? <;> simp

theorem load_eq_missing_iff {secret : Secret} : load file order = .error (.missing secret) ↔
    ∃ c, Holds order file c ∧ c.FirstBlank secret := by
  simp only [load, ← ofFile?_eq_some_iff, ← missing?_eq_some_iff]
  cases (file.bind Utf8.text?).bind (ofEdgerc? · order) with
  | none => simp
  | some found =>
    dsimp only
    cases hmissing : found.missing? with
    | none => simp [hmissing]
    | some other => simp [hmissing]

end Credentials

namespace Signing

open Credentials (Holds Unread)

variable {order : Nested.Order} {file : Option (List UInt8)} {c : Credentials} {stamp : Stamp}
  {r signed : Outbound} {e : Error}

/-! ### The two outcomes -/

/-- What authorizes a request may stand in a header field only if the tokens may. -/
theorem isUsable_of_legalValue {method : String} {url : Net.Url} {body : List UInt8}
    (h : Http.legalValue (Utf8.bytes
      (authorization c method url body stamp.timestamp stamp.nonce)) = true) : c.IsUsable := by
  unfold authorization header at h
  simp only [Utf8.bytes_append, Http.legalValue_append, Bool.and_eq_true] at h
  obtain ⟨⟨⟨⟨⟨⟨⟨⟨⟨⟨-, hclient⟩, -⟩, haccess⟩, -⟩, -⟩, -⟩, -⟩, -⟩, -⟩, -⟩ := h
  exact ⟨hclient, haccess⟩

/-- Why a request is refused: the first cause that applies. -/
inductive Refused (order : Nested.Order) (file : Option (List UInt8)) (r : Outbound) : Error → Prop
  | credentials (h : Unread order file) : Refused order file r .credentials
  | missing {c : Credentials} {secret : Credentials.Secret} (hc : Holds order file c)
      (h : c.FirstBlank secret) : Refused order file r (.missingCredential secret)
  | streaming {c : Credentials} (hc : Holds order file c) (hcomplete : c.IsComplete)
      (h : r.body = some .streaming) : Refused order file r .streamingBody
  | header {c : Credentials} (hc : Holds order file c) (hcomplete : c.IsComplete)
      (hbody : r.body ≠ some .streaming) (h : HasControl c.clientToken ∨ HasControl c.accessToken) :
    Refused order file r .header

/-- The request as it was, but that its only `Authorization` header is what the credentials make of
it at the time. -/
structure Signed (c : Credentials) (stamp : Stamp) (r signed : Outbound) : Prop where
  method : signed.method = r.method
  url : signed.url = r.url
  body : signed.body = r.body
  others : signed.headers.filter (·.name != "authorization")
    = r.headers.filter (·.name != "authorization")
  value : ∃ body, buffered? r.body = some body ∧
    signed.headers.filter (·.name == "authorization") = [⟨"authorization", Utf8.bytes
      (authorization c r.method r.url body stamp.timestamp stamp.nonce)⟩] ∧
    ¬HasControl (authorization c r.method r.url body stamp.timestamp stamp.nonce)

theorem isUsable_iff :
    c.IsUsable ↔ ¬(HasControl c.clientToken ∨ HasControl c.accessToken) := by
  rw [hasControl_iff, hasControl_iff, not_or, Bool.not_eq_false, Bool.not_eq_false]
  exact ⟨fun h => ⟨h.clientToken, h.accessToken⟩, fun h => ⟨h.1, h.2⟩⟩

theorem buffered?_eq_none_iff {body : Option Payload} :
    buffered? body = none ↔ body = some .streaming := by
  rcases body with _ | _ | _
  all_goals simp [buffered?]

/-- Complete credentials sign a request or refuse it for its body or for their tokens. -/
theorem signWith_eq_error_iff (hstamp : stamp.IsUsable) : signWith c stamp r = .error e ↔
    e = .streamingBody ∧ r.body = some .streaming ∨
      e = .header ∧ r.body ≠ some .streaming ∧
        (HasControl c.clientToken ∨ HasControl c.accessToken) := by
  rw [signWith]
  cases hbody : buffered? r.body with
  | none =>
    rw [buffered?_eq_none_iff.mp hbody]
    simp [eq_comm]
  | some body =>
    have hbuffered : r.body ≠ some .streaming := by
      rw [Ne, ← buffered?_eq_none_iff, hbody]
      exact Option.some_ne_none body
    dsimp only [authorize]
    by_cases husable : c.IsUsable
    · rw [if_pos (legalValue_authorization husable hstamp _ _ _)]
      simp [hbuffered, isUsable_iff.mp husable]
    · rw [if_neg (mt isUsable_of_legalValue husable)]
      simp [hbuffered, not_not.mp (mt isUsable_iff.mpr husable), eq_comm]

theorem ofFile_eq_error_iff (hstamp : stamp.IsUsable) :
    Signer.ofFile stamp order file r = .error e ↔ Refused order file r e := by
  rw [Signer.ofFile, sign_eq]
  constructor
  · intro h
    cases hload : Credentials.load file order with
    | error cause =>
      rw [hload] at h
      cases h
      cases cause with
      | unreadable => exact .credentials (Credentials.load_eq_unreadable_iff.mp hload)
      | missing secret =>
        obtain ⟨c, hc, hblank⟩ := Credentials.load_eq_missing_iff.mp hload
        exact .missing hc hblank
    | ok c =>
      rw [hload] at h
      obtain ⟨hc, hcomplete⟩ := Credentials.load_eq_ok_iff.mp hload
      obtain ⟨rfl, hbody⟩ | ⟨rfl, hbody, hcontrol⟩ := (signWith_eq_error_iff hstamp).mp h
      · exact .streaming hc hcomplete hbody
      · exact .header hc hcomplete hbody hcontrol
  · intro h
    cases h with
    | credentials h => rw [Credentials.load_eq_unreadable_iff.mpr h]; rfl
    | missing hc h => rw [Credentials.load_eq_missing_iff.mpr ⟨_, hc, h⟩]; rfl
    | streaming hc hcomplete h =>
      rw [Credentials.load_eq_ok_iff.mpr ⟨hc, hcomplete⟩]
      exact (signWith_eq_error_iff hstamp).mpr (.inl ⟨rfl, h⟩)
    | header hc hcomplete hbody h =>
      rw [Credentials.load_eq_ok_iff.mpr ⟨hc, hcomplete⟩]
      exact (signWith_eq_error_iff hstamp).mpr (.inr ⟨rfl, hbody, h⟩)

theorem signed_of_signWith (h : signWith c stamp r = .ok signed) : Signed c stamp r signed := by
  rw [signWith] at h
  cases hbody : buffered? r.body with
  | none => rw [hbody] at h; cases h
  | some body =>
    rw [hbody] at h
    dsimp only [authorize] at h
    split at h
    · next hlegal =>
      cases h
      refine ⟨rfl, rfl, rfl, ?_, body, hbody, ?_, ?_⟩
      · rw [Http.Headers.set, List.filter_append, Http.Headers.without, List.filter_filter]
        simp
      · rw [Http.Headers.filter_set, if_pos rfl]
      · rw [hasControl_iff, hlegal]
        exact Bool.noConfusion
    · cases h

theorem signed_of_ofFile (h : Signer.ofFile stamp order file r = .ok signed) :
    ∃ c, Holds order file c ∧ c.IsComplete ∧ Signed c stamp r signed := by
  rw [Signer.ofFile, sign_eq] at h
  cases hload : Credentials.load file order with
  | error cause => rw [hload] at h; cases h
  | ok c =>
    rw [hload] at h
    obtain ⟨hc, hcomplete⟩ := Credentials.load_eq_ok_iff.mp hload
    exact ⟨c, hc, hcomplete, signed_of_signWith h⟩

/-- **Signed or refused.** A request is refused for the first cause that applies, with the error of
that cause. If none applies it is signed with the credentials that the file holds. And a file in
which no way leads down from `default` holds credentials if it has a section of that name, and they
are what the last one says: the last value of each setting, or an empty one. -/
theorem signed_or_refused (order : Nested.Order) (file : Option (List UInt8))
    (hstamp : stamp.IsUsable) (r : Outbound) :
    (∀ e, Signer.ofFile stamp order file r = .error e ↔ Refused order file r e) ∧
    ((∀ e, ¬Refused order file r e) → ∃ signed, Signer.ofFile stamp order file r = .ok signed) ∧
    (∀ signed, Signer.ofFile stamp order file r = .ok signed →
      ∃ c, Holds order file c ∧ c.IsComplete ∧ Signed c stamp r signed) ∧
    ∀ text sections, file = some (Utf8.bytes text) → Ini.sections? text = some sections →
      Nested.Pathless sections Credentials.sectionName →
        ((∃ c, Holds order file c) ↔ ∃ s ∈ sections, s.name = some Credentials.sectionName) ∧
          ∀ c, Holds order file c ↔ ∃ s,
            Ini.lastSection? sections Credentials.sectionName = some s ∧
              c = Credentials.ofTexts s.settings := by
  refine ⟨fun e => ofFile_eq_error_iff hstamp, fun h => ?_, fun signed => signed_of_ofFile, ?_⟩
  · cases hresult : Signer.ofFile stamp order file r with
    | error e => exact absurd ((ofFile_eq_error_iff hstamp).mp hresult) (h e)
    | ok signed => exact ⟨signed, rfl⟩
  · rintro text sections rfl hsections hpathless
    refine ⟨?_, fun c => Credentials.holds_iff_of_pathless hsections hpathless⟩
    simp only [Credentials.holds_iff_of_pathless hsections hpathless]
    rw [← Ini.lastSection?_isSome_iff, Option.isSome_iff_exists]
    exact ⟨fun ⟨_, s, hs, _⟩ => ⟨s, hs⟩, fun ⟨s, hs⟩ => ⟨_, s, hs, rfl⟩⟩

/-! ### Files in use -/

/-- A request with two `Authorization` headers and another one. -/
def outbound : Outbound where
  method := "POST"
  url := { scheme := "https", host := some (.domain "h"), path := "/" }
  headers := [⟨"authorization", [0x78]⟩, ⟨"accept", [0x79]⟩, ⟨"authorization", [0x7a]⟩]
  body := some (.buffered [0x78])

/-- Credentials that one letter stands for each. -/
def letters : Credentials :=
  { clientSecret := "s", clientToken := "t", accessToken := "a" }

/-- A file in which an escape stands for a control in a token. -/
def belled : String :=
  "[default]\nclient_secret = s\nclient_token = \\x0007\naccess_token = a\n"

/-- The file with another section `default` behind, which counts in the place of the first. -/
def replaced : String :=
  belled ++ "[default]\nclient_secret = s\nclient_token = t\naccess_token = a\n"

theorem isUsable_once : (⟨"now", "once"⟩ : Stamp).IsUsable :=
  ⟨by decide +kernel, by decide +kernel⟩

theorem load_of_ofEdgerc? {text : String} (h : Credentials.ofEdgerc? text order = some c)
    (hcomplete : c.missing? = none) : Credentials.load (some (Utf8.bytes text)) order = .ok c := by
  rw [Credentials.load, Credentials.ofFile?_bytes, h]
  dsimp only
  rw [hcomplete]

theorem exists_signed_outbound {text : String}
    (h : Credentials.ofEdgerc? text order = some letters) :
    ∃ signed, Signer.ofFile ⟨"now", "once"⟩ order (some (Utf8.bytes text)) outbound = .ok signed :=
  ⟨_, sign_of_load (load_of_ofEdgerc? h (by decide +kernel)) ⟨by decide +kernel, by decide +kernel⟩
    isUsable_once outbound⟩

/-- With the second section the request is signed by what that says, and with the first one alone it
is refused. -/
theorem signed_or_refused_replaced :
    (⟨"now", "once"⟩ : Stamp).IsUsable ∧
      (∃ signed c,
        Signer.ofFile ⟨"now", "once"⟩ [] (some (Utf8.bytes replaced)) outbound = .ok signed ∧
        Holds [] (some (Utf8.bytes replaced)) c ∧ Signed c ⟨"now", "once"⟩ outbound signed) ∧
      Signer.ofFile ⟨"now", "once"⟩ [] (some (Utf8.bytes belled)) outbound = .error .header := by
  have hreplaced : Credentials.ofEdgerc? replaced [] = some letters := by decide +kernel
  have hbelled : Credentials.ofEdgerc? belled [] = some { letters with clientToken := "\x07" } := by
    decide +kernel
  obtain ⟨signed, hsigned⟩ := exists_signed_outbound hreplaced
  obtain ⟨-, -, hthen, -⟩ :=
    signed_or_refused [] (some (Utf8.bytes replaced)) isUsable_once outbound
  obtain ⟨hrefused, -⟩ := signed_or_refused [] (some (Utf8.bytes belled)) isUsable_once outbound
  obtain ⟨c, hc, -, h⟩ := hthen signed hsigned
  obtain ⟨hholds, hcomplete⟩ := Credentials.load_eq_ok_iff.mp
    (load_of_ofEdgerc? hbelled (by decide +kernel))
  refine ⟨isUsable_once, ⟨signed, c, hsigned, hc, h⟩, (hrefused .header).mpr ?_⟩
  exact .header hholds hcomplete (by decide) (.inl ⟨0x07, by decide +kernel, by decide⟩)

/-- A file without a section, with ways by names as the names of settings. -/
def inFront : String :=
  "default.client_secret = s\ndefault.client_token = t\ndefault.access_token = a\n"

/-- A file without a section, with ways to the places of a list as the names of settings. -/
def listed : String :=
  "default[0] = \ndefault[1] = s\ndefault[2] = t\ndefault[3] = a\n"

/-- A file with the section, and with a way that makes a section of one of its settings. -/
def hostSplit : String :=
  "[default]\nclient_secret = s\nclient_token = t\naccess_token = a\n[default.host]\nx = y\n"

/-- What comes of a text in every order comes of it in all permutations of its entries. -/
theorem ofEdgerc?_of_permutations {text : String} {sections : List Ini.Section}
    {result : Option Credentials} (hsections : Ini.sections? text = some sections)
    (h : ∀ entries ∈ (Nested.entries sections).permutations',
      ((entries.foldl Nested.Value.put (.table [])).members.lookup
        Credentials.sectionName).bind Credentials.ofValue? = result)
    (order : Nested.Order) : Credentials.ofEdgerc? text order = result := by
  rw [Credentials.ofEdgerc?, hsections]
  exact h _ (List.mem_permutations'.mpr (Nested.perm_arrange order _))

/-- **A section is not what counts.** By ways down from `default`, to names or to places, a request
is signed without any section of that name; and with one that holds all three secrets it is refused
for such a way. So it is in every order. -/
theorem signed_by_path :
    (∃ settings, Ini.sections? inFront = some [⟨none, settings⟩]) ∧
    (∃ settings, Ini.sections? listed = some [⟨none, settings⟩]) ∧
    Ini.sections? hostSplit = some [⟨some "default", [("client_secret", "s"), ("client_token", "t"),
      ("access_token", "a")]⟩, ⟨some "default.host", [("x", "y")]⟩] ∧
    ∀ order,
      (∃ signed, Signer.ofFile ⟨"now", "once"⟩ order (some (Utf8.bytes inFront)) outbound
        = .ok signed) ∧
      (∃ signed, Signer.ofFile ⟨"now", "once"⟩ order (some (Utf8.bytes listed)) outbound
        = .ok signed) ∧
      Signer.ofFile ⟨"now", "once"⟩ order (some (Utf8.bytes hostSplit)) outbound
        = .error .credentials := by
  have hinFront : Ini.sections? inFront = some [⟨none, [("default.client_secret", "s"),
      ("default.client_token", "t"), ("default.access_token", "a")]⟩] := by
    decide +kernel
  have hlisted : Ini.sections? listed = some [⟨none, [("default[0]", ""), ("default[1]", "s"),
      ("default[2]", "t"), ("default[3]", "a")]⟩] := by
    decide +kernel
  have hhostSplit : Ini.sections? hostSplit = some [⟨some "default", [("client_secret", "s"),
      ("client_token", "t"), ("access_token", "a")]⟩, ⟨some "default.host", [("x", "y")]⟩] := by
    decide +kernel
  refine ⟨⟨_, hinFront⟩, ⟨_, hlisted⟩, hhostSplit, fun order => ⟨?_, ?_, ?_⟩⟩
  · exact exists_signed_outbound (ofEdgerc?_of_permutations hinFront (by decide +kernel) order)
  · exact exists_signed_outbound (ofEdgerc?_of_permutations hlisted (by decide +kernel) order)
  · have hnone : Credentials.ofEdgerc? hostSplit order = none :=
      ofEdgerc?_of_permutations hhostSplit (by decide +kernel) order
    refine (ofFile_eq_error_iff isUsable_once).mpr (.credentials ?_)
    rw [← Credentials.ofFile?_eq_none_iff, Credentials.ofFile?_bytes, hnone]

end Signing

end PurgeGateway
