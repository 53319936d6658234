import PurgeGateway.Proofs.Directories
import PurgeGateway.Proofs.Encoding
import PurgeGateway.Proofs.Pathless
import PurgeGateway.Proofs.Settings
import PurgeGateway.Proofs.State
import PurgeGateway.Gateway.Schedule

/-!
# Credentials that the gateway writes itself

A gateway that finds no credentials file writes one, without escapes and without quotes, from the
credentials that are configured; for every signature it reads the file again. What it signs with is
what was configured, then, only if each field is read as it was written.

It is, for fields without controls, backslashes and quotes that are trimmed at both ends. What
else the reader looks out for, comments, brackets and the two signs between a name and a value, it
looks for in other places than a value.

## Main definitions

* `Credentials.IsPlain`: credentials that may be written as they are.
* `Credentials.complete`: the credentials, unless a secret is empty.

## Main results

* `Credentials.ofEdgerc?_edgerc`: plain credentials are read as they are written.
* `Credentials.read_provision`: the file that was written is read back.
* `Credentials.kept_by_file`: a gateway signs with the credentials that it has written.
-/

namespace PurgeGateway

namespace Credentials

variable {c : Credentials}

/-! ### Plain credentials -/

/-- The character is a control. -/
def isControl (c : Char) : Bool :=
  c.toNat < 0x20 || (0x7f ≤ c.toNat && c.toNat ≤ 0x9f)

/-- The text may be written as it is: no control, no backslash and no quote is in it, and no blank
stands at its ends. -/
structure IsPlainField (s : String) : Prop where
  chars : ∀ c ∈ s.toList, isControl c = false ∧ c ≠ '\\' ∧ c ≠ '"' ∧ c ≠ '\''
  trimmed : Text.trim s = s

instance (s : String) : Decidable (IsPlainField s) :=
  decidable_of_iff
    ((s.toList.all fun c => !isControl c && c != '\\' && c != '"' && c != '\'') &&
      Text.trim s == s)
    ⟨fun h => by
      simp only [Bool.and_eq_true, List.all_eq_true, Bool.not_eq_true', bne_iff_ne, beq_iff_eq,
        and_assoc] at h
      exact ⟨h.1, h.2⟩,
    fun h => by
      simp only [Bool.and_eq_true, List.all_eq_true, Bool.not_eq_true', bne_iff_ne, beq_iff_eq,
        and_assoc]
      exact ⟨h.chars, h.trimmed⟩⟩

/-- The four fields of the credentials may be written as they are. -/
structure IsPlain (c : Credentials) : Prop where
  host : IsPlainField c.host
  clientSecret : IsPlainField c.clientSecret
  clientToken : IsPlainField c.clientToken
  accessToken : IsPlainField c.accessToken

instance (c : Credentials) : Decidable c.IsPlain :=
  decidable_of_iff
    (IsPlainField c.host ∧ IsPlainField c.clientSecret ∧ IsPlainField c.clientToken ∧
      IsPlainField c.accessToken)
    ⟨fun h => ⟨h.1, h.2.1, h.2.2.1, h.2.2.2⟩,
    fun h => ⟨h.host, h.clientSecret, h.clientToken, h.accessToken⟩⟩

/-- The credentials, unless a secret is empty: then the first one that is. -/
def complete (c : Credentials) : Except LoadError Credentials :=
  match [Secret.clientSecret, .clientToken, .accessToken].find? (·.get c == "") with
  | none => .ok c
  | some secret => .error (.missing secret)

/-- The credentials as settings, in the order in which they are written. -/
def settings (c : Credentials) : List (String × String) :=
  [("host", c.host), ("client_secret", c.clientSecret), ("client_token", c.clientToken),
    ("access_token", c.accessToken)]

/-- The names of the four fields are read as they are written. -/
theorem isName_of_mem {name : String}
    (h : name ∈ ["host", "client_secret", "client_token", "access_token"]) :
    Ini.IsName name.toList := by
  simp only [List.mem_cons, List.not_mem_nil, or_false] at h
  rcases h with rfl | rfl | rfl | rfl
  all_goals decide

theorem IsPlainField.isValue {s : String} (h : IsPlainField s) : Ini.IsValue s.toList where
  plain c hc := by
    obtain ⟨hcontrol, hbackslash, -⟩ := h.chars c hc
    refine ⟨?_, hbackslash⟩
    rw [Ini.endsLine, Bool.or_eq_false_iff, beq_eq_false_iff_ne, beq_eq_false_iff_ne]
    constructor <;> rintro rfl <;> cases hcontrol
  head := by
    constructor
    · intro hquote
      exact (h.chars _ (List.mem_of_mem_head? hquote)).2.2.1 rfl
    · intro hquote
      exact (h.chars _ (List.mem_of_mem_head? hquote)).2.2.2 rfl
  trimmed := by
    have htrimmed := congrArg String.toList h.trimmed
    rwa [Text.trim, String.toList_ofList] at htrimmed

/-- The names and the values are read as they are written. -/
theorem IsPlain.settings (hc : c.IsPlain) {setting : String × String} (h : setting ∈ c.settings) :
    Ini.IsName setting.1.toList ∧ Ini.IsValue setting.2.toList := by
  simp only [Credentials.settings, List.mem_cons, List.not_mem_nil, or_false] at h
  rcases h with rfl | rfl | rfl | rfl
  · exact ⟨isName_of_mem (by simp), hc.host.isValue⟩
  · exact ⟨isName_of_mem (by simp), hc.clientSecret.isValue⟩
  · exact ⟨isName_of_mem (by simp), hc.clientToken.isValue⟩
  · exact ⟨isName_of_mem (by simp), hc.accessToken.isValue⟩

/-! ### The file -/

theorem toList_edgerc (c : Credentials) :
    c.edgerc.toList = Ini.document sectionName c.settings := by
  unfold edgerc
  simp only [String.toList_append, Ini.document, settings, Ini.line, sectionName,
    List.flatMap_cons, List.flatMap_nil]
  -- The literals are compared last: taken apart in one go they make the check of the proof slow.
  simp only [String.reduceToList, List.append_assoc, List.cons_append, List.nil_append]

theorem ofTexts_settings (c : Credentials) : ofTexts c.settings = c := rfl

/-- **Plain credentials are read as they are written.** -/
theorem ofEdgerc?_edgerc (hc : c.IsPlain) (order : Nested.Order) :
    ofEdgerc? c.edgerc order = some c := by
  have hsections : Ini.sections? c.edgerc = some [⟨some sectionName, c.settings⟩] := by
    have hname : ∀ c ∈ sectionName.toList, c ≠ ']' ∧ c ≠ '\\' := by simp [sectionName]
    have htrimmed : Text.trimChars sectionName.toList = sectionName.toList := by decide
    rw [← String.ofList_toList (s := c.edgerc), toList_edgerc,
      Ini.sections?_document hname htrimmed fun _ => hc.settings]
  have hpathless : Nested.Pathless [⟨some sectionName, c.settings⟩] sectionName := by
    intro entry hentry _
    obtain rfl := List.mem_singleton.mp hentry
    exact show (Nested.Way.ofName sectionName).steps = [] by decide
  rw [ofEdgerc?_of_pathless hsections hpathless order]
  exact congrArg some (ofTexts_settings c)

theorem IsPlain.get (hc : c.IsPlain) : ∀ secret : Secret, IsPlainField (secret.get c)
  | .clientSecret => hc.clientSecret
  | .clientToken => hc.clientToken
  | .accessToken => hc.accessToken

/-- A secret of plain credentials is blank only if it is empty. -/
theorem missing?_of_isPlain (hc : c.IsPlain) :
    c.missing? = [Secret.clientSecret, .clientToken, .accessToken].find? fun secret =>
      secret.get c == "" := by
  have hsame : (fun secret : Secret => Text.blankText (secret.get c))
      = fun secret => secret.get c == "" := by
    funext secret
    rw [Bool.eq_iff_iff, beq_iff_eq, Text.blankText_iff, (hc.get secret).trimmed]
  rw [missing?, hsame]

theorem load_edgerc (hc : c.IsPlain) (order : Nested.Order) :
    load (some (Utf8.bytes c.edgerc)) order = c.complete := by
  rw [load, Option.bind_some, Utf8.text?_bytes, Option.bind_some, ofEdgerc?_edgerc hc, complete,
    ← missing?_of_isPlain hc]
  dsimp only
  cases c.missing? <;> rfl

/-- A writing that succeeds goes on as far as the file, and writes all of it. -/
theorem opening_of_provisioning {refused : FileTree.Refusals} {t after : FileTree} {p : FilePath}
    (h : provisioning refused t p c = (after, .ok true)) : ∃ (between : FileTree) (q : Place),
      between.opening p = .ok q ∧ between.put q (.file (Utf8.bytes c.edgerc)) = after := by
  rw [provisioning] at h
  split at h
  · cases h
  · split at h
    · cases h
    · next between _ =>
      rcases between.writing_cases refused p (Utf8.bytes c.edgerc)
        with ⟨error, hwriting⟩ | ⟨q, left, result, hopening, hleaves, hwriting⟩
      · rw [hwriting] at h
        cases h
      · rw [hwriting] at h
        cases hleaves with
        | whole => exact ⟨between, q, hopening, (Prod.mk.inj h).1⟩
        | part => cases h

theorem read_provision {refused : FileTree.Refusals} {t after : FileTree} {p : FilePath}
    (h : provision t p c refused = .ok (after, true)) :
    after.read p = .ok (Utf8.bytes c.edgerc) := by
  obtain ⟨between, q, hopening, rfl⟩ :=
    opening_of_provisioning (FileTree.settled_eq_ok_iff.mp h)
  exact FileTree.read_of_find (FileTree.find_of_opening hopening _)

end Credentials

/-! ### Signing -/

/-- A request signed with credentials that are at hand. -/
def Signing.signWith (c : Credentials) (stamp : Signing.Stamp) (r : Outbound) :
    Except Signing.Error Outbound :=
  match buffered? r.body with
  | none => .error .streamingBody
  | some body => authorize r (authorization c r.method r.url body stamp.timestamp stamp.nonce)

theorem Signing.sign_eq (file : Option (List UInt8)) (stamp : Signing.Stamp) (r : Outbound)
    (order : Nested.Order) : sign file stamp r order = match Credentials.load file order with
      | .error e => .error (Error.ofLoad e)
      | .ok c => signWith c stamp r := rfl

namespace Gateway

theorem credentialsFile_run (g : Gateway) (clock : AccessLog.Clock) (ms : List Move) :
    ∀ s : State, (g.run clock s ms).1.credentialsFile g = s.credentialsFile g := by
  induction ms with
  | nil => intro s; rfl
  | cons m ms ih => intro s; rw [run, ih, credentialsFile_step]

/-- What a gateway has written is in its credentials file. -/
theorem credentialsFile_provision {g : Gateway} {s written : State} {refused : FileTree.Refusals}
    (h : g.provision s refused = .ok (written, true)) :
    written.credentialsFile g = some (Utf8.bytes g.credentials.edgerc) := by
  rw [provision] at h
  cases hfiles : Credentials.provision s.files g.credentialsPath g.credentials refused with
  | error e => rw [hfiles] at h; cases h
  | ok result =>
    rw [hfiles] at h
    obtain ⟨rfl, hwritten⟩ := Prod.mk.inj (Except.ok.inj h)
    have hread := Credentials.read_provision (hfiles.trans (by rw [← hwritten]))
    rw [State.credentialsFile, hread]

end Gateway

/-- **What is configured is what signs.** Plain credentials that are written are read as they were,
complete or with the first secret named that is empty. So a gateway that has written its file signs
every request with the credentials of its configuration, whatever has happened since. -/
theorem Credentials.kept_by_file {c : Credentials} (hc : c.IsPlain) :
    (∀ order, load (some (Utf8.bytes c.edgerc)) order = c.complete) ∧
      ∀ (g : Gateway) (s written : Gateway.State) (refused : FileTree.Refusals),
        g.credentials = c → g.provision s refused = .ok (written, true) →
          ∀ (clock : AccessLog.Clock) (ms : List Gateway.Move) (stamp : Signing.Stamp)
            (order : Nested.Order) (r : Outbound),
            Signer.ofFile stamp order ((g.run clock written ms).1.credentialsFile g) r
              = match c.complete with
                | .error e => .error (Signing.Error.ofLoad e)
                | .ok c => Signing.signWith c stamp r := by
  refine ⟨load_edgerc hc, ?_⟩
  rintro g s written refused rfl hwritten clock ms stamp order r
  rw [Gateway.credentialsFile_run, Gateway.credentialsFile_provision hwritten, Signer.ofFile,
    Signing.sign_eq, load_edgerc hc]

/-- Credentials full of signs that mean something elsewhere in a text of settings. -/
def Credentials.awkward : Credentials where
  clientSecret := "; a = b # c : [d] é"
  clientToken := "[default]"
  accessToken := "#=:;"

/-- A gateway with such credentials that is to write them into a directory of their own. -/
def Gateway.awkward : Gateway :=
  { plainGateway loopback with
    credentials := .awkward
    credentialsPath := ["keys", "client"] }

/-- Such credentials are kept, and told from such as lack a token; and they sign. -/
theorem Credentials.kept_by_file_awkward :
    awkward.IsPlain ∧ load (some (Utf8.bytes awkward.edgerc)) = .ok awkward ∧
      load (some (Utf8.bytes { awkward with clientToken := "" }.edgerc))
        = .error (.missing .clientToken) ∧
      ∃ written, Gateway.awkward.provision (.fresh {} .unreachable) = .ok (written, true) ∧
        ∀ clock ms stamp order r,
          Signer.ofFile stamp order
              ((Gateway.awkward.run clock written ms).1.credentialsFile .awkward) r
            = Signing.signWith awkward stamp r := by
  have hplain : awkward.IsPlain := by decide
  have htokenless : { awkward with clientToken := "" }.IsPlain := by decide
  have hcomplete : awkward.complete = .ok awkward := rfl
  have hmissing : { awkward with clientToken := "" }.complete = .error (.missing .clientToken) :=
    rfl
  obtain ⟨hload, hsigns⟩ := kept_by_file hplain
  rw [hcomplete] at hload hsigns
  have hwritten : Gateway.awkward.provision (.fresh {} .unreachable) = .ok (_, true) := rfl
  exact ⟨hplain, hload [], ((kept_by_file htokenless).1 []).trans hmissing, _, hwritten,
    hsigns .awkward _ _ _ rfl hwritten⟩

end PurgeGateway
