import PurgeGateway.Proofs.Authorized
import PurgeGateway.Proofs.Sextets
import PurgeGateway.Proofs.UrlParts

/-!
# What a signature is over

The text that is signed is made of seven parts with tabs between them, two of which are made of two
parts themselves: a host with a port behind a colon, and a path with a query behind a question mark.
Whoever could move characters from one part to the next would have two requests with one signature.

They cannot. The first six parts have no tabs, since the method is a token, since a URL that was
read lacks the characters that would do harm, and since a hash is written in base64; the last part
may hold what it likes. A colon between host and port is told from those of an address by the
bracket at the end of the address.

## Main definitions

* `Signing.Call`: what is given to be authorized.
* `Signing.Call.Agrees`: two calls agree on all that is signed.

## Main results

* `intercalate_inj`: texts with one character between them are told apart by it.
* `Net.Url.hostAndPort_inj`, `Net.Url.target_inj`: hosts and ports, paths and queries.
* `Signing.signed_exactly`: what a signature is over.
-/

namespace PurgeGateway

/-! ### Joined texts -/

section Joined

variable {α : Type} {sep : α}

/-- A text is taken apart at the first place where a character stands. -/
theorem append_cons_inj {x y xs ys : List α} (hx : sep ∉ x) (hy : sep ∉ y) :
    x ++ sep :: xs = y ++ sep :: ys ↔ x = y ∧ xs = ys := by
  induction x generalizing y with
  | nil =>
    cases y with
    | nil => simp
    | cons b y => simp [List.ne_of_not_mem_cons hy]
  | cons a x ih =>
    cases y with
    | nil => simp [Ne.symm (List.ne_of_not_mem_cons hx)]
    | cons b y =>
      rw [List.cons_append, List.cons_append, List.cons.injEq, List.cons.injEq,
        ih (List.not_mem_of_not_mem_cons hx) (List.not_mem_of_not_mem_cons hy), and_assoc]

/-- Or at the last one. -/
theorem append_cons_inj_last {x y xs ys : List α} (hxs : sep ∉ xs) (hys : sep ∉ ys) :
    x ++ sep :: xs = y ++ sep :: ys ↔ x = y ∧ xs = ys := by
  have hreverse : ∀ z zs : List α, (z ++ sep :: zs).reverse = zs.reverse ++ sep :: z.reverse := by
    simp
  rw [← List.reverse_inj, hreverse, hreverse,
    append_cons_inj (mt List.mem_reverse.mp hxs) (mt List.mem_reverse.mp hys), List.reverse_inj,
    List.reverse_inj, and_comm]

theorem intercalate_cons_concat (part x : List α) (parts : List (List α)) :
    [sep].intercalate (part :: parts ++ [x])
      = part ++ sep :: [sep].intercalate (parts ++ [x]) := by
  rw [List.cons_append, List.intercalate_cons_of_ne_nil (by simp)]
  simp

/-- **Texts that lack a character, with that between them, are told apart by it**, whatever the last
one is. -/
theorem intercalate_inj {xs : List (List α)} {x y : List α} (hxs : ∀ part ∈ xs, sep ∉ part) :
    ∀ {ys : List (List α)}, (∀ part ∈ ys, sep ∉ part) → xs.length = ys.length →
      ([sep].intercalate (xs ++ [x]) = [sep].intercalate (ys ++ [y]) ↔ xs = ys ∧ x = y) := by
  induction xs with
  | nil =>
    intro ys _ hlength
    obtain rfl := List.length_eq_zero_iff.mp hlength.symm
    simp
  | cons a xs ih =>
    intro ys hys hlength
    cases ys with
    | nil => cases hlength
    | cons b ys =>
      obtain ⟨ha, hxs⟩ := List.forall_mem_cons.mp hxs
      obtain ⟨hb, hys⟩ := List.forall_mem_cons.mp hys
      rw [intercalate_cons_concat, intercalate_cons_concat, append_cons_inj ha hb,
        ih hxs hys (Nat.succ.inj hlength), List.cons.injEq, and_assoc]

end Joined

/-! ### Hosts and ports, paths and queries -/

namespace Net.Url

variable {url other : Url}

theorem isDigit_of_mem_decimal {n : Nat} {c : Char} (h : c ∈ (Ascii.decimal n).toList) :
    c.isDigit = true := by
  rw [Ascii.decimal, String.toList_ofList] at h
  exact Nat.isDigit_of_mem_toDigits (by decide) (by decide) h

theorem notMem_decimal {c : Char} (hc : c.isDigit = false) (n : Nat) :
    c ∉ (Ascii.decimal n).toList := by
  intro h
  rw [isDigit_of_mem_decimal h] at hc
  cases hc

theorem decimal_inj {m n : Nat} : Ascii.decimal m = Ascii.decimal n ↔ m = n := by
  constructor
  · intro h
    have hdigits := congrArg (fun s : String => Nat.ofDigitChars 10 s.toList 0) h
    simpa only [Ascii.decimal, String.toList_ofList, Nat.ofDigitChars_ten_toDigits] using hdigits
  · rintro rfl
    rfl

/-- With a port behind it, a host is not the text of a host. -/
theorem hostText_ne_append_port (h : IsHostText url.hostText.toList) (host : List Char) (n : Nat) :
    url.hostText.toList ≠ host ++ ':' :: (Ascii.decimal n).toList := by
  intro heq
  have hlast := h.colon (by rw [heq]; simp)
  obtain ⟨c, hc⟩ := List.exists_mem_of_ne_nil (Ascii.decimal n).toList (by
    rw [Ascii.decimal, String.toList_ofList]
    exact Nat.toDigits_ne_nil)
  have hmem : ']' ∈ (Ascii.decimal n).toList := by
    refine List.mem_of_getLast? ?_
    rwa [heq, ← List.singleton_append, ← List.append_assoc, List.getLast?_append_of_ne_nil _
      (List.ne_nil_of_mem hc)] at hlast
  exact notMem_decimal (by decide) n hmem

theorem toList_hostAndPort (url : Url) : url.hostAndPort.toList = match url.port with
    | some port => url.hostText.toList ++ ':' :: (Ascii.decimal port).toList
    | none => url.hostText.toList := by
  cases hport : url.port <;> simp [hostAndPort, hport]

theorem toList_target (url : Url) : url.target.toList = match url.query with
    | some query => url.path.toList ++ '?' :: query.toList
    | none => url.path.toList := by
  cases hquery : url.query <;> simp [target, hquery]

/-- **A host and a port are told apart.** -/
theorem hostAndPort_inj (h : IsHostText url.hostText.toList)
    (hother : IsHostText other.hostText.toList) : url.hostAndPort = other.hostAndPort ↔
      url.hostText = other.hostText ∧ url.port = other.port := by
  rw [← String.toList_inj, toList_hostAndPort, toList_hostAndPort, ← String.toList_inj]
  -- The last colon is in front of the port, for an address has colons as well. With one port only,
  -- it would be a colon of the other host, which then ends with a bracket and not with a digit.
  cases hport : url.port with
  | none =>
    cases hport' : other.port with
    | none => simp
    | some n => simp [hostText_ne_append_port h]
  | some m =>
    cases hport' : other.port with
    | none => simp [Ne.symm (hostText_ne_append_port hother _ m)]
    | some n =>
      dsimp only
      rw [append_cons_inj_last (notMem_decimal (by decide) m) (notMem_decimal (by decide) n),
        String.toList_inj, String.toList_inj, decimal_inj, Option.some.injEq]

/-- **A path and a query are told apart**, an empty query and none too. -/
theorem target_inj (h : IsPathText url.path.toList) (hother : IsPathText other.path.toList) :
    url.target = other.target ↔ url.path = other.path ∧ url.query = other.query := by
  have hmark : ∀ {cs : List Char}, IsPathText cs → '?' ∉ cs := fun h hmem => (h '?' hmem).2 rfl
  have hne : ∀ {path : List Char}, IsPathText path → ∀ front back : List Char,
      path ≠ front ++ '?' :: back := by
    rintro path h front back rfl
    exact hmark h (by simp)
  rw [← String.toList_inj, toList_target, toList_target, ← String.toList_inj]
  cases hquery : url.query with
  | none =>
    cases hquery' : other.query with
    | none => simp
    | some query => simp [hne h]
  | some query =>
    cases hquery' : other.query with
    | none => simp [Ne.symm (hne hother _ _)]
    | some query' =>
      dsimp only
      rw [append_cons_inj (hmark h) (hmark hother), String.toList_inj, String.toList_inj,
        Option.some.injEq]

theorem tab_notMem_hostAndPort (h : IsHostText url.hostText.toList) :
    '\t' ∉ url.hostAndPort.toList := by
  rw [toList_hostAndPort]
  split
  · rw [List.mem_append, List.mem_cons, not_or, not_or]
    exact ⟨h.tab, by decide, notMem_decimal (by decide) _⟩
  · exact h.tab

theorem IsApart.tab_notMem_target (h : url.IsApart) : '\t' ∉ url.target.toList := by
  have hpath : '\t' ∉ url.path.toList := fun htab => (h.path '\t' htab).1 rfl
  rw [toList_target]
  split
  · next query hquery =>
    rw [List.mem_append, List.mem_cons, not_or, not_or]
    exact ⟨hpath, by decide, h.query query hquery⟩
  · exact hpath

end Net.Url

/-- No tab is in a method. -/
theorem Http.tab_notMem_of_legalMethod {method : String}
    (h : legalMethod (Utf8.bytes method) = true) : '\t' ∉ method.toList := by
  intro htab
  rw [legalMethod, Bool.and_eq_true] at h
  have hbyte : (0x09 : UInt8) ∈ Utf8.bytes method :=
    List.mem_flatMap.mpr ⟨'\t', htab, by decide⟩
  exact absurd (List.all_eq_true.mp h.2 _ hbyte) (by decide)

/-- No tab is in the padded form. -/
theorem Base64.tab_notMem_encodePadded (bytes : List UInt8) :
    '\t' ∉ (encodePadded bytes).toList := by
  rw [encodePadded, String.toList_ofList]
  intro htab
  rcases mem_of_mem_encodeWith bytes _ htab with h | h
  · revert h
    decide
  · revert h
    decide

/-- No hash is empty. -/
theorem Digest.sha256_ne_nil (message : List UInt8) : sha256 message ≠ [] := by
  simp [sha256, Words.toList, fourBytes]

namespace Signing

/-! ### Calls -/

/-- What is given to be authorized, and when. -/
structure Call where
  credentials : Credentials
  method : String
  url : Net.Url
  body : List UInt8
  timestamp : String
  nonce : String

namespace Call

variable {k l : Call}

/-- The hash of the body. -/
def hash (k : Call) : String :=
  contentHash k.method k.body

/-- What the header says before the signature. -/
def header (k : Call) : String :=
  Signing.header k.credentials k.timestamp k.nonce

/-- The text that is signed. -/
def data (k : Call) : String :=
  dataToSign k.credentials k.method k.url k.body k.timestamp k.nonce

/-- The value of the header. -/
def value (k : Call) : String :=
  authorization k.credentials k.method k.url k.body k.timestamp k.nonce

/-- The method is one, and the URL was read. -/
structure IsProper (k : Call) : Prop where
  method : Http.legalMethod (Utf8.bytes k.method) = true
  url : ∃ text, Net.Url.ofText? text = some k.url

/-- The calls agree on all that is signed. -/
structure Agrees (k l : Call) : Prop where
  method : k.method = l.method
  scheme : k.url.scheme = l.url.scheme
  host : k.url.hostText = l.url.hostText
  port : k.url.port = l.url.port
  path : k.url.path = l.url.path
  query : k.url.query = l.url.query
  hash : k.hash = l.hash
  header : k.header = l.header

theorem IsProper.isApart (hk : k.IsProper) : k.url.IsApart := by
  obtain ⟨text, htext⟩ := hk.url
  exact Net.Url.isApart_of_ofText? htext

/-- The parts before the last one. -/
def firstParts (k : Call) : List String :=
  [k.method, k.url.scheme, k.url.hostAndPort, k.url.target, "", k.hash]

theorem toList_data (k : Call) : k.data.toList
    = ['\t'].intercalate (k.firstParts.map String.toList ++ [k.header.toList]) := by
  rw [data, dataToSign, String.toList_intercalate]
  rfl

theorem tab_notMem_hash (k : Call) : '\t' ∉ k.hash.toList := by
  rw [hash, contentHash]
  split
  · exact Base64.tab_notMem_encodePadded _
  · decide

theorem IsProper.tab_notMem (hk : k.IsProper) :
    ∀ part ∈ k.firstParts.map String.toList, '\t' ∉ part := by
  have hurl := hk.isApart
  simp only [firstParts, List.map_cons, List.map_nil, List.forall_mem_cons]
  exact ⟨Http.tab_notMem_of_legalMethod hk.method, hurl.scheme,
    Net.Url.tab_notMem_hostAndPort hurl.host, hurl.tab_notMem_target, by decide,
    k.tab_notMem_hash, List.forall_mem_nil _⟩

/-- **Two calls have the same text to sign if they agree on all that is signed.** -/
theorem data_eq_iff (hk : k.IsProper) (hl : l.IsProper) : k.data = l.data ↔ k.Agrees l := by
  have hinj : (k.firstParts.map String.toList = l.firstParts.map String.toList) ↔
      k.firstParts = l.firstParts :=
    (List.map_injective_iff.mpr fun _ _ => String.toList_inj.mp).eq_iff
  rw [← String.toList_inj, toList_data, toList_data,
    intercalate_inj hk.tab_notMem hl.tab_notMem rfl, hinj, String.toList_inj, firstParts,
    firstParts]
  simp only [List.cons.injEq, and_true, true_and,
    Net.Url.hostAndPort_inj hk.isApart.host hl.isApart.host,
    Net.Url.target_inj hk.isApart.path hl.isApart.path]
  constructor
  · rintro ⟨⟨hmethod, hscheme, ⟨hhost, hport⟩, ⟨hpath, hquery⟩, hhash⟩, hheader⟩
    exact ⟨hmethod, hscheme, hhost, hport, hpath, hquery, hhash, hheader⟩
  · rintro ⟨hmethod, hscheme, hhost, hport, hpath, hquery, hhash, hheader⟩
    exact ⟨⟨hmethod, hscheme, ⟨hhost, hport⟩, ⟨hpath, hquery⟩, hhash⟩, hheader⟩

/-! ### Bodies -/

theorem hash_of_post (hmethod : k.method = "POST") (hbody : k.body ≠ []) :
    k.hash = Base64.encodePadded (Digest.sha256 (k.body.take maxHashed)) :=
  if_pos ⟨hmethod, by simpa using hbody⟩

theorem hash_of_not_post (h : k.method ≠ "POST" ∨ k.body = []) : k.hash = "" := by
  refine if_neg ?_
  rintro ⟨hmethod, hbody⟩
  rcases h with h | h
  · exact h hmethod
  · exact hbody (by simp [h])

/-- Two bodies that are hashed have one hash if what is hashed of them has. -/
theorem hash_eq_iff (hk : k.method = "POST" ∧ k.body ≠ []) (hl : l.method = "POST" ∧ l.body ≠ []) :
    k.hash = l.hash ↔
      Digest.sha256 (k.body.take maxHashed) = Digest.sha256 (l.body.take maxHashed) := by
  rw [hash_of_post hk.1 hk.2, hash_of_post hl.1 hl.2, Base64.encodePadded_inj]

/-- A body that is hashed is told from none. -/
theorem hash_ne_empty (hmethod : k.method = "POST") (hbody : k.body ≠ []) : k.hash ≠ "" := by
  rw [hash_of_post hmethod hbody, show "" = Base64.encodePadded [] from rfl, Ne,
    Base64.encodePadded_inj]
  exact Digest.sha256_ne_nil _

/-- Of a body no more than its first bytes is looked at. -/
theorem contentHash_of_take {method : String} {body other : List UInt8}
    (h : other.take maxHashed = body.take maxHashed) :
    contentHash method other = contentHash method body := by
  have hempty : ∀ bytes : List UInt8, bytes.isEmpty = (bytes.take maxHashed).isEmpty := by
    intro bytes
    cases bytes <;> rfl
  rw [contentHash, contentHash, hempty other, hempty body, h]

/-- The user and the fragment in a URL, the host of the credentials and what is behind the first
bytes of a body do not count. -/
theorem value_eq (k : Call) (host username password : String) (fragment : Option String)
    {body : List UInt8} (h : body.take maxHashed = k.body.take maxHashed) :
    { k with
      credentials := { k.credentials with host }
      url := { k.url with username, password, fragment }
      body : Call }.value = k.value := by
  rw [value, value, authorization, authorization, dataToSign, dataToSign, signedParts, signedParts,
    contentHash_of_take h]
  rfl

end Call

/-- **What a signature is over.** Two calls with methods and with URLs that were read have the same
text to sign if and only if they agree on all that is signed: what stands in one part of it cannot
be moved to another. The hash of a body is that of its first bytes, and there is none unless the
body is that of a `POST` and not empty. The header is what it says first and the signature, and
what is not signed does not change it. -/
theorem signed_exactly (k : Call) (hk : k.IsProper) :
    (∀ l : Call, l.IsProper → (k.data = l.data ↔ k.Agrees l)) ∧
    (k.method ≠ "POST" ∨ k.body = [] → k.hash = "") ∧
    (k.method = "POST" → k.body ≠ [] → k.hash ≠ "" ∧
      k.hash = Base64.encodePadded (Digest.sha256 (k.body.take (min k.body.length 131072))) ∧
      ∀ l : Call, l.method = "POST" → l.body ≠ [] → (k.hash = l.hash ↔
        Digest.sha256 (k.body.take (min k.body.length 131072))
          = Digest.sha256 (l.body.take (min l.body.length 131072)))) ∧
    k.value = k.header ++ "signature=" ++ signature k.credentials.clientSecret k.timestamp k.data ∧
    ∀ (host username password : String) (fragment : Option String) (body : List UInt8),
      body.take 131072 = k.body.take 131072 →
        { k with
          credentials := { k.credentials with host }
          url := { k.url with username, password, fragment }
          body : Call }.value = k.value := by
  have hmin : ∀ body : List UInt8, body.take (min body.length 131072) = body.take maxHashed := by
    intro body
    rw [min_comm, ← List.take_eq_take_min]
    rfl
  simp only [hmin]
  refine ⟨fun l hl => Call.data_eq_iff hk hl, Call.hash_of_not_post, fun hmethod hbody => ?_, rfl,
    ?_⟩
  · exact ⟨Call.hash_ne_empty hmethod hbody, Call.hash_of_post hmethod hbody,
      fun l hmethod' hbody' => Call.hash_eq_iff ⟨hmethod, hbody⟩ ⟨hmethod', hbody'⟩⟩
  · intro host username password fragment body h
    exact k.value_eq host username password fragment h

/-- A call with a query and with a body of which all counts. -/
def filled : Call where
  credentials := { clientToken := "t\tu" }
  method := "POST"
  url :=
    { scheme := "http"
      host := some (.v6 ⟨[0, 0, 0, 0, 0, 0, 0, 1]⟩)
      port := some 8443
      path := "/a"
      query := some "b" }
  body := List.replicate 131072 0x61
  timestamp := "now"
  nonce := "once"

/-- The same but that the query is a part of the path. -/
def merged : Call :=
  { filled with url := { filled.url with path := "/a%3Fb", query := none } }

theorem signed_exactly_filled :
    filled.IsProper ∧ merged.IsProper ∧ filled.data ≠ merged.data ∧ filled.hash ≠ "" ∧
      { filled with
        credentials := { filled.credentials with host := "h" }
        url := { filled.url with username := "u", password := "p", fragment := some "f" }
        body := filled.body ++ [0x62] : Call }.value = filled.value := by
  have hfilled : filled.IsProper :=
    ⟨by decide +kernel, "http://[::1]:8443/a?b", by decide +kernel⟩
  have hmerged : merged.IsProper :=
    ⟨by decide +kernel, "http://[::1]:8443/a%3Fb", by decide +kernel⟩
  obtain ⟨hdata, -, hpost, -, hvalue⟩ := signed_exactly filled hfilled
  have hlength : filled.body.length = 131072 := List.length_replicate
  have hbody : filled.body ≠ [] := List.ne_nil_of_length_pos (by rw [hlength]; decide)
  refine ⟨hfilled, hmerged, fun h => ?_, (hpost rfl hbody).1, hvalue "h" "u" "p" (some "f") _ ?_⟩
  · exact absurd ((hdata merged hmerged).mp h).path (by decide)
  · rw [List.take_append_of_le_length hlength.ge]

end Signing

end PurgeGateway
