import PurgeGateway.Proofs.Provisioned

/-!
# What authorizes a request

The value that authorizes a request is made of two tokens, of a time and a number used once, and of
a signature in base64. If those four may stand in a header field then so may the whole, whatever the
secret and the request are. So a request whose body is at hand is signed whenever the credentials
file holds complete credentials with tokens of that sort: whether there is a signature tells nothing
of the secret.

## Main definitions

* `Credentials.IsUsable`, `Signing.Stamp.IsUsable`: tokens, times and numbers that may stand in a
  header field.

## Main results

* `Signing.legalValue_authorization`: what authorizes a request may stand in a header field.
* `Signing.sign_of_load`: a request is signed if its body is at hand.
-/

namespace PurgeGateway

/-! ### Base64 in header fields -/

namespace Base64

variable {alphabet : Alphabet} {filling : List Char}

theorem symbol_mem (alphabet : Alphabet) (n : Nat) : symbol alphabet n ∈ 'A' :: alphabet := by
  rw [symbol, List.getD_eq_getElem?_getD]
  cases h : alphabet[n]? with
  | none => exact List.mem_cons_self
  | some c => exact List.mem_cons_of_mem _ (List.mem_of_getElem? h)

/-- What is written are symbols of the alphabet and the filling. -/
theorem mem_of_mem_encodeWith (bytes : List UInt8) :
    ∀ c ∈ encodeWith alphabet filling bytes, c ∈ 'A' :: alphabet ∨ c ∈ filling := by
  induction bytes using encodeWith.induct with
  | case1 => intro c hc; cases hc
  | case2 a =>
    intro c hc
    simp only [encodeWith, List.mem_append, List.mem_cons, List.not_mem_nil, or_false] at hc
    rcases hc with ((rfl | rfl) | hc) | hc
    · exact .inl (symbol_mem _ _)
    · exact .inl (symbol_mem _ _)
    · exact .inr hc
    · exact .inr hc
  | case3 a b =>
    intro c hc
    simp only [encodeWith, List.mem_append, List.mem_cons, List.not_mem_nil, or_false] at hc
    rcases hc with (rfl | rfl | rfl) | hc
    · exact .inl (symbol_mem _ _)
    · exact .inl (symbol_mem _ _)
    · exact .inl (symbol_mem _ _)
    · exact .inr hc
  | case4 a b c rest ih =>
    intro d hd
    simp only [encodeWith, List.mem_cons] at hd
    rcases hd with rfl | rfl | rfl | rfl | hd
    · exact .inl (symbol_mem _ _)
    · exact .inl (symbol_mem _ _)
    · exact .inl (symbol_mem _ _)
    · exact .inl (symbol_mem _ _)
    · exact ih d hd

end Base64

namespace Http

theorem legalValue_append (a b : List UInt8) :
    legalValue (a ++ b) = (legalValue a && legalValue b) := by
  rw [legalValue, List.all_append, legalValue, legalValue]

/-- The standard form of base64 may stand in a header field. -/
theorem legalValue_encodePadded (bytes : List UInt8) :
    legalValue (Utf8.bytes (Base64.encodePadded bytes)) = true := by
  have hsymbol : ∀ c ∈ Base64.encodeWith Base64.standard ['='] bytes,
      c.toNat < 0x80 ∧ valueByte (Ascii.byte c) = true := by
    have hall : (('A' :: Base64.standard) ++ ['=']).all (fun c =>
        decide (c.toNat < 0x80) && valueByte (Ascii.byte c)) = true := by
      decide +kernel
    simp only [List.all_eq_true, Bool.and_eq_true, decide_eq_true_eq] at hall
    exact fun c hc => hall c (List.mem_append.mpr (Base64.mem_of_mem_encodeWith bytes c hc))
  rw [Base64.encodePadded, Utf8.bytes, String.toList_ofList,
    Utf8.encode_ascii fun c hc => (hsymbol c hc).1, legalValue, List.all_map, List.all_eq_true]
  exact fun c hc => (hsymbol c hc).2

end Http

theorem Utf8.bytes_append (a b : String) : bytes (a ++ b) = bytes a ++ bytes b := by
  rw [bytes, String.toList_append, encode_append, bytes, bytes]

/-! ### Signed requests -/

/-- The tokens of the credentials may stand in a header field. -/
structure Credentials.IsUsable (c : Credentials) : Prop where
  clientToken : Http.legalValue (Utf8.bytes c.clientToken) = true
  accessToken : Http.legalValue (Utf8.bytes c.accessToken) = true

/-- The time and the number used once may stand in a header field. -/
structure Signing.Stamp.IsUsable (stamp : Signing.Stamp) : Prop where
  timestamp : Http.legalValue (Utf8.bytes stamp.timestamp) = true
  nonce : Http.legalValue (Utf8.bytes stamp.nonce) = true

namespace Signing

variable {c : Credentials} {stamp : Stamp}

/-- **What authorizes a request may stand in a header field**, if the tokens, the time and the
number used once may. -/
theorem legalValue_authorization (hc : c.IsUsable) (hstamp : stamp.IsUsable) (method : String)
    (url : Net.Url) (body : List UInt8) :
    Http.legalValue (Utf8.bytes
      (authorization c method url body stamp.timestamp stamp.nonce)) = true := by
  have hsignature : ∀ secret data,
      Http.legalValue (Utf8.bytes (signature secret stamp.timestamp data)) = true := by
    intro secret data
    rw [signature, keyedHash]
    exact Http.legalValue_encodePadded _
  have hliterals : ∀ s ∈ ["EG1-HMAC-SHA256 client_token=", ";access_token=", ";timestamp=",
      ";nonce=", ";", "signature="], Http.legalValue (Utf8.bytes s) = true := by
    decide +kernel
  simp only [List.forall_mem_cons] at hliterals
  obtain ⟨hfirst, haccess, htime, hnonce, hend, hbefore, -⟩ := hliterals
  unfold authorization header
  simp only [Utf8.bytes_append, Http.legalValue_append, Bool.and_eq_true]
  exact ⟨⟨⟨⟨⟨⟨⟨⟨⟨⟨hfirst, hc.clientToken⟩, haccess⟩, hc.accessToken⟩, htime⟩, hstamp.timestamp⟩,
    hnonce⟩, hstamp.nonce⟩, hend⟩, hbefore⟩, hsignature _ _⟩

/-- **A request is signed if its body is at hand**, by complete credentials with usable tokens. -/
theorem sign_of_load {file : Option (List UInt8)} {order : Nested.Order}
    (hload : Credentials.load file order = .ok c) (hc : c.IsUsable) (hstamp : stamp.IsUsable)
    (r : Outbound) : Signer.ofFile stamp order file r = match buffered? r.body with
      | none => .error .streamingBody
      | some body => .ok { r with
          headers := r.headers.set "authorization" (Utf8.bytes
            (authorization c r.method r.url body stamp.timestamp stamp.nonce)) } := by
  rw [Signer.ofFile, sign_eq, hload]
  dsimp only [signWith]
  cases buffered? r.body with
  | none => rfl
  | some body => exact if_pos (legalValue_authorization hc hstamp _ _ _)

end Signing

end PurgeGateway
