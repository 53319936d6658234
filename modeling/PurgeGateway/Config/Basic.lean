import PurgeGateway.Credentials.Basic
import PurgeGateway.Fields
import PurgeGateway.Text.Blank

/-!
# Configuration

The gateway is configured in four sections: the listener, the access log, the invalidation API,
and warming. Every setting has a value of its own if none is given.

## Main definitions

* `Config`: the four sections.
* `NameTable`: texts under names, in the order of the names.
* `Config.Listener.maxBodySize`, `Config.Api.baseUrl`: values that follow from settings.
-/

namespace PurgeGateway

/-! ### Tables of names -/

/-- Texts under names, in the order of the names, each name once. -/
structure NameTable where
  entries : List (String × String)
  sorted : entries.Pairwise (fun a b => a.1 < b.1)
  deriving Repr

namespace NameTable

/-- The table without names. -/
def empty : NameTable :=
  ⟨[], .nil⟩

instance : Inhabited NameTable := ⟨empty⟩

/-- The entries with one put in its place; a value under the same name is replaced. -/
def insertEntry (name value : String) : List (String × String) → List (String × String)
  | [] => [(name, value)]
  | (n, v) :: rest =>
    if name < n then (name, value) :: (n, v) :: rest
    else if name = n then (name, value) :: rest
    else (n, v) :: insertEntry name value rest

theorem lt_of_not_lt_of_ne {a b : String} (h : ¬a < b) (hne : a ≠ b) : b < a :=
  Classical.byContradiction fun h' => hne (String.le_antisymm (String.not_lt.1 h')
    (String.not_lt.1 h))

theorem mem_insertEntry {name value : String} {e : String × String}
    {entries : List (String × String)} (h : e ∈ insertEntry name value entries) :
    e = (name, value) ∨ e ∈ entries := by
  induction entries with
  | nil => simpa [insertEntry] using h
  | cons head rest ih =>
    simp only [insertEntry] at h
    split at h
    · simpa using h
    · split at h
      · rcases List.mem_cons.1 h with h | h
        · exact .inl h
        · exact .inr (List.mem_cons_of_mem _ h)
      · rcases List.mem_cons.1 h with h | h
        · exact .inr (h ▸ List.mem_cons_self)
        · rcases ih h with h | h
          · exact .inl h
          · exact .inr (List.mem_cons_of_mem _ h)

theorem sorted_insertEntry (name value : String) {entries : List (String × String)}
    (h : entries.Pairwise (fun a b => a.1 < b.1)) :
    (insertEntry name value entries).Pairwise (fun a b => a.1 < b.1) := by
  induction entries with
  | nil => simp [insertEntry]
  | cons head rest ih =>
    obtain ⟨hhead, hrest⟩ := List.pairwise_cons.1 h
    simp only [insertEntry]
    split
    · next hlt =>
      refine List.pairwise_cons.2 ⟨fun e he => ?_, h⟩
      rcases List.mem_cons.1 he with rfl | he
      · exact hlt
      · exact String.lt_trans hlt (hhead e he)
    · next hnlt =>
      split
      · next heq => exact List.pairwise_cons.2 ⟨fun e he => heq ▸ hhead e he, hrest⟩
      · next hne =>
        refine List.pairwise_cons.2 ⟨fun e he => ?_, ih hrest⟩
        rcases mem_insertEntry he with rfl | he
        · exact lt_of_not_lt_of_ne hnlt hne
        · exact hhead e he

/-- The table with a value under a name. -/
def insert (t : NameTable) (name value : String) : NameTable :=
  ⟨insertEntry name value t.entries, sorted_insertEntry name value t.sorted⟩

/-- The table of pairs; of two under one name the later counts. -/
def ofList (pairs : List (String × String)) : NameTable :=
  pairs.foldl (fun t p => t.insert p.1 p.2) empty

end NameTable

/-! ### Sections -/

namespace Config

/-- The listener: where it waits for requests, and what it grants them. -/
structure Listener where
  address : String := "0.0.0.0:8080"
  timeoutSecs : Nat := 30
  maxBodySizeMb : Nat := 10
  deriving Repr, Inhabited

/-- The largest size that can be counted. -/
def maxSize : Nat := 0xffffffffffffffff

/-- The largest body in bytes. -/
def Listener.maxBodySize (l : Listener) : Nat :=
  min (l.maxBodySizeMb * (1024 * 1024)) maxSize

/-- The acting user in the access log: whether to look for one, and where. -/
structure UserSetting where
  enabled : Bool := false
  header : String := ""
  claim : String := ""
  deriving Repr, Inhabited

/-- The access log. -/
structure Logs where
  enabled : Bool := false
  fields : List String := []
  user : UserSetting := {}
  deriving Repr, Inhabited

/-- What the access log takes from exchanges. -/
def Logs.extractor (l : Logs) : Extractor where
  templates := l.fields.map Template.mk
  user := if l.user.enabled then some ⟨l.user.header, l.user.claim⟩ else none

/-- The place of the credentials file if none is configured. -/
def defaultCredentialsPath : String := "/tmp/.edgerc"

/-- The invalidation API and the credentials for it. -/
structure Api where
  host : String := ""
  clientSecret : String := ""
  clientToken : String := ""
  accessToken : String := ""
  credentialsPath : String := defaultCredentialsPath
  deriving Repr, Inhabited

/-- The credentials that are configured. -/
def Api.credentials (a : Api) : Credentials :=
  ⟨a.host, a.clientSecret, a.clientToken, a.accessToken⟩

/-- The characters hold `://`. -/
def hasScheme (cs : List Char) : Bool :=
  match cs with
  | [] => false
  | c :: rest => "://".toList.isPrefixOf (c :: rest) || hasScheme rest

/-- The address that all calls of the API start with. A host without a scheme is taken to speak
`https`. -/
def Api.baseUrl (a : Api) : String :=
  let host := Text.trimEndOf '/' (Text.trim a.host)
  if hasScheme host.toList then host else "https://" ++ host

/-- How the section is shown in diagnostics. -/
def Api.diagnostic (a : Api) : String :=
  let secret := Text.quote "<redacted>"
  "AkamaiConfig \x7b host: " ++ Text.quote a.host ++ ", client_secret: " ++ secret ++
    ", client_token: " ++ secret ++ ", access_token: " ++ secret ++ ", credentials_path: " ++
    Text.quote a.credentialsPath ++ " \x7d"

/-- Warming: whether purged paths are fetched again, and the header fields sent with that. -/
structure Warming where
  enabled : Bool := false
  headers : NameTable := .empty
  deriving Repr, Inhabited

end Config

/-- The configuration of the gateway. -/
structure Config where
  listener : Config.Listener := {}
  logs : Config.Logs := {}
  api : Config.Api := {}
  warming : Config.Warming := {}
  deriving Repr, Inhabited

end PurgeGateway
