import PurgeGateway.Net.Host

/-!
# URLs

A URL is read leniently and kept in one spelling. Blanks around it and tabs and line breaks within
it are dropped; scheme and host are made small; a port that the scheme implies is left out; dot
segments of the path are worked off; characters that may not stand in a part are percent-encoded.
The web schemes are special: their host must not be empty, a backslash counts as a slash, and there
may be any number of slashes in front of the host. The path of a file may start with a drive, which
no dot segment leaves and which takes the place of a host.

## Main definitions

* `Net.Url`: the parts of a URL.
* `Net.Url.ofText?`: the URL that a text writes.
* `Net.Url.text`: the one spelling of a URL.
* `Net.Url.join?`: the URL that a text writes relative to another.
-/

namespace PurgeGateway.Net

/-- The parts of a URL. A query and a fragment may be empty or absent. -/
structure Url where
  scheme : String
  username : String := ""
  password : String := ""
  host : Option Host := none
  port : Option Nat := none
  path : String := ""
  query : Option String := none
  fragment : Option String := none
  deriving DecidableEq, Repr, Inhabited

namespace Url

/-! ### Schemes -/

/-- The scheme is one of the special ones. -/
def isWeb (scheme : String) : Bool :=
  ["http", "https", "ws", "wss", "ftp", "file"].contains scheme

/-- The port that a scheme implies. -/
def defaultPort? (scheme : String) : Option Nat :=
  [("http", 80), ("ws", 80), ("https", 443), ("wss", 443), ("ftp", 21)].lookup scheme

/-- The scheme in front of a colon, and the text behind it. -/
def scheme? (cs : List Char) : Option (String × List Char) :=
  match cs with
  | c :: rest =>
    let inScheme (d : Char) : Bool := d.isAlphanum || d == '+' || d == '-' || d == '.'
    match rest.dropWhile inScheme with
    | ':' :: behind =>
      if c.isAlpha then
        some (Ascii.lowerText (String.ofList (c :: rest.takeWhile inScheme)), behind)
      else none
    | _ => none
  | [] => none

/-! ### Authority -/

/-- The character ends an authority. -/
def endsAuthority (web : Bool) (c : Char) : Bool :=
  c == '/' || c == '?' || c == '#' || (web && c == '\\')

/-- The characters before and after the last at sign, if there is one. -/
def splitUser? (authority : List Char) : Option (List Char × List Char) :=
  let host := (authority.reverse.takeWhile (· != '@')).reverse
  if host.length = authority.length then none
  else some (authority.take (authority.length - host.length - 1), host)

/-- The name and the password of a user, encoded. -/
def userParts (user : List Char) : String × String :=
  let name := user.takeWhile (· != ':')
  let password := (user.dropWhile (· != ':')).drop 1
  let encode (cs : List Char) : String := String.ofList (percentEncode encodedInUser cs)
  (encode name, encode password)

/-- The host at the front of a text and what follows it: a colon outside of brackets ends it. -/
def splitHost (web inBrackets : Bool) : List Char → List Char × List Char
  | [] => ([], [])
  | c :: rest =>
    if endsAuthority web c || (c == ':' && !inBrackets) then ([], c :: rest)
    else
      let inBrackets := if c == '[' then true else if c == ']' then false else inBrackets
      let (host, behind) := splitHost web inBrackets rest
      (c :: host, behind)

/-- The port at the front of a text, and what follows it. Whatever the scheme, a backslash ends a
port. A port that the scheme implies, and an empty one, count as none. -/
def port? (scheme : String) (cs : List Char) : Option (Option Nat × List Char) :=
  match cs with
  | ':' :: rest =>
    let digits := rest.takeWhile (!endsAuthority true ·)
    let behind := rest.dropWhile (!endsAuthority true ·)
    if digits.isEmpty then some (none, behind)
    else
      (Ascii.readBase? 10 digits).bind fun n =>
        if n ≥ 0x10000 then none
        else some (if defaultPort? scheme == some n then none else some n, behind)
  | _ => some (none, cs)

/-- The host of an authority that is there and has no name. -/
def noName : Host :=
  .domain ""

/-- The URL with the host at the front of a text, and what follows the host. -/
def withHost? (url : Url) (cs : List Char) : Option (Url × List Char) :=
  let web := isWeb url.scheme
  match splitHost web false cs with
  | ([], behind) =>
    if web || !url.username.isEmpty || !url.password.isEmpty || behind.head? == some ':' then none
    else some ({ url with host := some noName }, behind)
  | (host, behind) =>
    (if web then Host.ofWeb? host else Host.ofOther? host).map fun host =>
      ({ url with host := some host }, behind)

/-- The URL with the authority at the front of a text, and what follows the authority. An at sign
with nothing on either side of it is refused unless it ends the text. -/
def withAuthority? (url : Url) (cs : List Char) : Option (Url × List Char) :=
  let inAuthority (c : Char) : Bool := !endsAuthority (isWeb url.scheme) c
  let withPort? (url : Url) (cs : List Char) : Option (Url × List Char) :=
    (url.withHost? cs).bind fun (url, behind) =>
      (port? url.scheme behind).map fun (port, behind) => ({ url with port }, behind)
  let behind := cs.dropWhile inAuthority
  match splitUser? (cs.takeWhile inAuthority) with
  | none => withPort? url cs
  | some ([], []) => if behind.isEmpty then withPort? url [] else none
  | some (user, place) =>
    let (username, password) := userParts user
    withPort? { url with username, password } (place ++ behind)

/-! ### Segments of a path -/

/-- The character is a tab or a line break, which counts as nothing within a URL. -/
def isBreak (c : Char) : Bool :=
  c == '\t' || c == '\n' || c == '\r'

/-- The text without tabs and line breaks. -/
def unbroken (cs : List Char) : List Char :=
  cs.filter (!isBreak ·)

/-- The segment means the same place. -/
def isDot (segment : List Char) : Bool :=
  [".", "%2e"].contains (Ascii.lowerText (String.ofList segment))

/-- The segment means the place above. -/
def isDotDot (segment : List Char) : Bool :=
  ["..", ".%2e", "%2e.", "%2e%2e"].contains (Ascii.lowerText (String.ofList segment))

/-- The segment names a drive: a letter with a colon or a bar behind it. -/
def isDrive (segment : List Char) : Bool :=
  match segment with
  | [letter, mark] => letter.isAlpha && (mark == ':' || mark == '|')
  | _ => false

/-- There is no place above the segment: it names a drive, perhaps with a backslash behind it. -/
def isTop (segment : List Char) : Bool :=
  isDrive (segment.takeWhile (· != '\\'))

/-- The segments above those that are given backwards. -/
def above : List (List Char) → List (List Char)
  | [] => []
  | s :: done => if isTop s then s :: done else done

/-- A drive that a tab or a line break parts from what follows it in its segment, and what follows.
-/
def partedDrive? (segment : List Char) : Option (List Char × List Char) :=
  match segment.dropWhile isBreak with
  | letter :: rest =>
    match rest.dropWhile isBreak with
    | ':' :: rest =>
      if letter.isAlpha && rest.head?.any isBreak && !(unbroken rest).isEmpty then
        some ([letter, ':'], unbroken rest)
      else none
    | _ => none
  | [] => none

/-- The segments behind those in `done`, which are backwards, with one more; it may be the last. A
dot segment moves, and leaves an empty segment if it is the last. The first segment of a file's
path may name a drive, which is written with a colon. -/
def enter (file last : Bool) (done : List (List Char)) (segment : List Char) : List (List Char) :=
  let text := percentEncode encodedInPath (unbroken segment)
  let arrive (done : List (List Char)) : List (List Char) := if last then [] :: done else done
  match if file && done.isEmpty then partedDrive? segment else none with
  | some (drive, rest) => [percentEncode encodedInPath rest, drive]
  | none =>
    if isDotDot text then arrive (above done)
    else if isDot text then arrive done
    else if file && done.isEmpty && isDrive text then [text.take 1 ++ [':']]
    else text :: done

/-- Segments with dot segments worked off, behind those in `done`, which are backwards. -/
def resolve (file : Bool) (done : List (List Char)) : List (List Char) → List (List Char)
  | [] => done.reverse
  | segment :: rest => resolve file (enter file rest.isEmpty done segment) rest

/-- The segments that a text writes. In a web address a backslash counts as a slash. -/
def segmentsOf (web : Bool) (cs : List Char) : List (List Char) :=
  (if web then cs.map fun c => if c == '\\' then '/' else c else cs).splitOn '/'

/-- The path of segments. -/
def pathOf (segments : List (List Char)) : String :=
  String.ofList ('/' :: ['/'].intercalate segments)

/-! ### Paths -/

/-- A path of segments, given the text behind its first slash. -/
def slashedPath (web : Bool) (cs : List Char) : String :=
  pathOf (resolve false [] (segmentsOf web cs))

/-- The path behind an authority. A web address has at least a slash. -/
def pathAfterHost (web : Bool) (cs : List Char) : String :=
  match cs with
  | [] => if web then "/" else ""
  | c :: rest => if c == '/' || (web && c == '\\') then slashedPath web rest else slashedPath web cs

/-! ### Query and fragment -/

/-- The text behind a path: a query behind a question mark, a fragment behind a hash. -/
def withTail (url : Url) (tail : List Char) : Url :=
  let (query, behind) := match tail with
    | '?' :: rest =>
      let query := rest.takeWhile (· != '#')
      (some (percentEncode (encodedInQuery (isWeb url.scheme)) query), rest.dropWhile (· != '#'))
    | _ => (none, tail)
  let fragment := match behind with
    | '#' :: rest => some (percentEncode encodedInFragment rest)
    | _ => none
  { url with query := query.map String.ofList, fragment := fragment.map String.ofList }

/-! ### Reading -/

/-- The character ends a path. -/
def endsPath (c : Char) : Bool :=
  c == '?' || c == '#'

/-- The text without controls and blanks at its ends. -/
def trimmed (s : String) : List Char :=
  let isEdge (c : Char) : Bool := c.toNat ≤ 0x20
  ((s.toList.dropWhile isEdge).reverse.dropWhile isEdge).reverse

/-- The URL with an authority and what follows it. -/
def withHierarchy? (url : Url) (cs : List Char) : Option Url :=
  (url.withAuthority? cs).map fun (url, rest) =>
    let path := pathAfterHost (isWeb url.scheme) (rest.takeWhile (!endsPath ·))
    { url with path }.withTail (rest.dropWhile (!endsPath ·))

/-- The text behind a slash at its front, not counting tabs and line breaks before it. -/
def behindSlash? (cs : List Char) : Option (List Char) :=
  match cs.dropWhile isBreak with
  | c :: rest => if c == '/' || c == '\\' then some rest else none
  | [] => none

/-- The URL of a file with a host, if there is one, and the text of its path and what follows it. A
drive has no host. Empty segments at the front are left out. -/
def file (host : Option Host) (cs : List Char) : Url :=
  let segments := resolve true [] (segmentsOf true (cs.takeWhile (!endsPath ·)))
  let host := if segments.head?.any isDrive then noName else host.getD noName
  let path := pathOf (segments.dropWhile List.isEmpty)
  ({ scheme := "file", host := some host, path } : Url).withTail
    (unbroken (cs.dropWhile (!endsPath ·)))

/-- The URL of a file behind two slashes: a host comes first, unless a drive does. -/
def fileWithHost? (cs : List Char) : Option Url :=
  let hostChars := unbroken (cs.takeWhile (!endsAuthority true ·))
  let rest := cs.dropWhile (!endsAuthority true ·)
  if isDrive hostChars then some (file none cs)
  else if hostChars.isEmpty then some (file none rest)
  else
    (Host.ofWeb? hostChars).map fun host =>
      if host = .domain "localhost" then file none rest
      else file (some host) ((behindSlash? rest).getD rest)

/-- The URL of a file behind its scheme. -/
def ofFile? (cs : List Char) : Option Url :=
  match behindSlash? cs with
  | none => some (file none cs)
  | some rest =>
    match behindSlash? rest with
    | none => some (file none rest)
    | some rest => fileWithHost? rest

/-- The URL behind its scheme, unless it is a file's. Without an authority the path is kept whole
unless it starts with a slash. -/
def ofSchemeAndRest? (scheme : String) (rest : List Char) : Option Url :=
  if isWeb scheme then
    ({ scheme } : Url).withHierarchy? (rest.dropWhile fun c => c == '/' || c == '\\')
  else
    match rest with
    | '/' :: '/' :: rest => ({ scheme } : Url).withHierarchy? rest
    | _ =>
      let path := rest.takeWhile (!endsPath ·)
      let text := match path with
        | '/' :: inner => slashedPath false inner
        | _ => String.ofList (percentEncode isControl path)
      some (({ scheme, path := text } : Url).withTail (rest.dropWhile (!endsPath ·)))

/-- The URL that characters write. -/
def ofChars? (cs : List Char) : Option Url :=
  (scheme? (unbroken cs)).bind fun (scheme, rest) =>
    if scheme = "file" then ofFile? ((cs.dropWhile (· != ':')).drop 1)
    else ofSchemeAndRest? scheme rest

/-- The URL that a text writes. -/
def ofText? (s : String) : Option Url :=
  ofChars? (trimmed s)

/-! ### Writing -/

/-- The host as it is written, empty if there is none or it has no name. -/
def hostText (url : Url) : String :=
  (url.host.map Host.text).getD ""

/-- The host and the port, if there is one. -/
def hostAndPort (url : Url) : String :=
  match url.port with
  | some port => url.hostText ++ ":" ++ Ascii.decimal port
  | none => url.hostText

/-- The path and the query, if there is one. -/
def target (url : Url) : String :=
  match url.query with
  | some query => url.path ++ "?" ++ query
  | none => url.path

/-- The name and the password of the user in front of an at sign, if there are any. -/
def userText (url : Url) : String :=
  if url.username.isEmpty && url.password.isEmpty then ""
  else if url.password.isEmpty then url.username ++ "@"
  else url.username ++ ":" ++ url.password ++ "@"

/-- What stands in front of the path. Without a host, a path that starts with two slashes is kept
apart from the scheme by a dot. -/
def origin (url : Url) : String :=
  if url.host.isSome then url.scheme ++ "://" ++ url.userText ++ url.hostAndPort
  else if url.path.startsWith "//" then url.scheme ++ ":/."
  else url.scheme ++ ":"

/-- The one spelling of a URL. -/
def text (url : Url) : String :=
  url.origin ++ url.target ++ (url.fragment.map ("#" ++ ·)).getD ""

/-! ### Relative URLs -/

/-- The URL has a path that is kept whole. -/
def isWhole (url : Url) : Bool :=
  url.host.isNone && !url.path.startsWith "/"

/-- The path behind its first slash, up to its last slash. -/
def directory (url : Url) : List Char :=
  (url.path.toList.reverse.dropWhile (· != '/')).reverse.drop 1

/-- The URL with another path and what follows it, given the text behind the path's first slash. -/
def withPath (url : Url) (cs : List Char) : Url :=
  let path := slashedPath (isWeb url.scheme) (cs.takeWhile (!endsPath ·))
  { url with path }.withTail (cs.dropWhile (!endsPath ·))

/-- The URL that a text without a scheme writes relative to another. -/
def relative? (base : Url) (cs : List Char) : Option Url :=
  let isSlash (c : Char) : Bool := c == '/' || c == '\\'
  match cs with
  | [] => some { base with fragment := none }
  | '#' :: rest =>
    some { base with fragment := some (String.ofList (percentEncode encodedInFragment rest)) }
  | '?' :: _ => some (base.withTail cs)
  | '/' :: '/' :: rest => ({ scheme := base.scheme } : Url).withHierarchy? rest
  | c :: rest =>
    if isSlash c && rest.head?.any isSlash then
      ({ scheme := base.scheme } : Url).withHierarchy? (rest.dropWhile isSlash)
    else some (base.withPath (if isSlash c then rest else base.directory ++ cs))

/-- The URL that a text writes relative to another. With a scheme it stands alone, but the scheme of
a web address may be repeated in front of a relative one. -/
def join? (base : Url) (s : String) : Option Url :=
  let cs := unbroken (trimmed s)
  let hasTwoSlashes (cs : List Char) : Bool :=
    2 ≤ (cs.takeWhile fun c => c == '/' || c == '\\').length
  match scheme? cs with
  | some (scheme, rest) =>
    if scheme = base.scheme && isWeb scheme && !hasTwoSlashes rest then base.relative? rest
    else ofText? s
  | none =>
    if base.isWhole && cs.head? != some '#' then none else base.relative? cs

end Url

end PurgeGateway.Net
