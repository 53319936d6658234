/-!
# A tree of files

Files, directories and links below one directory, the top, which always exists and is where relative
paths start as well. A place in the tree is told by the names on the way down to it. A path is what
is written: it leads to a place by names, may go up again by `..`, and goes on along the links that
it comes by. Nothing is looked up in a directory that is closed.

Operations fail the way a file system does. Whatever else may stop one, the rights of a user or the
room that is left, does not show in the tree; it is given apart. An operation that fails may have
changed something before.

## Main definitions

* `FileTree`: what stands at which place.
* `FileTree.pathOf`, `FileTree.lead`: the path that a text writes, and the place that it leads to.
* `FileTree.find`: what stands where a path leads.
* `FileTree.Refusals`: what is refused although nothing in the tree stands against it.
* `FileTree.makeDirs`, `writing`: directories made one at a time, and a file written.
* `FileTree.createDirs`, `write`, `read`, `remove`: operations of which nothing is refused.
-/

namespace PurgeGateway

/-- The names that a path is written with. The name `..` leads up; `.` and the empty name stay, and
are kept at the end of a path only. -/
abbrev FilePath := List String

/-- The names on the way down to an entry. -/
abbrev Place := List String

/-- What stands at a place. The path of a link starts at the top or beside the link. -/
inductive FileEntry
  | file (content : List UInt8)
  | directory
  | link (fromTop : Bool) (target : FilePath)
  deriving DecidableEq, Repr, Inhabited

/-- Why an operation on files fails. -/
inductive FileError
  | notFound
  | permissionDenied
  | alreadyExists
  | notADirectory
  | isADirectory
  | filesystemLoop
  | storageFull
  | invalidData
  deriving DecidableEq, Repr, Inhabited

/-- What an error is called. -/
def FileError.name : FileError → String
  | .notFound => "NotFound"
  | .permissionDenied => "PermissionDenied"
  | .alreadyExists => "AlreadyExists"
  | .notADirectory => "NotADirectory"
  | .isADirectory => "IsADirectory"
  | .filesystemLoop => "FilesystemLoop"
  | .storageFull => "StorageFull"
  | .invalidData => "InvalidData"

/-- What stands at which place, and which directories are closed. -/
structure FileTree where
  entries : List (Place × FileEntry) := []
  closed : List Place := []
  deriving Repr, Inhabited

namespace FileTree

/-! ### Paths -/

/-- The name stays where it is. -/
def stays (name : String) : Bool :=
  name == "" || name == "."

/-- The path that a text writes: the names between slashes. Of the names that stay only one at the
end is kept, which asks for a directory. The empty text is the empty path. -/
def pathOf (s : String) : FilePath :=
  if s.isEmpty then []
  else
    let names := (s.toList.splitOn '/').map String.ofList
    names.filter (!stays ·) ++ (names.getLast?.filter stays).toList

/-- The names of a path that lead on. -/
def names (p : FilePath) : FilePath :=
  p.filter (!stays ·)

/-- The path of the directory in which a path ends. -/
def parent (p : FilePath) : FilePath :=
  (names p).dropLast

/-! ### Walking -/

/-- What stands at a place. -/
def entry? (t : FileTree) (q : Place) : Option FileEntry :=
  if q.isEmpty then some .directory else t.entries.lookup q

/-- The place to which a name leads from a place, where a directory has to be. -/
def stepTo (t : FileTree) (q : Place) (name : String) : Except FileError Place :=
  match t.entry? q with
  | none => .error .notFound
  | some .directory =>
    if name = "" then .ok q
    else if t.closed.contains q then .error .permissionDenied
    else if name = "." then .ok q
    else if name = ".." then .ok q.dropLast
    else .ok (q ++ [name])
  | some _ => .error .notADirectory

/-- The place to which a path leads from a place. From where a link stands, `follow` leads on. -/
def walkBy (t : FileTree) (follow : Place → FilePath → Except FileError Place) (q : Place) :
    FilePath → Except FileError Place
  | [] => .ok q
  | name :: rest =>
    match t.stepTo q name with
    | .error e => .error e
    | .ok next =>
      match t.entry? next with
      | some (.link fromTop target) =>
        follow (if fromTop then [] else q) (target ++ rest)
      | _ => t.walkBy follow next rest

/-- The place to which a path leads from a place, along some links at most. -/
def walk (t : FileTree) : Nat → Place → FilePath → Except FileError Place
  | 0 => t.walkBy fun _ _ => .error .filesystemLoop
  | links + 1 => t.walkBy (t.walk links)

/-- The number of links that a path may lead along. -/
def maxLinks : Nat := 40

/-- The place to which a path leads, links and all. Nothing need stand there. -/
def lead (t : FileTree) (p : FilePath) : Except FileError Place :=
  if p.isEmpty then .error .notFound else t.walk maxLinks [] p

/-- The place of the last name of a path, where a link is not followed. -/
def leadLast (t : FileTree) (p : FilePath) : Except FileError Place :=
  match p.getLast? with
  | none => .error .notFound
  | some name =>
    match t.walk maxLinks [] p.dropLast with
    | .error e => .error e
    | .ok q => t.stepTo q name

/-! ### Looking -/

/-- What stands where a path leads. -/
def find (t : FileTree) (p : FilePath) : Except FileError FileEntry :=
  match t.lead p with
  | .error e => .error e
  | .ok q =>
    match t.entry? q with
    | some e => .ok e
    | none => .error .notFound

/-- Something is found where the path leads. A look that fails finds nothing. -/
def contains (t : FileTree) (p : FilePath) : Bool :=
  match t.find p with
  | .ok _ => true
  | .error _ => false

/-- A directory is found where the path leads. -/
def isDirectory (t : FileTree) (p : FilePath) : Bool :=
  match t.find p with
  | .ok .directory => true
  | _ => false

/-- The content of a file. -/
def read (t : FileTree) (p : FilePath) : Except FileError (List UInt8) :=
  match t.find p with
  | .ok (.file content) => .ok content
  | .ok _ => .error .isADirectory
  | .error e => .error e

/-! ### Changing -/

/-- The tree with an entry at a place. -/
def put (t : FileTree) (q : Place) (e : FileEntry) : FileTree :=
  { t with entries := (q, e) :: t.entries.filter (·.1 != q) }

/-- What a file system refuses although nothing in the tree stands against it: to make a directory
at a place, to open a file at a place for writing, and to write more than so many bytes. -/
structure Refusals where
  directory : Place → Option FileError := fun _ => none
  file : Place → Option FileError := fun _ => none
  beyond : Option (Nat × FileError) := none
  deriving Inhabited

/-- The tree with one directory more, where nothing stood. -/
def makeDir (t : FileTree) (refused : Refusals) (p : FilePath) : Except FileError FileTree :=
  match t.leadLast p with
  | .error e => .error e
  | .ok q =>
    if (t.entry? q).isSome then .error .alreadyExists
    else
      match refused.directory q with
      | some e => .error e
      | none => .ok (t.put q .directory)

/-- What comes of making a directory, where one that is there already will do. -/
def orThere (t : FileTree) (p : FilePath) (made : Except FileError FileTree) :
    FileTree × Except FileError Unit :=
  match made with
  | .ok after => (after, .ok ())
  | .error e => (t, if t.isDirectory p then .ok () else .error e)

/-- The directories down a path, which is given from its last name up. The last directory is tried
first; if there is nothing to put it in, that is made and the last one tried again. -/
def makeDirs (t : FileTree) (refused : Refusals) :
    List String → FileTree × Except FileError Unit
  | [] => (t, .ok ())
  | name :: above =>
    let p := (name :: above).reverse
    match t.makeDir refused p with
    | .error .notFound =>
      match t.makeDirs refused above with
      | (t, .ok ()) => t.orThere p (t.makeDir refused p)
      | failed => failed
    | made => t.orThere p made

/-- The place of the file that is opened for writing, which may still be made. A path with a slash
at its end leads to no file. -/
def opening (t : FileTree) (p : FilePath) : Except FileError Place :=
  if p.getLast? = some "" then
    match t.leadLast p.dropLast with
    | .error e => .error e
    | .ok _ => .error .isADirectory
  else
    match t.lead p with
    | .error e => .error e
    | .ok q => if t.entry? q = some .directory then .error .isADirectory else .ok q

/-- The tree with content in a file. A file that is opened is empty at first, and one that cannot be
written to its end keeps what was written. -/
def writing (t : FileTree) (refused : Refusals) (p : FilePath) (content : List UInt8) :
    FileTree × Except FileError Unit :=
  match t.opening p with
  | .error e => (t, .error e)
  | .ok q =>
    match refused.file q with
    | some e => (t, .error e)
    | none =>
      match refused.beyond.filter (·.1 < content.length) with
      | some (n, e) => (t.put q (.file (content.take n)), .error e)
      | none => (t.put q (.file content), .ok ())

/-- The tree that an operation came to, if it succeeded. -/
def settled {α : Type} (done : FileTree × Except FileError α) : Except FileError (FileTree × α) :=
  done.2.map fun result => (done.1, result)

/-- The tree with a directory where a path leads and on the way to it. -/
def createDirs (t : FileTree) (p : FilePath) : Except FileError FileTree :=
  (settled (t.makeDirs {} (names p).reverse)).map (·.1)

/-- The tree with content in a file. -/
def write (t : FileTree) (p : FilePath) (content : List UInt8) : Except FileError FileTree :=
  (settled (t.writing {} p content)).map (·.1)

/-- The tree without a file or a link. -/
def remove (t : FileTree) (p : FilePath) : Except FileError FileTree :=
  match t.leadLast p with
  | .error e => .error e
  | .ok q =>
    match t.entry? q with
    | none => .error .notFound
    | some .directory => .error .isADirectory
    | some _ => .ok { t with entries := t.entries.filter (·.1 != q) }

end FileTree

end PurgeGateway
