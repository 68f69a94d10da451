import ApiShell.Files.Path
import ApiShell.Text.Quoted

/-! A tree of files and directories, and the operations a run performs on it. Places are
absolute: lists of names from the root down. -/

namespace ApiShell

/-- Why an operation on files fails. -/
inductive FileError where
  | notFound (path : Path)
  | alreadyThere (path : Path)
  | notDirectory (path : Path)
  | isDirectory (path : Path)
  /-- A name on the path, or the path itself, is longer than names and paths can be. -/
  | nameTooLong (path : Path)
  /-- A name cannot hold the null character. -/
  | nullInName
  deriving DecidableEq, Repr

/-- The wording of a failure, with the number of its kind. -/
def FileError.message : FileError → String
  | .notFound p => "[Errno 2] No such file or directory: " ++ Text.quoted p.text
  | .alreadyThere p => "[Errno 17] File exists: " ++ Text.quoted p.text
  | .notDirectory p => "[Errno 20] Not a directory: " ++ Text.quoted p.text
  | .isDirectory p => "[Errno 21] Is a directory: " ++ Text.quoted p.text
  | .nameTooLong p => "[Errno 36] File name too long: " ++ Text.quoted p.text
  | .nullInName => "embedded null byte"

/-- Files with their contents and directories, and the working directory. -/
structure FileTree where
  cwd : List String := []
  dirs : List (List String) := []
  files : List (List String × ByteArray) := []

namespace FileTree

/-- All places above a place and the place itself. -/
def ancestors (place : List String) : List (List String) :=
  (List.range (place.length + 1)).map (place.take ·)

/-- A tree with nothing but its working directory. -/
def empty (cwd : List String) : FileTree :=
  { cwd, dirs := ancestors cwd }

/-- Whether there is a directory at a place. -/
def hasDir (t : FileTree) (place : List String) : Bool :=
  t.dirs.contains place

/-- The content of the file at a place. -/
def content? (t : FileTree) (place : List String) : Option ByteArray :=
  t.files.lookup place

/-- Whether there is anything at a place. -/
def has (t : FileTree) (place : List String) : Bool :=
  t.hasDir place || (t.content? place).isSome

/-- The tree with a directory added. -/
def addDir (t : FileTree) (place : List String) : FileTree :=
  if t.hasDir place then t else { t with dirs := t.dirs ++ [place] }

/-- The tree with a file added or replaced. -/
def addFile (t : FileTree) (place : List String) (content : ByteArray) : FileTree :=
  { t with files := if (t.content? place).isSome
      then t.files.map fun (p, c) => if p = place then (p, content) else (p, c)
      else t.files ++ [(place, content)] }

/-- The tree with a file or directory and all directories above it. -/
def plant (t : FileTree) (place : List String) (content : Option ByteArray) : FileTree :=
  match content with
  | none => (ancestors place).foldl addDir t
  | some bytes => ((ancestors place.dropLast).foldl addDir t).addFile place bytes

/-- The most bytes a name can have. -/
def nameLimit : Nat := 255

/-- The most bytes a path can have. -/
def pathLimit : Nat := 4095

/-- Follows parts from a place. Every part is looked up in a directory that has to exist. -/
def follow (t : FileTree) (path : Path) : List String → List String → Except FileError (List String)
  | place, [] => .ok place
  | place, part :: rest =>
    if t.hasDir place then
      if nameLimit < part.utf8ByteSize then .error (.nameTooLong path)
      else follow t path (Path.walk place part) rest
    else if (t.content? place).isSome then .error (.notDirectory path)
    else .error (.notFound path)

/-- The place a path leads to; its last part need not exist. -/
def locate (t : FileTree) (p : Path) : Except FileError (List String) :=
  if pathLimit < p.text.utf8ByteSize then .error (.nameTooLong p)
  else t.follow p (if p.isAbsolute then [] else t.cwd) p.parts

/-- The place to look at when it is asked what is at a path. There is none where a directory on
the way is missing; a name that is too long cannot be asked about. -/
def lookAt (t : FileTree) (p : Path) : Except FileError (Option (List String)) :=
  if p.holdsNull then .ok none
  else match t.locate p with
    | .ok place => .ok (some place)
    | .error (.nameTooLong path) => .error (.nameTooLong path)
    | .error _ => .ok none

/-- The content of the file at a path. -/
def read? (t : FileTree) (p : Path) : Option ByteArray :=
  match t.locate p with
  | .ok place => t.content? place
  | .error _ => none

/-- Whether there is a file at a path. -/
def isFile (t : FileTree) (p : Path) : Except FileError Bool :=
  (t.lookAt p).map fun place => place.any fun place => (t.content? place).isSome

/-- Whether there is a directory at a path. -/
def isDir (t : FileTree) (p : Path) : Except FileError Bool :=
  (t.lookAt p).map fun place => place.any t.hasDir

/-- Whether there is anything at a path. -/
def isThere (t : FileTree) (p : Path) : Except FileError Bool :=
  (t.lookAt p).map fun place => place.any t.has

/-- The first of some paths at which there is a file. -/
def firstFile? (t : FileTree) : List Path → Except FileError (Option Path)
  | [] => .ok none
  | path :: rest =>
    match t.isFile path with
    | .error error => .error error
    | .ok true => .ok (some path)
    | .ok false => firstFile? t rest

/-- Makes one directory, unless it is there. -/
def makeDir (t : FileTree) (p : Path) : Except FileError FileTree := do
  if p.holdsNull then .error .nullInName
  else
    let place ← t.locate p
    if t.hasDir place then pure t
    else if (t.content? place).isSome then .error (.alreadyThere p)
    else pure (t.addDir place)

/-- What became of the files in an attempt to change them, and why it failed if it did. -/
structure Attempt where
  tree : FileTree
  error : Option FileError := none

/-- Makes a directory, given by its parts from the last to the first, and before it those above
it that are missing. Those above stay where the last one cannot be made. -/
def makeDirsFrom (root : String) : List String → FileTree → Attempt
  | [], t =>
    match t.makeDir { root } with
    | .ok made => { tree := made }
    | .error error => { tree := t, error := some error }
  | part :: above, t =>
    let path : Path := { root, parts := (part :: above).reverse }
    match t.makeDir path with
    | .ok made => { tree := made }
    | .error (.notFound _) =>
      let below := makeDirsFrom root above t
      match below.error with
      | some _ => below
      | none =>
        match below.tree.makeDir path with
        | .ok made => { tree := made }
        | .error error => { below with error := some error }
    | .error error => { tree := t, error := some error }

/-- Makes a directory and those above it that are missing. -/
def makeDirs (t : FileTree) (p : Path) : Attempt :=
  makeDirsFrom p.root p.parts.reverse t

/-- Writes a file whose directory exists. -/
def write (t : FileTree) (p : Path) (content : ByteArray) : Except FileError FileTree := do
  if p.holdsNull then .error .nullInName
  else
    let place ← t.locate p
    if t.hasDir place then .error (.isDirectory p) else pure (t.addFile place content)

/-- Writes a file, making the directories above it. -/
def save (t : FileTree) (p : Path) (content : ByteArray) : Attempt :=
  let made := t.makeDirs p.parent
  match made.error with
  | some _ => made
  | none =>
    match made.tree.write p content with
    | .ok tree => { tree }
    | .error error => { made with error := some error }

/-- Writes to the end of a file whose directory exists; a missing file is made. -/
def append (t : FileTree) (p : Path) (content : ByteArray) : Except FileError FileTree :=
  t.write p (((t.read? p).getD .empty) ++ content)

/-- The files below the working directory that are new or have another content than before,
each with its path from there. -/
def changes (before after : FileTree) : List (String × ByteArray) :=
  after.files.filterMap fun (place, content) =>
    if after.cwd.isPrefixOf place && before.content? place != some content then
      some ("/".intercalate (place.drop after.cwd.length), content)
    else none

end FileTree

end ApiShell
