import ApiShell.Files.Tree
import ApiShell.Log.Record

/-! Where records go: those that matter enough to the console, and all of them to a log file
where one is asked for. -/

namespace ApiShell.Log

/-- What is asked of the log. -/
structure Request where
  verbose : Bool := false
  quiet : Bool := false
  file : Option Path := none

/-- The least level the console shows. To be quiet is stronger than to be verbose. -/
def Request.consoleLevel (r : Request) : Level :=
  if r.quiet then .warning else if r.verbose then .debug else .info

/-- The least level that is recorded at all. -/
def Request.level (r : Request) : Level :=
  if r.file.isSome then .debug else r.consoleLevel

/-- The least levels of the places that records go to: the console, and the file if there is
one. -/
def Request.sinkLevels (r : Request) : List Level :=
  r.consoleLevel :: (if r.file.isSome then [.debug] else [])

/-- The line that the console shows for a record, if it shows one. Of records from elsewhere it
shows warnings and errors, as they are. -/
def Request.consoleLine? (r : Request) (record : Record) : Option String :=
  if record.isOwn then
    if r.consoleLevel.rank ≤ record.level.rank then some record.consoleLine else none
  else if Level.warning.rank ≤ record.level.rank then some record.message
  else none

/-- What the console shows of records. -/
def Request.console (r : Request) (records : List Record) : String :=
  String.join ((records.filterMap r.consoleLine?).map (· ++ "\n"))

/-- What a log file keeps of records: those of the program. -/
def fileText (records : List Record) : String :=
  String.join ((records.filter (·.isOwn)).map fun record => record.fileLine ++ "\n")

/-- Makes the log file and its directory ready. -/
def Request.opened (r : Request) (t : FileTree) : Except FileError FileTree :=
  match r.file with
  | none => .ok t
  | some path =>
    let made := t.makeDirs path.parent
    match made.error with
    | some error => .error error
    | none => made.tree.append (path.resolve t.cwd) .empty

/-- The files after records went to the log file, which is ready. -/
def Request.recorded (r : Request) (records : List Record) (t : FileTree) : FileTree :=
  match r.file with
  | none => t
  | some path =>
    let place := path.place t.cwd
    match t.content? place with
    | none => t
    | some before => t.addFile place (before ++ (fileText records).toUTF8)

/-! ## What a run sees -/

/-- The files that a run sees, given the records it has made. Records go to the log file at once,
and the log file may be one that the run reads. -/
abbrev View := List Record → FileTree

/-- Files that no record goes to. -/
def View.still (t : FileTree) : View := fun _ => t

/-- What is seen from the moment on when some records were made. -/
def View.after (files : View) (before : List Record) : View := fun records =>
  files (before ++ records)

/-- What a run sees while its records go where a request sends them. -/
def Request.view (r : Request) (t : FileTree) : View := fun records => r.recorded records t

@[simp]
theorem View.still_apply (t : FileTree) (records : List Record) : View.still t records = t := rfl

@[simp]
theorem View.after_still (t : FileTree) (before : List Record) :
    (View.still t).after before = View.still t := rfl

end ApiShell.Log
