import ApiShell.CommandLine.Touched

/-! The command in its surroundings: it reads the files that it may look at, carries out the
command on them, and writes what has changed. -/

namespace ApiShell

/-- A place as the text of an absolute path. -/
def placeText (place : List String) : String :=
  "/" ++ "/".intercalate place

/-- Adds what is found at a place to the files that are known. -/
def probePlace (t : FileTree) (place : List String) : IO FileTree := do
  if t.has place then return t
  try
    return t.addFile place (← IO.FS.readBinFile (placeText place))
  catch _ =>
    try
      let _ ← IO.FS.realPath (placeText place ++ "/.")
      return t.addDir place
    catch _ => return t

/-- Adds what is found on the way along a path. -/
def probe (t : FileTree) (path : Path) : IO FileTree := do
  if path.holdsNull then return t
  let start := if path.isAbsolute then [] else t.cwd
  let (t, _) ← path.parts.foldlM (fun (t, place) part => do
    let place := Path.walk place part
    return (← probePlace t place, place)) (t, start)
  return t

/-- Reads files until nothing that the command looks at is left to be found. -/
partial def gather (arguments : List String) (seen : List Path) (t : FileTree) : IO FileTree := do
  match (CommandLine.touched arguments t).filter fun path => !seen.contains path with
  | [] => return t
  | paths => gather arguments (seen ++ paths) (← paths.foldlM probe t)

/-- Writes the directories and files that are new or have changed. -/
def commit (before after : FileTree) : IO Unit := do
  for place in after.dirs do
    unless before.hasDir place do IO.FS.createDir (placeText place)
  for (place, content) in after.files do
    unless before.content? place == some content do
      IO.FS.writeBinFile (placeText place) content

/-- The files around the working directory, before any is read. -/
def surroundings : IO FileTree := do
  let cwd := (← IO.currentDir).toString
  return .empty (Path.ofText cwd).parts

end ApiShell

open ApiShell in
/-- Carries out the command with the arguments of the program. -/
def main (arguments : List String) : IO UInt32 := do
  let before ← gather arguments [] (← surroundings)
  match CommandLine.command arguments before with
  | .error interruption =>
    IO.eprintln interruption.message
    return 1
  | .ok outcome =>
    commit before outcome.tree
    IO.print outcome.output
    IO.eprint outcome.errors
    return outcome.status.toUInt32
