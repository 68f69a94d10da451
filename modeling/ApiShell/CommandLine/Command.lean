import ApiShell.CommandLine.Options
import ApiShell.CommandLine.Usage
import ApiShell.Log.Sink
import ApiShell.Settings.Reader
import ApiShell.Synthesis
import ApiShell.Template.Engine
import ApiShell.Yaml.Reader

/-! The command. It reads its arguments and the settings file, carries out a run, and says on
its two outputs what came of it. Here the reader of YAML and the engine for templates are chosen;
up to here they are left open. -/

namespace ApiShell.CommandLine

/-- What a command leaves behind: its exit status, its outputs and the files. -/
structure Outcome where
  status : Nat := 0
  output : String := ""
  errors : String := ""
  tree : FileTree

/-- What stops a command before it can say what came of it. -/
inductive Interruption where
  /-- The log file cannot be made. -/
  | logFile (error : FileError)
  | settings (error : SettingsError)
  | arguments (error : HollowValue)

/-- The wording of what stops a command. -/
def Interruption.message : Interruption → String
  | .logFile error => error.message
  | .settings error => Settings.errorMessage error
  | .arguments error => error.message

/-- The settings that arguments give on top of the file. -/
def Arguments.overrides (a : Arguments) : Overrides :=
  { library := a.library
    output := a.output
    ignored := a.ignore
    searchPaths := a.searchPath
    noAttributes := if a.noAttributes then some true else none
    forceVirtual := if a.forceVirtual then some true else none
    useTabs := if a.tabs then some true else none
    indentSize := a.indent
    aliases := if a.noAliases then some false else none
    banner := if a.noBanner then some false else none }

/-- What arguments ask of the log. -/
def Arguments.logRequest (a : Arguments) : Log.Request :=
  { verbose := a.verbose
    quiet := a.quiet
    file := (a.logFile.filter (· ≠ "")).map Path.ofText }

/-- A path as seen from the working directory. -/
def relativeText (t : FileTree) (path : Path) : String :=
  ((path.relativeTo? { root := "/", parts := t.cwd }).getD path).text

/-- What is said when a run fails. Failures of a kind that is not foreseen come with a hint. -/
def failureText (error : RunError) : String :=
  "declshell failed: " ++ error.message ++ "\n" ++
    (match error with
      | .load (.file _) | .load (.outOfRange _) | .load (.tooLarge _) =>
        "Run with --verbose for more details.\n"
      | .load _ => ""
      | _ => "Run with --verbose for more details.\n")

/-- What is said when a run gives a shell. -/
def shellText (t : FileTree) (shell : Shell) : String :=
  match shell.path with
  | none => shell.text
  | some path =>
    "Shell with " ++ toString shell.typeCount ++ " types written to " ++ relativeText t path ++ "\n"

/-- Carries out a run with its settings. -/
def runWith (log : Log.Request) (settings : Settings) (t : FileTree) : Outcome :=
  let files := log.view t
  let finish := settings.run files
  let saved := Settings.savedTrail finish.result
  let errors := log.console (settings.synthesisTrail files ++ saved)
  let tree := log.recorded saved finish.tree
  match finish.result with
  | .ok shell => { output := shellText t shell, errors, tree }
  | .error .noLibrary => { output := noLibrary ++ "\n" ++ usage, errors, tree }
  | .error error => { status := 1, errors := errors ++ failureText error, tree }

/-- Carries out what arguments ask for. -/
def perform (a : Arguments) (t : FileTree) : Except Interruption Outcome := do
  let log := a.logRequest
  let t ← (log.opened t).mapError .logFile
  a.hollowIndent.mapError .arguments
  if a.indent.any (· < 0) then
    pure { status := 2, errors := "--indent must not be negative\n", tree := t }
  else
    a.hollowConfig.mapError .arguments
    match Settings.read t (Path.ofText a.config) with
    | .ok settings =>
      a.hollowOverride.mapError .arguments
      pure (runWith log (settings.override a.overrides) t)
    | .error error =>
      if error.isReported then
        pure { status := 1, errors := Settings.errorMessage error ++ "\n", tree := t }
      else .error (.settings error)

/-- Carries out a command with its arguments. -/
def command (arguments : List String) (t : FileTree) : Except Interruption Outcome :=
  match read arguments with
  | .error error =>
    .ok { status := 2, errors := usage ++ "declshell: error: " ++ error.message ++ "\n", tree := t }
  | .ok .help => .ok { output := help, tree := t }
  | .ok (.run a) => perform a t

end ApiShell.CommandLine
