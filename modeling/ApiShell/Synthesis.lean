import ApiShell.Banner
import ApiShell.Document.Loading
import ApiShell.Library.Visible
import ApiShell.Settings.Basic
import ApiShell.Trail.Declarations

/-! A whole run: load the library, leave out what is not shown, write the shell, and save it
where that is asked for. -/

namespace ApiShell

/-- Why a run fails. -/
inductive RunError where
  /-- No library was given. -/
  | noLibrary
  | load (error : LoadError)
  | template (error : TemplateError)
  | writer (error : WriterError)
  | file (error : FileError)

/-- The wording of why a run fails. -/
def RunError.message : RunError → String
  | .noLibrary => noLibraryMessage
  | .load error => error.message
  | .template error => error.message
  | .writer error => error.message
  | .file error => error.message

/-- What a run gives: the text of the shell, the number of types in it, the ids of the types
left out, and the file it was saved to. -/
structure Shell where
  text : String
  typeCount : Nat
  skipped : List String
  path : Option Path := none

/-- What a run comes to: the shell or why there is none, and the files afterwards. -/
structure Finish where
  result : Except RunError Shell
  tree : FileTree

namespace Settings

/-- How declarations are written. -/
def emitter (s : Settings) (graph : Graph) : Emitter :=
  { graph, aliases := s.aliases, forceVirtual := s.forceVirtual }

/-- The program that writes a shell: the comment, the attributes and the types. -/
def assembly (s : Settings) (graph : Graph) (library : Library) (banner : Option String) :
    List Step :=
  ((banner.filter (· ≠ "")).toList ++
    (if s.noAttributes then [] else library.attributeLines graph s.aliases s.copyright)).map
      Step.line ++
  (s.emitter graph).types

/-- The comment at the top, where one is asked for. -/
def bannerOf [Banner.Engine] (s : Settings) (t : FileTree) (library : Library) :
    Except TemplateError (Option String) :=
  if s.banner then (ApiShell.banner t s.templates library.name library.version s.ignored).map some
  else .ok none

/-- Writes the shell of a library with the given types. -/
def render [Banner.Engine] (s : Settings) (t : FileTree) (loaded : Loaded)
    (shown : List TypeDecl) : Except RunError Writer := do
  match s.bannerOf t loaded.library with
  | .error error => .error (.template error)
  | .ok banner =>
    match Writer.fresh? s.useTabs s.indentSize with
    | .error error => .error (.writer error)
    | .ok writer =>
      let run := writer.performAll (s.assembly (loaded.graph shown) loaded.library banner)
      match run.error with
      | some error => .error (.writer error)
      | none => .ok run.writer

open Log

/-! ## What is recorded -/

/-- The record of a run that starts. -/
def startRecord (path : Path) : Record :=
  .of .info "orchestrator" ("Starting shell synthesis for " ++ path.text)

/-- The record of the types left out. -/
def skippedTrail (skipped : List String) : List Record :=
  if skipped.isEmpty then []
  else [.of .info "orchestrator" ("Ignoring " ++ toString skipped.length ++ " types: " ++
    ", ".intercalate skipped)]

/-- The trail of a run up to the choice of the types of a library that was loaded. -/
def choiceTrail [Yaml.Reader] (s : Settings) (files : View) (path : Path) (loaded : Loaded) :
    List Record :=
  startRecord path :: loadTrail (files.after [startRecord path]) s.searchPaths path ++
    skippedTrail (skippedIds loaded.library.types s.ignored)

/-- The trail of writing the shell of a library. -/
def renderTrail [Banner.Engine] (s : Settings) (t : FileTree) (loaded : Loaded)
    (shown : List TypeDecl) : List Record :=
  let graph := loaded.graph shown
  let declared :=
    (if s.noAttributes then [] else loaded.library.attributesTrail graph s.aliases) ++
      (s.emitter graph).typesTrail
  match s.render t loaded shown with
  | .ok writer =>
    declared ++ [.of .debug "orchestrator" ("Rendered " ++ toString writer.lines.length ++ " lines")]
  | .error _ => []

/-- The trail of a run, up to the text of the shell. -/
def synthesisTrail [Yaml.Reader] [Banner.Engine] (s : Settings) (files : View) :
    List Record :=
  match s.library with
  | none => []
  | some path =>
    match load (files.after [startRecord path]) s.searchPaths path with
    | .error _ => startRecord path :: loadTrail (files.after [startRecord path]) s.searchPaths path
    | .ok loaded =>
      let chosen := s.choiceTrail files path loaded
      chosen ++ s.renderTrail (files chosen) loaded (shownTypes loaded.library.types s.ignored)

/-- The record of a shell that was saved. -/
def savedTrail : Except RunError Shell → List Record
  | .ok { path := some path, .. } =>
    [.of .info "orchestrator" ("Shell written to " ++ path.text)]
  | _ => []

/-! ## Runs -/

/-- Carries out a run, up to the text of the shell. -/
def synthesize [Yaml.Reader] [Banner.Engine] (s : Settings) (files : View) :
    Except RunError Shell := do
  match s.library with
  | none => .error .noLibrary
  | some path =>
    match load (files.after [startRecord path]) s.searchPaths path with
    | .error error => .error (.load error)
    | .ok loaded =>
      let types := loaded.library.types
      let shown := shownTypes types s.ignored
      let writer ← s.render (files (s.choiceTrail files path loaded)) loaded shown
      pure { text := writer.text, typeCount := shown.length, skipped := skippedIds types s.ignored }

/-- Carries out a run and saves the shell where that is asked for. -/
def run [Yaml.Reader] [Banner.Engine] (s : Settings) (files : View) : Finish :=
  let before := files (s.synthesisTrail files)
  match s.synthesize files, s.output with
  | .error error, _ => { result := .error error, tree := before }
  | .ok shell, none => { result := .ok shell, tree := before }
  | .ok shell, some path =>
    let saved := before.save path shell.text.toUTF8
    match saved.error with
    | some error => { result := .error (.file error), tree := saved.tree }
    | none => { result := .ok { shell with path := some path }, tree := saved.tree }

end Settings

end ApiShell
