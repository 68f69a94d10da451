import ApiShell.CommandLine.Command

/-! The paths that a command looks at. They depend on what is found at some of them, so they are
asked for again as files become known. -/

namespace ApiShell

/-- The paths at which the references of a document are looked for. -/
def Document.lookedFor (t : FileTree) (searchPaths : List Path) (path : Path) : List Path :=
  match (Document.read t path).bind (Document.outgoing path) with
  | .error _ => []
  | .ok references => references.flatMap fun (base, name) => candidates searchPaths base name

/-- The documents that a library and its references are read from, as far as they are known. -/
def Document.known (t : FileTree) (searchPaths : List Path) (path : Path) : List Path :=
  match Document.read t path with
  | .error _ => [path]
  | .ok document =>
    path :: (Document.closure (Log.View.still t) searchPaths path document).bound.map (·.2)

/-- The paths that a run looks at. -/
def Settings.touched (s : Settings) (t : FileTree) : List Path :=
  s.output.toList ++ (s.templates.map (·.joinText Banner.fileName)).toList ++
    (s.library.toList.flatMap (Document.known t s.searchPaths)).flatMap fun path =>
      path :: Document.lookedFor t s.searchPaths path

namespace CommandLine

/-- The paths that a command looks at, given the files that are known. -/
def touched (arguments : List String) (t : FileTree) : List Path :=
  match read arguments with
  | .error _ | .ok .help => []
  | .ok (.run a) =>
    let config := Path.ofText a.config
    config :: (Settings.filePath t config).toOption.toList ++ a.logRequest.file.toList ++
      (match Settings.read t config with
        | .error _ => []
        | .ok settings => (settings.override a.overrides).touched t)

end CommandLine

end ApiShell
