import ApiShell.Files.Path

/-! The settings of a run. They come from a file and are overridden by what is given on top. -/

namespace ApiShell

/-- The copyright notice of a shell for which none is given. -/
def defaultCopyright : String := "Declaration shell generated by declshell"

/-- The settings of a run. -/
structure Settings where
  /-- The directory that paths in the settings file start from. -/
  root : Path := {}
  library : Option Path := none
  output : Option Path := none
  /-- Namespaces, ids and names of types to leave out, each once. -/
  ignored : List String := []
  searchPaths : List Path := []
  noAttributes : Bool := false
  forceVirtual : Bool := false
  useTabs : Bool := false
  indentSize : Int := 4
  aliases : Bool := true
  copyright : String := defaultCopyright
  banner : Bool := true
  templates : Option Path := none

/-- What is given on top of settings. Nothing given leaves a setting as it is. -/
structure Overrides where
  library : Option String := none
  output : Option String := none
  ignored : Option (List String) := none
  searchPaths : Option (List String) := none
  noAttributes : Option Bool := none
  forceVirtual : Option Bool := none
  useTabs : Option Bool := none
  indentSize : Option Int := none
  aliases : Option Bool := none
  copyright : Option String := none
  banner : Option Bool := none
  templates : Option String := none

namespace Settings

/-- Adds names to a list in which every name stands once. -/
def addNames (names more : List String) : List String :=
  more.foldl (fun names name => if names.contains name then names else names ++ [name]) names

/-- The settings with what is given on top: ignored names and search paths are added, all else
is replaced. -/
def override (s : Settings) (o : Overrides) : Settings :=
  { s with
    library := (o.library.map Path.ofText).or s.library
    output := (o.output.map Path.ofText).or s.output
    ignored := addNames s.ignored (o.ignored.getD [])
    searchPaths := s.searchPaths ++ (o.searchPaths.getD []).map Path.ofText
    noAttributes := o.noAttributes.getD s.noAttributes
    forceVirtual := o.forceVirtual.getD s.forceVirtual
    useTabs := o.useTabs.getD s.useTabs
    indentSize := o.indentSize.getD s.indentSize
    aliases := o.aliases.getD s.aliases
    copyright := o.copyright.getD s.copyright
    banner := o.banner.getD s.banner
    templates := (o.templates.map Path.ofText).or s.templates }

/-- Names in the order of their code points. -/
def sorted (names : List String) : List String :=
  names.mergeSort fun a b => a ≤ b

end Settings

/-- Why a run has no library. -/
def noLibraryMessage : String := "No library metadata path was given."

end ApiShell
