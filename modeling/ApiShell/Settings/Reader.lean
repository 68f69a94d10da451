import ApiShell.Document.File
import ApiShell.Settings.Basic
import ApiShell.Text.Integer
import ApiShell.Text.Lower

/-! The settings file. An entry of another shape than expected counts as not given. -/

namespace ApiShell

/-- Why settings cannot be read. -/
inductive SettingsError where
  | unreadable (path : Path) (reason : String)
  | unparsable (file reason : String)
  | rootNotMapping
  | negativeIndent
  /-- A number, moment or character that the file writes does not exist. -/
  | outOfRange (reason : String)
  /-- A number in the file is too large to be told. -/
  | tooLarge (reason : String)
  /-- There can be no file at the path. -/
  | badPath (error : FileError)

/-- Whether the command reports an error of settings; any other one stops it. -/
def SettingsError.isReported : SettingsError → Bool
  | .outOfRange _ | .tooLarge _ | .badPath _ => false
  | _ => true

namespace Settings

/-- The name of the settings file in a directory. -/
def fileName : String := ".declshell.yml"

/-- The wording of why settings cannot be read. -/
def errorMessage : SettingsError → String
  | .unreadable path reason => "Failed to read " ++ path.text ++ ": " ++ reason
  | .unparsable file reason => "Failed to parse " ++ file ++ ": " ++ reason
  | .rootNotMapping => fileName ++ " must contain a mapping at the root"
  | .negativeIndent => "indent.size must not be negative"
  | .outOfRange reason => reason
  | .tooLarge reason => reason
  | .badPath error => error.message

/-! ## Shapes -/

/-- The entries of a mapping; any other value has none. -/
def entriesOf : Value → List (Value × Value)
  | .map entries => entries
  | _ => []

/-- A text, number or truth value as text. -/
def text? : Value → Option String
  | .text s => some s
  | .int i => some (Value.int i).display
  | .float x => some (Value.float x).display
  | .bool b => some (Value.bool b).display
  | _ => none

/-- A text, number or truth value as text that is not empty. -/
def filled? (value : Value) : Option String :=
  (text? value).filter (· ≠ "")

/-- A whole number, also as text. -/
def int? : Value → Option Int
  | .int i => some i
  | .text s => Text.integer? s
  | _ => none

/-- A truth value, also as text. -/
def bool? : Value → Option Bool
  | .bool b => some b
  | .text s =>
    let word := Text.lower (Text.trim s)
    if ["true", "yes", "1"].contains word then some true
    else if ["false", "no", "0"].contains word then some false
    else none
  | _ => none

/-- A list of texts; a single text is a list of one. -/
def texts : Value → List String
  | .text s => [s]
  | .list items => items.filterMap text?
  | _ => []

/-! ## The file -/

/-- The place of the settings file: in a directory under its usual name, or the path itself. Where
the path started with a tilde, the home directory already stands for it. -/
def filePath (t : FileTree) (path : Path) : Except FileError Path :=
  if path.holdsNull then .error .nullInName
  else (t.isDir path).map fun isDir =>
    (if isDir then path.joinText fileName else path).resolve t.cwd

/-- The entries of a settings file. -/
def readEntries [Yaml.Reader] (file : Path) (content : Option ByteArray) :
    Except SettingsError (List (Value × Value)) :=
  match content with
  | none => .error (.unreadable file (FileError.isDirectory file).message)
  | some bytes =>
    match Document.textOf bytes with
    | .error reason => .error (.unreadable file reason)
    | .ok text =>
      if Text.allBlank text then .ok []
      else match Yaml.Reader.value text with
        | .error (.malformed reason) => .error (.unparsable file.name reason)
        | .error (.outOfRange reason) => .error (.outOfRange reason)
        | .error (.tooLarge reason) => .error (.tooLarge reason)
        | .ok value =>
          match if value.truthy then value else .map [] with
          | .map entries => .ok entries
          | _ => .error .rootNotMapping

/-- The settings that entries write. Paths start from the directory of the file. -/
def ofEntries (root : Path) (entries : List (Value × Value)) : Except SettingsError Settings :=
  let attributes := entriesOf (Value.get entries "assembly_info")
  let emit := entriesOf (Value.get entries "emit")
  let indent := entriesOf (Value.get entries "indent")
  let indentSize := int? (Value.get indent "size")
  if indentSize.any (· < 0) then .error .negativeIndent
  else .ok
    { root
      library := (filled? (Value.get entries "library")).map root.joinText
      output := (filled? (Value.get entries "output")).map root.joinText
      ignored := addNames [] (texts (Value.get entries "ignore"))
      searchPaths := (texts (Value.get entries "search_paths")).map root.joinText
      noAttributes := bool? (Value.get attributes "enabled") == some false
      forceVirtual := bool? (Value.get emit "force_virtual") == some true
      useTabs := bool? (Value.get indent "tabs") == some true
      indentSize := indentSize.getD 4
      aliases := bool? (Value.get emit "keyword_aliases") != some false
      copyright := (filled? (Value.get attributes "copyright")).getD defaultCopyright
      banner := bool? (Value.get emit "banner") != some false
      templates := (filled? (Value.get emit "templates_dir")).map root.joinText }

/-- The settings for a path: those of the file there, or the defaults if there is none. -/
def read [Yaml.Reader] (t : FileTree) (path : Path) : Except SettingsError Settings :=
  match filePath t path with
  | .error error => .error (.badPath error)
  | .ok file =>
    match t.isThere file with
    | .error error => .error (.badPath error)
    | .ok false => .ok { root := file.parent }
    | .ok true => do
      let entries ← readEntries file (t.read? file)
      ofEntries file.parent entries

end Settings

end ApiShell
