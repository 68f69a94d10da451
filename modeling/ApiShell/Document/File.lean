import ApiShell.Document.Shape
import ApiShell.Files.Tree
import ApiShell.Json.Reader
import ApiShell.Text.Blank
import ApiShell.Text.Utf8
import ApiShell.Yaml.Basic

/-! Documents in files. A file whose name ends in `.json` is read as JSON, every other one as
YAML by the reader given. A document without content is an empty mapping. -/

namespace ApiShell.Document

/-- The ending of JSON documents. -/
def jsonSuffix : String := ".json"

/-- The text of a file: UTF-8, with line feeds at the ends of lines. -/
def textOf (content : ByteArray) : Except String String :=
  match String.fromUTF8? content with
  | some s => .ok (String.ofList (Text.plainNewlines s.toList))
  | none => .error (((Text.utf8Fault? content).map (·.message)).getD "")

/-- The value a JSON text writes; a blank text is an empty mapping. -/
def jsonValue (file text : String) : Except LoadError Value :=
  if Text.allBlank text then .ok (.map [])
  else match Json.read text with
    | .ok value => .ok value
    | .error reason => .error (.format (.unparsable file reason))

/-- The value a YAML text writes; one that counts as nothing is an empty mapping. -/
def yamlValue [Yaml.Reader] (file text : String) : Except LoadError Value :=
  match Yaml.Reader.value text with
  | .ok value => .ok (if value.truthy then value else .map [])
  | .error (.malformed reason) => .error (.format (.unparsable file reason))
  | .error (.outOfRange reason) => .error (.outOfRange reason)
  | .error (.tooLarge reason) => .error (.tooLarge reason)

/-- The entries of a document's root, which has to be a mapping. -/
def rootEntries (file : String) : Value → Except LoadError Entries
  | .map entries => .ok entries
  | _ => .error (.format (.rootNotMapping file))

/-- The document in the content of a file. -/
def ofContent [Yaml.Reader] (path : Path) (content : ByteArray) : Except LoadError Entries :=
  match textOf content with
  | .error reason => .error (.format (.notUtf8 path.name reason))
  | .ok text => do
    let value ←
      if path.suffix = jsonSuffix then jsonValue path.name text else yamlValue path.name text
    rootEntries path.name value

/-- The document at a path. -/
def read [Yaml.Reader] (t : FileTree) (path : Path) : Except LoadError Entries :=
  match t.read? path with
  | none => .error (.notFound path)
  | some content => ofContent path content

end ApiShell.Document
