import ApiShell.Files.Tree
import ApiShell.Value.Basic

/-! Why a library cannot be loaded. -/

namespace ApiShell

/-- What is wrong with a document. -/
inductive FormatError where
  | notUtf8 (file reason : String)
  | unparsable (file reason : String)
  | rootNotMapping (file : String)
  | notList (label : String)
  | notTextOrList (label : String)
  | entryNotMapping (label : String)
  | missing (key : String) (entries : List (Value × Value))
  | unknownKind (word name : String)
  | unknownDirection (word : String)
  | unknownCategory (word : String)
  | unknownAccessor (word : String)
  | notReference (value : Value)
  | duplicateId (id : String)
  | unknownEnclosing (id enclosing : String)

/-- The wording of what is wrong with a document. -/
def FormatError.message : FormatError → String
  | .notUtf8 file reason => file ++ " is not valid UTF-8: " ++ reason
  | .unparsable file reason => "Failed to parse " ++ file ++ ": " ++ reason
  | .rootNotMapping file => file ++ " must contain a mapping at the root"
  | .notList label => "'" ++ label ++ "' must be a list"
  | .notTextOrList label => "'" ++ label ++ "' must be a string or a list"
  | .entryNotMapping label => "Each " ++ label ++ " entry must be a mapping"
  | .missing key entries => "Missing '" ++ key ++ "' in " ++ (Value.map entries).inspect
  | .unknownKind word name => "Unknown type kind '" ++ word ++ "' for " ++ name
  | .unknownDirection word => "Unknown parameter direction '" ++ word ++ "'"
  | .unknownCategory word => "Unknown type category '" ++ word ++ "'"
  | .unknownAccessor word => "Unknown accessor role '" ++ word ++ "'"
  | .notReference value => "Unsupported type reference: " ++ value.inspect
  | .duplicateId id => "Duplicate type id " ++ id
  | .unknownEnclosing id enclosing =>
    "Nested type " ++ id ++ " refers to unknown enclosing type " ++ enclosing

/-- Why a library cannot be loaded. -/
inductive LoadError where
  /-- There is no file at the given path. -/
  | notFound (path : Path)
  /-- A referenced library is in none of the places searched. -/
  | unresolved (name : String) (searched : Nat)
  | format (error : FormatError)
  /-- A path cannot be looked at. -/
  | file (error : FileError)
  /-- A number, moment or character that a document writes does not exist. -/
  | outOfRange (reason : String)
  /-- A number in a document is too large to be told. -/
  | tooLarge (reason : String)

/-- The wording of why a library cannot be loaded. -/
def LoadError.message : LoadError → String
  | .notFound path => "Library metadata not found: " ++ path.text
  | .unresolved name searched =>
    "Cannot resolve referenced library '" ++ name ++ "' (searched " ++ toString searched ++
      " locations)"
  | .format error => error.message
  | .file error => error.message
  | .outOfRange reason => reason
  | .tooLarge reason => reason

end ApiShell
