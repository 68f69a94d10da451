import ApiShell.TypeRef.Name
import ApiShell.Value.Basic

/-! A library's exported surface: its types with their public members, and the attributes it
carries as a whole. -/

namespace ApiShell

/-- The kinds of declared types. -/
inductive Kind where
  | cls
  | struct
  | interface
  | enum
  | delegate
  deriving DecidableEq, Repr

namespace Kind

/-- All kinds. -/
def all : List Kind := [.cls, .struct, .interface, .enum, .delegate]

/-- The word for a kind in documents and in the shell. -/
def word : Kind → String
  | .cls => "class"
  | .struct => "struct"
  | .interface => "interface"
  | .enum => "enum"
  | .delegate => "delegate"

/-- The kind a word stands for. -/
def ofWord? (word : String) : Option Kind :=
  all.find? (·.word = word)

/-- Whether values of such a type are copied on assignment. -/
def isValueKind : Kind → Bool
  | .struct | .enum => true
  | _ => false

/-- Whether a declaration of this kind has a body with nested types and members. -/
def isComposite : Kind → Bool
  | .cls | .struct | .interface => true
  | _ => false

theorem ofWord?_word (k : Kind) : ofWord? k.word = some k := by
  cases k <;> decide

end Kind

/-- Which way a parameter carries its value. -/
inductive Direction where
  | input
  | output
  | both
  deriving DecidableEq, Repr

/-- The part that a method plays for a property or an event. -/
inductive AccessorRole where
  | get
  | set
  | add
  | remove
  deriving DecidableEq, Repr

namespace AccessorRole

/-- All roles. -/
def all : List AccessorRole := [.get, .set, .add, .remove]

/-- The word for a role in documents. -/
def word : AccessorRole → String
  | .get => "get"
  | .set => "set"
  | .add => "add"
  | .remove => "remove"

/-- The role a word stands for. -/
def ofWord? (word : String) : Option AccessorRole :=
  all.find? (·.word = word)

theorem ofWord?_word (r : AccessorRole) : ofWord? r.word = some r := by
  cases r <;> decide

end AccessorRole

/-- A parameter of a constructor, method or indexed property. -/
structure Parameter where
  name : String
  type : TypeRef
  direction : Direction := .input

/-- A field, with its value where it is constant. -/
structure Field where
  name : String
  type : TypeRef
  isConst : Bool := false
  isStatic : Bool := false
  isReadonly : Bool := false
  value : Value := .null

/-- A property, indexed when it has parameters. -/
structure Property where
  name : String
  type : TypeRef
  canRead : Bool := true
  canWrite : Bool := false
  indexParameters : List Parameter := []
  isStatic : Bool := false

/-- An event; an explicit one has a backing field of its own name. -/
structure Event where
  name : String
  handler : TypeRef
  isExplicit : Bool := false
  isStatic : Bool := false

/-- A method. An accessor is declared through its property or event. -/
structure Method where
  name : String
  returns : TypeRef := .void
  parameters : List Parameter := []
  isStatic : Bool := false
  isVirtual : Bool := false
  baseDefinition : Option TypeRef := none
  accessor : Option AccessorRole := none
  genericParameters : List String := []

/-- A declared type. `id` is its metadata name within the library, and `enclosing` is the id of
the type it is nested in. -/
structure TypeDecl where
  id : String
  name : String
  kind : Kind
  space : Option String := none
  base : Option TypeRef := none
  interfaces : List TypeRef := []
  enclosing : Option String := none
  genericParameters : List String := []
  constructors : List (List Parameter) := []
  fields : List Field := []
  properties : List Property := []
  events : List Event := []
  methods : List Method := []
  isPublic : Bool := true
  isAbstract : Bool := false
  isSealed : Bool := false

namespace TypeDecl

/-- A class that is both abstract and sealed has static members only. -/
def isStatic (d : TypeDecl) : Bool :=
  d.kind == .cls && d.isAbstract && d.isSealed

/-- The reference to a generic parameter by its name. -/
def parameterRef (name : String) : TypeRef :=
  { name, category := .genericParameter }

/-- The reference to the type itself, open over its generic parameters. -/
def reference (d : TypeDecl) : TypeRef :=
  { name := d.id
    args := d.genericParameters.map parameterRef
    category := match d.kind with
      | .enum => .enum
      | .struct => .valueType
      | _ => .reference }

/-- The name of the implicit field that holds the number of an enum value. -/
def backingField : String := "value__"

/-- The names of an enum's members in the order of their declaration. -/
def memberNames (d : TypeDecl) : List String :=
  (d.fields.map (·.name)).filter (· ≠ backingField)

end TypeDecl

/-- A constant with the type it is written at. -/
structure Argument where
  value : Value
  type : TypeRef

/-- An attribute of a whole library with its positional and named arguments. -/
structure Attribute where
  typeName : String
  arguments : List Argument := []
  named : List (String × Argument) := []

/-- The version of a library that gives none. -/
def defaultVersion : String := "0.0.0.0"

/-- A library's exported surface. -/
structure Library where
  name : String
  version : String := defaultVersion
  types : List TypeDecl := []
  attributes : List Attribute := []
  references : List String := []

end ApiShell
