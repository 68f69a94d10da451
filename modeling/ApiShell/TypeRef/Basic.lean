import ApiShell.Text.Basic

/-! Type references: how a signature names a type. A reference has a metadata name, in which a
plus sign separates a nested type from its enclosing one and the marker of ``List`1`` gives
the number of generic parameters, and the arguments bound to those parameters. -/

namespace ApiShell

/-- What a referenced type is, as far as its default value depends on it. -/
inductive Category where
  | void
  | boolean
  | char
  | nativeInt
  | primitive
  | enum
  | valueType
  | genericParameter
  | reference
  deriving DecidableEq, Repr

namespace Category

/-- All categories. -/
def all : List Category :=
  [.void, .boolean, .char, .nativeInt, .primitive, .enum, .valueType, .genericParameter,
    .reference]

/-- The word for a category in documents. -/
def word : Category → String
  | .void => "void"
  | .boolean => "boolean"
  | .char => "char"
  | .nativeInt => "native_int"
  | .primitive => "primitive"
  | .enum => "enum"
  | .valueType => "value_type"
  | .genericParameter => "generic_parameter"
  | .reference => "reference"

/-- The category a word stands for. -/
def ofWord? (word : String) : Option Category :=
  all.find? (·.word = word)

theorem ofWord?_word (c : Category) : ofWord? c.word = some c := by
  cases c <;> decide

end Category

/-- A reference to a type. -/
structure TypeRef where
  name : String
  args : List TypeRef := []
  nullable : Bool := false
  category : Category := .reference
  byRef : Bool := false

instance : Inhabited TypeRef := ⟨{ name := "" }⟩

namespace TypeRef

/-- The metadata name of the type without values. -/
def voidName : String := "System.Void"

/-- The reference to the type without values. -/
def void : TypeRef := { name := voidName, category := .void }

/-- Whether a reference is to the type without values, by category or by name. -/
def isVoid (ref : TypeRef) : Bool :=
  ref.category == .void || ref.name == voidName

/-- The name without the marks of a by-reference passing at its end. -/
def elementName (name : String) : String :=
  Text.trimEnd (· = '&') name

/-- The type that is passed by reference; any other reference is itself. -/
def element (ref : TypeRef) : TypeRef :=
  if ref.byRef || Text.endsWith '&' ref.name then
    { ref with name := elementName ref.name, byRef := false }
  else ref

end TypeRef

end ApiShell
