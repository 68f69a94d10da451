import ApiShell.Document.Shape
import ApiShell.Library.Basic

/-! Type references in documents: a name, or a mapping with a name and arguments. The category
of a reference follows from what is known of the named type. -/

namespace ApiShell.Document

/-- The categories of types that every library knows. -/
def wellKnown : List (String × Category) :=
  [("System.Void", .void), ("System.Boolean", .boolean), ("System.Char", .char),
   ("System.IntPtr", .nativeInt), ("System.UIntPtr", .nativeInt), ("System.Byte", .primitive),
   ("System.SByte", .primitive), ("System.Int16", .primitive), ("System.UInt16", .primitive),
   ("System.Int32", .primitive), ("System.UInt32", .primitive), ("System.Int64", .primitive),
   ("System.UInt64", .primitive), ("System.Single", .primitive), ("System.Double", .primitive),
   ("System.Decimal", .valueType), ("System.DateTime", .valueType),
   ("System.DateTimeOffset", .valueType), ("System.TimeSpan", .valueType),
   ("System.Guid", .valueType)]

/-- The name of the wrapper around nullable values. -/
def nullableName : String := "System.Nullable\x601"

/-- The kinds of the types that the documents declare, in the order of their declarations. -/
abbrev Kinds := List (String × Kind)

/-- The kind of a declared type; of several with the same id the last counts. -/
def Kinds.find? (kinds : Kinds) (id : String) : Option Kind :=
  kinds.reverse.lookup id

/-- What is known where a reference stands: the kinds of declared types and the generic
parameters in scope. -/
structure Scope where
  kinds : Kinds := []
  parameters : List String := []

/-- The category of a reference that states none. -/
def Scope.category (scope : Scope) (name : String) (nullable : Bool) : Category :=
  if nullable then .valueType
  else if scope.parameters.contains name then .genericParameter
  else match wellKnown.lookup name with
    | some category => category
    | none =>
      match Kinds.find? scope.kinds name with
      | some .enum => .enum
      | some .struct => .valueType
      | _ => .reference

/-- The reference that a bare name writes. -/
def Scope.named (scope : Scope) (text : String) : TypeRef :=
  let byRef := Text.endsWith '&' text
  let name := if byRef then TypeRef.elementName text else text
  { name, category := scope.category name false, byRef }

/-- The reference that a mapping writes, given its arguments. -/
def Scope.bound (scope : Scope) (entries : Entries) (args : List TypeRef) (text : String) :
    Except FormatError TypeRef :=
  let marked := Text.endsWith '&' text
  let name := if marked then TypeRef.elementName text else text
  let nullable := (Value.get entries "nullable").truthy ||
    (name == nullableName && args.length == 1)
  let byRef := marked || (Value.get entries "by_ref").truthy
  match Value.get entries "category" with
  | .null => .ok { name, args, nullable, category := scope.category name nullable, byRef }
  | value =>
    match Category.ofWord? value.display with
    | some category => .ok { name, args, nullable, category, byRef }
    | none => .error (.unknownCategory value.display)

mutual

/-- The reference that a value writes. Null is the type without values. -/
def reference (scope : Scope) : Value → Except FormatError TypeRef
  | .null => .ok .void
  | .text s => .ok (scope.named s)
  | .map entries => do
    let text ← requiredText entries "name"
    let args ← argumentsIn scope entries
    scope.bound entries args text
  | value => .error (.notReference value)

/-- The references under the key of the arguments. -/
def argumentsIn (scope : Scope) : Entries → Except FormatError (List TypeRef)
  | [] => .ok []
  | (key, value) :: rest =>
    match key with
    | .text "arguments" => argumentList scope value
    | _ => argumentsIn scope rest

/-- The references in a list of arguments. -/
def argumentList (scope : Scope) : Value → Except FormatError (List TypeRef)
  | .null => .ok []
  | .list items => references scope items
  | _ => .error (.notList "arguments")

/-- The references that values write. -/
def references (scope : Scope) : List Value → Except FormatError (List TypeRef)
  | [] => .ok []
  | value :: rest => do
    let ref ← reference scope value
    let refs ← references scope rest
    pure (ref :: refs)

end

/-- The reference that a value writes; null is none. -/
def optionalReference (scope : Scope) : Value → Except FormatError (Option TypeRef)
  | .null => .ok none
  | value => (reference scope value).map some

end ApiShell.Document
