import ApiShell.Document.Reference
import ApiShell.Text.Lower

/-! Library documents. A document lists types with their members and attributes; reading it
either gives the library or says what is wrong first, in the order in which parts are read. -/

namespace ApiShell.Document

/-! ## Members -/

/-- The words for the directions of parameters. -/
def directionWords : List (String × Direction) :=
  [("in", .input), ("out", .output), ("inout", .both), ("ref", .both)]

/-- A parameter. Its direction is looked at first. -/
def parameter (scope : Scope) (entries : Entries) : Except FormatError Parameter := do
  let word := Text.lower (textOr (Value.get entries "direction") "in")
  match directionWords.lookup word with
  | none => .error (.unknownDirection word)
  | some direction =>
    let name ← requiredText entries "name"
    let type ← reference scope (Value.get entries "type")
    pure { name, type, direction }

/-- A list of parameters. -/
def parameters (scope : Scope) (value : Value) : Except FormatError (List Parameter) := do
  let entries ← mappings "parameters" value
  entries.mapM (parameter scope)

/-- A field. -/
def field (scope : Scope) (entries : Entries) : Except FormatError Field := do
  let name ← requiredText entries "name"
  let type ← reference scope (Value.get entries "type")
  pure { name, type
         isConst := flag entries "const" false
         isStatic := flag entries "static" false
         isReadonly := flag entries "readonly" false
         value := Value.get entries "value" }

/-- A property. -/
def property (scope : Scope) (value : Value) : Except FormatError Property := do
  let entries ← mapping "property" value
  let name ← requiredText entries "name"
  let type ← reference scope (Value.get entries "type")
  let indexParameters ← parameters scope (Value.get entries "index_parameters")
  pure { name, type, indexParameters
         canRead := flag entries "read" true
         canWrite := flag entries "write" false
         isStatic := flag entries "static" false }

/-- An event. Unless the document says so, it is explicit when a private field has its name. -/
def event (scope : Scope) (privateFields : List String) (value : Value) :
    Except FormatError Event := do
  let entries ← mapping "event" value
  let name ← requiredText entries "name"
  let handler ← reference scope (Value.get entries "type")
  pure { name, handler
         isExplicit := flag entries "explicit_accessors" (privateFields.contains name)
         isStatic := flag entries "static" false }

/-- The start of the name of each accessor. -/
def accessorStarts : List (String × AccessorRole) :=
  [("get_", .get), ("set_", .set), ("add_", .add), ("remove_", .remove)]

/-- The part a method plays by its name, where the member it names exists. -/
def accessorRole? (name : String) (properties events : List String) : Option AccessorRole :=
  accessorStarts.findSome? fun (start, role) =>
    match Text.afterStart? start.toList name.toList with
    | none => none
    | some member =>
      let owners := if role = .get ∨ role = .set then properties else events
      if owners.contains (String.ofList member) then some role else none

/-- The part a method plays as its document states it. -/
def statedRole (value : Value) : Except FormatError (Option AccessorRole) :=
  match value with
  | .null => .ok none
  | .bool false => .ok none
  | value =>
    match AccessorRole.ofWord? (Text.lower value.display) with
    | some role => .ok (some role)
    | none => .error (.unknownAccessor value.display)

/-- A method. Its own generic parameters are in scope in its signature. -/
def method (scope : Scope) (properties events : List String) (value : Value) :
    Except FormatError Method := do
  let entries ← mapping "method" value
  let name ← requiredText entries "name"
  let genericParameters ← texts "generic_parameters" (Value.get entries "generic_parameters")
  let inner := { scope with parameters := scope.parameters ++ genericParameters }
  let accessor ← match Value.find? entries "accessor" with
    | some stated => statedRole stated
    | none => pure (accessorRole? name properties events)
  let returns ← reference inner (Value.get entries "returns")
  let parameters ← parameters inner (Value.get entries "parameters")
  let baseDefinition ← optionalReference scope (Value.get entries "base_definition")
  pure { name, returns, parameters, baseDefinition, accessor, genericParameters
         isStatic := flag entries "static" false
         isVirtual := flag entries "virtual" false }
/-! ## Types -/

/-- The id and the kind of a type entry. An id that is not given follows from the enclosing type
or the namespace. -/
def identify (value : Value) : Except FormatError (String × Kind) := do
  let entries ← mapping "type" value
  let name ← requiredText entries "name"
  let word := Text.lower (textOr (Value.get entries "kind") "class")
  match Kind.ofWord? word with
  | none => .error (.unknownKind word name)
  | some kind =>
    pure (derivedId entries name, kind)
where
  /-- The id of an entry with a name. -/
  derivedId (entries : Entries) (name : String) : String :=
    match optionalText (Value.get entries "id"), optionalText (Value.get entries "nested_in"),
        optionalText (Value.get entries "namespace") with
    | some id, _, _ => id
    | none, some enclosing, _ => enclosing ++ "+" ++ name
    | none, none, some space => space ++ "." ++ name
    | none, none, none => name

/-- A constructor's parameters. -/
def constructor (scope : Scope) (entries : Entries) : Except FormatError (List Parameter) :=
  parameters scope (Value.get entries "parameters")

/-- A type. -/
def type (kinds : Kinds) (value : Value) : Except FormatError TypeDecl := do
  let (id, kind) ← identify value
  let entries ← mapping "type" value
  let name ← requiredText entries "name"
  let genericParameters ← texts "generic_parameters" (Value.get entries "generic_parameters")
  let scope : Scope := { kinds, parameters := genericParameters }
  let privateFields ← texts "private_fields" (Value.get entries "private_fields")
  let properties ← (← list "properties" (Value.get entries "properties")).mapM (property scope)
  let events ← (← list "events" (Value.get entries "events")).mapM (event scope privateFields)
  let methods ← (← list "methods" (Value.get entries "methods")).mapM
    (method scope (properties.map (·.name)) (events.map (·.name)))
  let base ← optionalReference scope (Value.get entries "base")
  let interfaces ← (← list "interfaces" (Value.get entries "interfaces")).mapM (reference scope)
  let constructors ← (← mappings "constructors" (Value.get entries "constructors")).mapM
    (constructor scope)
  let fields ← (← mappings "fields" (Value.get entries "fields")).mapM (field scope)
  pure { id, name, kind, base, interfaces, genericParameters, constructors, fields, properties,
         events, methods
         space := optionalText (Value.get entries "namespace")
         enclosing := optionalText (Value.get entries "nested_in")
         isPublic := flag entries "public" true
         isAbstract := flag entries "abstract" false
         isSealed := flag entries "sealed" false }

/-- Reads types onto those read before. An id must not come twice. -/
def typesOnto (kinds : Kinds) (done : List TypeDecl) :
    List Value → Except FormatError (List TypeDecl)
  | [] => .ok done
  | value :: rest => do
    let d ← type kinds value
    if done.any (·.id == d.id) then .error (.duplicateId d.id)
    else typesOnto kinds (done ++ [d]) rest

/-- The types of a document. -/
def types (kinds : Kinds) (document : Entries) : Except FormatError (List TypeDecl) := do
  let values ← list "types" (Value.get document "types")
  typesOnto kinds [] values

/-- The ids and kinds of the types of a document. -/
def declaredKinds (document : Entries) : Except FormatError Kinds := do
  let values ← list "types" (Value.get document "types")
  values.mapM identify

/-! ## Attributes -/

/-- The type of a constant that states none. -/
def scalarType : Value → String
  | .bool _ => "System.Boolean"
  | .int _ => "System.Int32"
  | .float _ => "System.Double"
  | .text _ => "System.String"
  | _ => "System.Object"

/-- An argument of an attribute: a constant, or a mapping with a constant and its type. -/
def argument (kinds : Kinds) (value : Value) : Except FormatError Argument := do
  match value with
  | .map entries =>
    let constant := Value.get entries "value"
    let type ← match Value.get entries "type" with
      | .null => reference { kinds } (.text (scalarType constant))
      | stated => reference { kinds } stated
    pure { value := constant, type }
  | constant =>
    let type ← reference { kinds } (.text (scalarType constant))
    pure { value := constant, type }

/-- A named argument of an attribute. -/
def namedArgument (kinds : Kinds) (entry : Value × Value) :
    Except FormatError (String × Argument) := do
  let a ← argument kinds entry.2
  pure (entry.1.display, a)

/-- An attribute of the library. -/
def libraryAttribute (kinds : Kinds) (value : Value) : Except FormatError Attribute := do
  let entries ← mapping "attribute" value
  let named ← optionalMapping "named_arguments" (Value.get entries "named_arguments")
  let typeName ← requiredText entries "type"
  let arguments ← (← list "arguments" (Value.get entries "arguments")).mapM (argument kinds)
  let named ← named.mapM (namedArgument kinds)
  pure { typeName, arguments, named }

/-! ## The whole document -/

/-- The first nested type whose enclosing type is not among the types. -/
def strayNested? (types : List TypeDecl) : Option FormatError :=
  types.findSome? fun d =>
    d.enclosing.bind fun outer =>
      if types.any (·.id == outer) then none else some (.unknownEnclosing d.id outer)

/-- The names of the libraries that a document refers to. -/
def referenceNames (document : Entries) : Except FormatError (List String) :=
  texts "references" (Value.get document "references")

/-- The library of a document; a library without a name gets the given one. -/
def library (kinds : Kinds) (fallbackName : String) (document : Entries) :
    Except FormatError Library := do
  let types ← types kinds document
  match strayNested? types with
  | some error => .error error
  | none =>
    let attributes ← (← list "attributes" (Value.get document "attributes")).mapM
      (libraryAttribute kinds)
    let references ← referenceNames document
    pure { name := textOr (Value.get document "name") fallbackName
           version := textOr (Value.get document "version") defaultVersion
           types, attributes, references }

end ApiShell.Document
