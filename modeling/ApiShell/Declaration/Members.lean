import ApiShell.Identifier
import ApiShell.Literal.Basic
import ApiShell.Writer.Step

/-! Declarations of members. Bodies are stubs: they give every output parameter its default
value and return the default value of their type. -/

namespace ApiShell

/-- What the declaration of members depends on: the known types, whether built-in types go by
their keywords, and whether every instance method is made overridable. -/
structure Emitter where
  graph : Graph
  aliases : Bool := true
  forceVirtual : Bool := false

namespace Emitter

/-! ## Parameters -/

/-- The word before a parameter that carries a value out. -/
def directionWord : Direction → String
  | .input => ""
  | .output => "out "
  | .both => "ref "

/-- One parameter with its type. -/
def parameterText (e : Emitter) (p : Parameter) : String :=
  directionWord p.direction ++ p.type.sourceName e.aliases ++ " " ++ Identifier.escape p.name

/-- A list of parameters. -/
def parameterList (e : Emitter) (ps : List Parameter) : String :=
  ", ".intercalate (ps.map e.parameterText)

/-- The assignment of a default value to an output parameter. -/
def assignment (e : Emitter) (p : Parameter) : String :=
  Identifier.escape p.name ++ " = " ++ defaultValue e.graph e.aliases p.type.element ++ ";"

/-- The assignments a body with these parameters starts with. -/
def assignments (e : Emitter) (ps : List Parameter) : List Step :=
  (ps.filter (·.direction = .output)).map fun p => .line (e.assignment p)

/-! ## Constructors -/

/-- The declaration of one constructor. That of a struct starts from the implicit one. -/
def constructorSteps (e : Emitter) (d : TypeDecl) (ps : List Parameter) : Step :=
  let chain := if d.kind = .struct then " : this()" else ""
  .block ("public " ++ Arity.strip d.name ++ "(" ++ e.parameterList ps ++ ")" ++ chain)
    (e.assignments ps)

/-- The constructors of a class or struct. A struct does not declare the one without parameters,
which it has anyway; a class without one gets a protected one for its subclasses. -/
def constructors (e : Emitter) (d : TypeDecl) : List Step :=
  match d.kind with
  | .struct => (d.constructors.filter (!·.isEmpty)).map (e.constructorSteps d)
  | .cls =>
    if d.isStatic then []
    else d.constructors.map (e.constructorSteps d) ++
      (if d.constructors.any (·.isEmpty) then []
       else [.block ("protected " ++ Arity.strip d.name ++ "()") []])
  | _ => []

/-! ## Fields -/

/-- The declaration of a field. -/
def fieldText (e : Emitter) (f : Field) : String :=
  let storage := if f.isConst then " const" else if f.isStatic then " static" else ""
  let readonly := if f.isReadonly && !f.isConst then " readonly" else ""
  let value := if f.isConst then " = " ++ literal e.graph e.aliases f.type f.value else ""
  "public" ++ storage ++ readonly ++ " " ++ f.type.sourceName e.aliases ++ " " ++
    Identifier.escape f.name ++ value ++ ";"

/-- The members of an enum, with a comma behind all but the last. -/
def enumLines : List String → List Step
  | [] => []
  | [name] => [.line name]
  | name :: rest => .line (name ++ ",") :: enumLines rest

/-- The fields of a type; an interface has none, and those of an enum are its members. -/
def fields (e : Emitter) (d : TypeDecl) : List Step :=
  match d.kind with
  | .enum => enumLines d.memberNames
  | .interface => []
  | _ => d.fields.map fun f => .line (e.fieldText f)

/-! ## Properties -/

/-- The name under which an indexed property is used without a name. -/
def indexerName : String := "Item"

/-- What a property is declared as: a name, or an index. -/
def propertyDeclarator (e : Emitter) (p : Property) : String :=
  if p.indexParameters.isEmpty then Identifier.escape p.name
  else
    (if p.name = indexerName then "this" else p.name) ++ "[" ++
      e.parameterList p.indexParameters ++ "]"

/-- The header of a property. -/
def propertyHeader (e : Emitter) (p : Property) (inInterface : Bool) : String :=
  (if inInterface then "" else if p.isStatic then "public static " else "public ") ++
    p.type.sourceName e.aliases ++ " " ++ e.propertyDeclarator p

/-- The accessors of a property. -/
def propertyBody (e : Emitter) (p : Property) (inInterface : Bool) : List Step :=
  (if p.canRead then
    [.line (if inInterface then "get;"
      else "get \x7b " ++ returnStatement e.graph e.aliases p.type ++ " \x7d")]
   else []) ++
  (if p.canWrite then [.line (if inInterface then "set;" else "set \x7b \x7d")] else [])

/-- The declaration of a property. -/
def propertySteps (e : Emitter) (inInterface : Bool) (p : Property) : Step :=
  if p.canRead || p.canWrite then
    .block (e.propertyHeader p inInterface) (e.propertyBody p inInterface)
  else .line (e.propertyHeader p inInterface ++ ";")

/-- The properties of a type. -/
def properties (e : Emitter) (d : TypeDecl) : List Step :=
  if d.kind.isComposite then d.properties.map (e.propertySteps (d.kind = .interface)) else []

/-! ## Events -/

/-- Silences the complaint about events that are never raised. -/
def eventPragma : String := "#pragma warning disable 67"

/-- The declaration of an event. -/
def eventSteps (e : Emitter) (inInterface : Bool) (ev : Event) : List Step :=
  let declared := "event " ++ ev.handler.sourceName e.aliases ++ " " ++ ev.name
  if inInterface then [.line (declared ++ ";")]
  else
    let header := (if ev.isStatic then "public static " else "public ") ++ declared
    [.line eventPragma,
     if ev.isExplicit then .line (header ++ ";")
     else .block header [.line "add \x7b \x7d", .line "remove \x7b \x7d"]]

/-- The events of a type. -/
def events (e : Emitter) (d : TypeDecl) : List Step :=
  if d.kind.isComposite then d.events.flatMap (e.eventSteps (d.kind = .interface)) else []

/-! ## Methods -/

/-- The operators that have a symbol of their own. -/
def operatorSymbols : List (String × String) :=
  [("op_Equality", "=="), ("op_Inequality", "!=")]

/-- The conversions, with the word that says when they apply. -/
def conversionWords : List (String × String) :=
  [("op_Implicit", "implicit"), ("op_Explicit", "explicit")]

/-- The name of a type without arity markers and by-reference marks, in dotted form. -/
def openName (ref : TypeRef) : String :=
  String.ofList (Text.replaceChar '+' '.' (Arity.strip ref.element.name).toList)

/-- Whether a method is first declared on the type itself. -/
def isDeclaredOn (base : Option TypeRef) (d : TypeDecl) : Bool :=
  base.all fun ref => openName ref == openName d.reference

/-- Whether other types can derive from a type. -/
def canBeInherited (d : TypeDecl) : Bool :=
  !d.kind.isValueKind && !d.isSealed

/-- Visibility, and whether the method is static, an override or overridable. -/
def methodModifiers (e : Emitter) (d : TypeDecl) (m : Method) : String :=
  if m.isStatic then "public static "
  else if !(m.isVirtual || e.forceVirtual) then "public "
  else if !isDeclaredOn m.baseDefinition d then "public override "
  else if canBeInherited d then "public virtual "
  else "public "

/-- The name of a method with its generic parameters, or its operator symbol. -/
def methodName (m : Method) : String :=
  match operatorSymbols.lookup m.name with
  | some symbol => "operator " ++ symbol
  | none =>
    Identifier.escape m.name ++
      (if m.genericParameters.isEmpty then ""
       else "<" ++ ",".intercalate m.genericParameters ++ ">")

/-- The header of a method. A conversion names its result instead of itself. -/
def methodHeader (e : Emitter) (d : TypeDecl) (m : Method) : String :=
  let modifiers := if d.kind = .interface then "" else e.methodModifiers d m
  let returns := m.returns.sourceName e.aliases
  let parameters := "(" ++ e.parameterList m.parameters ++ ")"
  match conversionWords.lookup m.name with
  | some word => modifiers ++ word ++ " operator " ++ returns ++ parameters
  | none => modifiers ++ returns ++ " " ++ methodName m ++ parameters

/-- The body of a method. -/
def methodBody (e : Emitter) (m : Method) : List Step :=
  e.assignments m.parameters ++
    (if m.returns.isVoid then [] else [.line (returnStatement e.graph e.aliases m.returns)])

/-- The declaration of a method. -/
def methodSteps (e : Emitter) (d : TypeDecl) (m : Method) : Step :=
  if d.kind = .interface then .line (e.methodHeader d m ++ ";")
  else .block (e.methodHeader d m) (e.methodBody m)

/-- The methods of a type. Accessors are declared with their property or event. -/
def methods (e : Emitter) (d : TypeDecl) : List Step :=
  if d.kind.isComposite then
    (d.methods.filter (·.accessor.isNone)).map (e.methodSteps d)
  else []

/-! ## All members -/

/-- All members of a type. -/
def members (e : Emitter) (d : TypeDecl) : List Step :=
  e.constructors d ++ e.fields d ++ e.properties d ++ e.events d ++ e.methods d

end Emitter

end ApiShell
