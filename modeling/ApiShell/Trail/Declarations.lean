import ApiShell.Declaration.Attributes
import ApiShell.Declaration.Types
import ApiShell.Trail.Names

/-! What is recorded while declarations are formed: each type as it is declared, each accessor
that is passed over, each delegate without a signature, and the trail of every name and
expression. -/

namespace ApiShell

open Log

namespace Emitter

/-- The trail of a list of parameters. -/
def parametersTrail (ps : List Parameter) : List Record :=
  ps.flatMap (·.type.nameTrail)

/-- The trail of the assignments to output parameters. -/
def assignmentsTrail (e : Emitter) (ps : List Parameter) : List Record :=
  (ps.filter (·.direction = .output)).flatMap fun p =>
    defaultTrail e.graph e.aliases p.type.element

/-- The trail of the constructors that are declared with parameters or without. -/
def constructorsTrail (e : Emitter) (d : TypeDecl) : List Record :=
  if (d.kind = .cls ∧ d.isStatic = false) ∨ d.kind = .struct then
    d.constructors.flatMap fun ps => parametersTrail ps ++ e.assignmentsTrail ps
  else []

/-- The trail of a field. -/
def fieldTrail (e : Emitter) (f : Field) : List Record :=
  f.type.nameTrail ++ (if f.isConst then literalTrail e.graph e.aliases f.type f.value else [])

/-- The trail of the fields. -/
def fieldsTrail (e : Emitter) (d : TypeDecl) : List Record :=
  match d.kind with
  | .enum | .interface => []
  | _ => d.fields.flatMap e.fieldTrail

/-- The trail of the properties. -/
def propertiesTrail (e : Emitter) (d : TypeDecl) : List Record :=
  if d.kind.isComposite then
    d.properties.flatMap fun p =>
      p.type.nameTrail ++ parametersTrail p.indexParameters ++
        (if p.canRead && d.kind != .interface then defaultTrail e.graph e.aliases p.type else [])
  else []

/-- The trail of the events. -/
def eventsTrail (d : TypeDecl) : List Record :=
  if d.kind.isComposite then d.events.flatMap (·.handler.nameTrail) else []

/-- The trail of a method. Its parameters are looked at for the header and for the body. -/
def methodTrail (e : Emitter) (d : TypeDecl) (m : Method) : List Record :=
  match m.accessor with
  | some role =>
    [.of .debug "members" ("Skipping " ++ role.word ++ " accessor " ++ m.name ++ " on " ++ d.id)]
  | none =>
    m.returns.nameTrail ++ parametersTrail m.parameters ++
      (if d.kind = .interface then []
       else parametersTrail m.parameters ++ e.assignmentsTrail m.parameters ++
         defaultTrail e.graph e.aliases m.returns)

/-- The trail of the methods. -/
def methodsTrail (e : Emitter) (d : TypeDecl) : List Record :=
  if d.kind.isComposite then d.methods.flatMap (e.methodTrail d) else []

/-- The trail of all members. -/
def membersTrail (e : Emitter) (d : TypeDecl) : List Record :=
  e.constructorsTrail d ++ e.fieldsTrail d ++ e.propertiesTrail d ++ eventsTrail d ++
    e.methodsTrail d

/-- The trail of the name a type is declared by. -/
def declaredNameTrail (d : TypeDecl) : List Record :=
  d.genericParameters.flatMap fun name => (TypeDecl.parameterRef name).nameTrail

/-- The trail of the parents a header names. -/
def inheritanceTrail (e : Emitter) (d : TypeDecl) : List Record :=
  d.base.toList.flatMap TypeRef.nameTrail ++
    (namedBase d).toList.flatMap TypeRef.nameTrail ++
    e.graph.leafInterfacesTrail d ++ (e.graph.leafInterfaces d).flatMap TypeRef.nameTrail

/-- The trail of a delegate. -/
def delegateTrail (d : TypeDecl) : List Record :=
  (match signature? d with
    | some m => m.returns.nameTrail ++ parametersTrail m.parameters
    | none =>
      [.of .warning "assembler"
        ("Delegate " ++ d.id ++ " has no Invoke method; declaring it as void()")]) ++
    declaredNameTrail d

mutual

/-- The trail of declaring a type with the types inside it. -/
def declareTrail (e : Emitter) : Nesting → List Record
  | .node d inner =>
    .of .debug "assembler" ("Declaring " ++ d.kind.word ++ " " ++ d.id) ::
      (match d.kind with
        | .enum => []
        | .delegate => delegateTrail d
        | _ =>
          declaredNameTrail d ++ e.inheritanceTrail d ++ declareAllTrail e inner ++
            e.membersTrail d)

/-- The trail of declaring several types. -/
def declareAllTrail (e : Emitter) : List Nesting → List Record
  | [] => []
  | tree :: rest => declareTrail e tree ++ declareAllTrail e rest

end

/-- The trail of declaring all emitted types. -/
def typesTrail (e : Emitter) : List Record :=
  e.declareAllTrail (e.graph.topLevel.map e.graph.nesting)

end Emitter

namespace Attribute

/-- The trail of an argument. -/
def argumentTrail (g : Graph) (aliases isDescription : Bool) (a : Argument) : List Record :=
  match a.type.category, shownValue isDescription a with
  | .enum, .text s => if s.toList.contains '.' then [] else a.type.nameTrail
  | _, value => literalTrail g aliases a.type value

/-- The trail of a carried attribute: its arguments, then its name. -/
def trail (g : Graph) (aliases : Bool) (a : Attribute) : List Record :=
  a.arguments.flatMap (argumentTrail g aliases (a.typeName == descriptionAttribute)) ++
    a.named.flatMap (fun (_, argument) => argumentTrail g aliases false argument) ++
    ({ name := a.typeName } : TypeRef).nameTrail

end Attribute

/-- The trail of the attribute lines of a library. -/
def Library.attributesTrail (l : Library) (g : Graph) (aliases : Bool) : List Record :=
  (l.attributes.filter (isCarried ·.typeName)).flatMap (Attribute.trail g aliases)

end ApiShell
