import ApiShell.Declaration.Members
import ApiShell.Graph.Leaves
import ApiShell.Graph.Nesting

/-! Declarations of types: their headers, their nesting, and the namespaces around them. -/

namespace ApiShell.Emitter

/-! ## Headers -/

/-- The name a type is declared by, with its generic parameters. -/
def declaredName (d : TypeDecl) : String :=
  Arity.strip d.name ++
    (if d.genericParameters.isEmpty then ""
     else "<" ++ ",".intercalate (d.genericParameters.map fun name =>
       (TypeDecl.parameterRef name).identity) ++ ">")

/-- The base types that every type of some kind has without saying so. -/
def implicitBases : List String := ["System.Object", "System.ValueType", "System.Enum"]

/-- The base type a header names. -/
def namedBase (d : TypeDecl) : Option TypeRef :=
  d.base.filter fun ref => !implicitBases.contains ref.identity

/-- The parents a header names, or nothing where there are none. -/
def inheritance (e : Emitter) (d : TypeDecl) : String :=
  let parents := (namedBase d).toList ++ e.graph.leafInterfaces d
  if parents.isEmpty then ""
  else " : " ++ ", ".intercalate (parents.map (·.sourceName e.aliases))

/-- The words a composite type is introduced by. -/
def introduction (d : TypeDecl) : String :=
  match d.kind with
  | .cls =>
    if d.isStatic then "public static class"
    else if d.isAbstract then "public abstract class"
    else if d.isSealed then "public sealed class"
    else "public class"
  | kind => "public " ++ kind.word

/-- The header of a composite type. -/
def compositeHeader (e : Emitter) (d : TypeDecl) : String :=
  introduction d ++ " " ++ declaredName d ++ e.inheritance d

/-- The name of the method whose signature a delegate has. -/
def invokeName : String := "Invoke"

/-- The method whose signature a delegate has: the one of that name, or else its first. -/
def signature? (d : TypeDecl) : Option Method :=
  (d.methods.find? (·.name == invokeName)).or d.methods.head?

/-- The declaration of a delegate. Without a method it takes and returns nothing. -/
def delegateLine (e : Emitter) (d : TypeDecl) : String :=
  let (returns, parameters) := match signature? d with
    | some m => (m.returns.sourceName e.aliases, e.parameterList m.parameters)
    | none => ("void", "")
  "public delegate " ++ returns ++ " " ++ declaredName d ++ "(" ++ parameters ++ ");"

/-! ## Declarations -/

mutual

/-- The declaration of a type with the types inside it. -/
def declare (e : Emitter) : Nesting → Step
  | .node d inner =>
    match d.kind with
    | .enum => .block ("public enum " ++ d.name) (e.fields d)
    | .delegate => .line (e.delegateLine d)
    | _ => .block (e.compositeHeader d) (declareAll e inner ++ e.members d)

/-- The declarations of several types. -/
def declareAll (e : Emitter) : List Nesting → List Step
  | [] => []
  | tree :: rest => declare e tree :: declareAll e rest

end

/-- Whether a namespace is written around its types. -/
def isNamed (space : Option String) : Bool :=
  space.any (· ≠ "")

/-- The end of the block of a namespace, where it has one. -/
def leaveSpace (space : Option String) : List Step :=
  if isNamed space then [.closeBlock ""] else []

/-- The start of the block of a namespace, where it has one. -/
def enterSpace (space : Option String) : List Step :=
  if isNamed space then [.openBlock ("namespace " ++ space.getD "")] else []

/-- The declarations of top-level types when the block of the given namespace is open. The block
changes where the namespace does. -/
def declareFrom (e : Emitter) (current : Option String) : List TypeDecl → List Step
  | [] => leaveSpace current
  | d :: rest =>
    (if d.space = current then [] else leaveSpace current ++ enterSpace d.space) ++
      e.declare (e.graph.nesting d) :: declareFrom e d.space rest

/-- The declarations of all emitted types. -/
def types (e : Emitter) : List Step :=
  e.declareFrom none e.graph.topLevel

end ApiShell.Emitter
