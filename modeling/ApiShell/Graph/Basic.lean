import ApiShell.Library.Basic

/-! The graph of known types. The emitted ones are declared in the shell; the external ones only
answer questions about supertypes and enum members. -/

namespace ApiShell

/-- Known types, addressed by id. -/
structure Graph where
  emitted : List TypeDecl := []
  external : List TypeDecl := []
  /-- How many references a search for supertypes may expand before it is given up. -/
  budget : Nat := 1000000

namespace Graph

/-- The type with an id. An emitted type hides an external one, and a later type an earlier
one. -/
def get? (g : Graph) (id : String) : Option TypeDecl :=
  (g.external ++ g.emitted).reverse.find? (·.id == id)

/-- The type a reference points at, if it is known. -/
def resolve? (g : Graph) (ref : TypeRef) : Option TypeDecl :=
  g.get? ref.element.name

/-- The emitted types that are not nested, in document order. -/
def topLevel (g : Graph) : List TypeDecl :=
  g.emitted.filter (·.enclosing.isNone)

/-- The emitted types nested directly in a type, in document order. -/
def nestedIn (g : Graph) (id : String) : List TypeDecl :=
  g.emitted.filter (·.enclosing == some id)

/-- The member names of a known enum; any other reference has none. -/
def enumMembers (g : Graph) (ref : TypeRef) : List String :=
  match g.resolve? ref with
  | some d => if d.kind = .enum then d.memberNames else []
  | none => []

/-- Whether a referenced type is public. An unknown type is taken to be. -/
def isPublic (g : Graph) (ref : TypeRef) : Bool :=
  (g.resolve? ref).all (·.isPublic)

end Graph

end ApiShell
