import ApiShell.Graph.Basic

/-! The nesting forest: every emitted top-level type with the types declared inside it. Only
classes, structs and interfaces have room for nested declarations. -/

namespace ApiShell

/-- A type with the types declared directly inside it. -/
inductive Nesting where
  | node (decl : TypeDecl) (inner : List Nesting)

namespace Nesting

mutual

/-- The types of a tree, an enclosing type before those inside it. -/
def preorder : Nesting → List TypeDecl
  | .node d inner => d :: preorderAll inner

/-- The types of several trees, one tree after the other. -/
def preorderAll : List Nesting → List TypeDecl
  | [] => []
  | tree :: rest => preorder tree ++ preorderAll rest

end

end Nesting

namespace Graph

/-- A type with the types declared inside it, down to a depth. -/
def nestingWithin (g : Graph) : Nat → TypeDecl → Nesting
  | 0, d => .node d []
  | depth + 1, d =>
    .node d (if d.kind.isComposite then (g.nestedIn d.id).map (g.nestingWithin depth) else [])

/-- A type with all types declared inside it. Nesting without repetition is no deeper than the
number of types. -/
def nesting (g : Graph) (d : TypeDecl) : Nesting :=
  g.nestingWithin g.emitted.length d

/-- The types that are declared, in the order of their declarations. -/
def declared (g : Graph) : List TypeDecl :=
  Nesting.preorderAll (g.topLevel.map g.nesting)

end Graph

end ApiShell
