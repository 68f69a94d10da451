import ApiShell.Graph.Basic

/-! Supertypes. The direct parents of a reference are the base type and the interfaces of the
type it points at, with that type's generic parameters replaced by the reference's arguments.
The search follows them depth first and meets each identity once. -/

namespace ApiShell

namespace TypeRef

mutual

/-- Puts references for generic parameters. A parameter is a name without arguments. -/
def substitute (binding : List (String × TypeRef)) : TypeRef → TypeRef
  | { name, args, nullable, category, byRef } =>
    match args with
    | [] => (binding.lookup name).getD { name, args := [], nullable, category, byRef }
    | arg :: more =>
      { name, args := substitute binding arg :: substituteAll binding more, nullable, category,
        byRef }

/-- Puts references for generic parameters throughout a list. -/
def substituteAll (binding : List (String × TypeRef)) : List TypeRef → List TypeRef
  | [] => []
  | ref :: rest => substitute binding ref :: substituteAll binding rest

end

theorem substituteAll_eq (binding : List (String × TypeRef)) (refs : List TypeRef) :
    substituteAll binding refs = refs.map (substitute binding) := by
  induction refs with
  | nil => rfl
  | cons ref rest ih => simp [substituteAll, ih]

end TypeRef

/-- The arguments a reference binds to a type's generic parameters. Of parameters with the same
name the last one counts, so it stands first. -/
def TypeDecl.binding (d : TypeDecl) (ref : TypeRef) : List (String × TypeRef) :=
  (d.genericParameters.zip ref.args).reverse

namespace Graph

/-- The direct parents of a reference: the base type, then the interfaces. -/
def parents (g : Graph) (ref : TypeRef) : List TypeRef :=
  match g.resolve? ref with
  | none => []
  | some d => (d.base.toList ++ d.interfaces).map (TypeRef.substitute (d.binding ref))

/-- A search under way: the supertypes met so far, those of them whose parents are still to be
looked at, the next one first, and the references whose parents were looked at. -/
structure Search where
  found : List TypeRef := []
  pending : List TypeRef := []
  expanded : List TypeRef := []

/-- Takes note of a parent unless one of the same identity was met before. -/
def Search.meet (s : Search) (parent : TypeRef) : Search :=
  if s.found.any (·.identity == parent.identity) then s
  else { s with found := s.found ++ [parent], pending := parent :: s.pending }

/-- Looks at the parents of pending references until none is left; `none` when the fuel runs
out before. -/
def search (g : Graph) : Nat → Search → Option Search
  | _, { found, pending := [], expanded } => some { found, pending := [], expanded }
  | 0, { pending := _ :: _, .. } => none
  | fuel + 1, { found, pending := ref :: rest, expanded } =>
    search g fuel
      ((g.parents ref).foldl Search.meet { found, pending := rest, expanded := expanded ++ [ref] })

/-- The finished search from a reference, if it ends within the graph's budget. -/
def searchFrom? (g : Graph) (ref : TypeRef) : Option Search :=
  g.search g.budget { pending := [ref] }

/-- All transitive base types and interfaces of a reference, if the search for them ends. -/
def supertypes? (g : Graph) (ref : TypeRef) : Option (List TypeRef) :=
  (g.searchFrom? ref).map (·.found)

/-- All transitive base types and interfaces of a reference. -/
def supertypes (g : Graph) (ref : TypeRef) : List TypeRef :=
  (g.supertypes? ref).getD []

/-- Whether the source equals the target or derives from it. -/
def isAssignable (g : Graph) (target source : TypeRef) : Bool :=
  target.identity == source.identity ||
    (g.supertypes source).any (·.identity == target.identity)

end Graph

end ApiShell
