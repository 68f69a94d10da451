import ApiShell.Graph.Supertypes

/-! The most derived entries of a list. An interface list repeats what its entries already
inherit; only the leaves are written in a header. -/

namespace ApiShell

/-- Keeps the entries that are above no kept entry and above no later one. `above c x` says that
`x` is `c` or derives from it. -/
def leavesOnto {α : Type} (above : α → α → Bool) (kept : List α) : List α → List α
  | [] => kept
  | entry :: later =>
    if kept.any (above entry) || later.any (above entry) then leavesOnto above kept later
    else leavesOnto above (kept ++ [entry]) later

/-- The most derived entries, in the order of the list. Of equivalent entries the last stays. -/
def leaves {α : Type} (above : α → α → Bool) (entries : List α) : List α :=
  leavesOnto above [] entries

/-- The interfaces a type's header names: the public ones that no other one implies. -/
def Graph.leafInterfaces (g : Graph) (d : TypeDecl) : List TypeRef :=
  if d.kind = .enum ∨ d.kind = .delegate then []
  else leaves g.isAssignable (d.interfaces.filter g.isPublic)

end ApiShell
