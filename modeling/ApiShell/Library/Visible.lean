import ApiShell.Library.Basic

/-! Which types of a library are shown. A type is left out when it or its outermost enclosing
type is not public, or when the outermost type is ignored by namespace, id or name. -/

namespace ApiShell

/-- The type with an id; of several the last. -/
def findType? (types : List TypeDecl) (id : String) : Option TypeDecl :=
  types.reverse.find? (·.id == id)

/-- Walks outwards through enclosing types, at most the given number of steps. -/
def outermostWithin (types : List TypeDecl) : Nat → TypeDecl → TypeDecl
  | 0, d => d
  | steps + 1, d =>
    match d.enclosing.bind (findType? types) with
    | none => d
    | some outer => outermostWithin types steps outer

/-- The outermost type around a type. An enclosing chain without repetition is no longer than
the list of types. -/
def outermost (types : List TypeDecl) (d : TypeDecl) : TypeDecl :=
  outermostWithin types types.length d

/-- Whether a type is named by one of the ignored names. -/
def TypeDecl.isIgnored (d : TypeDecl) (ignored : List String) : Bool :=
  d.space.any (fun space => space != "" && ignored.contains space) ||
    ignored.contains d.id || ignored.contains d.name

/-- Whether a type of a library is shown. -/
def isShown (types : List TypeDecl) (ignored : List String) (d : TypeDecl) : Bool :=
  d.isPublic && (outermost types d).isPublic && !(outermost types d).isIgnored ignored

/-- The types that are shown, in document order. -/
def shownTypes (types : List TypeDecl) (ignored : List String) : List TypeDecl :=
  types.filter (isShown types ignored)

/-- The ids of the types that are left out, in document order. -/
def skippedIds (types : List TypeDecl) (ignored : List String) : List String :=
  (types.filter fun d => !isShown types ignored d).map (·.id)

end ApiShell
