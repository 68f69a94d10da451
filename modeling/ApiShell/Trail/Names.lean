import ApiShell.Graph.Leaves
import ApiShell.Literal.Basic
import ApiShell.Log.Record

/-! What is recorded while names and expressions are formed: references whose generic arguments
are missing, and enum values without a member. A record is made each time such a name is
formed, so the trail follows every comparison by identity. -/

namespace ApiShell

open Log

namespace TypeRef

/-- The trail of forming a bare name. -/
def bareTrail (name : String) : List Record :=
  if name.toList.contains Arity.mark then
    [.of .debug "formatting" ("Generic reference " ++ name ++ " carries no arguments")]
  else []

mutual

/-- The trail of forming the source name of a reference. -/
def nameTrail : TypeRef → List Record
  | { name, args, nullable, category, byRef := _ } =>
    if category == .void || name == voidName then []
    else match args with
      | [] =>
        if nullable then
          [.of .debug "formatting" ("Nullable reference " ++ name ++ " has no wrapped argument")]
        else bareTrail name
      | arg :: more => nameTrail arg ++ (if nullable then [] else nameTrails more)

/-- The trail of forming the source names of references. -/
def nameTrails : List TypeRef → List Record
  | [] => []
  | ref :: rest => nameTrail ref ++ nameTrails rest

end

end TypeRef

/-- The trail of the expression for an enum value. -/
def enumMemberTrail (g : Graph) (aliases : Bool) (ref : TypeRef) (position : Int) : List Record :=
  ref.nameTrail ++
    (if 0 ≤ position ∧ position.toNat < (g.enumMembers ref).length then []
     else [.of .debug "defaults" ("Enum " ++ ref.sourceName aliases ++
       " has no member at position " ++ toString position)])

/-- The trail of a default value. -/
def defaultTrail (g : Graph) (aliases : Bool) (ref : TypeRef) : List Record :=
  if ref.isVoid then []
  else
    let ref := ref.element
    match ref.category with
    | .boolean | .char | .primitive => []
    | .nativeInt | .valueType | .genericParameter => ref.nameTrail
    | .enum => enumMemberTrail g aliases ref 0
    | _ => if ref.nullable then ref.nameTrail else []

/-- The trail of a constant. -/
def literalTrail (g : Graph) (aliases : Bool) (ref : TypeRef) (value : Value) : List Record :=
  match ref.category, value with
  | .enum, .text _ => ref.nameTrail
  | .enum, .int position => enumMemberTrail g aliases ref position
  | _, .null => []
  | _, .bool _ => []
  | _, _ => ref.nameTrail

namespace Graph

/-- The trail of a search for supertypes. -/
def supertypesTrail (g : Graph) (ref : TypeRef) : List Record :=
  (g.searchFrom? ref).elim [] fun s =>
    s.expanded.flatMap fun r => (g.parents r).flatMap TypeRef.nameTrail

/-- The trail of comparing a reference with an identity, up to the first that has it. -/
def comparisonTrail (identity : String) : List TypeRef → List Record
  | [] => []
  | ref :: rest =>
    ref.nameTrail ++ (if ref.identity = identity then [] else comparisonTrail identity rest)

/-- The trail of asking whether one type can stand for another. -/
def assignableTrail (g : Graph) (target source : TypeRef) : List Record :=
  target.nameTrail ++ source.nameTrail ++
    (if target.identity = source.identity then []
     else g.supertypesTrail source ++ comparisonTrail target.identity (g.supertypes source))

/-- The trail of asking this of each source in turn, up to the first that can. -/
def anyAssignableTrail (g : Graph) (target : TypeRef) : List TypeRef → List Record
  | [] => []
  | source :: rest =>
    g.assignableTrail target source ++
      (if g.isAssignable target source then [] else g.anyAssignableTrail target rest)

/-- The trail of looking for the most derived of a list. -/
def leavesTrail (g : Graph) (kept : List TypeRef) : List TypeRef → List Record
  | [] => []
  | entry :: later =>
    g.anyAssignableTrail entry kept ++
      (if kept.any (g.isAssignable entry) then g.leavesTrail kept later
       else g.anyAssignableTrail entry later ++
         (if later.any (g.isAssignable entry) then g.leavesTrail kept later
          else g.leavesTrail (kept ++ [entry]) later))

/-- The trail of finding the interfaces a header names. -/
def leafInterfacesTrail (g : Graph) (d : TypeDecl) : List Record :=
  if d.kind = .enum ∨ d.kind = .delegate then []
  else g.leavesTrail [] (d.interfaces.filter g.isPublic)

end Graph

end ApiShell
