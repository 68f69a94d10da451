import ApiShell.TypeRef.Arity

/-! Source names of type references. Nested types are reached by dots, arguments stand in angle
brackets behind the segment that claims them, a nullable value type ends in a question mark, and
built-in types go by their keyword unless aliases are off. -/

namespace ApiShell

/-- The keyword of each built-in type that has one. -/
def keywordAliases : List (String × String) :=
  [("System.Boolean", "bool"), ("System.Byte", "byte"), ("System.SByte", "sbyte"),
   ("System.Char", "char"), ("System.Decimal", "decimal"), ("System.Double", "double"),
   ("System.Single", "float"), ("System.Int16", "short"), ("System.UInt16", "ushort"),
   ("System.Int32", "int"), ("System.UInt32", "uint"), ("System.Int64", "long"),
   ("System.UInt64", "ulong"), ("System.Object", "object"), ("System.String", "string"),
   ("System.Void", "void")]

/-- The characters of array and pointer suffixes. -/
def isShapeChar (c : Char) : Bool :=
  c = '[' || c = ']' || c = '*' || c = ','

/-- The keyword of a built-in type, behind which array and pointer suffixes stay. -/
def aliased (name : String) : String :=
  let base := Text.trimEnd isShapeChar name
  let shape := String.ofList (name.toList.drop base.toList.length)
  (keywordAliases.lookup base).getD base ++ shape

namespace TypeRef

/-- Dots for plus signs, and no by-reference marks at the ends. -/
def dotted (chars : List Char) : List Char :=
  Text.dropEnds (· = '&') (Text.replaceChar '+' '.' chars)

/-- The source name of a bare metadata name. -/
def bareName (aliases : Bool) (name : String) : String :=
  let text := String.ofList (dotted (Arity.stripFrom false name.toList))
  if aliases then aliased text else text

/-- The source name of a metadata name with the source names of its arguments. -/
def boundName (name : String) (args : List String) : String :=
  String.ofList (dotted (Arity.attach (Text.dropEnd (· = '&') name.toList)
    (args.map String.toList)))

mutual

/-- The source name of a reference. -/
def sourceName (aliases : Bool) : TypeRef → String
  | { name, args, nullable, category, byRef := _ } =>
    if category == .void || name == voidName then "void"
    else if nullable then
      (match args with
        | [] => bareName aliases name
        | arg :: _ => sourceName aliases arg) ++ "?"
    else match args with
      | [] => bareName aliases name
      | arg :: more => boundName name (sourceName aliases arg :: sourceNames aliases more)

/-- The source names of references. -/
def sourceNames (aliases : Bool) : List TypeRef → List String
  | [] => []
  | ref :: rest => sourceName aliases ref :: sourceNames aliases rest

end

/-- The name by which references are compared: the source name without aliases. -/
def identity (ref : TypeRef) : String :=
  ref.sourceName false

/-- The source name of a reference that may be missing; a missing one is to no value. -/
def sourceName? (aliases : Bool) : Option TypeRef → String
  | none => "void"
  | some ref => ref.sourceName aliases

theorem sourceNames_eq (aliases : Bool) (refs : List TypeRef) :
    sourceNames aliases refs = refs.map (sourceName aliases) := by
  induction refs with
  | nil => rfl
  | cons ref rest ih => simp [sourceNames, ih]

end TypeRef

end ApiShell
