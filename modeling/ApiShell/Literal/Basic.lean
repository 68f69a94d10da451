import ApiShell.Graph.Basic
import ApiShell.Literal.Escape

/-! Expressions in the shell: the default value of a type, the members of an enum, and constants
as source text. -/

namespace ApiShell

/-- The zero of each native integer that has a name for it. -/
def nativeZeros : List (String × String) :=
  [("System.IntPtr", "System.IntPtr.Zero"), ("System.UIntPtr", "System.UIntPtr.Zero")]

/-- The suffix of number literals of the types that need one. -/
def literalSuffixes : List (String × String) :=
  [("System.Single", "f"), ("System.Decimal", "m")]

/-- The expression for the enum value at a position: the member declared there, or else a
conversion of the number. -/
def enumMember (g : Graph) (aliases : Bool) (ref : TypeRef) (position : Int) : String :=
  let name := ref.sourceName aliases
  let member? := if position < 0 then none else (g.enumMembers ref)[position.toNat]?
  match member? with
  | some member => name ++ "." ++ member
  | none =>
    if position = 0 then "default(" ++ name ++ ")"
    else "(" ++ name ++ ")" ++ toString position

/-- An expression with the default value of a type; the type without values has none. -/
def defaultValue (g : Graph) (aliases : Bool) (ref : TypeRef) : String :=
  if ref.isVoid then ""
  else
    let ref := ref.element
    match ref.category with
    | .boolean => "false"
    | .char => "'\\0'"
    | .nativeInt => (nativeZeros.lookup ref.identity).getD "0"
    | .primitive => "0"
    | .enum => enumMember g aliases ref 0
    | .valueType => "new " ++ ref.sourceName aliases ++ "()"
    | category =>
      if ref.nullable then "new " ++ ref.sourceName aliases ++ "()"
      else if category = .genericParameter then "default(" ++ ref.sourceName aliases ++ ")"
      else "null"

/-- The statement that returns the default value; there is none for the type without values. -/
def returnStatement (g : Graph) (aliases : Bool) (ref : TypeRef) : String :=
  if ref.isVoid then "" else "return " ++ defaultValue g aliases ref ++ ";"

/-- A constant that is not an enum value, as source text. -/
def plainLiteral (ref : TypeRef) (value : Value) : String :=
  match value with
  | .null => "null"
  | .bool b => if b then "true" else "false"
  | value =>
    let identity := ref.identity
    if ref.category = .char ∨ identity = "System.Char" then
      Literal.quoted '\'' value.display
    else if identity = "System.String" then Literal.quoted '"' value.display
    else match value with
      | .text s => Literal.quoted '"' s
      | .float .nan => identity ++ ".NaN"
      | .float (.infinite negative) =>
        identity ++ (if negative then ".NegativeInfinity" else ".PositiveInfinity")
      | value => value.display ++ (literalSuffixes.lookup identity).getD ""

/-- A constant of a type as source text. -/
def literal (g : Graph) (aliases : Bool) (ref : TypeRef) (value : Value) : String :=
  match ref.category, value with
  | .enum, .text member => ref.sourceName aliases ++ "." ++ member
  | .enum, .int position => enumMember g aliases ref position
  | _, value => plainLiteral ref value

end ApiShell
