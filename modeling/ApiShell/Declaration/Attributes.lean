import ApiShell.Literal.Basic
import ApiShell.Writer.Step

/-! The attributes of the library as a whole. The shell states its own copyright notice and the
library's version, carries the other attributes except those about signing, security and
debugging, and always has a description that says what it is. -/

namespace ApiShell

/-- The attribute with the copyright notice. -/
def copyrightAttribute : String := "System.Reflection.AssemblyCopyrightAttribute"

/-- The attribute with the version. -/
def versionAttribute : String := "System.Reflection.AssemblyVersionAttribute"

/-- The attribute with the description. -/
def descriptionAttribute : String := "System.Reflection.AssemblyDescriptionAttribute"

/-- The sentence every description starts with. -/
def disclaimer : String :=
  "This file is a declaration shell of the original library. It only exposes " ++
    "the public API for use in a compile-time environment.  "

/-- Attributes that the shell does not carry. -/
def excludedAttributes : List String :=
  [copyrightAttribute, versionAttribute, "System.Reflection.AssemblyKeyFileAttribute",
   "System.Reflection.AssemblyKeyNameAttribute", "System.Reflection.AssemblyDelaySignAttribute",
   "System.Reflection.AssemblySignatureKeyAttribute", "System.Diagnostics.DebuggableAttribute",
   "System.Runtime.CompilerServices.InternalsVisibleToAttribute"]

/-- The namespace of which no attribute is carried. -/
def excludedSpace : String := "System.Security."

/-- Whether the shell carries an attribute. -/
def isCarried (typeName : String) : Bool :=
  !excludedAttributes.contains typeName && !Text.startsWith excludedSpace typeName

namespace Attribute

/-- The type of texts. -/
def stringRef : TypeRef := { name := "System.String" }

/-- An attribute with the texts of its arguments. -/
def lineText (typeName : String) (arguments : List String) : String :=
  "[assembly: " ++ ({ name := typeName } : TypeRef).identity ++
    (if arguments.isEmpty then "" else "(" ++ ", ".intercalate arguments ++ ")") ++ "]"

/-- The value of an argument; in a description the disclaimer comes before it. -/
def shownValue (isDescription : Bool) (a : Argument) : Value :=
  match a.value with
  | .text s =>
    if isDescription && a.type.category != .enum then .text (disclaimer ++ s) else .text s
  | value => value

/-- The text of an argument. The name of an enum member that has a dot is qualified already. -/
def argumentText (g : Graph) (aliases isDescription : Bool) (a : Argument) : String :=
  match a.type.category, shownValue isDescription a with
  | .enum, .text s =>
    if s.toList.contains '.' then s else literal g aliases a.type (.text s)
  | _, value => literal g aliases a.type value

/-- The texts of all arguments, named ones last. -/
def argumentTexts (g : Graph) (aliases : Bool) (a : Attribute) : List String :=
  a.arguments.map (argumentText g aliases (a.typeName == descriptionAttribute)) ++
    a.named.map fun (name, argument) => name ++ " = " ++ argumentText g aliases false argument

/-- The line of a carried attribute. -/
def line (g : Graph) (aliases : Bool) (a : Attribute) : String :=
  lineText a.typeName (argumentTexts g aliases a)

/-- A line with a single text. -/
def noticeLine (typeName text : String) : String :=
  lineText typeName [literal {} true stringRef (.text text)]

end Attribute

/-- The attribute lines of a library. A library without a description gets the bare
disclaimer. -/
def Library.attributeLines (l : Library) (g : Graph) (aliases : Bool) (copyright : String) :
    List String :=
  let carried := l.attributes.filter (isCarried ·.typeName)
  [Attribute.noticeLine copyrightAttribute copyright,
   Attribute.noticeLine versionAttribute l.version] ++
  carried.map (Attribute.line g aliases) ++
  (if carried.any (·.typeName == descriptionAttribute) then []
   else [Attribute.noticeLine descriptionAttribute disclaimer])

end ApiShell
