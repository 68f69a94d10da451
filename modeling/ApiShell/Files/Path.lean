import ApiShell.Text.Basic

/-! Paths by their text. A path is split at slashes; empty parts and single dots are dropped,
and double dots stay until the path is resolved. -/

namespace ApiShell

/-- A path. The root is empty for a relative path. -/
structure Path where
  root : String := ""
  parts : List String := []
  deriving DecidableEq, Repr

namespace Path

/-- The root of a path: nothing, a slash, or exactly two slashes. -/
def rootOf (chars : List Char) : String :=
  match (chars.takeWhile (· = '/')).length with
  | 0 => ""
  | 2 => "//"
  | _ => "/"

/-- The path that a text writes. -/
def ofText (text : String) : Path :=
  let chars := text.toList
  { root := rootOf chars
    parts := ((Text.splitOn '/' chars).map String.ofList).filter fun p => p != "" && p != "." }

/-- The path as text; the empty relative path is a dot. -/
def text (p : Path) : String :=
  if p.root = "" ∧ p.parts = [] then "." else p.root ++ "/".intercalate p.parts

/-- Whether a path starts at the root. -/
def isAbsolute (p : Path) : Bool := p.root != ""

/-- A path below another. An absolute path stands for itself. -/
def join (p q : Path) : Path :=
  if q.isAbsolute then q else { p with parts := p.parts ++ q.parts }

/-- The path below another that a text writes. -/
def joinText (p : Path) (text : String) : Path :=
  p.join (ofText text)

/-- The path without its last part. -/
def parent (p : Path) : Path :=
  { p with parts := p.parts.dropLast }

/-- The last part. -/
def name (p : Path) : String :=
  p.parts.getLast?.getD ""

/-- Whether a name on the path holds the null character. -/
def holdsNull (p : Path) : Bool :=
  p.parts.any fun part => part.toList.contains '\x00'

/-- The characters before the last dot and those from it on, where the dot is neither the first
nor the last character. -/
def cutAtDot? (chars : List Char) : Option (List Char × List Char) :=
  let behind := chars.reverse.takeWhile (· ≠ '.')
  let before := chars.take (chars.length - behind.length - 1)
  if behind.isEmpty ∨ before.isEmpty then none
  else some (before, chars.drop before.length)

/-- The ending of the last part, with its dot. -/
def suffix (p : Path) : String :=
  ((cutAtDot? p.name.toList).map fun cut => String.ofList cut.2).getD ""

/-- The last part without its ending. -/
def stem (p : Path) : String :=
  ((cutAtDot? p.name.toList).map fun cut => String.ofList cut.1).getD p.name

/-- Goes from a place to one of its entries, or up. -/
def walk (place : List String) (part : String) : List String :=
  if part = ".." then place.dropLast else place ++ [part]

/-- The parts of the place a path leads to from a working directory, without double dots. -/
def place (p : Path) (cwd : List String) : List String :=
  p.parts.foldl walk (if p.isAbsolute then [] else cwd)

/-- The absolute path to the same place, without double dots. -/
def resolve (p : Path) (cwd : List String) : Path :=
  { root := "/", parts := p.place cwd }

/-- The path as seen from a directory, if it lies below. -/
def relativeTo? (p base : Path) : Option Path :=
  if p.root = base.root ∧ base.parts <+: p.parts then
    some { parts := p.parts.drop base.parts.length }
  else none

end Path

end ApiShell
