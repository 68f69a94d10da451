import ApiShell.Text.Basic
import ApiShell.Yaml.Basic

/-! Tokens of YAML text. Indentation shows in them: a block collection starts where its first
line is indented more than the one around it, and ends where a line is indented less. -/

namespace ApiShell.Yaml

/-- A directive: the major number of the language version, a handle for tags, or another one, which
means nothing. -/
inductive Directive where
  | version (major : Nat)
  | tagHandle (handle : String)
  | other
  deriving DecidableEq, Repr

/-- A token. -/
inductive Token where
  | directive (d : Directive)
  | documentStart
  | documentEnd
  | blockSequenceStart
  | blockMappingStart
  | blockEnd
  | flowSequenceStart
  | flowSequenceEnd
  | flowMappingStart
  | flowMappingEnd
  | blockEntry
  | flowEntry
  | key
  | value
  /-- A scalar; only one without quotes can mean something other than its text. -/
  | scalar (isPlain : Bool) (text : String)
  | streamEnd
  /-- The text cannot be read on from here. -/
  | broken (fault : Fault)
  deriving DecidableEq, Repr

/-- Whether a character ends a line. -/
def isBreak (c : Char) : Bool :=
  c = '\n' || c = '\r' || c = '\x85' || c = '\u2028' || c = '\u2029'

/-- Whether a character separates tokens: a blank, a tab or the end of a line. -/
def isGap (c : Char) : Bool :=
  c = ' ' || c = '\t' || isBreak c

/-- Whether the text ends or a separating character comes next. -/
def atGap : List Char → Bool
  | [] => true
  | c :: _ => isGap c

/-- Whether a character structures flow collections. -/
def isFlowMark (c : Char) : Bool :=
  c = ',' || c = '[' || c = ']' || c = '\x7b' || c = '\x7d'

/-- Whether a text may hold the character at all. -/
def isAllowed (c : Char) : Bool :=
  let n := c.toNat
  n == 0x9 || n == 0xa || n == 0xd || (0x20 ≤ n && n ≤ 0x7e) || n == 0x85 ||
    (0xa0 ≤ n && n ≤ 0xd7ff) || (0xe000 ≤ n && n ≤ 0xfffd) || 0x10000 ≤ n

/-- A place in the text. -/
structure Place where
  index : Nat := 0
  line : Nat := 0
  column : Nat := 0
  deriving DecidableEq, Repr

/-- The place behind a character. The byte order mark takes no column. -/
def Place.after (p : Place) (c : Char) : Place :=
  if isBreak c then { index := p.index + 1, line := p.line + 1, column := 0 }
  else if c = '\uFEFF' then { p with index := p.index + 1 }
  else { p with index := p.index + 1, column := p.column + 1 }

/-- The rest of a text and the place where it starts. -/
structure Cursor where
  place : Place := {}
  rest : List Char
  deriving Repr

/-- The cursor a number of characters further. -/
def Cursor.forward : Nat → Cursor → Cursor
  | 0, cur => cur
  | _ + 1, { place, rest := [] } => { place, rest := [] }
  | n + 1, { place, rest := c :: rest } => forward n { place := place.after c, rest }

/-- Whether a line of three dashes or dots, which separates documents, comes next. -/
def atSeparator : List Char → Bool
  | a :: b :: c :: rest => a = b && b = c && (a = '-' || a = '.') && atGap rest
  | _ => false

end ApiShell.Yaml
