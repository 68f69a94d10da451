import ApiShell.Text.Basic

/-! A writer of indented lines. It holds the lines written so far and the current level; every
line is put behind as many indentation units as the level says. -/

namespace ApiShell

/-- What a writer refuses. -/
inductive WriterError where
  | negativeIndent
  | unopenedBlock
  deriving DecidableEq, Repr

/-- The wording of a refusal. -/
def WriterError.message : WriterError → String
  | .negativeIndent => "indent_size must not be negative"
  | .unopenedBlock => "close_block called without an open block"

/-- Lines written so far, and the level and unit of the next one. -/
structure Writer where
  unit : String
  level : Nat := 0
  lines : List String := []
  deriving DecidableEq, Repr

namespace Writer

/-- The unit of indentation: a tab, or a number of spaces. -/
def unitOf (useTabs : Bool) (indentSize : Nat) : String :=
  if useTabs then "\t" else String.ofList (List.replicate indentSize ' ')

/-- A fresh writer. A negative indentation is refused, also where tabs are used. -/
def fresh? (useTabs : Bool) (indentSize : Int) : Except WriterError Writer :=
  if indentSize < 0 then .error .negativeIndent
  else .ok { unit := unitOf useTabs indentSize.toNat }

/-- A unit written a number of times. -/
def indentation (unit : String) (level : Nat) : String :=
  String.join (List.replicate level unit)

/-- A piece of text at a level; an empty piece is not indented. -/
def indented (unit : String) (level : Nat) (piece : String) : String :=
  if piece = "" then "" else indentation unit level ++ piece

/-- Writes a text. Each line feed in it starts a new line at the current level. -/
def line (w : Writer) (text : String) : Writer :=
  { w with lines := w.lines ++ (Text.pieces text).map (indented w.unit w.level) }

/-- Writes a header and an opening brace, and goes one level deeper. -/
def openBlock (w : Writer) (header : String) : Writer :=
  let w := (w.line header).line "\x7b"
  { w with level := w.level + 1 }

/-- Goes one level up and writes a closing brace with a suffix. -/
def closeBlock (w : Writer) (suffix : String) : Except WriterError Writer :=
  match w.level with
  | 0 => .error .unopenedBlock
  | level + 1 => .ok ({ w with level := level }.line ("\x7d" ++ suffix))

/-- All lines, each ended by a line feed. -/
def text (w : Writer) : String :=
  String.join (w.lines.map (· ++ "\n"))

end Writer

end ApiShell
