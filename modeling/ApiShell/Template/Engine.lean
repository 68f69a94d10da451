import ApiShell.Banner
import ApiShell.Template.Mark

/-! An engine for templates. A template has marks for the library's name and version and for the
names that were left out. A mark that is alone on its line and prints nothing takes the line with
it. -/

namespace ApiShell.Template

/-- A part of a template. -/
inductive Piece where
  | text (chars : List Char)
  | name
  | version
  /-- The names that were left out, with a text between them. -/
  | ignored (separator : String)
  /-- What follows is printed only where names were left out. -/
  | whenIgnored
  | done
  deriving DecidableEq, Repr

/-! ## Templates -/

/-- The piece that a mark for a value stands for; an unknown value prints nothing. -/
def valuePiece : List Lexeme → Piece
  | [.word "library", .sign '.', .word "name"] => .name
  | [.word "library", .sign '.', .word "version"] => .version
  | mark => ((separator? mark).map Piece.ignored).getD (.text [])

/-- The piece that a mark for a condition stands for. -/
def tagPiece : List Lexeme → Except Fault Piece
  | [.word "if", .word "ignored"] => .ok .whenIgnored
  | [.word "endif"] => .ok .done
  | .word word :: _ => .error (.unknownTag word)
  | _ => .error (.unknownTag "")

/-- The text before a tag, without the blanks that alone stand before it on its line. -/
def beforeTag (atLineStart : Bool) (text : List Char) : List Char :=
  let blanks := (text.reverse.takeWhile (· ≠ '\n')).length
  let lineStart := text.length - blanks
  if (atLineStart || lineStart != 0) && (text.drop lineStart).all Text.isBlank then
    text.take lineStart
  else text

/-- The text behind a tag, without the line end that follows it at once. -/
def behindTag : List Char → Bool × List Char
  | '\n' :: rest => (true, rest)
  | rest => (false, rest)

/-- Cuts a template into pieces. `text` holds the characters since the last mark, the last one
first, and the flag says whether they start a line. The fuel is more than the number of
characters. -/
def piecesFrom : Nat → (atLineStart : Bool) → (text : List Char) → List Char →
    Except Fault (List Piece)
  | 0, _, text, _ => .ok [.text text.reverse]
  | fuel + 1, atLineStart, text, chars =>
    match chars with
    | '\x7b' :: '\x7b' :: rest => do
      let (mark, behind) ← lexemes '\x7d' fuel rest
      let more ← piecesFrom fuel false [] behind
      pure (.text text.reverse :: valuePiece mark :: more)
    | '\x7b' :: '%' :: rest => do
      let (mark, behind) ← lexemes '%' fuel rest
      let piece ← tagPiece mark
      let (startsLine, behind) := behindTag behind
      let more ← piecesFrom fuel startsLine [] behind
      pure (.text (beforeTag atLineStart text.reverse) :: piece :: more)
    | '\x7b' :: '#' :: rest =>
      match behindComment rest with
      | none => .error .unclosedMark
      | some behind => do
        let (startsLine, behind) := behindTag behind
        let more ← piecesFrom fuel startsLine [] behind
        pure (.text (beforeTag atLineStart text.reverse) :: more)
    | c :: rest => piecesFrom fuel atLineStart (c :: text) rest
    | [] => .ok [.text text.reverse]

/-- The text of a template without the line end that closes it. -/
def withoutLastBreak (chars : List Char) : List Char :=
  if chars.getLast? = some '\n' then chars.dropLast else chars

/-- The pieces of a template. -/
def pieces (template : String) : Except Fault (List Piece) :=
  let chars := withoutLastBreak template.toList
  piecesFrom (chars.length + 1) true [] chars

/-! ## Rendering -/

/-- Prints pieces. `depth` counts the open conditions; inside them nothing is printed when no
names were left out. -/
def render (name version : String) (ignored : List String) (depth : Nat) : List Piece → String
  | [] => ""
  | piece :: rest =>
    let isHidden := depth != 0 && ignored.isEmpty
    let shown (s : String) := (if isHidden then "" else s) ++ render name version ignored depth rest
    match piece with
    | .text chars => shown (String.ofList chars)
    | .name => shown name
    | .version => shown version
    | .ignored separator => shown (separator.intercalate ignored)
    | .whenIgnored => render name version ignored (depth + 1) rest
    | .done => render name version ignored (depth - 1) rest

/-- The text that a template gives. -/
def fill (template name version : String) (ignored : List String) : Except Fault String := do
  let pieces ← pieces template
  pure (render name version ignored 0 pieces)

instance : Banner.Engine where
  fill template name version ignored :=
    (fill template name version ignored).mapError Fault.message

theorem engine_fill (template name version : String) (ignored : List String) :
    Banner.Engine.fill template name version ignored =
      (fill template name version ignored).mapError Fault.message := rfl

end ApiShell.Template
