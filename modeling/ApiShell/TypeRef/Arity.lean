import ApiShell.Text.Digit
import ApiShell.TypeRef.Basic

/-! Arity markers: a grave accent and decimal digits, which say how many generic parameters the
type named before them has. -/

namespace ApiShell.Arity

/-- The character that starts a marker when a digit follows. -/
def mark : Char := '\x60'

/-- Whether the characters start with a decimal digit. -/
def startsDigit : List Char → Bool
  | [] => false
  | c :: _ => Text.isDecimalDigit c

/-- The characters without markers; the flag says that the digits of a marker come just
before. -/
def stripFrom : Bool → List Char → List Char
  | _, [] => []
  | inMarker, c :: rest =>
    if inMarker && Text.isDecimalDigit c then stripFrom true rest
    else if c == mark && startsDigit rest then stripFrom true rest
    else c :: stripFrom false rest

/-- The name without the marker of any of its segments. -/
def strip (name : String) : String :=
  String.ofList (stripFrom false name.toList)

/-- A segment cut at its first marker. -/
structure Cut where
  before : List Char
  count : Nat
  after : List Char

/-- Cuts a segment at its first marker, if it has one. -/
def cut? : List Char → Option Cut
  | [] => none
  | c :: rest =>
    if c == mark && startsDigit rest then
      some ⟨[], Text.digitsValue (rest.takeWhile Text.isDecimalDigit),
        rest.dropWhile Text.isDecimalDigit⟩
    else (cut? rest).map fun cut => { cut with before := c :: cut.before }

/-- Arguments between angle brackets; nothing where there are none. -/
def bracketed (args : List (List Char)) : List Char :=
  if args.isEmpty then [] else '<' :: Text.joinWith [','] args ++ ['>']

/-- Gives each segment as many arguments as its first marker claims, and returns the segments
and the arguments left over. -/
def attachTo : List (List Char) → List (List Char) → List (List Char) × List (List Char)
  | [], args => ([], args)
  | segment :: segments, args =>
    match cut? segment with
    | none =>
      let (done, left) := attachTo segments args
      (segment :: done, left)
    | some cut =>
      let (done, left) := attachTo segments (args.drop cut.count)
      ((cut.before ++ bracketed (args.take cut.count) ++ cut.after) :: done, left)

/-- Puts arguments on the segments of a name. Those that no marker claims go on the last
segment, and dots take the place of the plus signs. -/
def attach (name : List Char) (args : List (List Char)) : List Char :=
  let (segments, left) := attachTo (Text.splitOn '+' name) args
  Text.joinWith ['.'] segments ++ bracketed left

end ApiShell.Arity
