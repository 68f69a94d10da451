import ApiShell.Binary64.Basic
import ApiShell.Text.Integer

/-! Decimal numerals: digits, an optional point with more digits, and an optional exponent. -/

namespace ApiShell.Binary64

/-- Whether a character is one of the ten basic digits. -/
def isDigit (c : Char) : Bool :=
  '0' ≤ c && c ≤ '9'

/-- The number a row of basic digits writes. -/
def digitsNat (digits : List Char) : Nat :=
  digits.foldl (fun total c => total * 10 + (c.toNat - '0'.toNat)) 0

/-- The number with the given sign, digits before and after the point, and exponent. -/
def ofParts (negative : Bool) (whole fraction : List Char) (exponent : Int) : Binary64 :=
  ofDecimal negative (digitsNat (whole ++ fraction)) (exponent - fraction.length)

/-- An exponent, with its mark, at the end of a numeral; nothing stands for zero. -/
def exponent? : List Char → Option Int
  | [] => some 0
  | mark :: rest =>
    if mark = 'e' ∨ mark = 'E' then
      let (negative, digits) := match rest with
        | '-' :: ds => (true, ds)
        | '+' :: ds => (false, ds)
        | ds => (false, ds)
      if digits ≠ [] ∧ digits.all isDigit then
        some (if negative then -(digitsNat digits : Int) else digitsNat digits)
      else none
    else none

/-- The number an unsigned numeral writes. -/
def numeral? (negative : Bool) (chars : List Char) : Option Binary64 :=
  let whole := chars.takeWhile isDigit
  let (fraction, rest) := match chars.dropWhile isDigit with
    | '.' :: more => (more.takeWhile isDigit, more.dropWhile isDigit)
    | more => ([], more)
  if whole.isEmpty && fraction.isEmpty then none
  else (exponent? rest).map (ofParts negative whole fraction)

/-- The characters of a numeral without the underscores in it, each of which has to stand between
two digits. The flag says whether a digit came just before. -/
def ungrouped? : Bool → List Char → Option (List Char)
  | _, [] => some []
  | afterDigit, c :: rest =>
    if c = '_' then
      if afterDigit && rest.head?.any isDigit then ungrouped? false rest else none
    else (ungrouped? (isDigit c) rest).map (c :: ·)

/-- A digit of any script as the basic digit of the same value. -/
def basicDigit (c : Char) : Char :=
  ((Text.digitValue? c).map Nat.digitChar).getD c

/-- The number a text writes: a sign, and a numeral or the name of infinity or of no number.
Digits may be of any script and may be grouped by underscores. -/
def ofText? (text : String) : Option Binary64 := do
  let chars := (Text.dropEnds Text.isNumeralGap text.toList).map basicDigit
  let (negative, chars) := match ← ungrouped? false chars with
    | '-' :: rest => (true, rest)
    | '+' :: rest => (false, rest)
    | chars => (false, chars)
  let word := String.ofList (chars.map Char.toLower)
  if word = "nan" then some .nan
  else if word = "inf" ∨ word = "infinity" then some (.infinite negative)
  else numeral? negative chars

end ApiShell.Binary64
