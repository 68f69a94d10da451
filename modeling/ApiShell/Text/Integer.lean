import ApiShell.Text.Blank
import ApiShell.Text.Digit

/-! Whole numbers as people type them: blanks around, a sign, digits of any script and single
underscores between digits. -/

namespace ApiShell.Text

/-- The digits of a numeral in which an underscore may stand between two digits. The flag says
whether a digit came just before. -/
def digitsOf? : Bool → List Char → Option (List Char)
  | afterDigit, [] => if afterDigit then some [] else none
  | afterDigit, c :: rest =>
    if isDecimalDigit c then (digitsOf? true rest).map (c :: ·)
    else if c = '_' ∧ afterDigit = true then digitsOf? false rest
    else none

/-- Whether a character may stand around a numeral: a blank other than the four separators
before the space. -/
def isNumeralGap (c : Char) : Bool :=
  isBlank c && !(0x1c ≤ c.toNat && c.toNat ≤ 0x1f)

/-- The whole number a text writes, if it writes one. -/
def integer? (text : String) : Option Int :=
  match dropEnds isNumeralGap text.toList with
  | '-' :: rest => (digitsOf? false rest).map fun ds => -(digitsValue ds : Int)
  | '+' :: rest => (digitsOf? false rest).map fun ds => (digitsValue ds : Int)
  | chars => (digitsOf? false chars).map fun ds => (digitsValue ds : Int)

end ApiShell.Text
