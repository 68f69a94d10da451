import ApiShell.Text.Basic

/-! Blank characters of every script, and text without the blanks around it. -/

namespace ApiShell.Text

/-- Whether a character is blank: the blanks of the basic alphabet with the four separators
before the space, the next-line control and the spaces and separators of other scripts. -/
def isBlank (c : Char) : Bool :=
  let n := c.toNat
  (9 ≤ n && n ≤ 13) || (0x1c ≤ n && n ≤ 0x20) || n == 0x85 || n == 0xa0 || n == 0x1680 ||
    (0x2000 ≤ n && n ≤ 0x200a) || n == 0x2028 || n == 0x2029 || n == 0x202f || n == 0x205f ||
    n == 0x3000

/-- The text without blanks at its ends. -/
def trim (text : String) : String :=
  trimEnds isBlank text

/-- Whether a text has nothing but blanks. -/
def allBlank (text : String) : Bool :=
  text.toList.all isBlank

end ApiShell.Text
