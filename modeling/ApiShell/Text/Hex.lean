/-! Numbers in base sixteen, and code points written with them. -/

namespace ApiShell.Text

/-- The value of a digit in base sixteen. -/
def hexValue? (c : Char) : Option Nat :=
  if '0' ≤ c ∧ c ≤ '9' then some (c.toNat - '0'.toNat)
  else if 'a' ≤ c ∧ c ≤ 'f' then some (c.toNat - 'a'.toNat + 10)
  else if 'A' ≤ c ∧ c ≤ 'F' then some (c.toNat - 'A'.toNat + 10)
  else none

/-- The number that the first digits write, as many as are asked for. -/
def hexNumber? (width : Nat) (chars : List Char) : Option Nat :=
  if chars.length < width then none
  else (chars.take width).foldlM (fun total c => (hexValue? c).map (total * 16 + ·)) 0

/-- A number in base sixteen, filled up with zeros to a width. -/
def hex (width n : Nat) : List Char :=
  let digits := Nat.toDigits 16 n
  List.replicate (width - digits.length) '0' ++ digits

/-- The letters that introduce a code point, each with the number of digits behind it. -/
def codeWidths : List (Char × Nat) :=
  [('x', 2), ('u', 4), ('U', 8)]

/-- A character by its code point, behind the letter for the least width that holds it. -/
def codeEscape (c : Char) : List Char :=
  if c.toNat < 0x100 then 'x' :: hex 2 c.toNat
  else if c.toNat < 0x10000 then 'u' :: hex 4 c.toNat
  else 'U' :: hex 8 c.toNat

end ApiShell.Text
