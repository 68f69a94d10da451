import ApiShell.Text.Basic
import ApiShell.Text.Hex
import ApiShell.Text.Ranges

/-! Names that are made by a rule: those of Korean syllables, which spell the letters of the
syllable, and those of ideographs and other characters that are named by their code points. -/

namespace ApiShell.Template.CharacterName

open Text (afterStart? hexNumber? hexValue? inRanges)

/-! ## Syllables -/

/-- The spellings of the letters that start a syllable. -/
def initials : List String :=
  ["G", "GG", "N", "D", "DD", "R", "M", "B", "BB", "S", "SS", "", "J", "JJ", "C", "K", "T", "P",
   "H"]

/-- The spellings of the vowels. -/
def vowels : List String :=
  ["A", "AE", "YA", "YAE", "EO", "E", "YEO", "YE", "O", "WA", "WAE", "OE", "YO", "U", "WEO", "WE",
   "WI", "YU", "EU", "YI", "I"]

/-- The spellings of the letters that end a syllable. -/
def finals : List String :=
  ["", "G", "GG", "GS", "N", "NJ", "NH", "D", "L", "LG", "LM", "LB", "LS", "LT", "LP", "LH", "M",
   "B", "BS", "S", "SS", "NG", "J", "C", "K", "T", "P", "H"]

/-- The place of the longest spelling that comes next, and what follows it. -/
def longest? (spellings : List String) (chars : List Char) : Option (Nat × List Char) :=
  let matching := spellings.zipIdx.filterMap fun (spelling, place) =>
    (afterStart? spelling.toList chars).map fun rest => (place, rest)
  matching.foldl (fun best found =>
    match best with
    | none => some found
    | some (place, rest) =>
      if found.2.length < rest.length then some found else some (place, rest)) none

/-- The code point of the syllable with a name. Syllables are ordered by their first letter, then
by the vowel, then by the last letter. -/
def syllable? (name : List Char) : Option Nat := do
  let chars ← afterStart? "HANGUL SYLLABLE ".toList name
  let (first, chars) ← longest? initials chars
  let (vowel, chars) ← longest? vowels chars
  let (last, chars) ← longest? finals chars
  if chars.isEmpty then
    some (0xac00 + (first * vowels.length + vowel) * finals.length + last)
  else none

/-! ## Names by code point -/

/-- Whether a character is a digit in base sixteen, with capital letters. -/
def isCapitalHex (c : Char) : Bool :=
  (hexValue? c).isSome && !c.isLower

/-- The digits behind a label at the end of a name, and the code point that they write, which has
to lie in one of the ranges. -/
def labelled? (label : String) (ranges : List (Nat × Nat)) (name : List Char) :
    Option (List Char × Nat) := do
  let digits ← afterStart? label.toList name
  let code ← hexNumber? digits.length digits
  if digits.all isCapitalHex && inRanges ranges code then some (digits, code) else none

/-- The unified ideographs. -/
def ideographRanges : List (Nat × Nat) :=
  [(0x3400, 0x4dbf), (0x4e00, 0x9fff), (0x20000, 0x2a6df), (0x2a700, 0x2b738), (0x2b740, 0x2b81d),
   (0x2b820, 0x2cea1), (0x2ceb0, 0x2ebe0), (0x30000, 0x3134a)]

/-- The code point of the unified ideograph with a name, in five digits at most. -/
def ideograph? (name : List Char) : Option Nat := do
  let (digits, code) ← labelled? "CJK UNIFIED IDEOGRAPH-" ideographRanges name
  if digits.length ≤ 5 then some code else none

/-- Other characters that are named by their code points. -/
def labels : List (String × List (Nat × Nat)) :=
  [("CJK COMPATIBILITY IDEOGRAPH-", [(0xf900, 0xfa6d), (0xfa70, 0xfad9), (0x2f800, 0x2fa1d)]),
   ("KHITAN SMALL SCRIPT CHARACTER-", [(0x18b00, 0x18cd5)]),
   ("NUSHU CHARACTER-", [(0x1b170, 0x1b2fb)])]

/-- The code point of another character that is named by it, without zeros in front. -/
def coded? (name : List Char) : Option Nat :=
  labels.findSome? fun (label, ranges) => do
    let (digits, code) ← labelled? label ranges name
    if digits.head? = some '0' then none else some code

end ApiShell.Template.CharacterName
