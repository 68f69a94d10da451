import ApiShell.Template.CharacterName.Aliases
import ApiShell.Template.CharacterName.Alphabetic
import ApiShell.Template.CharacterName.Ancient
import ApiShell.Template.CharacterName.Composed
import ApiShell.Template.CharacterName.EastAsian
import ApiShell.Template.CharacterName.Historic
import ApiShell.Template.CharacterName.Latin
import ApiShell.Template.CharacterName.LatinAccented
import ApiShell.Template.CharacterName.Listing
import ApiShell.Template.CharacterName.MiddleEastern
import ApiShell.Template.CharacterName.Modern
import ApiShell.Template.CharacterName.Operators
import ApiShell.Template.CharacterName.Pictographs
import ApiShell.Template.CharacterName.Pictorial
import ApiShell.Template.CharacterName.Presentation
import ApiShell.Template.CharacterName.Regional
import ApiShell.Template.CharacterName.Shapes
import ApiShell.Template.CharacterName.Signs
import ApiShell.Template.CharacterName.SouthAsian
import ApiShell.Template.CharacterName.SoutheastAsian
import ApiShell.Template.CharacterName.Syllabic
import ApiShell.Template.CharacterName.Symbolic

/-! Names of characters, as the Unicode standard gives them. -/

namespace ApiShell.Template

namespace CharacterName

/-- The listings of names. -/
def listings : List String :=
  [latin, alphabetic, middleEastern, southAsian, southeastAsian, syllabic, regional, latinAccented,
   signs, shapes, operators, eastAsian, modern, presentation, ancient, historic, pictorial, symbolic,
   pictographs, selectors]

end CharacterName

open CharacterName in
/-- The character with a name. The names of syllables and of unified ideographs are written in
capital letters, all others in letters of either case. -/
def charNamed? (name : String) : Option Char :=
  let capitals := name.toList.map Char.toUpper
  let code := (syllable? name.toList).or <| (ideograph? name.toList).or <| (coded? capitals).or <|
    (furtherNamed? (String.ofList capitals)).or <|
      listings.findSome? (codeIn? ((String.ofList capitals).splitOn " "))
  code.map Char.ofNat

end ApiShell.Template
