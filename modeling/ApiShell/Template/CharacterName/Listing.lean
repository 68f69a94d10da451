import ApiShell.Text.Basic
import ApiShell.Text.Hex

/-! Listings of names. A listing names neighbouring characters one after another, with semicolons
between the items, and says of each name only what is new in it:

* `U+2010` gives the code point of the next name;
* `1 SMALL 3` is a name that has the word `SMALL` and takes one word before it and three words
  behind it from the same places of the name before;
* `+12` stands for twelve further names, which count up the number at the end of the name before.
-/

namespace ApiShell.Template.CharacterName

open Text (hexNumber? padded trimEnds)

/-- A name by its words, and the code point of its character. -/
structure Entry where
  words : List String
  code : Nat
  deriving DecidableEq, Repr

/-- The words that are written, where a number takes that many words of the name before. -/
def wordsAfter : (before : List String) → List String → List String
  | _, [] => []
  | before, word :: rest =>
    match word.toNat? with
    | some count => before.take count ++ wordsAfter (before.drop count) rest
    | none => word :: wordsAfter (before.drop 1) rest

/-- A word that ends in a number, with that number raised and in as many digits at least. -/
def raised (step : Nat) (word : String) : String :=
  let chars := word.toList
  let digits := (chars.reverse.takeWhile Char.isDigit).reverse
  let number := digits.foldl (fun total c => total * 10 + (c.toNat - '0'.toNat)) 0
  String.ofList (chars.take (chars.length - digits.length)) ++
    padded digits.length (number + step)

/-- A name whose last word is raised. -/
def lastRaised (step : Nat) (words : List String) : List String :=
  words.dropLast ++ (words.getLast?.map (raised step)).toList

/-- The entries that items of a listing give, from a code point on and behind a name. -/
def entriesFrom (code : Nat) (before : List String) : List String → List Entry
  | [] => []
  | item :: rest =>
    match item.toList with
    | 'U' :: '+' :: digits =>
      entriesFrom ((hexNumber? digits.length digits).getD code) before rest
    | '+' :: digits =>
      let count := (String.ofList digits).toNat?.getD 0
      (List.range count).map (fun i => { words := lastRaised (i + 1) before, code := code + i }) ++
        entriesFrom (code + count) (lastRaised count before) rest
    | _ =>
      let words := wordsAfter before (item.splitOn " ")
      { words, code } :: entriesFrom (code + 1) words rest

/-- The items of a listing. Each may start on a line of its own. -/
def items (listing : String) : List String :=
  (listing.splitOn ";").map (trimEnds fun c => c = '\n' || c = ' ')

/-- The names that a listing gives. -/
def entries (listing : String) : List Entry :=
  entriesFrom 0 [] (items listing)

/-- The code point of a name in a listing. -/
def codeIn? (words : List String) (listing : String) : Option Nat :=
  ((entries listing).find? fun entry => entry.words = words).map (·.code)

end ApiShell.Template.CharacterName
