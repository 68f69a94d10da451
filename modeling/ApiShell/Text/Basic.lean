/-! Cutting and joining text. The work is done on lists of characters, where it can be
reasoned about; the functions on strings wrap it. -/

namespace ApiShell.Text

/-- The characters without those of a kind at the end. -/
def dropEnd (p : Char → Bool) (chars : List Char) : List Char :=
  (chars.reverse.dropWhile p).reverse

/-- The characters without those of a kind at both ends. -/
def dropEnds (p : Char → Bool) (chars : List Char) : List Char :=
  dropEnd p (chars.dropWhile p)

/-- The text without the characters of a kind at its end. -/
def trimEnd (p : Char → Bool) (text : String) : String :=
  String.ofList (dropEnd p text.toList)

/-- The text without the characters of a kind at both ends. -/
def trimEnds (p : Char → Bool) (text : String) : String :=
  String.ofList (dropEnds p text.toList)

/-- Cuts at every occurrence of a separator. There is always at least one piece. -/
def splitOn (sep : Char) : List Char → List (List Char)
  | [] => [[]]
  | c :: rest =>
    if c = sep then [] :: splitOn sep rest
    else match splitOn sep rest with
      | [] => [[c]]
      | piece :: pieces => (c :: piece) :: pieces

/-- Puts a separator between the pieces. -/
def joinWith (sep : List Char) : List (List Char) → List Char
  | [] => []
  | [piece] => piece
  | piece :: pieces => piece ++ sep ++ joinWith sep pieces

/-- The text with one character put for every occurrence of another. -/
def replaceChar (old new : Char) (chars : List Char) : List Char :=
  chars.map fun c => if c = old then new else c

/-- The pieces of a text between its line feeds. -/
def pieces (text : String) : List String :=
  (splitOn '\n' text.toList).map String.ofList

/-- What follows a start that the characters are known to have, if they have it. -/
def afterStart? : List Char → List Char → Option (List Char)
  | [], chars => some chars
  | _ :: _, [] => none
  | s :: start, c :: chars => if s = c then afterStart? start chars else none

/-- Whether a text starts with another. -/
def startsWith (start text : String) : Bool :=
  (afterStart? start.toList text.toList).isSome

/-- Whether a text ends with a character. -/
def endsWith (last : Char) (text : String) : Bool :=
  text.toList.getLast? == some last

/-- Both ways of ending a line, and a lone carriage return, become a line feed. -/
def plainNewlines : List Char → List Char
  | [] => []
  | '\r' :: '\n' :: rest => '\n' :: plainNewlines rest
  | '\r' :: rest => '\n' :: plainNewlines rest
  | c :: rest => c :: plainNewlines rest

/-- A number filled up with zeros on the left. -/
def padded (width n : Nat) : String :=
  let digits := Nat.toDigits 10 n
  String.ofList (List.replicate (width - digits.length) '0' ++ digits)

theorem splitOn_ne_nil (sep : Char) (chars : List Char) : splitOn sep chars ≠ [] := by
  induction chars with
  | nil => simp [splitOn]
  | cons c rest ih =>
    simp only [splitOn]
    split
    · simp
    · split <;> simp

theorem joinWith_splitOn (sep : Char) (chars : List Char) :
    joinWith [sep] (splitOn sep chars) = chars := by
  induction chars with
  | nil => simp [splitOn, joinWith]
  | cons c rest ih =>
    simp only [splitOn]
    split
    · next h =>
      cases hs : splitOn sep rest with
      | nil => exact absurd hs (splitOn_ne_nil sep rest)
      | cons piece more => rw [hs] at ih; simp [joinWith, ih, h]
    · cases hs : splitOn sep rest with
      | nil => exact absurd hs (splitOn_ne_nil sep rest)
      | cons piece more =>
        rw [hs] at ih
        cases more <;> simp_all [joinWith]

end ApiShell.Text
