import ApiShell.Text.Hex
import ApiShell.Yaml.Token

/-! Scalars in the text. A scalar without quotes ends where structure begins; one in quotes ends
at its quote. Both may go over several lines, which are folded: one line break reads as a blank,
and more of them as one less. -/

namespace ApiShell.Yaml

/-- A scalar that was read, the place behind it, and whether a line ended there. -/
structure Scanned where
  text : List Char
  cursor : Cursor
  crossedLine : Bool := false

/-- What the line breaks between two pieces of a scalar read as. -/
def folded (first : Char) (more : List Char) : List Char :=
  if first = '\u2028' ∨ first = '\u2029' then first :: more
  else if more.isEmpty then [' ']
  else more

/-- A line break as it is kept. -/
def keptBreak (c : Char) : Char :=
  if c = '\u2028' ∨ c = '\u2029' then c else '\n'

/-! ## Scalars without quotes -/

/-- Whether a scalar without quotes ends before a character, given those behind it. -/
def plainEnds (inFlow : Bool) (c : Char) (behind : List Char) : Bool :=
  isGap c ||
    (c = ':' && (atGap behind || (inFlow && behind.head?.any isFlowMark))) ||
    (inFlow && (isFlowMark c || c = '?'))

/-- The characters of a scalar without quotes up to its end or a blank. -/
def plainRun (inFlow : Bool) (place : Place) : List Char → List Char × Cursor
  | [] => ([], ⟨place, []⟩)
  | c :: rest =>
    if plainEnds inFlow c rest then ([], ⟨place, c :: rest⟩)
    else
      let (run, cursor) := plainRun inFlow (place.after c) rest
      (c :: run, cursor)

/-- Skips blanks. -/
def skipSpaces (place : Place) : List Char → Cursor
  | [] => ⟨place, []⟩
  | c :: rest => if c = ' ' then skipSpaces (place.after c) rest else ⟨place, c :: rest⟩

/-- Skips blanks and line breaks, and collects the breaks. Stops at a line that separates
documents, which it reports. -/
def skipLines (place : Place) : List Char → List Char × Cursor × Bool
  | [] => ([], ⟨place, []⟩, false)
  | c :: rest =>
    if c = ' ' then skipLines (place.after c) rest
    else if isBreak c then
      if atSeparator rest then ([keptBreak c], ⟨place.after c, rest⟩, true)
      else
        let (breaks, cursor, separated) := skipLines (place.after c) rest
        (keptBreak c :: breaks, cursor, separated)
    else ([], ⟨place, c :: rest⟩, false)

/-- What lies between two pieces of a scalar without quotes: the text it reads as, which is
empty where the scalar ends. -/
def plainSpaces (cursor : Cursor) : Scanned :=
  let blanks := cursor.rest.takeWhile (· = ' ')
  let behind := skipSpaces cursor.place cursor.rest
  match behind.rest with
  | c :: rest =>
    if isBreak c then
      let start : Cursor := ⟨behind.place.after c, rest⟩
      if atSeparator rest then { text := [], cursor := start, crossedLine := true }
      else
        let (breaks, cursor, separated) := skipLines start.place start.rest
        if separated then { text := [], cursor, crossedLine := true }
        else { text := folded (keptBreak c) breaks, cursor, crossedLine := true }
    else { text := blanks, cursor := behind }
  | [] => { text := blanks, cursor := behind }

/-- Reads a scalar without quotes whose further lines are indented to a column at least. The
fuel is at least the number of characters. -/
def plainScalar (inFlow : Bool) (column : Nat) : Nat → List Char → Cursor → Bool → Scanned
  | 0, _, cursor, crossed => { text := [], cursor, crossedLine := crossed }
  | fuel + 1, spaces, cursor, crossed =>
    match cursor.rest with
    | '#' :: _ => { text := [], cursor, crossedLine := crossed }
    | _ =>
      match plainRun inFlow cursor.place cursor.rest with
      | ([], _) => { text := [], cursor, crossedLine := crossed }
      | (run, behind) =>
        let between := plainSpaces behind
        let ends := between.text.isEmpty || between.cursor.rest.head? == some '#' ||
          (!inFlow && between.cursor.place.column < column)
        if ends then
          { text := spaces ++ run, cursor := between.cursor, crossedLine := between.crossedLine }
        else
          let more := plainScalar inFlow column fuel between.text between.cursor between.crossedLine
          { more with text := spaces ++ run ++ more.text }

/-! ## Scalars in quotes -/

/-- The character that a letter behind a backslash stands for. -/
def escapes : List (Char × Char) :=
  [('0', '\x00'), ('a', '\x07'), ('b', '\x08'), ('t', '\t'), ('\t', '\t'), ('n', '\n'),
   ('v', '\x0b'), ('f', '\x0c'), ('r', '\r'), ('e', '\x1b'), (' ', ' '), ('"', '"'),
   ('\\', '\\'), ('/', '/'), ('N', '\x85'), ('_', '\xa0'), ('L', '\u2028'), ('P', '\u2029')]

/-- The character with a code point. Code points end at 0x10FFFF, and numbers from `2 ^ 31` on
are not taken for code points at all. -/
def charOfCode (code : Nat) : Except Fault Char :=
  if code < 0x110000 then .ok (Char.ofNat code)
  else if code < 0x80000000 then .error (.outOfRange "chr() arg not in range(0x110000)")
  else .error (.tooLarge "Python int too large to convert to C int")

/-- The character that stands behind a backslash, and the number of characters that write it;
`none` for a letter that has no meaning there. -/
def escaped? (letter : Char) (behind : List Char) : Except Fault (Option (Char × Nat)) :=
  match escapes.lookup letter, Text.codeWidths.lookup letter with
  | some c, _ => .ok (some (c, 1))
  | none, some width =>
    match Text.hexNumber? width (behind.take width) with
    | some code => (charOfCode code).map fun c => some (c, width + 1)
    | none => .error (.malformed "invalid numbered escape")
  | none, none => .ok none

/-- Whether a blank that does not end a line comes next. -/
def isInlineBlank (c : Char) : Bool := c = ' ' || c = '\t'

/-- Skips the blanks at the start of lines and collects line breaks onto those before, the last
one first, inside quotes. -/
def quotedLines : Nat → List Char → Cursor → Except Fault (List Char × Cursor)
  | 0, breaks, cursor => .ok (breaks, cursor)
  | fuel + 1, breaks, cursor =>
    if atSeparator cursor.rest then .error (.malformed "document separator in a quoted scalar")
    else
      let cursor := cursor.forward (cursor.rest.takeWhile isInlineBlank).length
      match cursor.rest with
      | c :: rest =>
        if isBreak c then quotedLines fuel (keptBreak c :: breaks) ⟨cursor.place.after c, rest⟩
        else .ok (breaks, cursor)
      | [] => .ok (breaks, cursor)

/-- Reads the rest of a quoted scalar up to its closing quote; `text` is what was read before,
the last character first. The fuel is at least the number of characters and one more. -/
def quotedScalar (isDouble : Bool) :
    Nat → (text : List Char) → Cursor → Except Fault (List Char × Cursor)
  | 0, _, _ => .error (.malformed "unclosed quoted scalar")
  | fuel + 1, text, cursor =>
    match cursor.rest with
    | [] => .error (.malformed "unclosed quoted scalar")
    | c :: rest =>
      let behind : Cursor := ⟨cursor.place.after c, rest⟩
      if c = '"' && isDouble then .ok (text.reverse, behind)
      else if c = '\'' && !isDouble then
        match rest with
        | '\'' :: _ => quotedScalar isDouble fuel ('\'' :: text) (behind.forward 1)
        | _ => .ok (text.reverse, behind)
      else if c = '\\' && isDouble then
        match rest with
        | [] => .error (.malformed "unclosed quoted scalar")
        | letter :: more =>
          match escaped? letter more with
          | .error fault => .error fault
          | .ok (some (char, width)) =>
            quotedScalar isDouble fuel (char :: text) (behind.forward width)
          | .ok none =>
            if isBreak letter then
              match quotedLines fuel [] (behind.forward 1) with
              | .error fault => .error fault
              | .ok (breaks, cursor) => quotedScalar isDouble fuel (breaks ++ text) cursor
            else .error (.malformed "unknown escape")
      else if isGap c then
        let blanks := cursor.rest.takeWhile isInlineBlank
        let cursor := cursor.forward blanks.length
        match cursor.rest with
        | [] => .error (.malformed "unclosed quoted scalar")
        | b :: _ =>
          if isBreak b then
            match quotedLines fuel [] (cursor.forward 1) with
            | .error fault => .error fault
            | .ok (breaks, cursor) =>
              let between := folded (keptBreak b) breaks.reverse
              quotedScalar isDouble fuel (between.reverse ++ text) cursor
          else quotedScalar isDouble fuel (blanks.reverse ++ text) cursor
      else quotedScalar isDouble fuel (c :: text) behind

end ApiShell.Yaml
