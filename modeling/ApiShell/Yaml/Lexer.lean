import ApiShell.Yaml.Directive
import ApiShell.Yaml.Scalar

/-! Cutting YAML text into tokens. A key has no mark of its own: when a colon is met, the token
that could have been a key is looked up, and the marks of the key, and of the mapping it may
start, are put before it. -/

namespace ApiShell.Yaml

/-- Where a key may have started. -/
structure KeyStart where
  /-- The number of tokens before it. -/
  before : Nat
  /-- In block context a scalar at the current indentation can only be a key. -/
  isRequired : Bool
  place : Place

/-- A lexer under way. -/
structure Lexer where
  cursor : Cursor
  /-- More than the number of characters of the text. -/
  fuel : Nat
  /-- The tokens so far, the last one first. -/
  tokens : List Token := []
  /-- The number of tokens so far. -/
  count : Nat := 0
  /-- The column of the innermost block collection; -1 outside all of them. -/
  indent : Int := -1
  /-- The columns of the collections around it. -/
  indents : List Int := []
  /-- How many flow collections are open. -/
  flow : Nat := 0
  /-- Whether a key may start at the next token. -/
  keyAllowed : Bool := true
  /-- Where a key may have started, by the number of open flow collections. -/
  keyStarts : List (Nat × KeyStart) := []

namespace Lexer

/-- The column of the next token. -/
def column (l : Lexer) : Int := l.cursor.place.column

/-- Whether the next token stands inside a flow collection. -/
def inFlow (l : Lexer) : Bool := l.flow != 0

/-- Adds a token. -/
def push (l : Lexer) (t : Token) : Lexer :=
  { l with tokens := t :: l.tokens, count := l.count + 1 }

/-- Puts a token behind a number of tokens. -/
def insert (l : Lexer) (before : Nat) (t : Token) : Lexer :=
  let newer := l.count - before
  { l with tokens := l.tokens.take newer ++ t :: l.tokens.drop newer, count := l.count + 1 }

/-- Moves behind a number of characters. -/
def forward (l : Lexer) (n : Nat) : Lexer :=
  { l with cursor := l.cursor.forward n }

/-! ## Blanks and comments -/

/-- Skips blanks, comments and line ends, and says whether a line ended. -/
def skipBlanks (inComment crossed : Bool) (place : Place) : List Char → Bool × Cursor
  | [] => (crossed, ⟨place, []⟩)
  | c :: rest =>
    if isBreak c then skipBlanks false true (place.after c) rest
    else if inComment || c = ' ' || c = '#' then
      skipBlanks (inComment || c = '#') crossed (place.after c) rest
    else (crossed, ⟨place, c :: rest⟩)

/-- Moves to the next token. A new line in block context may start with a key. -/
def toToken (l : Lexer) : Lexer :=
  let start := match l.cursor.place.index, l.cursor.rest with
    | 0, '\uFEFF' :: _ => l.cursor.forward 1
    | _, _ => l.cursor
  let (crossed, cursor) := skipBlanks false false start.place start.rest
  { l with cursor, keyAllowed := l.keyAllowed || (crossed && !l.inFlow) }

/-! ## Keys -/

/-- Whether a key can no longer have started there: a key stands on one line and is short. -/
def isStale (l : Lexer) (k : KeyStart) : Bool :=
  k.place.line != l.cursor.place.line || l.cursor.place.index - k.place.index > 1024

/-- Forgets the starts of keys that did not become keys. -/
def dropStale (l : Lexer) : Except Fault Lexer :=
  if l.keyStarts.any fun (_, k) => l.isStale k && k.isRequired then
    .error (.malformed "expected a colon behind a key")
  else .ok { l with keyStarts := l.keyStarts.filter fun (_, k) => !l.isStale k }

/-- Forgets the start of a key in the current collection. -/
def forgetKey (l : Lexer) : Except Fault Lexer :=
  match l.keyStarts.lookup l.flow with
  | none => .ok l
  | some k =>
    if k.isRequired then .error (.malformed "expected a colon behind a key")
    else .ok { l with keyStarts := l.keyStarts.filter (·.1 != l.flow) }

/-- Notes that the next token may be a key. -/
def noteKey (l : Lexer) : Except Fault Lexer := do
  if l.keyAllowed then
    let l ← l.forgetKey
    let start : KeyStart :=
      { before := l.count
        isRequired := !l.inFlow && l.indent == l.column
        place := l.cursor.place }
    pure { l with keyStarts := (l.flow, start) :: l.keyStarts }
  else pure l

/-! ## Indentation -/

/-- The block collections that stay open at a column, given the innermost one and those around
it, and the number of those that end there. -/
def unwindFrom (column : Int) : List Int → Int → Nat → Nat × Int × List Int
  | [], indent, ends => if indent > column then (ends + 1, -1, []) else (ends, indent, [])
  | outer :: more, indent, ends =>
    if indent > column then unwindFrom column more outer (ends + 1)
    else (ends, indent, outer :: more)

/-- Ends the block collections that are indented more than a column. Flow collections are not
bound to columns. -/
def unwind (l : Lexer) (column : Int) : Lexer :=
  if l.inFlow then l
  else
    let (ends, indent, indents) := unwindFrom column l.indents l.indent 0
    { l with
      tokens := List.replicate ends .blockEnd ++ l.tokens, count := l.count + ends, indent, indents }

/-- Goes to a deeper column, and says whether it is one. -/
def deepen (l : Lexer) (column : Int) : Bool × Lexer :=
  if l.indent < column then (true, { l with indents := l.indent :: l.indents, indent := column })
  else (false, l)

/-! ## Tokens -/

/-- A token that stands for a number of characters and after which no key starts at once. -/
def separator (l : Lexer) (t : Token) : Except Fault Lexer := do
  let l ← (l.unwind (-1)).forgetKey
  pure ({ l with keyAllowed := false }.forward 3 |>.push t)

/-- The start of a flow collection. -/
def openFlow (l : Lexer) (t : Token) : Except Fault Lexer := do
  let l ← l.noteKey
  pure ({ l with flow := l.flow + 1, keyAllowed := true }.forward 1 |>.push t)

/-- The end of a flow collection. -/
def closeFlow (l : Lexer) (t : Token) : Except Fault Lexer := do
  let l ← l.forgetKey
  match l.flow with
  | 0 => .error (.malformed "closing bracket without an opening one")
  | flow + 1 => pure ({ l with flow, keyAllowed := false }.forward 1 |>.push t)

/-- The comma between entries of a flow collection. -/
def flowEntry (l : Lexer) : Except Fault Lexer := do
  let l ← { l with keyAllowed := true }.forgetKey
  pure (l.forward 1 |>.push .flowEntry)

/-- The dash before an entry of a block sequence. -/
def blockEntry (l : Lexer) : Except Fault Lexer := do
  let l ←
    if l.inFlow then pure l
    else if !l.keyAllowed then .error (.malformed "sequence entries are not allowed here")
    else
      let (deeper, l) := l.deepen l.column
      pure (if deeper then l.push .blockSequenceStart else l)
  let l ← { l with keyAllowed := true }.forgetKey
  pure (l.forward 1 |>.push .blockEntry)

/-- The question mark before a key. -/
def explicitKey (l : Lexer) : Except Fault Lexer := do
  let l ←
    if l.inFlow then pure l
    else if !l.keyAllowed then .error (.malformed "mapping keys are not allowed here")
    else
      let (deeper, l) := l.deepen l.column
      pure (if deeper then l.push .blockMappingStart else l)
  let l ← { l with keyAllowed := !l.inFlow }.forgetKey
  pure (l.forward 1 |>.push .key)

/-- The colon before a value. It turns the token noted as a possible key into one. -/
def mappingValue (l : Lexer) : Except Fault Lexer := do
  match l.keyStarts.lookup l.flow with
  | some k =>
    let l := { l with keyStarts := l.keyStarts.filter (·.1 != l.flow) }
    let l := l.insert k.before .key
    let l :=
      if l.inFlow then l
      else
        let (deeper, l) := l.deepen k.place.column
        if deeper then l.insert k.before .blockMappingStart else l
    pure ({ l with keyAllowed := false }.forward 1 |>.push .value)
  | none =>
    let l ←
      if l.inFlow then pure l
      else if !l.keyAllowed then .error (.malformed "mapping values are not allowed here")
      else
        let (deeper, l) := l.deepen l.column
        pure (if deeper then l.push .blockMappingStart else l)
    let l ← { l with keyAllowed := !l.inFlow }.forgetKey
    pure (l.forward 1 |>.push .value)

/-- A scalar in quotes. -/
def quoted (l : Lexer) (isDouble : Bool) : Except Fault Lexer := do
  let l ← l.noteKey
  let start := l.cursor.forward 1
  let (text, cursor) ← quotedScalar isDouble l.fuel [] start
  pure ({ l with keyAllowed := false, cursor }.push (.scalar false (String.ofList text)))

/-- A scalar without quotes. -/
def plain (l : Lexer) : Except Fault Lexer := do
  let l ← l.noteKey
  let scanned := plainScalar l.inFlow (l.indent + 1).toNat l.fuel [] l.cursor false
  pure ({ l with keyAllowed := scanned.crossedLine, cursor := scanned.cursor }.push
    (.scalar true (String.ofList scanned.text)))

/-- Whether a scalar without quotes may start here. -/
def startsPlain (l : Lexer) : List Char → Bool
  | [] => false
  | c :: rest =>
    !(isGap c || "-?:,[]\x7b\x7d#&*!|>'\"%@\x60".toList.contains c) ||
      (!atGap rest && (c = '-' || (!l.inFlow && (c = '?' || c = ':'))))

/-- A directive takes a line. -/
def directive (l : Lexer) : Except Fault Lexer := do
  let l ← (l.unwind (-1)).forgetKey
  let line := (l.cursor.rest.drop 1).takeWhile fun c => !isBreak c
  match Directive.ofLine? line with
  | some d => pure ({ l with keyAllowed := false }.forward (line.length + 1) |>.push (.directive d))
  | none => .error (.malformed "invalid directive")

/-! ## The whole text -/

/-- Reads the next token; `none` at the end of the text. -/
def next (l : Lexer) : Except Fault (Option Lexer) := do
  let l ← l.toToken.dropStale
  let l := l.unwind l.column
  match l.cursor.rest with
  | [] => pure none
  | c :: rest =>
    let atStart := l.cursor.place.column == 0
    let result : Except Fault Lexer :=
      if c = '%' && atStart then l.directive
      else if c = '-' && atStart && atSeparator (c :: rest) then l.separator .documentStart
      else if c = '.' && atStart && atSeparator (c :: rest) then l.separator .documentEnd
      else if c = '[' then l.openFlow .flowSequenceStart
      else if c = '\x7b' then l.openFlow .flowMappingStart
      else if c = ']' then l.closeFlow .flowSequenceEnd
      else if c = '\x7d' then l.closeFlow .flowMappingEnd
      else if c = ',' then l.flowEntry
      else if c = '-' && atGap rest then l.blockEntry
      else if c = '?' && (l.inFlow || atGap rest) then l.explicitKey
      else if c = ':' && (l.inFlow || atGap rest) then l.mappingValue
      else if c = '\'' then l.quoted false
      else if c = '"' then l.quoted true
      else if l.startsPlain (c :: rest) then l.plain
      else .error (.malformed "a character that cannot start a token")
    result.map some

/-- The end of the text, which ends all block collections. -/
def finish (l : Lexer) : Except Fault Lexer := do
  let l ← l.toToken.dropStale
  let l ← (l.unwind (-1)).forgetKey
  pure (l.push .streamEnd)

/-- The tokens that no later one can change: those before the first that may be a key. -/
def settled (l : Lexer) : List Token :=
  let starts := l.keyStarts.filter fun (_, k) => !l.isStale k
  l.tokens.reverse.take (starts.foldl (fun least (_, k) => min least k.before) l.count)

/-- Reads tokens up to the end of the text, or to where it cannot be read. The fuel is more than
the number of characters. -/
def run : Nat → Lexer → List Token
  | 0, l => l.settled ++ [.broken (.malformed "text too long")]
  | fuel + 1, l =>
    match l.next with
    | .error fault => l.settled ++ [.broken fault]
    | .ok (some more) => run fuel more
    | .ok none =>
      match l.finish with
      | .error fault => l.settled ++ [.broken fault]
      | .ok done => done.tokens.reverse

end Lexer

/-- The tokens of a text. -/
def tokens (text : String) : List Token :=
  let chars := text.toList
  if chars.all isAllowed then
    let fuel := chars.length + 1
    Lexer.run fuel { cursor := { rest := chars }, fuel }
  else [.broken (.malformed "a character that is not allowed")]

end ApiShell.Yaml
