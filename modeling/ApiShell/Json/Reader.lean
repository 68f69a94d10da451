import ApiShell.Binary64.Reader
import ApiShell.Value.Basic

/-! Reading JSON text. Whole numbers stay apart from fractions, the names of infinity and of no
number are accepted, and a repeated key keeps its first place and its last value. -/

namespace ApiShell.Json

/-- Why a text is no JSON. -/
abbrev Reason := String

/-- Whether a character may stand between tokens. -/
def isGap (c : Char) : Bool :=
  c = ' ' || c = '\t' || c = '\n' || c = '\r'

/-- The characters from the next token on. -/
def skipGap (chars : List Char) : List Char :=
  chars.dropWhile isGap

/-- The number four hexadecimal digits write. -/
def unit? (chars : List Char) : Option (Nat × List Char) :=
  (Text.hexNumber? 4 (chars.take 4)).map fun code => (code, chars.drop 4)

/-- The character of a code point; half of a surrogate pair alone has none. -/
def charOf (code : Nat) : Char :=
  if 0xd800 ≤ code ∧ code < 0xe000 then Char.ofNat 0xfffd else Char.ofNat code

/-- The character of a numbered escape, which may take two halves. -/
def numbered? (chars : List Char) : Option (Char × List Char) := do
  let (high, rest) ← unit? chars
  if 0xd800 ≤ high ∧ high < 0xdc00 then
    match rest with
    | '\\' :: 'u' :: more =>
      match unit? more with
      | some (low, rest') =>
        if 0xdc00 ≤ low ∧ low < 0xe000 then
          pure (Char.ofNat (0x10000 + (high - 0xd800) * 0x400 + (low - 0xdc00)), rest')
        else pure (charOf high, rest)
      | none => pure (charOf high, rest)
    | _ => pure (charOf high, rest)
  else pure (charOf high, rest)

/-- The character a letter behind a backslash stands for. -/
def simpleEscape? : Char → Option Char
  | '"' => some '"'
  | '\\' => some '\\'
  | '/' => some '/'
  | 'b' => some '\x08'
  | 'f' => some '\x0c'
  | 'n' => some '\n'
  | 'r' => some '\r'
  | 't' => some '\t'
  | _ => none

/-- Reads the rest of a text behind its opening quote; `text` is what was read before, the last
character first. The fuel is more than the number of characters. -/
def readText : Nat → (text : List Char) → List Char → Except Reason (List Char × List Char)
  | 0, _, _ => .error "unterminated text"
  | _ + 1, _, [] => .error "unterminated text"
  | fuel + 1, text, c :: rest =>
    if c = '"' then .ok (text.reverse, rest)
    else if c = '\\' then
      match rest with
      | 'u' :: more =>
        match numbered? more with
        | some (char, after) => readText fuel (char :: text) after
        | none => .error "invalid numbered escape"
      | e :: more =>
        match simpleEscape? e with
        | some char => readText fuel (char :: text) more
        | none => .error "invalid escape"
      | [] => .error "unterminated text"
    else if c.toNat < 0x20 then .error "control character in text"
    else readText fuel (c :: text) rest

/-- A row of digits and what follows. -/
def digitRun (chars : List Char) : List Char × List Char :=
  (chars.takeWhile Binary64.isDigit, chars.dropWhile Binary64.isDigit)

/-- The exponent behind a number, if there is one. -/
def exponentRun? : List Char → Option (Int × List Char)
  | mark :: rest =>
    if mark = 'e' ∨ mark = 'E' then
      let (negative, digits) := match rest with
        | '-' :: ds => (true, ds)
        | '+' :: ds => (false, ds)
        | ds => (false, ds)
      match digitRun digits with
      | ([], _) => none
      | (run, after) =>
        let n : Int := Binary64.digitsNat run
        some (if negative then -n else n, after)
    else none
  | [] => none

/-- The fraction behind a whole number, if there is one. -/
def fractionRun? : List Char → Option (List Char × List Char)
  | '.' :: rest =>
    match digitRun rest with
    | ([], _) => none
    | run => some run
  | _ => none

/-- Reads a number behind its sign. A number with a fraction or an exponent is no whole
number. -/
def readNumber (negative : Bool) (chars : List Char) : Except Reason (Value × List Char) :=
  let whole := match chars with
    | '0' :: rest => (['0'], rest)
    | _ => digitRun chars
  match whole with
  | ([], _) => .error "expected a value"
  | (digits, rest) =>
    match fractionRun? rest, exponentRun? rest with
    | some (fraction, more), _ =>
      match exponentRun? more with
      | some (exponent, after) =>
        .ok (.float (Binary64.ofParts negative digits fraction exponent), after)
      | none => .ok (.float (Binary64.ofParts negative digits fraction 0), more)
    | none, some (exponent, after) =>
      .ok (.float (Binary64.ofParts negative digits [] exponent), after)
    | none, none =>
      let n : Int := Binary64.digitsNat digits
      .ok (.int (if negative then -n else n), rest)

/-- The values that are written as words. -/
def words : List (List Char × Value) :=
  [("null".toList, .null), ("true".toList, .bool true), ("false".toList, .bool false),
   ("NaN".toList, .float .nan), ("Infinity".toList, .float (.infinite false)),
   ("-Infinity".toList, .float (.infinite true))]

/-- Reads a word, if one comes next. -/
def readWord? (chars : List Char) : Option (Value × List Char) :=
  words.findSome? fun (word, value) => (Text.afterStart? word chars).map fun rest => (value, rest)

mutual

/-- Reads a value that starts at once. The size is more than the number of characters, and so is
the fuel. -/
def readValue (size : Nat) : Nat → List Char → Except Reason (Value × List Char)
  | 0, _ => .error "expected a value"
  | fuel + 1, chars =>
    match chars with
    | [] => .error "expected a value"
    | '"' :: rest => do
      let (text, after) ← readText size [] rest
      .ok (.text (String.ofList text), after)
    | '[' :: rest =>
      match skipGap rest with
      | ']' :: after => .ok (.list [], after)
      | more => do
        let (items, after) ← readItems size fuel more
        .ok (.list items, after)
    | '\x7b' :: rest =>
      match skipGap rest with
      | '\x7d' :: after => .ok (.map [], after)
      | more => do
        let (entries, after) ← readEntries size fuel [] more
        .ok (.map entries, after)
    | '-' :: rest =>
      match readWord? chars with
      | some reading => .ok reading
      | none => readNumber true rest
    | _ =>
      match readWord? chars with
      | some reading => .ok reading
      | none => readNumber false chars

/-- Reads the items of a list up to its closing bracket. -/
def readItems (size : Nat) : Nat → List Char → Except Reason (List Value × List Char)
  | 0, _ => .error "expected a value"
  | fuel + 1, chars => do
    let (item, rest) ← readValue size fuel chars
    match skipGap rest with
    | ']' :: after => .ok ([item], after)
    | ',' :: more => do
      let (items, after) ← readItems size fuel (skipGap more)
      .ok (item :: items, after)
    | _ => .error "expected a comma or a closing bracket"

/-- Reads the entries of a map up to its closing brace, onto those read before. -/
def readEntries (size : Nat) : Nat → List (Value × Value) → List Char →
    Except Reason (List (Value × Value) × List Char)
  | 0, _, _ => .error "expected a key"
  | fuel + 1, entries, chars =>
    match chars with
    | '"' :: rest => do
      let (key, rest) ← readText size [] rest
      match skipGap rest with
      | ':' :: more => do
        let (value, rest) ← readValue size fuel (skipGap more)
        let entries := Value.put entries (.text (String.ofList key)) value
        match skipGap rest with
        | '\x7d' :: after => .ok (entries, after)
        | ',' :: more => readEntries size fuel entries (skipGap more)
        | _ => .error "expected a comma or a closing brace"
      | _ => .error "expected a colon"
    | _ => .error "expected a key"

end

/-- The value a whole text writes. -/
def read (text : String) : Except Reason Value :=
  let chars := skipGap text.toList
  let size := chars.length + 1
  match readValue size size chars with
  | .error reason => .error reason
  | .ok (value, rest) =>
    match skipGap rest with
    | [] => .ok value
    | _ => .error "unexpected text behind the value"

end ApiShell.Json
