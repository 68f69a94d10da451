import ApiShell.Text.Hex
import ApiShell.Yaml.Token

/-! Directives: lines before a document that give the language version or name handles for tags.
Blanks and, behind them, a comment may end such a line. -/

namespace ApiShell.Yaml.Directive

/-- Whether a character may stand in the name of a directive or of a handle. -/
def isNameChar (c : Char) : Bool :=
  ('0' ≤ c && c ≤ '9') || ('A' ≤ c && c ≤ 'Z') || ('a' ≤ c && c ≤ 'z') || c = '-' || c = '_'

/-- The characters without blanks at their start. -/
def skipBlanks (chars : List Char) : List Char :=
  chars.dropWhile (· = ' ')

/-- Whether a value is over: only blanks and a comment behind them follow. -/
def isOver (chars : List Char) : Bool :=
  match skipBlanks chars with
  | [] => true
  | c :: _ => c = '#' && chars.head? == some ' '

/-- The major number of a language version, which two numbers and a dot between them give. -/
def major? (chars : List Char) : Option Nat :=
  let major := chars.takeWhile Char.isDigit
  match chars.dropWhile Char.isDigit with
  | '.' :: rest =>
    if !major.isEmpty && rest.head?.any Char.isDigit && isOver (rest.dropWhile Char.isDigit) then
      (String.ofList major).toNat?
    else none
  | _ => none

/-- A handle for tags, between exclamation marks or only one of them, and what follows. -/
def handle? : List Char → Option (String × List Char)
  | '!' :: ' ' :: rest => some ("!", ' ' :: rest)
  | '!' :: rest =>
    match rest.dropWhile isNameChar with
    | '!' :: behind =>
      some ("!" ++ String.ofList (rest.takeWhile isNameChar) ++ "!", behind)
    | _ => none
  | _ => none

/-- Whether a character may stand for itself in what a handle means. -/
def isUriChar (c : Char) : Bool :=
  c.isAlphanum || "-;/?:@&=+$,_.!~*'()[]".toList.contains c

/-- The bytes that escapes give, and what follows them. The fuel is more than their number. -/
def uriBytes? : Nat → ByteArray → List Char → Option (ByteArray × List Char)
  | fuel + 1, bytes, '%' :: rest => do
    let code ← Text.hexNumber? 2 (rest.take 2)
    uriBytes? fuel (bytes.push code.toUInt8) (rest.drop 2)
  | _, bytes, chars => some (bytes, chars)

/-- What follows the text that a handle means. Bytes that are escaped have to give characters. The
fuel is more than the number of characters. -/
def behindUri? : Nat → List Char → Option (List Char)
  | _, [] => some []
  | 0, _ :: _ => none
  | fuel + 1, c :: rest =>
    if c = '%' then do
      let (bytes, behind) ← uriBytes? (fuel + 1) .empty (c :: rest)
      let _ ← String.fromUTF8? bytes
      behindUri? fuel behind
    else if isUriChar c then behindUri? fuel rest
    else some (c :: rest)

/-- The handle that a directive for tags names. What it means has to be there. -/
def tagHandle? (chars : List Char) : Option String := do
  let (handle, behind) ← handle? chars
  if behind.head? == some ' ' then
    let uri := skipBlanks behind
    let rest ← behindUri? (uri.length + 1) uri
    if rest.length < uri.length && isOver rest then some handle else none
  else none

/-- The directive on a line, without the mark before it. -/
def ofLine? (line : List Char) : Option Directive :=
  let name := line.takeWhile isNameChar
  let behind := line.dropWhile isNameChar
  if name.isEmpty || !(behind.isEmpty || behind.head? == some ' ') then none
  else if String.ofList name = "YAML" then (major? (skipBlanks behind)).map .version
  else if String.ofList name = "TAG" then (tagHandle? (skipBlanks behind)).map .tagHandle
  else some .other

end ApiShell.Yaml.Directive
