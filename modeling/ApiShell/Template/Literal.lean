import ApiShell.Template.CharacterName
import ApiShell.Text.Hex

/-! Texts in quotes inside the marks of a template. A backslash introduces an escape: a letter, up
to three octal digits, a code point in hexadecimal digits, or the name of a character. -/

namespace ApiShell.Template

/-- What is wrong with an escape. -/
inductive EscapeError where
  /-- There are fewer hexadecimal digits than the letter asks for. -/
  | truncated (letter : Char) (width : Nat)
  | noSuchCode
  | unknownName
  | malformedName
  deriving DecidableEq, Repr

/-- The wording of what is wrong with an escape. -/
def EscapeError.message : EscapeError → String
  | .truncated letter width =>
    "truncated \\" ++ String.ofList (letter :: List.replicate width 'X') ++ " escape"
  | .noSuchCode => "illegal Unicode character"
  | .unknownName => "unknown Unicode character name"
  | .malformedName => "malformed \\N character escape"

/-- What a letter behind a backslash stands for. An escaped line end stands for nothing. -/
def letterEscape? : Char → Option (List Char)
  | '\n' => some []
  | '\\' => some ['\\']
  | '\'' => some ['\'']
  | '"' => some ['"']
  | 'a' => some ['\x07']
  | 'b' => some ['\x08']
  | 'f' => some ['\x0c']
  | 'n' => some ['\n']
  | 'r' => some ['\r']
  | 't' => some ['\t']
  | 'v' => some ['\x0b']
  | _ => none

/-- Whether a character is an octal digit. -/
def isOctal (c : Char) : Bool := '0' ≤ c && c ≤ '7'

/-- What the characters behind a backslash mean: the characters it stands for, and how many characters
were read. A backslash without a meaning stays; before a character outside the basic alphabet it
keeps that character's escape from being read. -/
def escape (letter : Char) (rest : List Char) : Except EscapeError (List Char × Nat) :=
  match letterEscape? letter with
  | some chars => .ok (chars, 1)
  | none =>
    if isOctal letter then
      let digits := ((letter :: rest).take 3).takeWhile isOctal
      let code := digits.foldl (fun total c => total * 8 + (c.toNat - '0'.toNat)) 0
      .ok ([Char.ofNat code], digits.length)
    else if letter = 'N' then
      match rest with
      | '\x7b' :: more =>
        let name := more.takeWhile (· ≠ '\x7d')
        if name.isEmpty || name.length == more.length then .error .malformedName
        else match charNamed? (String.ofList name) with
          | some c => .ok ([c], name.length + 3)
          | none => .error .unknownName
      | _ => .error .malformedName
    else match Text.codeWidths.lookup letter with
      | some width =>
        match Text.hexNumber? width (rest.take width) with
        | none => .error (.truncated letter width)
        | some code =>
          if code < 0x110000 then .ok ([Char.ofNat code], width + 1) else .error .noSuchCode
      | none =>
        if letter.toNat < 0x80 then .ok (['\\', letter], 1)
        else .ok ('\\' :: Text.codeEscape letter, 1)

/-- The text that the characters between two quotes write. The fuel is at least their number. -/
def unescape : Nat → List Char → Except EscapeError (List Char)
  | 0, _ => .ok []
  | _ + 1, [] => .ok []
  | _ + 1, ['\\'] => .ok ['\\']
  | fuel + 1, '\\' :: letter :: rest => do
    let (chars, width) ← escape letter rest
    let more ← unescape fuel ((letter :: rest).drop width)
    pure (chars ++ more)
  | fuel + 1, c :: rest => do
    let more ← unescape fuel rest
    pure (c :: more)

/-- The characters up to a closing quote, which a backslash keeps from closing, and those
behind it. -/
def quotedBody (quote : Char) : List Char → Option (List Char × List Char)
  | [] => none
  | ['\\'] => none
  | '\\' :: c :: rest =>
    (quotedBody quote rest).map fun (body, behind) => ('\\' :: c :: body, behind)
  | c :: rest =>
    if c = quote then some ([], rest)
    else (quotedBody quote rest).map fun (body, behind) => (c :: body, behind)

end ApiShell.Template
