import ApiShell.Template.Literal
import ApiShell.Text.Blank

/-! The marks of a template: what stands between an opening and a closing pair. -/

namespace ApiShell.Template

/-- What is wrong with a template. -/
inductive Fault where
  | unknownTag (word : String)
  | unclosedMark
  | badEscape (error : EscapeError)
  deriving DecidableEq, Repr

/-- The wording of what is wrong with a template. -/
def Fault.message : Fault → String
  | .unknownTag word => "Encountered unknown tag '" ++ word ++ "'."
  | .unclosedMark => "unexpected end of template"
  | .badEscape error => error.message

/-- A part of a mark. -/
inductive Lexeme where
  | word (text : String)
  | literal (text : String)
  | sign (c : Char)
  deriving DecidableEq, Repr

/-- Whether a character may stand in a word. -/
def isWordChar (c : Char) : Bool :=
  c.isAlphanum || c = '_'

/-- The parts of a mark up to its closing pair, and what follows. The fuel is more than the number
of characters. -/
def lexemes (close : Char) : Nat → List Char → Except Fault (List Lexeme × List Char)
  | 0, _ => .error .unclosedMark
  | _ + 1, [] => .error .unclosedMark
  | fuel + 1, c :: rest =>
    if c = close ∧ rest.head? = some '\x7d' then .ok ([], rest.drop 1)
    else if Text.isBlank c then lexemes close fuel rest
    else if c = '"' ∨ c = '\'' then
      match quotedBody c rest with
      | none => .error .unclosedMark
      | some (body, behind) =>
        match unescape body.length body with
        | .error error => .error (.badEscape error)
        | .ok text => do
          let (more, behind) ← lexemes close fuel behind
          pure (.literal (String.ofList text) :: more, behind)
    else if isWordChar c then do
      let word := (c :: rest).takeWhile isWordChar
      let (more, behind) ← lexemes close fuel ((c :: rest).dropWhile isWordChar)
      pure (.word (String.ofList word) :: more, behind)
    else do
      let (more, behind) ← lexemes close fuel rest
      pure (.sign c :: more, behind)

/-- The text that literals up to a closing parenthesis at the end write together. -/
def joined? : List Lexeme → Option String
  | [.sign ')'] => some ""
  | .literal text :: rest => (joined? rest).map (text ++ ·)
  | _ => none

/-- The text between the names, in a mark for the names that were left out. -/
def separator? : List Lexeme → Option String
  | [.word "ignored", .sign '|', .word "join"] => some ""
  | .word "ignored" :: .sign '|' :: .word "join" :: .sign '(' :: rest => joined? rest
  | _ => none

/-- What follows the closing pair of a comment. -/
def behindComment : List Char → Option (List Char)
  | [] => none
  | '#' :: '\x7d' :: rest => some rest
  | _ :: rest => behindComment rest

end ApiShell.Template
