import ApiShell.Text.Hex
import ApiShell.Text.Printable

/-! Quoted text, as it is shown inside messages. Single quotes are preferred; a text with
single quotes and no double ones is put in double quotes. Characters without a visible form
are shown by number. -/

namespace ApiShell.Text

/-- How one character is shown between the given quotes. -/
def quotedChar (quote c : Char) : List Char :=
  if c = '\\' ∨ c = quote then ['\\', c]
  else if c = '\n' then ['\\', 'n']
  else if c = '\r' then ['\\', 'r']
  else if c = '\t' then ['\\', 't']
  else if isPrintable c then [c]
  else '\\' :: codeEscape c

/-- The quote a text is put between. -/
def quoteFor (chars : List Char) : Char :=
  if chars.contains '\'' && !chars.contains '"' then '"' else '\''

/-- The text between quotes. -/
def quoted (text : String) : String :=
  let chars := text.toList
  let quote := quoteFor chars
  String.ofList (quote :: chars.flatMap (quotedChar quote) ++ [quote])

end ApiShell.Text
