/-! Escaped text between quotes, and the reading of it. -/

namespace ApiShell.Literal

/-- The characters one character is written as between the given quotes. -/
def escapeChar (quote c : Char) : List Char :=
  if c = '\\' then ['\\', '\\']
  else if c = quote then ['\\', quote]
  else if c = '\n' then ['\\', 'n']
  else if c = '\r' then ['\\', 'r']
  else if c = '\t' then ['\\', 't']
  else if c = '\x00' then ['\\', '0']
  else [c]

/-- A text as it stands between the given quotes. -/
def escape (quote : Char) (text : String) : String :=
  String.ofList (text.toList.flatMap (escapeChar quote))

/-- The text between the given quotes. -/
def quoted (quote : Char) (text : String) : String :=
  String.ofList [quote] ++ escape quote text ++ String.ofList [quote]

end ApiShell.Literal
