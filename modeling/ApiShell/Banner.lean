import ApiShell.Document.File

/-! The comment at the top of a shell. An engine makes it from a template, from the library's name
and version, and from the names that were left out. The program leaves templates to a library, so
the engine is an instance argument. -/

namespace ApiShell

/-- Why a template cannot be used. -/
inductive TemplateError where
  | notUtf8 (reason : String)
  /-- The engine refuses the template. -/
  | refused (reason : String)
  deriving DecidableEq, Repr

/-- The wording of why a template cannot be used. -/
def TemplateError.message : TemplateError → String
  | .notUtf8 reason => reason
  | .refused reason => reason

namespace Banner

/-- An engine for templates: the text that a template gives for a name, a version and the names
that were left out, or why it refuses the template. -/
class Engine where
  fill : (template name version : String) → (ignored : List String) → Except String String

/-- The template that comes with the program. -/
def bundled : String :=
  "/*\n" ++
  " * Declaration shell of \x7b\x7b library.name \x7d\x7d \x7b\x7b library.version \x7d\x7d.\n" ++
  " * Generated by declshell from the library's public metadata; every member\n" ++
  " * body is a stub. Changes to this file may be lost when it is regenerated.\n" ++
  "\x7b% if ignored %\x7d\n" ++
  " *\n" ++
  " * Omitted namespaces and types: \x7b\x7b ignored | join(\", \") \x7d\x7d\n" ++
  "\x7b% endif %\x7d\n" ++
  " */\n"

/-- The name of a template in a directory of templates. -/
def fileName : String := "banner.j2"

/-- The template to use: that of the directory, or else the bundled one. -/
def template (t : FileTree) (templates : Option Path) : Except TemplateError String :=
  match templates.bind fun dir => t.read? (dir.joinText fileName) with
  | none => .ok bundled
  | some content => (Document.textOf content).mapError .notUtf8

/-- The comment from a template, without line ends behind it. The names left out are sorted. -/
def ofTemplate [Engine] (template name version : String) (ignored : List String) :
    Except TemplateError String := do
  let sorted := ignored.mergeSort fun a b => a ≤ b
  let text ← (Engine.fill template name version sorted).mapError .refused
  pure (Text.trimEnd (· = '\n') text)

end Banner

/-- The comment at the top of a library's shell. -/
def banner [Banner.Engine] (t : FileTree) (templates : Option Path) (name version : String)
    (ignored : List String) : Except TemplateError String := do
  Banner.ofTemplate (← Banner.template t templates) name version ignored

end ApiShell
