import ApiShell.Value.Basic

/-! What comes of reading YAML text. The program leaves the reading to a library, so a reader is an
instance argument of all that reads documents and settings. -/

namespace ApiShell.Yaml

/-- What is wrong, in words. -/
abbrev Reason := String

/-- Why a text has no value: it is no YAML, or something that it writes does not exist, or is
too large to be told. -/
inductive Fault where
  | malformed (reason : Reason)
  | outOfRange (reason : Reason)
  | tooLarge (reason : Reason)
  deriving DecidableEq, Repr

/-- A reader of YAML: the value that a whole text writes. -/
class Reader where
  value : String → Except Fault Value

end ApiShell.Yaml
