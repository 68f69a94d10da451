import ApiShell.Document.Error

/-! Shapes of document values: lists, mappings, texts and flags, each with what is said when a
value has another shape. An absent entry and a null one read alike. -/

namespace ApiShell.Document

/-- The entries of a mapping. -/
abbrev Entries := List (Value × Value)

/-- The items of a list; null has none. -/
def list (label : String) : Value → Except FormatError (List Value)
  | .null => .ok []
  | .list items => .ok items
  | _ => .error (.notList label)

/-- The entries of a mapping. -/
def mapping (label : String) : Value → Except FormatError Entries
  | .map entries => .ok entries
  | _ => .error (.entryNotMapping label)

/-- The entries of a mapping; null has none. -/
def optionalMapping (label : String) : Value → Except FormatError Entries
  | .null => .ok []
  | value => mapping label value

/-- A list of mappings. All of them are looked at before any is read further. -/
def mappings (label : String) (value : Value) : Except FormatError (List Entries) := do
  let items ← list label value
  items.mapM (mapping label)

/-- A list of texts. A single text is a list of one; items are taken as text. -/
def texts (label : String) : Value → Except FormatError (List String)
  | .null => .ok []
  | .text s => .ok [s]
  | .list items => .ok (items.map Value.display)
  | _ => .error (.notTextOrList label)

/-- A text that has to be there and not empty. -/
def requiredText (entries : Entries) (key : String) : Except FormatError String :=
  match Value.get entries key with
  | .text s => if s = "" then .error (.missing key entries) else .ok s
  | _ => .error (.missing key entries)

/-- A value as text, where it is not null and not empty. -/
def optionalText (value : Value) : Option String :=
  match value with
  | .null => none
  | value => if value.display = "" then none else some value.display

/-- A value as text, or another text where it counts as nothing. -/
def textOr (value : Value) (other : String) : String :=
  if value.truthy then value.display else other

/-- Whether an entry counts as true; an absent one has a default. -/
def flag (entries : Entries) (key : String) (default : Bool) : Bool :=
  match Value.get entries key with
  | .null => default
  | value => value.truthy

end ApiShell.Document
