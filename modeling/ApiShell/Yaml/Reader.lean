import ApiShell.Yaml.Node
import ApiShell.Yaml.Plain

/-! Reading YAML text. A key that comes again keeps its place and takes the last value; only
scalars can be keys. Of several faults the outermost counts, and of those the first. -/

namespace ApiShell.Yaml

/-- A fault, and how many collections there are around it. -/
structure Misfit where
  depth : Nat
  fault : Fault

/-- The outer one of two faults, the first where they are equally deep. -/
def Misfit.outer (a b : Misfit) : Misfit :=
  if b.depth < a.depth then b else a

/-- Two results together; of two faults the outer one. -/
def both {α β : Type} : Except Misfit α → Except Misfit β → Except Misfit (α × β)
  | .ok a, .ok b => .ok (a, b)
  | .error e, .ok _ => .error e
  | .ok _, .error e => .error e
  | .error e, .error f => .error (e.outer f)

/-- The value of a scalar; one in quotes is its text. -/
def scalarValue (isPlain : Bool) (text : String) : Except Fault Value :=
  if isPlain then Plain.value text else .ok (.text text)

/-- The value of a key. -/
def keyValue : Node → Except Fault Value
  | .scalar isPlain text =>
    if isPlain && text == "=" then .ok (.text text) else scalarValue isPlain text
  | _ => .error (.malformed "a collection cannot be a key")

/-- A result at a depth. -/
def atDepth {α : Type} (depth : Nat) (result : Except Fault α) : Except Misfit α :=
  result.mapError fun fault => { depth, fault }

mutual

/-- The value of a node that has a number of collections around it. -/
def Node.valueAt (depth : Nat) : Node → Except Misfit Value
  | .scalar isPlain text => atDepth depth (scalarValue isPlain text)
  | .sequence items => (Node.valuesAt (depth + 1) items).map .list
  | .mapping entries =>
    (Node.entriesAt (depth + 1) entries).map fun entries =>
      .map (entries.foldl (fun done (key, value) => Value.put done key value) [])

/-- The values of nodes. -/
def Node.valuesAt (depth : Nat) : List Node → Except Misfit (List Value)
  | [] => .ok []
  | node :: rest =>
    (both (node.valueAt depth) (Node.valuesAt depth rest)).map fun (value, values) =>
      value :: values

/-- The keys and values of entries. -/
def Node.entriesAt (depth : Nat) : List (Node × Node) → Except Misfit (List (Value × Value))
  | [] => .ok []
  | (key, node) :: rest =>
    (both (both (atDepth depth (keyValue key)) (node.valueAt depth))
      (Node.entriesAt depth rest)).map fun (entry, entries) => entry :: entries

end

/-- The value of a node. -/
def Node.value (node : Node) : Except Fault Value :=
  (node.valueAt 0).mapError (·.fault)

/-- The value a whole text writes; a text without a document is null. -/
def read (text : String) : Except Fault Value := do
  match ← Node.ofTokens (tokens text) with
  | none => pure .null
  | some node => node.value

instance : Reader where
  value := read

end ApiShell.Yaml
