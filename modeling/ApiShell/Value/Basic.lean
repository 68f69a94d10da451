import ApiShell.Binary64.Shortest
import ApiShell.Text.Quoted
import ApiShell.Value.Moment

/-! The values a document is made of, and the constants that members and attributes carry. -/

namespace ApiShell

/-- A document value. A map keeps its entries in the order in which their keys first came. -/
inductive Value where
  | null
  | bool (b : Bool)
  | int (i : Int)
  | float (x : Binary64)
  | text (s : String)
  | moment (m : Moment)
  | list (items : List Value)
  | map (entries : List (Value × Value))

instance : Inhabited Value := ⟨.null⟩

namespace Value

/-- Whether a value counts as something: zeros, empty texts and collections, false and null do
not. -/
def truthy : Value → Bool
  | .null => false
  | .bool b => b
  | .int i => i != 0
  | .float x => !x.isZero
  | .text s => s != ""
  | .moment _ => true
  | .list items => !items.isEmpty
  | .map entries => !entries.isEmpty

/-- Whether two keys address the same entry. Numbers are compared by value, the truth values
counting as one and zero, and moments by the point in time. -/
def sameKey : Value → Value → Bool
  | .null, .null => true
  | .text s, .text t => s == t
  | .moment m, .moment n => m.same n
  | .float .nan, .float .nan => true
  | .float (.infinite a), .float (.infinite b) => a == b
  | a, b =>
    match number? a, number? b with
    | some (m, i), some (n, j) =>
      m * Int.pow 2 (i - j).toNat == n * Int.pow 2 (j - i).toNat
    | _, _ => false
where
  /-- A finite number as a whole number times a power of two. -/
  number? : Value → Option (Int × Int)
    | .bool b => some (if b then 1 else 0, 0)
    | .int i => some (i, 0)
    | .float (.finite negative mantissa exponent) =>
      some (if negative then -(mantissa : Int) else mantissa, exponent)
    | _ => none

/-- The entries after a key was given a value: a known key keeps its place. -/
def put (entries : List (Value × Value)) (key value : Value) : List (Value × Value) :=
  match entries with
  | [] => [(key, value)]
  | (k, v) :: rest => if sameKey k key then (k, value) :: rest else (k, v) :: put rest key value

/-- The value under a text key. -/
def find? (entries : List (Value × Value)) (key : String) : Option Value :=
  match entries with
  | [] => none
  | (.text k, v) :: rest => if k = key then some v else find? rest key
  | _ :: rest => find? rest key

/-- The value under a text key; an absent one reads as null. -/
def get (entries : List (Value × Value)) (key : String) : Value :=
  (find? entries key).getD .null

mutual

/-- The value as it is shown inside another one, with texts in quotes. -/
def inspect : Value → String
  | .null => "None"
  | .bool b => if b then "True" else "False"
  | .int i => toString i
  | .float x => x.text
  | .text s => Text.quoted s
  | .moment m => m.expression
  | .list items => "[" ++ ", ".intercalate (inspectItems items) ++ "]"
  | .map entries => "\x7b" ++ ", ".intercalate (inspectEntries entries) ++ "\x7d"

/-- The items of a list, each shown. -/
def inspectItems : List Value → List String
  | [] => []
  | item :: rest => inspect item :: inspectItems rest

/-- The entries of a map, each shown as key and value. -/
def inspectEntries : List (Value × Value) → List String
  | [] => []
  | (key, value) :: rest => (inspect key ++ ": " ++ inspect value) :: inspectEntries rest

end

/-- The value as text on its own: a text is itself, everything else is shown. -/
def display : Value → String
  | .text s => s
  | .moment m => m.text
  | value => inspect value

end Value

end ApiShell
