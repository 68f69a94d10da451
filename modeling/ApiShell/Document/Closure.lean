import ApiShell.Document.File
import ApiShell.Document.Library
import ApiShell.Log.Sink

/-! The documents that a document refers to, directly or through others. A reference is looked
for next to the document that makes it and then along the search paths, and every file is read
once, in the order in which it is first referred to. -/

namespace ApiShell.Document

/-- The endings a reference may leave out. -/
def suffixes : List String := [".json", ".yml", ".yaml"]

/-- The paths at which a reference is looked for in one directory. -/
def candidatesIn (name : String) (dir : Path) : List Path :=
  dir.joinText name ::
    (if suffixes.contains (Path.ofText name).suffix then []
     else suffixes.map fun suffix => dir.joinText (name ++ suffix))

/-- The paths at which a reference is looked for. -/
def candidates (searchPaths : List Path) (base : Path) (name : String) : List Path :=
  (base :: searchPaths).flatMap (candidatesIn name)

/-- The file a reference leads to. -/
def resolveReference (t : FileTree) (searchPaths : List Path) (base : Path) (name : String) :
    Except LoadError Path :=
  match t.firstFile? (candidates searchPaths base name) with
  | .error error => .error (.file error)
  | .ok (some path) => .ok path
  | .ok none => .error (.unresolved name (candidates searchPaths base name).length)

/-- The record of a reference that was bound to a file. -/
def bindingRecord (bound : String × Path) : Log.Record :=
  .of .debug "provider" ("Binding referenced library " ++ bound.1 ++ " -> " ++ bound.2.text)

/-- References that were bound to files, the documents read from them, and what went wrong
last. -/
structure Closure where
  bound : List (String × Path) := []
  documents : List Entries := []
  error : Option LoadError := none

/-- The records of the references that were bound. -/
def Closure.records (c : Closure) : List Log.Record :=
  c.bound.map bindingRecord

/-- The references of a document, each with the directory it is looked for in first. -/
def outgoing (path : Path) (document : Entries) : Except LoadError (List (Path × String)) :=
  match referenceNames document with
  | .ok names => .ok (names.map fun name => (path.parent, name))
  | .error error => .error (.format error)

/-- Follows pending references, first come first, and leaves out the places seen before. The
fuel bounds the number of files that are still read. -/
def closeOver [Yaml.Reader] (files : Log.View) (searchPaths : List Path) (fuel : Nat)
    (pending : List (Path × String)) (seen : List (List String)) (done : Closure) : Closure :=
  match pending with
  | [] => done
  | (base, name) :: rest =>
    match resolveReference (files done.records) searchPaths base name with
    | .error error => { done with error := some error }
    | .ok path =>
      let place := path.place (files done.records).cwd
      if seen.contains place then closeOver files searchPaths fuel rest seen done
      else match fuel with
        | 0 => done
        | fuel + 1 =>
          let done := { done with bound := done.bound ++ [(name, path)] }
          match read (files done.records) path with
          | .error error => { done with error := some error }
          | .ok document =>
            let done := { done with documents := done.documents ++ [document] }
            match outgoing path document with
            | .error error => { done with error := some error }
            | .ok references =>
              closeOver files searchPaths fuel (rest ++ references) (seen ++ [place]) done
termination_by (fuel, pending.length)

/-- The closure of the references of a primary document. No more files are read than there
are. -/
def closure [Yaml.Reader] (files : Log.View) (searchPaths : List Path) (path : Path)
    (document : Entries) : Closure :=
  match outgoing path document with
  | .error error => { error := some error }
  | .ok references =>
    closeOver files searchPaths (files []).files.length references [path.place (files []).cwd] {}

end ApiShell.Document
