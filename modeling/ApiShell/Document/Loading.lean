import ApiShell.Document.Closure
import ApiShell.Graph.Basic

/-! Loading a library with the libraries it refers to. Types of referenced libraries answer
questions about supertypes and enum members and are never declared. -/

namespace ApiShell

/-- A library and the types of the libraries it refers to. -/
structure Loaded where
  library : Library
  external : List TypeDecl := []

/-- The graph in which the given types are emitted. Types of the library that are left out stay
known. -/
def Loaded.graph (l : Loaded) (emitted : List TypeDecl) : Graph :=
  { emitted, external := l.external ++ l.library.types }

namespace Document

/-- Turns what is wrong with a document into a reason why loading fails. -/
def lifted {α : Type} : Except FormatError α → Except LoadError α
  | .ok a => .ok a
  | .error error => .error (.format error)

/-- The library of a primary document with the types of the documents it refers to. -/
def assemble (fallbackName : String) (primary : Entries) (secondary : List Entries) :
    Except FormatError Loaded := do
  let kinds ← (primary :: secondary).mapM declaredKinds
  let kinds := kinds.flatten
  let library ← library kinds fallbackName primary
  let external ← secondary.mapM (types kinds)
  pure { library, external := external.flatten }

end Document

open Log

/-- The record of a library that is going to be read. -/
def readingRecord (path : Path) : Record :=
  .of .info "provider" ("Reading library metadata from " ++ path.text)

/-- Loads the library at a path. Where the path started with a tilde, the home directory already
stands for it. -/
def load [Yaml.Reader] (files : View) (searchPaths : List Path) (path : Path) :
    Except LoadError Loaded := do
  match (files []).isFile path with
  | .error error => .error (.file error)
  | .ok false => .error (.notFound path)
  | .ok true =>
    let files := files.after [readingRecord path]
    let primary ← Document.read (files []) path
    let closure := Document.closure files searchPaths path primary
    match closure.error with
    | some error => .error error
    | none => Document.lifted (Document.assemble path.stem primary closure.documents)

/-! ## What is recorded -/

/-- The record of a library that was loaded. -/
def loadedRecord (l : Loaded) : Record :=
  .of .info "provider" ("Loaded " ++ toString l.library.types.length ++ " types from " ++
    l.library.name ++ " (" ++ toString l.external.length ++ " referenced types)")

/-- The trail of loading the library at a path. -/
def loadTrail [Yaml.Reader] (files : View) (searchPaths : List Path) (path : Path) :
    List Record :=
  match (files []).isFile path with
  | .error _ | .ok false => []
  | .ok true =>
    let inside := files.after [readingRecord path]
    readingRecord path ::
      (match Document.read (inside []) path with
        | .error _ => []
        | .ok primary =>
          (Document.closure inside searchPaths path primary).records ++
            (match load files searchPaths path with
              | .ok loaded => [loadedRecord loaded]
              | .error _ => []))

end ApiShell
