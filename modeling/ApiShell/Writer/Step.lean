import ApiShell.Writer.Basic

/-! Programs of a writer. A declaration is such a program, made of lines and blocks; opening and
closing can also be given one by one. -/

namespace ApiShell

/-- An instruction to a writer. -/
inductive Step where
  | line (text : String)
  | openBlock (header : String)
  | closeBlock (suffix : String)
  /-- A block is closed also when its body fails. -/
  | block (header : String) (body : List Step)

instance : Inhabited Step := ⟨.line ""⟩

namespace Writer

/-- A writer after some steps, and the refusal that stopped them. -/
structure Run where
  writer : Writer
  error : Option WriterError := none

/-- Closes the block of a body that has run. A refusal to close takes the place of the body's
own. -/
def Run.closing (r : Run) : Run :=
  match r.writer.closeBlock "" with
  | .ok w => { r with writer := w }
  | .error e => { r with error := some e }

mutual

/-- Carries out one step. -/
def perform (w : Writer) : Step → Run
  | .line text => { writer := w.line text }
  | .openBlock header => { writer := w.openBlock header }
  | .closeBlock suffix =>
    match w.closeBlock suffix with
    | .ok w => { writer := w }
    | .error e => { writer := w, error := some e }
  | .block header body => (performAll (w.openBlock header) body).closing

/-- Carries out steps up to the first refusal. -/
def performAll (w : Writer) : List Step → Run
  | [] => { writer := w }
  | step :: rest =>
    match perform w step with
    | { writer, error := none } => performAll writer rest
    | run => run

end

/-- The lines that steps write at a level, when started on an empty page. -/
def linesOf (unit : String) (level : Nat) (steps : List Step) : List String :=
  (performAll { unit, level } steps).writer.lines

end Writer

end ApiShell
