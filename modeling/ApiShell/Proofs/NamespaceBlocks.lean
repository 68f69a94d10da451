import ApiShell.Proofs.Indentation
import Mathlib.Data.List.SplitBy

/-!
# Namespace blocks

The top-level types stand in the blocks of their namespaces. A block stays open as long as the
namespace does not change, so the shell is what one gets by cutting the types into runs of equal
namespace and writing one block around each run; a type without a namespace, or with an empty one,
stands in no block. Main statement: the lines are those of the runs, one after the other.
-/

namespace ApiShell

/-! ## Pages

What steps write does not depend on what was written before. -/

namespace Writer

/-- A run whose writer had lines before it started. -/
def Run.behind (before : List String) (r : Run) : Run :=
  { r with writer := { r.writer with lines := before ++ r.writer.lines } }

theorem line_behind (w : Writer) (before : List String) (text : String) :
    ({ w with lines := before ++ w.lines } : Writer).line text =
      { w.line text with lines := before ++ (w.line text).lines } := by
  simp [line, List.append_assoc]

theorem openBlock_behind (w : Writer) (before : List String) (header : String) :
    ({ w with lines := before ++ w.lines } : Writer).openBlock header =
      { w.openBlock header with lines := before ++ (w.openBlock header).lines } := by
  simp [openBlock, line, List.append_assoc]

theorem closeBlock_behind (w : Writer) (before : List String) (suffix : String) :
    ({ w with lines := before ++ w.lines } : Writer).closeBlock suffix =
      (w.closeBlock suffix).map fun v => { v with lines := before ++ v.lines } := by
  obtain ⟨unit, level, lines⟩ := w
  cases level with
  | zero => rfl
  | succ level => simp [closeBlock, line, Except.map, List.append_assoc]

theorem Run.closing_behind (r : Run) (before : List String) :
    (r.behind before).closing = r.closing.behind before := by
  simp only [Run.closing, Run.behind]
  rw [closeBlock_behind]
  cases r.writer.closeBlock "" <;> rfl

mutual

theorem perform_behind (before : List String) : ∀ (step : Step) (w : Writer),
    ({ w with lines := before ++ w.lines } : Writer).perform step =
      (w.perform step).behind before
  | .line text, w => by
    rw [perform, perform, line_behind]
    rfl
  | .openBlock header, w => by
    rw [perform, perform, openBlock_behind]
    rfl
  | .closeBlock suffix, w => by
    rw [perform, perform, closeBlock_behind]
    cases w.closeBlock suffix <;> rfl
  | .block header body, w => by
    rw [perform, perform, openBlock_behind, performAll_behind before body, Run.closing_behind]

theorem performAll_behind (before : List String) : ∀ (steps : List Step) (w : Writer),
    ({ w with lines := before ++ w.lines } : Writer).performAll steps =
      (w.performAll steps).behind before
  | [], w => rfl
  | step :: rest, w => by
    have hstep := perform_behind before step w
    have herror : (({ w with lines := before ++ w.lines } : Writer).perform step).error =
        (w.perform step).error := by
      rw [hstep]
      rfl
    by_cases hfine : (w.perform step).error = none
    · rw [performAll_cons hfine, performAll_cons (herror.trans hfine), hstep]
      exact performAll_behind before rest (w.perform step).writer
    · rw [performAll_of_refused hfine, performAll_of_refused (herror ▸ hfine), hstep]

end

theorem indented_zero (unit : String) : indented unit 0 = id := by
  funext piece
  by_cases hempty : piece = "" <;> simp [indented, indentation, hempty]

theorem unit_performAll (unit : String) (level : Nat) (steps : List Step) :
    (({ unit, level } : Writer).performAll steps).writer.unit = unit := by
  have hsame : Alike unit unit { unit, level } { unit, level } :=
    ⟨rfl, rfl, rfl, [], by simp, rfl, rfl⟩
  exact (performAll_alike steps hsame).writer.left_unit

end Writer

open Writer

/-- A balanced program adds its lines and changes nothing else. -/
theorem Balanced.performAll_eq {steps : List Step} (h : Balanced steps) (w : Writer) :
    w.performAll steps =
      { writer := { w with lines := w.lines ++ linesOf w.unit w.level steps } } := by
  obtain ⟨unit, level, lines⟩ := w
  have hkeeps := h.keepsBlocks { unit, level }
  have hpage : ({ unit, level } : Writer).performAll steps =
      { writer := { unit, level, lines := linesOf unit level steps } } := by
    have hunit := unit_performAll unit level steps
    have hlevel := hkeeps.level_eq
    have herror := hkeeps.succeeds
    rw [linesOf]
    generalize ({ unit, level } : Writer).performAll steps = run at hunit hlevel herror ⊢
    obtain ⟨⟨_, _, _⟩, _⟩ := run
    cases hunit
    cases hlevel
    cases herror
    rfl
  have hbehind := performAll_behind lines steps { unit, level }
  rw [hpage] at hbehind
  simpa [Run.behind] using hbehind

section

variable {unit : String} {level : Nat}

theorem linesOf_append {steps rest : List Step} (h : Balanced steps) (hrest : Balanced rest) :
    linesOf unit level (steps ++ rest) = linesOf unit level steps ++ linesOf unit level rest := by
  rw [linesOf, (performAll_append (h.keepsBlocks _).succeeds rest).1, h.performAll_eq,
    hrest.performAll_eq]
  rfl

theorem linesOf_flatMap {α : Type} {f : α → List Step} (items : List α)
    (h : ∀ item ∈ items, Balanced (f item)) :
    linesOf unit level (items.flatMap f)
      = items.flatMap fun item => linesOf unit level (f item) := by
  induction items with
  | nil => rfl
  | cons item rest ih =>
    have hrest : ∀ item ∈ rest, Balanced (f item) := fun item hitem => h item (by simp [hitem])
    rw [List.flatMap_cons, List.flatMap_cons,
      linesOf_append (h item (by simp)) (Balanced.flatMap hrest), ih hrest]

/-- A block is written as its header, a brace, what is inside one level deeper, and a brace. -/
theorem linesOf_pair (header : String) {body : List Step} (h : Balanced body) :
    linesOf unit level (.openBlock header :: (body ++ [.closeBlock ""])) =
      (Text.pieces header).map (indented unit level) ++ [indented unit level "\x7b"] ++
        linesOf unit (level + 1) body ++ [indented unit level "\x7d"] := by
  have hopen : (({ unit, level } : Writer).perform (.openBlock header)).error = none := rfl
  have hbrace : ∀ brace : String, '\n' ∉ brace.toList → Text.pieces brace = [brace] := by
    intro brace hplain
    rw [Text.pieces, Text.splitOn_of_not_mem hplain, List.map_singleton, String.ofList_toList]
  rw [linesOf, performAll_cons hopen, perform]
  rw [(performAll_append (h.keepsBlocks _).succeeds _).1, h.performAll_eq]
  simp [openBlock, line, performAll, perform, closeBlock, hbrace]

end

/-! ## Runs of equal namespace -/

/-- The namespace of a type; none and an empty one are the same. -/
def TypeDecl.spaceName (d : TypeDecl) : String :=
  d.space.getD ""

/-- The longest runs of types of the same namespace that follow each other. -/
def spaceRuns (ts : List TypeDecl) : List (List TypeDecl) :=
  ts.splitBy fun a b => a.spaceName == b.spaceName

/-- No run is empty, all types of a run have one namespace, and the next run has another. -/
structure AreSpaceRuns (runs : List (List TypeDecl)) : Prop where
  ne_nil : ∀ run ∈ runs, run ≠ []
  alike : ∀ run ∈ runs, ∀ a ∈ run, ∀ b ∈ run, a.spaceName = b.spaceName
  apart : runs.IsChain fun run next => ∀ a ∈ run, ∀ b ∈ next, a.spaceName ≠ b.spaceName

theorem areSpaceRuns_spaceRuns (ts : List TypeDecl) : AreSpaceRuns (spaceRuns ts) := by
  have halike : ∀ run ∈ spaceRuns ts, ∀ a ∈ run, ∀ b ∈ run, a.spaceName = b.spaceName := by
    intro run hrun a ha b hb
    have hchain : (run.map TypeDecl.spaceName).IsChain (· = ·) := by
      rw [List.isChain_map]
      simpa using List.isChain_of_mem_splitBy hrun
    have hpairs := List.isChain_iff_pairwise.mp hchain
    exact hpairs.forall_of_forall (fun _ _ => rfl) (List.mem_map_of_mem ha)
      (List.mem_map_of_mem hb)
  refine ⟨fun run hrun => List.ne_nil_of_mem_splitBy hrun, halike, ?_⟩
  -- the last type of a run and the first of the next differ, and so do all others with them
  have hends := List.isChain_getLast_head_splitBy (fun a b => a.spaceName == b.spaceName) ts
  refine hends.imp_of_mem_imp fun run next hrun hnext ⟨hsome, hsome', hdiffer⟩ a ha b hb => ?_
  rw [halike run hrun a ha _ (List.getLast_mem hsome),
    halike next hnext b hb _ (List.head_mem hsome')]
  simpa using hdiffer

/-! ## The steps, run by run -/

namespace Emitter

variable {e : Emitter}

theorem leaveSpace_of_empty {space : Option String} (h : space.getD "" = "") :
    leaveSpace space = [] := by
  cases space <;> simp_all [leaveSpace, isNamed]

theorem enterSpace_of_empty {space : Option String} (h : space.getD "" = "") :
    enterSpace space = [] := by
  cases space <;> simp_all [enterSpace, isNamed]

/-- Two ways to say the same namespace are the same, or they are the two ways to have none. -/
theorem eq_or_empty_of_getD_eq {space other : Option String} (h : space.getD "" = other.getD "") :
    space = other ∨ space.getD "" = "" ∧ other.getD "" = "" := by
  cases space <;> cases other <;> simp_all

/-- Only the name of the open namespace counts. -/
theorem declareFrom_congr {current other : Option String}
    (h : current.getD "" = other.getD "") (ts : List TypeDecl) :
    e.declareFrom current ts = e.declareFrom other ts := by
  rcases eq_or_empty_of_getD_eq h with rfl | ⟨hcurrent, hother⟩
  · rfl
  · cases ts with
    | nil => rw [declareFrom, declareFrom, leaveSpace_of_empty hcurrent, leaveSpace_of_empty hother]
    | cons d rest =>
      rw [declareFrom, declareFrom, leaveSpace_of_empty hcurrent, leaveSpace_of_empty hother]
      have hsilent : ∀ space : Option String, space.getD "" = "" →
          (if d.space = space then [] else [] ++ enterSpace d.space) = enterSpace d.space := by
        intro space hspace
        split
        · next hsame => rw [enterSpace_of_empty (hsame ▸ hspace)]
        · rfl
      rw [hsilent current hcurrent, hsilent other hother]

/-- The types of the namespace whose block is open are declared in it. -/
theorem declareFrom_run {current : Option String} {run : List TypeDecl}
    (h : ∀ d ∈ run, d.spaceName = current.getD "") (rest : List TypeDecl) :
    e.declareFrom current (run ++ rest) =
      run.map (fun d => e.declare (e.graph.nesting d)) ++ e.declareFrom current rest := by
  induction run with
  | nil => rfl
  | cons d run ih =>
    have hd : d.space.getD "" = current.getD "" := h d List.mem_cons_self
    have hrun := ih fun other hother => h other (List.mem_cons_of_mem _ hother)
    have hsilent : (if d.space = current then []
        else leaveSpace current ++ enterSpace d.space) = [] := by
      rcases eq_or_empty_of_getD_eq hd with hsame | ⟨hempty, hempty'⟩
      · rw [if_pos hsame]
      · simp [leaveSpace_of_empty hempty', enterSpace_of_empty hempty]
    rw [List.cons_append, declareFrom, hsilent, List.nil_append, declareFrom_congr hd, hrun,
      List.map_cons, List.cons_append]

/-- The steps for a run: its types, and around them the block of their namespace if it has a
name. -/
def runSteps (e : Emitter) (run : List TypeDecl) : List Step :=
  let space := run.head?.bind (·.space)
  enterSpace space ++ run.map (fun d => e.declare (e.graph.nesting d)) ++ leaveSpace space

/-- The loop over the types writes one run after the other. The induction is on the runs, with
the namespace whose block is open; the first run must not go on with it. -/
theorem declareFrom_runs {runs : List (List TypeDecl)} (h : AreSpaceRuns runs)
    {current : Option String}
    (hfirst : ∀ run ∈ runs.head?, ∀ d ∈ run.head?, d.spaceName = current.getD "" →
      current.getD "" = "") :
    e.declareFrom current runs.flatten = leaveSpace current ++ runs.flatMap e.runSteps := by
  induction runs generalizing current with
  | nil => simp [declareFrom]
  | cons run runs ih =>
    cases run with
    | nil => exact absurd rfl (h.ne_nil [] List.mem_cons_self)
    | cons d run =>
      have hrun : ∀ other ∈ run, other.spaceName = d.space.getD "" := by
        intro other hother
        exact h.alike _ List.mem_cons_self other (List.mem_cons_of_mem _ hother) d
          List.mem_cons_self
      have hrest : AreSpaceRuns runs :=
        ⟨fun other hother => h.ne_nil other (List.mem_cons_of_mem _ hother),
          fun other hother => h.alike other (List.mem_cons_of_mem _ hother), h.apart.tail⟩
      have hnext : ∀ next ∈ runs.head?, ∀ b ∈ next.head?, b.spaceName = d.space.getD "" →
          d.space.getD "" = "" := by
        intro next hnext b hb hsame
        have hapart := (List.isChain_cons.mp h.apart).1 next hnext
        exact absurd hsame.symm (hapart d List.mem_cons_self b (List.mem_of_mem_head? hb))
      have hturn : (if d.space = current then []
          else leaveSpace current ++ enterSpace d.space) =
            leaveSpace current ++ enterSpace d.space := by
        split
        · next hsame =>
          have hempty : current.getD "" = "" :=
            hfirst (d :: run) rfl d rfl (congrArg (Option.getD · "") hsame)
          rw [hsame, leaveSpace_of_empty hempty, enterSpace_of_empty hempty, List.nil_append]
        · rfl
      rw [List.flatten_cons, List.cons_append, declareFrom, hturn, declareFrom_run hrun,
        ih hrest hnext, List.flatMap_cons, runSteps]
      simp

/-! ## The lines, run by run -/

/-- The lines of a type and the types inside it at a level. -/
def typeLines (e : Emitter) (unit : String) (level : Nat) (d : TypeDecl) : List String :=
  linesOf unit level [e.declare (e.graph.nesting d)]

/-- The lines of a run: those of its types, one level deeper inside a block where their namespace
has a name. -/
def runLines (e : Emitter) (unit : String) : List TypeDecl → List String
  | [] => []
  | d :: run =>
    if d.spaceName = "" then (d :: run).flatMap (e.typeLines unit 0)
    else
      Text.pieces ("namespace " ++ d.spaceName) ++ ["\x7b"] ++
        (d :: run).flatMap (e.typeLines unit 1) ++ ["\x7d"]

theorem declarations_balanced (run : List TypeDecl) :
    Balanced (run.map fun d => e.declare (e.graph.nesting d)) :=
  .map fun d _ => e.declare_balanced (e.graph.nesting d)

theorem runSteps_balanced (run : List TypeDecl) : Balanced (e.runSteps run) :=
  space_balanced _ (declarations_balanced run)

theorem linesOf_declarations (unit : String) (level : Nat) (run : List TypeDecl) :
    linesOf unit level (run.map fun d => e.declare (e.graph.nesting d)) =
      run.flatMap (e.typeLines unit level) := by
  rw [← List.flatMap_pure_eq_map]
  exact linesOf_flatMap run fun d _ => e.declare_balanced (e.graph.nesting d)

theorem linesOf_runSteps (unit : String) (run : List TypeDecl) :
    linesOf unit 0 (e.runSteps run) = e.runLines unit run := by
  cases run with
  | nil => rfl
  | cons d run =>
    have hspace : ((d :: run).head?.bind (·.space)) = d.space := rfl
    rw [runLines, runSteps, hspace]
    by_cases hempty : d.spaceName = ""
    · rw [if_pos hempty, enterSpace_of_empty hempty, leaveSpace_of_empty hempty, List.nil_append,
        List.append_nil, linesOf_declarations]
    · have hnamed : isNamed d.space = true := by
        cases hd : d.space with
        | none => simp [TypeDecl.spaceName, hd] at hempty
        | some name => simpa [TypeDecl.spaceName, hd, isNamed] using hempty
      rw [if_neg hempty, enterSpace, leaveSpace, if_pos hnamed, if_pos hnamed, List.append_assoc,
        List.singleton_append, linesOf_pair _ (declarations_balanced _), linesOf_declarations]
      simp [indented_zero, TypeDecl.spaceName]

/-- On an empty page the types are written run by run, each run in a block of its own namespace
where that has a name; nothing is refused and no block stays open. The runs are all top-level
types in order. None of them is empty, the types of each have one namespace, and the next one has
another. -/
theorem types_written_by_namespace (e : Emitter) (unit : String) :
    ({ unit } : Writer).performAll e.types =
      { writer := { unit, lines := (spaceRuns e.graph.topLevel).flatMap (e.runLines unit) } } ∧
    (spaceRuns e.graph.topLevel).flatten = e.graph.topLevel ∧
    AreSpaceRuns (spaceRuns e.graph.topLevel) := by
  have hwhole : (spaceRuns e.graph.topLevel).flatten = e.graph.topLevel :=
    List.flatten_splitBy _ _
  have hruns := areSpaceRuns_spaceRuns e.graph.topLevel
  have hsteps : e.types = (spaceRuns e.graph.topLevel).flatMap e.runSteps := by
    have hloop : e.declareFrom none (spaceRuns e.graph.topLevel).flatten =
        leaveSpace none ++ (spaceRuns e.graph.topLevel).flatMap e.runSteps :=
      declareFrom_runs hruns fun _ _ _ _ _ => rfl
    rwa [hwhole] at hloop
  have hlines : linesOf unit 0 e.types =
      (spaceRuns e.graph.topLevel).flatMap (e.runLines unit) := by
    rw [hsteps, linesOf_flatMap _ fun run _ => runSteps_balanced run]
    exact List.flatMap_congr fun run _ => linesOf_runSteps unit run
  refine ⟨?_, hwhole, hruns⟩
  rw [e.types_balanced.performAll_eq, hlines]
  rfl

end Emitter

end ApiShell
