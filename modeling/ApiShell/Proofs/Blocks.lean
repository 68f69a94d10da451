import ApiShell.Proofs.Forest
import ApiShell.Synthesis

/-!
# Blocks

A program of a writer is balanced when every block it opens is closed again, in order. Such a
program runs on any writer: no closing brace is refused, the level at the end is that at the
start and is never lower on the way, and the lines that were there stay. All programs that write
declarations are balanced, also where the block of a namespace stays open from one type to the
next.
-/

namespace ApiShell

namespace Writer

/-! ## The writers on the way -/

mutual

/-- The writers a step goes through, one after each line, each opening and each closing; the
last of them is the one it ends with. -/
def stages (w : Writer) : Step → List Writer
  | .line text => [(w.perform (.line text)).writer]
  | .openBlock header => [(w.perform (.openBlock header)).writer]
  | .closeBlock suffix => [(w.perform (.closeBlock suffix)).writer]
  | .block header body =>
    w.openBlock header :: stagesAll (w.openBlock header) body ++
      [(w.perform (.block header body)).writer]

/-- The writers that steps go through, up to the first refusal. -/
def stagesAll (w : Writer) : List Step → List Writer
  | [] => []
  | step :: rest =>
    stages w step ++
      (if (w.perform step).error = none then stagesAll (w.perform step).writer rest else [])

end

/-- Steps run on a writer without a refusal, never go below its level, end at it, and leave its
lines as they are. -/
structure KeepsBlocks (w : Writer) (steps : List Step) : Prop where
  succeeds : (w.performAll steps).error = none
  level_eq : (w.performAll steps).writer.level = w.level
  level_le : ∀ v ∈ w.stagesAll steps, w.level ≤ v.level
  lines_prefix : w.lines <+: (w.performAll steps).writer.lines

/-! ## Steps one after the other -/

variable {w : Writer} {step : Step} {steps rest : List Step}

theorem performAll_cons (h : (w.perform step).error = none) :
    w.performAll (step :: rest) = (w.perform step).writer.performAll rest := by
  rw [performAll]
  cases hrun : w.perform step with
  | mk writer error =>
    rw [hrun] at h
    cases h
    rfl

theorem stagesAll_cons (h : (w.perform step).error = none) :
    w.stagesAll (step :: rest) = w.stages step ++ (w.perform step).writer.stagesAll rest := by
  rw [stagesAll, if_pos h]

theorem performAll_append (h : (w.performAll steps).error = none) (rest : List Step) :
    w.performAll (steps ++ rest) = (w.performAll steps).writer.performAll rest ∧
      w.stagesAll (steps ++ rest) =
        w.stagesAll steps ++ (w.performAll steps).writer.stagesAll rest := by
  induction steps generalizing w with
  | nil => exact ⟨rfl, rfl⟩
  | cons step steps ih =>
    by_cases hstep : (w.perform step).error = none
    · rw [performAll_cons hstep] at h ⊢
      obtain ⟨hrun, hstages⟩ := ih h
      constructor
      · rw [List.cons_append, performAll_cons hstep, hrun]
      · rw [List.cons_append, stagesAll_cons hstep, stagesAll_cons hstep, hstages,
          List.append_assoc]
    · rw [performAll] at h
      cases hrun : w.perform step with
      | mk writer error =>
        rw [hrun] at h hstep
        cases error with
        | none => exact absurd rfl hstep
        | some e => cases h

theorem KeepsBlocks.append (h : w.KeepsBlocks steps)
    (hrest : (w.performAll steps).writer.KeepsBlocks rest) : w.KeepsBlocks (steps ++ rest) := by
  obtain ⟨hrun, hstages⟩ := performAll_append h.succeeds rest
  refine ⟨?_, ?_, ?_, ?_⟩
  · rw [hrun, hrest.succeeds]
  · rw [hrun, hrest.level_eq, h.level_eq]
  · intro v hv
    rw [hstages, List.mem_append] at hv
    rcases hv with hv | hv
    · exact h.level_le v hv
    · have hle := hrest.level_le v hv
      rwa [h.level_eq] at hle
  · rw [hrun]
    exact h.lines_prefix.trans hrest.lines_prefix

theorem keepsBlocks_nil (w : Writer) : w.KeepsBlocks [] :=
  ⟨rfl, rfl, by simp [stagesAll], List.prefix_refl _⟩

theorem keepsBlocks_line (w : Writer) (text : String) : w.KeepsBlocks [.line text] :=
  ⟨rfl, rfl, by simp [stagesAll, stages, perform, line], List.prefix_append ..⟩

/-- The block around steps that keep blocks can be closed, and the writer is then at its level
again. -/
theorem closeBlock_of_keepsBlocks {header : String}
    (h : (w.openBlock header).KeepsBlocks steps) (suffix : String) :
    ∃ closed, ((w.openBlock header).performAll steps).writer.closeBlock suffix = .ok closed ∧
      closed.level = w.level ∧ w.lines <+: closed.lines := by
  have hlevel : ((w.openBlock header).performAll steps).writer.level = w.level + 1 := h.level_eq
  have hopened : w.lines <+: (w.openBlock header).lines := by
    simp [openBlock, line, List.append_assoc]
  have hlines := hopened.trans h.lines_prefix
  generalize ((w.openBlock header).performAll steps).writer = inner at hlevel hlines
  rw [closeBlock, hlevel]
  exact ⟨_, rfl, rfl, hlines.trans (List.prefix_append ..)⟩

/-- Steps that open a block, go through steps that keep blocks and close it again keep blocks. -/
theorem KeepsBlocks.around {inside : List Step} {header suffix : String} {closed : Writer}
    (h : (w.openBlock header).KeepsBlocks inside)
    (hclose : ((w.openBlock header).performAll inside).writer.closeBlock suffix = .ok closed)
    (hrun : w.performAll steps = { writer := closed })
    (hstages : w.stagesAll steps =
      w.openBlock header :: ((w.openBlock header).stagesAll inside ++ [closed])) :
    w.KeepsBlocks steps := by
  obtain ⟨_, hclose', hlevel, hlines⟩ := closeBlock_of_keepsBlocks h suffix
  cases hclose.symm.trans hclose'
  refine ⟨by rw [hrun], by rw [hrun, hlevel], fun v hv => ?_, by rwa [hrun]⟩
  simp only [hstages, List.mem_cons, List.mem_append, List.not_mem_nil, or_false] at hv
  rcases hv with rfl | hv | rfl
  · exact Nat.le_succ _
  · exact Nat.le_of_succ_le (h.level_le v hv)
  · exact Nat.le_of_eq hlevel.symm

theorem KeepsBlocks.block {header : String} (h : (w.openBlock header).KeepsBlocks steps) :
    w.KeepsBlocks [.block header steps] := by
  obtain ⟨closed, hclose, -⟩ := closeBlock_of_keepsBlocks h ""
  have hstep : w.perform (.block header steps) = { writer := closed } := by
    rw [perform, Run.closing, hclose]
    simp [h.succeeds]
  refine h.around hclose ?_ ?_
  · rw [performAll_cons (by rw [hstep]), hstep, performAll]
  · rw [stagesAll_cons (by rw [hstep]), stages, hstep, stagesAll, List.append_nil,
      List.cons_append]

/-- The same where the opening and the closing are given one by one. -/
theorem KeepsBlocks.pair {header : String} (h : (w.openBlock header).KeepsBlocks steps)
    (suffix : String) :
    w.KeepsBlocks (.openBlock header :: (steps ++ [.closeBlock suffix])) := by
  obtain ⟨closed, hclose, -⟩ := closeBlock_of_keepsBlocks h suffix
  have hopen : (w.perform (.openBlock header)).error = none := rfl
  have hend : ((w.openBlock header).performAll steps).writer.perform (.closeBlock suffix) =
      { writer := closed } := by
    rw [perform, hclose]
  obtain ⟨hafter, hstages⟩ := performAll_append h.succeeds [.closeBlock suffix]
  refine h.around hclose ?_ ?_
  · rw [performAll_cons hopen, perform, hafter, performAll_cons (by rw [hend]), hend, performAll]
  · rw [stagesAll_cons hopen, perform, hstages, stagesAll_cons (by rw [hend]), stages, stages,
      hend, perform, stagesAll, List.append_nil, List.singleton_append]

end Writer

/-! ## Balanced programs -/

/-- Lines, blocks, and pairs of an opening and a closing around a balanced program. -/
inductive Balanced : List Step → Prop where
  | nil : Balanced []
  | line (text : String) : Balanced [.line text]
  | block (header : String) {body : List Step} (inside : Balanced body) :
      Balanced [.block header body]
  | pair (header suffix : String) {body : List Step} (inside : Balanced body) :
      Balanced (.openBlock header :: (body ++ [.closeBlock suffix]))
  | append {steps rest : List Step} (first : Balanced steps) (second : Balanced rest) :
      Balanced (steps ++ rest)

theorem Balanced.keepsBlocks {steps : List Step} (h : Balanced steps) (w : Writer) :
    w.KeepsBlocks steps := by
  induction h generalizing w with
  | nil => exact w.keepsBlocks_nil
  | line text => exact w.keepsBlocks_line text
  | block header _ ih => exact (ih _).block
  | pair header suffix _ ih => exact (ih _).pair suffix
  | append _ _ ihfirst ihsecond => exact (ihfirst w).append (ihsecond _)

theorem Balanced.of_forall {steps : List Step} (h : ∀ step ∈ steps, Balanced [step]) :
    Balanced steps := by
  induction steps with
  | nil => exact .nil
  | cons step rest ih =>
    exact .append (h step (by simp)) (ih fun step hstep => h step (by simp [hstep]))

theorem Balanced.map {α : Type} {items : List α} {f : α → Step}
    (h : ∀ item ∈ items, Balanced [f item]) : Balanced (items.map f) := by
  refine .of_forall fun step hstep => ?_
  obtain ⟨item, hitem, rfl⟩ := List.mem_map.mp hstep
  exact h item hitem

theorem Balanced.flatMap {α : Type} {items : List α} {f : α → List Step}
    (h : ∀ item ∈ items, Balanced (f item)) : Balanced (items.flatMap f) := by
  induction items with
  | nil => exact .nil
  | cons item rest ih =>
    rw [List.flatMap_cons]
    exact .append (h item (by simp)) (ih fun item hitem => h item (by simp [hitem]))

/-! ## Members -/

namespace Emitter

variable (e : Emitter) (d : TypeDecl)

theorem assignments_balanced (ps : List Parameter) : Balanced (e.assignments ps) :=
  .map fun _ _ => .line _

theorem constructorSteps_balanced (ps : List Parameter) :
    Balanced [e.constructorSteps d ps] :=
  .block _ (e.assignments_balanced ps)

theorem constructors_balanced : Balanced (e.constructors d) := by
  unfold constructors
  split
  · exact .map fun ps _ => e.constructorSteps_balanced d ps
  · split
    · exact .nil
    · refine .append (.map fun ps _ => e.constructorSteps_balanced d ps) ?_
      split
      · exact .nil
      · exact .block _ .nil
  · exact .nil

theorem enumLines_balanced (names : List String) : Balanced (enumLines names) := by
  fun_induction enumLines names with
  | case1 => exact .nil
  | case2 name => exact .line name
  | case3 name rest _ ih => exact .append (.line _) ih

theorem fields_balanced : Balanced (e.fields d) := by
  unfold fields
  split
  · exact enumLines_balanced d.memberNames
  · exact .nil
  · exact .map fun _ _ => .line _

theorem propertyBody_balanced (p : Property) (inInterface : Bool) :
    Balanced (e.propertyBody p inInterface) := by
  rw [propertyBody]
  refine .append ?_ ?_
  all_goals
    split
    · exact .line _
    · exact .nil

theorem properties_balanced : Balanced (e.properties d) := by
  rw [properties]
  split
  · refine .map fun p _ => ?_
    rw [propertySteps]
    split
    · exact .block _ (e.propertyBody_balanced p _)
    · exact .line _
  · exact .nil

theorem eventSteps_balanced (inInterface : Bool) (ev : Event) :
    Balanced (e.eventSteps inInterface ev) := by
  unfold eventSteps
  split
  · exact .line _
  · refine .append (.line _) ?_
    split
    · exact .line _
    · exact .block _ (.append (.line _) (.line _))

theorem events_balanced : Balanced (e.events d) := by
  rw [events]
  split
  · exact .flatMap fun ev _ => e.eventSteps_balanced _ ev
  · exact .nil

theorem methodBody_balanced (m : Method) : Balanced (e.methodBody m) := by
  refine .append (e.assignments_balanced m.parameters) ?_
  split
  · exact .nil
  · exact .line _

theorem methods_balanced : Balanced (e.methods d) := by
  rw [methods]
  split
  · refine .map fun m _ => ?_
    rw [methodSteps]
    split
    · exact .line _
    · exact .block _ (e.methodBody_balanced m)
  · exact .nil

theorem members_balanced : Balanced (e.members d) := by
  rw [members]
  exact .append (.append (.append (.append (e.constructors_balanced d) (e.fields_balanced d))
    (e.properties_balanced d)) (e.events_balanced d)) (e.methods_balanced d)

/-! ## Types and namespaces -/

mutual

theorem declare_balanced : ∀ tree : Nesting, Balanced [e.declare tree]
  | .node d inner => by
    unfold declare
    split
    · exact .block _ (e.fields_balanced d)
    · exact .line _
    · exact .block _ (.append (declareAll_balanced inner) (e.members_balanced d))

theorem declareAll_balanced : ∀ trees : List Nesting, Balanced (e.declareAll trees)
  | [] => .nil
  | tree :: rest => .append (declare_balanced tree) (declareAll_balanced rest)

end

/-- The block of a namespace can be put around a balanced program. -/
theorem space_balanced (space : Option String) {steps : List Step} (h : Balanced steps) :
    Balanced (enterSpace space ++ steps ++ leaveSpace space) := by
  rw [enterSpace, leaveSpace]
  split
  · exact .pair _ "" h
  · simpa using h

/-- The block of the namespace of one type stays open for the next types, so the induction goes
over the types that follow, with what was written in the block so far. -/
theorem declareFrom_balanced (ts : List TypeDecl) (current : Option String) {steps : List Step}
    (h : Balanced steps) :
    Balanced (enterSpace current ++ steps ++ e.declareFrom current ts) := by
  induction ts generalizing current steps with
  | nil => exact space_balanced current h
  | cons d rest ih =>
    have hd := e.declare_balanced (e.graph.nesting d)
    rw [declareFrom]
    by_cases hspace : d.space = current
    · rw [if_pos hspace, hspace]
      simpa using ih current (h.append hd)
    · rw [if_neg hspace]
      simpa using (space_balanced current h).append (ih d.space hd)

theorem types_balanced : Balanced e.types :=
  e.declareFrom_balanced e.graph.topLevel none .nil

end Emitter

/-! ## The whole shell -/

theorem Settings.assembly_balanced (s : Settings) (g : Graph) (library : Library)
    (banner : Option String) : Balanced (s.assembly g library banner) :=
  .append (.map fun _ _ => .line _) (s.emitter g).types_balanced

/-- Writing a shell, all its types, one type with the types inside it or the members of one type
keeps blocks on any writer; and what is declared for a type reaches down to the innermost of the
types inside it. -/
theorem assembly_keepsBlocks (g : Graph) (acyclic : AcyclicNesting g.emitted) (s : Settings)
    (library : Library) (banner : Option String) (w : Writer) :
    w.KeepsBlocks (s.assembly g library banner) ∧
      w.KeepsBlocks (s.emitter g).types ∧
      ∀ d : TypeDecl,
        w.KeepsBlocks [(s.emitter g).declare (g.nesting d)] ∧
        w.KeepsBlocks ((s.emitter g).members d) ∧
        g.nesting d =
          .node d (if d.kind.isComposite then (g.nestedIn d.id).map g.nesting else []) :=
  ⟨(s.assembly_balanced g library banner).keepsBlocks w,
    (s.emitter g).types_balanced.keepsBlocks w,
    fun d => ⟨((s.emitter g).declare_balanced (g.nesting d)).keepsBlocks w,
      ((s.emitter g).members_balanced d).keepsBlocks w, nesting_eq acyclic d⟩⟩

/-- A writer inside a block, with the lines that opened it. -/
def openedWriter : Writer := { unit := "\t", level := 1, lines := ["namespace Outside", "\x7b"] }

theorem nestedClasses_assembly_keepsBlocks :
    AcyclicNesting (nestedClasses true true) ∧
      openedWriter.KeepsBlocks (({} : Settings).assembly { emitted := nestedClasses true true }
        { name := "Nested", types := nestedClasses true true } (some "// nested")) :=
  ⟨nestedClasses_acyclic true true,
    (assembly_keepsBlocks { emitted := nestedClasses true true } (nestedClasses_acyclic true true)
      {} _ _ openedWriter).1⟩

/-- A shell is never given up for a brace: only its template or its indentation can be refused. -/
theorem Settings.render_eq_error [Banner.Engine] {s : Settings} {t : FileTree} {loaded : Loaded}
    {shown : List TypeDecl} {error : RunError} (h : s.render t loaded shown = .error error) :
    (∃ refusal, s.bannerOf t loaded.library = .error refusal ∧ error = .template refusal) ∨
      s.indentSize < 0 ∧ error = .writer .negativeIndent := by
  unfold Settings.render at h
  cases hbanner : s.bannerOf t loaded.library with
  | error refusal =>
    rw [hbanner] at h
    cases h
    exact .inl ⟨refusal, rfl, rfl⟩
  | ok banner =>
    refine .inr ?_
    rw [hbanner] at h
    by_cases hindent : s.indentSize < 0
    · simp only [Writer.fresh?, if_pos hindent] at h
      cases h
      exact ⟨hindent, rfl⟩
    · simp only [Writer.fresh?, if_neg hindent] at h
      rw [((s.assembly_balanced _ _ _).keepsBlocks _).succeeds] at h
      cases h

end ApiShell
