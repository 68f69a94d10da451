import ApiShell.Proofs.NamespaceBlocks

/-!
# Writer history

A program of nested steps makes moves on its writer one after the other: it writes texts, opens and
closes blocks, and may be refused a closing, where it stops and only closes the blocks around.
Between any two moments lines are only added, no line holds a line feed, and the level is the number
of openings less that of closings. What a program writes moves along with its level: started deeper,
it writes the same lines as many units further in.
-/

namespace ApiShell

namespace Writer

/-! ## Moves -/

/-- What can happen at a writer. -/
inductive Move where
  | wrote (text : String)
  | opened (header : String)
  | closed (suffix : String)
  | refused (suffix : String)
  deriving DecidableEq, Repr

namespace Move

/-- Whether a block is opened. -/
def isOpening : Move → Bool
  | .opened _ => true
  | _ => false

/-- Whether a block is closed; a closing that is refused closes none. -/
def isClosing : Move → Bool
  | .closed _ => true
  | _ => false

/-- Whether a closing is refused. -/
def isRefusal : Move → Bool
  | .refused _ => true
  | _ => false

end Move

/-- What asking for a closing comes to. -/
def closing (w : Writer) (suffix : String) : Move :=
  match w.closeBlock suffix with
  | .ok _ => .closed suffix
  | .error _ => .refused suffix

mutual

/-- The moves of a step. A block asks for its closing whatever came of its body. -/
def moves (w : Writer) : Step → List Move
  | .line text => [.wrote text]
  | .openBlock header => [.opened header]
  | .closeBlock suffix => [w.closing suffix]
  | .block header body =>
    .opened header :: (movesAll (w.openBlock header) body ++
      [((w.openBlock header).performAll body).writer.closing ""])

/-- The moves of steps, up to the first that fails. -/
def movesAll (w : Writer) : List Step → List Move
  | [] => []
  | step :: rest =>
    moves w step ++
      (if (w.perform step).error = none then movesAll (w.perform step).writer rest else [])

end

/-- Moves lead from one writer to another. A refused closing leads nowhere. -/
inductive Course : Writer → List Move → Writer → Prop where
  | done (w : Writer) : Course w [] w
  | wrote {w v : Writer} (text : String) {more : List Move} (rest : Course (w.line text) more v) :
      Course w (.wrote text :: more) v
  | opened {w v : Writer} (header : String) {more : List Move}
      (rest : Course (w.openBlock header) more v) : Course w (.opened header :: more) v
  | closed {w u v : Writer} {suffix : String} {more : List Move}
      (closes : w.closeBlock suffix = .ok u) (rest : Course u more v) :
      Course w (.closed suffix :: more) v
  | refused {w v : Writer} {suffix : String} {more : List Move}
      (refuses : w.closeBlock suffix = .error .unopenedBlock) (rest : Course w more v) :
      Course w (.refused suffix :: more) v

/-- What holds of a writer that was fresh before some moves. -/
structure Lawful (past : List Move) (w : Writer) : Prop where
  level_eq : (w.level : Int) = past.countP Move.isOpening - past.countP Move.isClosing
  lineFeed_not_mem : ∀ line ∈ w.lines, '\n' ∉ line.toList
  pieces_text : Text.pieces w.text = w.lines ++ [""]

/-! ## Courses -/

variable {u v w : Writer}

theorem closeBlock_cases (w : Writer) (suffix : String) :
    (w.level = 0 ∧ w.closeBlock suffix = .error .unopenedBlock) ∨
      ∃ level, w.level = level + 1 ∧
        w.closeBlock suffix = .ok (({ w with level } : Writer).line ("\x7d" ++ suffix)) := by
  rw [closeBlock]
  cases w.level with
  | zero => exact .inl ⟨rfl, rfl⟩
  | succ level => exact .inr ⟨level, rfl, rfl⟩

theorem Course.append {past next : List Move} (h : Course u past v) (hnext : Course v next w) :
    Course u (past ++ next) w := by
  induction h with
  | done => exact hnext
  | wrote text _ ih => exact .wrote text (ih hnext)
  | opened header _ ih => exact .opened header (ih hnext)
  | closed closes _ ih => exact .closed closes (ih hnext)
  | refused refuses _ ih => exact .refused refuses (ih hnext)

/-- A course goes through a writer at each of its moments. -/
theorem Course.split {past next : List Move} (h : Course u (past ++ next) w) :
    ∃ v, Course u past v ∧ Course v next w := by
  induction past generalizing u with
  | nil => exact ⟨u, .done u, h⟩
  | cons move past ih =>
    cases h with
    | wrote text rest =>
      obtain ⟨v, hpast, hnext⟩ := ih rest
      exact ⟨v, .wrote text hpast, hnext⟩
    | opened header rest =>
      obtain ⟨v, hpast, hnext⟩ := ih rest
      exact ⟨v, .opened header hpast, hnext⟩
    | closed closes rest =>
      obtain ⟨v, hpast, hnext⟩ := ih rest
      exact ⟨v, .closed closes hpast, hnext⟩
    | refused refuses rest =>
      obtain ⟨v, hpast, hnext⟩ := ih rest
      exact ⟨v, .refused refuses hpast, hnext⟩

theorem course_closing (w : Writer) (suffix : String) :
    Course w [w.closing suffix] (w.perform (.closeBlock suffix)).writer := by
  rw [closing, perform]
  rcases w.closeBlock_cases suffix with ⟨-, hrefused⟩ | ⟨level, -, hclosed⟩
  · rw [hrefused]
    exact .refused hrefused (.done w)
  · rw [hclosed]
    exact .closed hclosed (.done _)

/-- Closing the block of a body that has run is a closing like any other. -/
theorem Run.closing_writer (r : Run) :
    r.closing.writer = (r.writer.perform (.closeBlock "")).writer := by
  rw [Run.closing, perform]
  cases r.writer.closeBlock "" <;> rfl

theorem Run.closing_error_eq_none_iff (r : Run) :
    r.closing.error = none ↔ r.error = none ∧ (r.writer.perform (.closeBlock "")).error = none := by
  rw [Run.closing, perform]
  cases r.writer.closeBlock "" <;> simp

-- the moves were read off a run; these are the moves that lead to where the run ends
mutual

theorem course_moves : ∀ (step : Step) (w : Writer),
    Course w (w.moves step) (w.perform step).writer
  | .line text, w => by
    rw [moves, perform]
    exact .wrote text (.done _)
  | .openBlock header, w => by
    rw [moves, perform]
    exact .opened header (.done _)
  | .closeBlock suffix, w => by
    rw [moves]
    exact w.course_closing suffix
  | .block header body, w => by
    rw [moves, perform, Run.closing_writer]
    exact .opened header ((course_movesAll body (w.openBlock header)).append (course_closing _ ""))

theorem course_movesAll : ∀ (steps : List Step) (w : Writer),
    Course w (w.movesAll steps) (w.performAll steps).writer
  | [], w => by
    rw [movesAll, performAll]
    exact .done w
  | step :: rest, w => by
    have hstep := course_moves step w
    rw [movesAll]
    by_cases hfine : (w.perform step).error = none
    · rw [if_pos hfine, performAll_cons hfine]
      exact hstep.append (course_movesAll rest (w.perform step).writer)
    · rw [if_neg hfine, List.append_nil, performAll_of_refused hfine]
      exact hstep

end

theorem closing_isRefusal_iff (w : Writer) (suffix : String) :
    (w.closing suffix).isRefusal = false ↔ (w.perform (.closeBlock suffix)).error = none := by
  rw [closing, perform]
  cases w.closeBlock suffix <;> simp [Move.isRefusal]

mutual

theorem perform_error_eq_none_iff : ∀ (step : Step) (w : Writer),
    (w.perform step).error = none ↔ ∀ move ∈ w.moves step, move.isRefusal = false
  | .line text, w => by simp [perform, moves, Move.isRefusal]
  | .openBlock header, w => by simp [perform, moves, Move.isRefusal]
  | .closeBlock suffix, w => by
    rw [moves, List.forall_mem_singleton, closing_isRefusal_iff]
  | .block header body, w => by
    have hbody := performAll_error_eq_none_iff body (w.openBlock header)
    rw [perform, Run.closing_error_eq_none_iff, hbody, ← closing_isRefusal_iff, moves,
      List.forall_mem_cons, List.forall_mem_append, List.forall_mem_singleton]
    simp [Move.isRefusal]

/-- A run fails exactly where a closing was refused on the way. -/
theorem performAll_error_eq_none_iff : ∀ (steps : List Step) (w : Writer),
    (w.performAll steps).error = none ↔ ∀ move ∈ w.movesAll steps, move.isRefusal = false
  | [], w => by simp [performAll, movesAll]
  | step :: rest, w => by
    have hstep := perform_error_eq_none_iff step w
    rw [movesAll, List.forall_mem_append, ← hstep]
    by_cases hfine : (w.perform step).error = none
    · rw [if_pos hfine, performAll_cons hfine, performAll_error_eq_none_iff rest]
      simp [hfine]
    · rw [if_neg hfine, performAll_of_refused hfine]
      simp

end

/-! ## Laws of a course -/

theorem lines_prefix_line (w : Writer) (text : String) : w.lines <+: (w.line text).lines :=
  List.prefix_append ..

theorem lines_prefix_openBlock (w : Writer) (header : String) :
    w.lines <+: (w.openBlock header).lines :=
  (w.lines_prefix_line header).trans (lines_prefix_line _ "\x7b")

theorem lines_prefix_of_closeBlock {suffix : String} (h : w.closeBlock suffix = .ok v) :
    w.lines <+: v.lines := by
  rcases w.closeBlock_cases suffix with ⟨-, hrefused⟩ | ⟨level, -, hclosed⟩
  · rw [hrefused] at h
    cases h
  · rw [hclosed] at h
    cases h
    exact lines_prefix_line { w with level } _

/-- Lines that are there stay as they are. -/
theorem Course.lines_prefix {moves : List Move} (h : Course w moves v) : w.lines <+: v.lines := by
  induction h with
  | done w => exact List.prefix_refl _
  | wrote text _ ih => exact (lines_prefix_line _ text).trans ih
  | opened header _ ih => exact (lines_prefix_openBlock _ header).trans ih
  | closed closes _ ih => exact (lines_prefix_of_closeBlock closes).trans ih
  | refused _ _ ih => exact ih

/-- Every opening goes one level down and every closing one up. -/
theorem Course.level_add {moves : List Move} (h : Course w moves v) :
    w.level + moves.countP Move.isOpening = v.level + moves.countP Move.isClosing := by
  induction h with
  | done w => rfl
  | wrote text _ ih => simpa [Move.isOpening, Move.isClosing, line] using ih
  | opened header _ ih =>
    simp only [openBlock, line] at ih
    simp only [List.countP_cons, Move.isOpening, Move.isClosing, if_true, Bool.false_eq_true,
      if_false]
    omega
  | @closed w u v suffix more closes _ ih =>
    rcases w.closeBlock_cases suffix with ⟨-, hrefused⟩ | ⟨level, hlevel, hclosed⟩
    · rw [hrefused] at closes
      cases closes
    · rw [hclosed] at closes
      cases closes
      simp only [line] at ih
      simp only [List.countP_cons, Move.isOpening, Move.isClosing, if_true, Bool.false_eq_true,
        if_false]
      omega
  | refused _ _ ih => simpa [Move.isOpening, Move.isClosing] using ih

/-- A writer whose lines are rows stays one; that the lines of a writer are rows is said by the
writer being alike to itself. -/
theorem Course.alike {unit : String} {moves : List Move} (h : Course w moves v)
    (hw : Alike unit unit w w) : Alike unit unit v v := by
  induction h with
  | done w => exact hw
  | wrote text _ ih => exact ih (hw.line text)
  | opened header _ ih => exact ih (hw.openBlock header)
  | @closed w u v suffix more closes _ ih =>
    rcases hw.closeBlock suffix with ⟨u', u'', hu', hu'', halike⟩ | ⟨e, he, -⟩
    · rw [closes] at hu' hu''
      cases hu'
      cases hu''
      exact ih halike
    · rw [closes] at he
      cases he
  | refused _ _ ih => exact ih hw

theorem Alike.lineFeed_not_mem {unit : String} (hunit : '\n' ∉ unit.toList)
    (h : Alike unit unit w w) : ∀ line ∈ w.lines, '\n' ∉ line.toList := by
  obtain ⟨rows, hplain, hlines, -⟩ := h.rows
  intro line hline
  rw [hlines] at hline
  obtain ⟨row, hrow, rfl⟩ := List.mem_map.mp hline
  exact lineFeed_not_mem_line hunit (hplain row hrow)

theorem Course.lawful {unit : String} {past : List Move} (hunit : '\n' ∉ unit.toList)
    (h : Course { unit } past v) : Lawful past v := by
  have hrows : Alike unit unit { unit } { unit } := ⟨rfl, rfl, rfl, [], by simp, rfl, rfl⟩
  have hplain := (h.alike hrows).lineFeed_not_mem hunit
  have hlevel := h.level_add
  refine ⟨?_, hplain, pieces_text hplain⟩
  simp only at hlevel
  omega

/-! ## Deeper levels -/

/-- A writer a number of levels deeper, with its lines indented accordingly. -/
def raised (depth : Nat) (w : Writer) : Writer :=
  { w with level := depth + w.level, lines := w.lines.map (indented w.unit depth) }

theorem indentation_add (unit : String) (depth level : Nat) :
    indentation unit (depth + level) = indentation unit depth ++ indentation unit level := by
  apply String.toList_injective
  simp only [indentation, String.toList_append, String.toList_join, List.replicate_add,
    List.flatMap_append]

theorem indented_indented (unit : String) (depth level : Nat) (piece : String) :
    indented unit depth (indented unit level piece) = indented unit (depth + level) piece := by
  by_cases hpiece : piece = ""
  · simp [indented, hpiece]
  · have hline : indentation unit level ++ piece ≠ "" := by
      simp [String.append_eq_empty_iff, hpiece]
    rw [indented, indented, indented, if_neg hpiece, if_neg hpiece, if_neg hline, indentation_add,
      String.append_assoc]

section

variable (depth : Nat)

theorem line_raised (w : Writer) (text : String) :
    (w.raised depth).line text = (w.line text).raised depth := by
  simp only [raised, line, List.map_append, List.map_map]
  congr 2
  refine List.map_congr_left fun piece _ => ?_
  exact (indented_indented w.unit depth w.level piece).symm

theorem openBlock_raised (w : Writer) (header : String) :
    (w.raised depth).openBlock header = (w.openBlock header).raised depth := by
  simp only [openBlock, line_raised]
  rfl

theorem closeBlock_raised {suffix : String} (h : w.closeBlock suffix = .ok v) :
    (w.raised depth).closeBlock suffix = .ok (v.raised depth) := by
  obtain ⟨unit, level, lines⟩ := w
  cases level with
  | zero => cases h
  | succ level =>
    cases h
    rw [← line_raised]
    rfl

mutual

theorem perform_raised : ∀ (step : Step) (w : Writer), (w.perform step).error = none →
    (w.raised depth).perform step = { writer := (w.perform step).writer.raised depth }
  | .line text, w, _ => by
    rw [perform, perform, line_raised]
  | .openBlock header, w, _ => by
    rw [perform, perform, openBlock_raised]
  | .closeBlock suffix, w, h => by
    rw [perform] at h ⊢
    rw [perform]
    cases hclose : w.closeBlock suffix with
    | error e =>
      rw [hclose] at h
      cases h
    | ok v => rw [closeBlock_raised depth hclose]
  | .block header body, w, h => by
    rw [perform, Run.closing_error_eq_none_iff] at h
    obtain ⟨hbody, hclosing⟩ := h
    rw [perform, perform, openBlock_raised, performAll_raised body _ hbody, Run.closing,
      Run.closing]
    rw [perform] at hclosing
    cases hclose : ((w.openBlock header).performAll body).writer.closeBlock "" with
    | error e =>
      rw [hclose] at hclosing
      cases hclosing
    | ok v => simp only [closeBlock_raised depth hclose]

/-- Steps that succeed do so on a deeper level as well, and write the same further in. -/
theorem performAll_raised : ∀ (steps : List Step) (w : Writer), (w.performAll steps).error = none →
    (w.raised depth).performAll steps = { writer := (w.performAll steps).writer.raised depth }
  | [], w, _ => by
    rw [performAll, performAll]
  | step :: rest, w, h => by
    by_cases hfine : (w.perform step).error = none
    · have hstep := perform_raised step w hfine
      rw [performAll_cons hfine] at h ⊢
      rw [performAll_cons (by rw [hstep]), hstep]
      exact performAll_raised rest _ h
    · rw [performAll_of_refused hfine] at h
      exact absurd h hfine

end

end

/-- Steps that succeed at the outermost level of an empty page, started on any page at any
level. -/
theorem performAll_at_level {unit : String} {steps : List Step}
    (h : (({ unit } : Writer).performAll steps).error = none) (level : Nat) (before : List String) :
    ({ unit, level, lines := before } : Writer).performAll steps =
      { writer :=
        { unit
          level := level + (({ unit } : Writer).performAll steps).writer.level
          lines := before ++
            (({ unit } : Writer).performAll steps).writer.lines.map (indented unit level) } } := by
  have hraised := performAll_raised level steps { unit } h
  have hunit := unit_performAll unit 0 steps
  have hbehind := performAll_behind before steps (({ unit } : Writer).raised level)
  rw [hraised] at hbehind
  simp only [raised, Run.behind, hunit, List.map_nil, List.append_nil, Nat.add_zero] at hbehind
  exact hbehind

/-! ## Fresh writers -/

theorem eq_of_fresh? {useTabs : Bool} {indentSize : Int} (h : fresh? useTabs indentSize = .ok w) :
    w = { unit := unitOf useTabs indentSize.toNat } := by
  rw [fresh?] at h
  split at h
  · cases h
  · cases h
    rfl

/-- The laws of a writer, for every program that is run on a fresh one. Between any two moments
lines are only added; at every moment no line holds a line feed, the text cut at line feeds gives
the lines back, and the level is the number of openings less that of closings. A run fails exactly
where a closing was refused; a closing at the outermost level is refused and changes nothing. A
program that does not fail writes the same lines at a deeper level, as many units further in, and
changes the level by as much. -/
theorem program_obeys_laws {useTabs : Bool} {indentSize : Int}
    (fresh : fresh? useTabs indentSize = .ok w) (steps : List Step) :
    (∀ past next future, w.movesAll steps = past ++ next ++ future →
      ∃ u v, Course w past u ∧ Course u next v ∧ Course v future (w.performAll steps).writer ∧
        Lawful past u ∧ u.lines <+: v.lines) ∧
    ((w.performAll steps).error = none ↔ ∀ move ∈ w.movesAll steps, move.isRefusal = false) ∧
    (∀ (v : Writer) (suffix : String), v.level = 0 →
      v.perform (.closeBlock suffix) = { writer := v, error := some .unopenedBlock }) ∧
    ((w.performAll steps).error = none → ∀ (level : Nat) (before : List String),
      ({ w with level, lines := before } : Writer).performAll steps =
        { writer :=
          { w with
            level := level + (w.performAll steps).writer.level
            lines := before ++ (w.performAll steps).writer.lines.map (indented w.unit level) } }) := by
  have hw := eq_of_fresh? fresh
  refine ⟨?_, performAll_error_eq_none_iff steps w, ?_, ?_⟩
  · intro past next future hmoves
    have hcourse := course_movesAll steps w
    rw [hmoves, List.append_assoc] at hcourse
    obtain ⟨u, hpast, hlater⟩ := hcourse.split
    obtain ⟨v, hnext, hfuture⟩ := hlater.split
    refine ⟨u, v, hpast, hnext, hfuture, ?_, hnext.lines_prefix⟩
    rw [hw] at hpast
    exact hpast.lawful (lineFeed_not_mem_unitOf useTabs indentSize.toNat)
  · intro v suffix hlevel
    rw [perform, closeBlock, hlevel]
  · intro h level before
    subst hw
    exact performAll_at_level h level before

/-! ## An uneven program -/

/-- A program that opens a block more than it closes. -/
def openSteps : List Step := [.openBlock "class A", .line "int X;\n\nint Y;"]

/-- A program with a block whose body closes it before its end. -/
def unevenSteps : List Step :=
  [.block "class A" [.closeBlock ";", .line "int X;"], .line "int Y;"]

theorem unevenSteps_obey_laws :
    fresh? false 2 = .ok { unit := "  " } ∧
      (({ unit := "  " } : Writer).performAll openSteps).error = none ∧
      ({ unit := "  ", level := 1, lines := ["\x7b"] } : Writer).performAll openSteps =
        { writer :=
          { unit := "  ", level := 2
            lines := ["\x7b", "  class A", "  \x7b", "    int X;", "", "    int Y;"] } } ∧
      ({ unit := "  " } : Writer).movesAll unevenSteps =
        [.opened "class A", .closed ";", .wrote "int X;", .refused ""] ∧
      ∃ u, Course { unit := "  " } [.opened "class A", .closed ";", .wrote "int X;"] u ∧
        Lawful [.opened "class A", .closed ";", .wrote "int X;"] u ∧
        u.lines <+: (({ unit := "  " } : Writer).performAll unevenSteps).writer.lines := by
  have hfresh : fresh? false 2 = .ok { unit := "  " } := by rfl
  have hfine : (({ unit := "  " } : Writer).performAll openSteps).error = none := by rfl
  have hmoves : ({ unit := "  " } : Writer).movesAll unevenSteps =
      [.opened "class A", .closed ";", .wrote "int X;", .refused ""] := by rfl
  obtain ⟨-, -, -, hlevel⟩ := program_obeys_laws hfresh openSteps
  obtain ⟨hmoments, -⟩ := program_obeys_laws hfresh unevenSteps
  refine ⟨hfresh, hfine, (hlevel hfine 1 ["\x7b"]).trans (by rfl), hmoves, ?_⟩
  obtain ⟨u, v, hpast, hnext, hfuture, hlawful, hlines⟩ := hmoments
    [.opened "class A", .closed ";", .wrote "int X;"] [.refused ""] [] hmoves
  cases hfuture
  exact ⟨u, hpast, hlawful, hlines⟩

end Writer

end ApiShell
