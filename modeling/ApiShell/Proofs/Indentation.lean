import ApiShell.Proofs.Blocks
import ApiShell.Proofs.Text
import ApiShell.Template.Engine

/-!
# Indentation

Two writers that differ in their unit of indentation only, run side by side. A line is a row,
which says how deep the line stands and what it says, behind as many units as the row is deep.
Every step adds the same rows to both writers, so a shell has the same rows whatever the settings
of its indentation are.
-/

namespace ApiShell

namespace Writer

/-! ## Rows -/

/-- A line apart from the unit of indentation: how deep it stands and what it says. -/
structure Row where
  depth : Nat
  content : String

/-- The line of a row. A row that says nothing is an empty line. -/
def Row.line (unit : String) (row : Row) : String :=
  if row.content = "" then "" else indentation unit row.depth ++ row.content

/-- The rows of a text at a level. -/
def rowsOf (level : Nat) (text : String) : List Row :=
  (Text.pieces text).map fun piece => { depth := level, content := piece }

theorem lines_line (w : Writer) (text : String) :
    (w.line text).lines = w.lines ++ (rowsOf w.level text).map (Row.line w.unit) := by
  simp only [line, rowsOf, List.map_map]
  rfl

/-- The writers have the given units, are at one level, and hold the same rows. -/
structure Alike (unit unit' : String) (w w' : Writer) : Prop where
  left_unit : w.unit = unit
  right_unit : w'.unit = unit'
  level_eq : w.level = w'.level
  rows : ∃ rows : List Row, (∀ row ∈ rows, '\n' ∉ row.content.toList) ∧
    w.lines = rows.map (Row.line unit) ∧ w'.lines = rows.map (Row.line unit')

/-! ## Steps -/

section

variable {unit unit' : String} {w w' : Writer}

theorem lineFeed_not_mem_rowsOf (level : Nat) (text : String) :
    ∀ row ∈ rowsOf level text, '\n' ∉ row.content.toList := by
  intro row hrow
  obtain ⟨piece, hpiece, rfl⟩ := List.mem_map.mp hrow
  obtain ⟨chars, hchars, rfl⟩ := List.mem_map.mp hpiece
  simpa using Text.not_mem_of_mem_splitOn hchars

theorem Alike.line (h : Alike unit unit' w w') (text : String) :
    Alike unit unit' (w.line text) (w'.line text) := by
  obtain ⟨rows, hplain, hleft, hright⟩ := h.rows
  refine ⟨h.left_unit, h.right_unit, h.level_eq, rows ++ rowsOf w.level text, ?_, ?_, ?_⟩
  · intro row hrow
    rcases List.mem_append.mp hrow with hrow | hrow
    · exact hplain row hrow
    · exact lineFeed_not_mem_rowsOf w.level text row hrow
  · rw [lines_line, hleft, h.left_unit, List.map_append]
  · rw [lines_line, hright, h.right_unit, ← h.level_eq, List.map_append]

theorem Alike.atLevel (h : Alike unit unit' w w') (level : Nat) :
    Alike unit unit' { w with level } { w' with level } :=
  ⟨h.left_unit, h.right_unit, rfl, h.rows⟩

theorem Alike.openBlock (h : Alike unit unit' w w') (header : String) :
    Alike unit unit' (w.openBlock header) (w'.openBlock header) := by
  have hlines := (h.line header).line "\x7b"
  have hdeeper := hlines.atLevel (w.level + 1)
  simp only [Writer.openBlock]
  rw [show ((w'.line header).line "\x7b").level = w.level from h.level_eq.symm]
  exact hdeeper

/-- Runs of the two writers end alike, and with the same refusal if there is one. -/
structure Run.Alike (unit unit' : String) (r r' : Run) : Prop where
  writer : Writer.Alike unit unit' r.writer r'.writer
  error_eq : r.error = r'.error

/-- Closing a block is refused to both writers or to none. -/
theorem Alike.closeBlock (h : Alike unit unit' w w') (suffix : String) :
    (∃ v v', w.closeBlock suffix = .ok v ∧ w'.closeBlock suffix = .ok v' ∧
      Alike unit unit' v v') ∨
    ∃ e, w.closeBlock suffix = .error e ∧ w'.closeBlock suffix = .error e := by
  unfold Writer.closeBlock
  rw [← h.level_eq]
  cases w.level with
  | zero => exact .inr ⟨_, rfl, rfl⟩
  | succ level => exact .inl ⟨_, _, rfl, rfl, (h.atLevel level).line _⟩

theorem Run.Alike.closing {r r' : Run} (h : Run.Alike unit unit' r r') :
    Run.Alike unit unit' r.closing r'.closing := by
  unfold Run.closing
  rcases h.writer.closeBlock "" with ⟨v, v', hv, hv', halike⟩ | ⟨e, he, he'⟩
  · rw [hv, hv']
    exact ⟨halike, h.error_eq⟩
  · rw [he, he']
    exact ⟨h.writer, rfl⟩

theorem performAll_of_refused {step : Step} {rest : List Step}
    (h : (w.perform step).error ≠ none) : w.performAll (step :: rest) = w.perform step := by
  rw [performAll]
  cases hrun : w.perform step with
  | mk writer error =>
    rw [hrun] at h
    cases error with
    | none => exact absurd rfl h
    | some e => rfl

end

-- one case for each kind of step; a block runs its body on the writers inside it
mutual

theorem perform_alike {unit unit' : String} : ∀ (step : Step) {w w' : Writer},
    Alike unit unit' w w' → Run.Alike unit unit' (w.perform step) (w'.perform step)
  | .line text, w, w', h => by
    simp only [perform]
    exact ⟨h.line text, rfl⟩
  | .openBlock header, w, w', h => by
    simp only [perform]
    exact ⟨h.openBlock header, rfl⟩
  | .closeBlock suffix, w, w', h => by
    simp only [perform]
    rcases h.closeBlock suffix with ⟨v, v', hv, hv', halike⟩ | ⟨e, he, he'⟩
    · rw [hv, hv']
      exact ⟨halike, rfl⟩
    · rw [he, he']
      exact ⟨h, rfl⟩
  | .block header body, w, w', h => by
    simp only [perform]
    exact (performAll_alike body (h.openBlock header)).closing

/-- Carrying out steps keeps writers alike. -/
theorem performAll_alike {unit unit' : String} : ∀ (steps : List Step) {w w' : Writer},
    Alike unit unit' w w' → Run.Alike unit unit' (w.performAll steps) (w'.performAll steps)
  | [], w, w', h => by
    simp only [performAll]
    exact ⟨h, rfl⟩
  | step :: rest, w, w', h => by
    have hstep := perform_alike step h
    -- the step is refused to both writers or to none, so both go on or both stop here
    by_cases hfine : (w.perform step).error = none
    · rw [performAll_cons hfine, performAll_cons (hstep.error_eq ▸ hfine)]
      exact performAll_alike rest hstep.writer
    · rw [performAll_of_refused hfine, performAll_of_refused (hstep.error_eq ▸ hfine)]
      exact hstep

end

/-! ## Texts -/

/-- A text is made of rows: it has a line for each of them, and each line ends in a line feed. -/
def MadeOf (unit : String) (rows : List Row) (text : String) : Prop :=
  Text.pieces text = rows.map (Row.line unit) ++ [""]

theorem lineFeed_not_mem_unitOf (useTabs : Bool) (size : Nat) :
    '\n' ∉ (unitOf useTabs size).toList := by
  cases useTabs <;> simp [unitOf, List.mem_replicate]

theorem lineFeed_not_mem_line {unit : String} {row : Row} (hunit : '\n' ∉ unit.toList)
    (hrow : '\n' ∉ row.content.toList) : '\n' ∉ (row.line unit).toList := by
  rw [Row.line]
  split
  · simp
  · intro hmem
    rw [indentation, String.toList_append, String.toList_join, List.mem_append] at hmem
    rcases hmem with hmem | hmem
    · obtain ⟨one, hone, hchar⟩ := List.mem_flatMap.mp hmem
      rw [(List.mem_replicate.mp hone).2] at hchar
      exact hunit hchar
    · exact hrow hmem

/-- Lines without line feeds are found again in the text. -/
theorem pieces_text {w : Writer} (h : ∀ line ∈ w.lines, '\n' ∉ line.toList) :
    Text.pieces w.text = w.lines ++ [""] := by
  rw [Text.pieces, text]
  generalize w.lines = lines at h ⊢
  induction lines with
  | nil => rfl
  | cons line rest ih =>
    have hline := h line List.mem_cons_self
    have hrest := ih fun other hother => h other (List.mem_cons_of_mem _ hother)
    have hfeed : "\n".toList = ['\n'] := rfl
    rw [List.map_cons, String.join_cons, String.toList_append, String.toList_append, hfeed,
      List.append_assoc, List.singleton_append, Text.splitOn_append_sep hline, List.map_cons, hrest,
      String.ofList_toList, List.cons_append]

theorem Alike.madeOf {useTabs useTabs' : Bool} {size size' : Nat} {w w' : Writer}
    (h : Alike (unitOf useTabs size) (unitOf useTabs' size') w w') :
    ∃ rows, MadeOf (unitOf useTabs size) rows w.text ∧
      MadeOf (unitOf useTabs' size') rows w'.text := by
  obtain ⟨rows, hplain, hleft, hright⟩ := h.rows
  have hlines : ∀ (tabs : Bool) (n : Nat) (v : Writer),
      v.lines = rows.map (Row.line (unitOf tabs n)) → MadeOf (unitOf tabs n) rows v.text := by
    intro tabs n v hv
    rw [MadeOf, ← hv]
    apply pieces_text
    intro line hline
    rw [hv] at hline
    obtain ⟨row, hrow, rfl⟩ := List.mem_map.mp hline
    exact lineFeed_not_mem_line (lineFeed_not_mem_unitOf tabs n) (hplain row hrow)
  exact ⟨rows, hlines useTabs size w hleft, hlines useTabs' size' w' hright⟩

end Writer

/-! ## Shells -/

namespace Settings

/-- The settings differ at most in how lines are indented. -/
def SameButIndentation (s s' : Settings) : Prop :=
  s' = { s with useTabs := s'.useTabs, indentSize := s'.indentSize }

/-- The unit by which lines are indented. -/
def unit (s : Settings) : String :=
  Writer.unitOf s.useTabs s.indentSize.toNat

/-- What writing a shell comes to once its comment is known. -/
theorem render_of_banner [Banner.Engine] {s : Settings} {t : FileTree} {loaded : Loaded}
    {shown : List TypeDecl} {banner : Option String} (hindent : 0 ≤ s.indentSize)
    (hbanner : s.bannerOf t loaded.library = .ok banner) :
    s.render t loaded shown = .ok (({ unit := s.unit } : Writer).performAll
      (s.assembly (loaded.graph shown) loaded.library banner)).writer := by
  have hfresh : Writer.fresh? s.useTabs s.indentSize = .ok { unit := s.unit } := by
    rw [Writer.fresh?, if_neg (Int.not_lt.mpr hindent)]
    rfl
  have hfine := ((s.assembly_balanced (loaded.graph shown) loaded.library banner).keepsBlocks
    { unit := s.unit }).succeeds
  simp only [render, hbanner, hfresh, hfine]

/-- Settings of indentation change nothing but indentation. Under settings that differ in nothing
else, the shell of a library is refused for the same template, or it has the same rows, each
behind its depth in units of the one or the other settings. -/
theorem render_sameRows [Banner.Engine] {s s' : Settings} (same : s.SameButIndentation s')
    (hindent : 0 ≤ s.indentSize) (hindent' : 0 ≤ s'.indentSize) (t : FileTree) (loaded : Loaded)
    (shown : List TypeDecl) :
    (∃ refusal, s.render t loaded shown = .error (.template refusal) ∧
      s'.render t loaded shown = .error (.template refusal)) ∨
    ∃ w w' rows, s.render t loaded shown = .ok w ∧ s'.render t loaded shown = .ok w' ∧
      Writer.MadeOf s.unit rows w.text ∧ Writer.MadeOf s'.unit rows w'.text := by
  -- neither the comment nor the steps look at how lines are indented
  have hbanner : s'.bannerOf t loaded.library = s.bannerOf t loaded.library := by
    rw [same]
    rfl
  cases hchoice : s.bannerOf t loaded.library with
  | error refusal =>
    left
    refine ⟨refusal, ?_, ?_⟩
    · simp only [render, hchoice]
    · simp only [render, hbanner, hchoice]
  | ok banner =>
    right
    have hsteps : s'.assembly (loaded.graph shown) loaded.library banner =
        s.assembly (loaded.graph shown) loaded.library banner := by
      rw [same]
      rfl
    have hstart : Writer.Alike s.unit s'.unit { unit := s.unit } { unit := s'.unit } :=
      ⟨rfl, rfl, rfl, [], by simp, rfl, rfl⟩
    have hrun := Writer.performAll_alike (s.assembly (loaded.graph shown) loaded.library banner)
      hstart
    obtain ⟨rows, hleft, hright⟩ := hrun.writer.madeOf
    refine ⟨_, _, rows, render_of_banner hindent hchoice,
      render_of_banner hindent' (hbanner.trans hchoice), hleft, ?_⟩
    rw [hsteps]
    exact hright

/-! ## Nested classes, with spaces and with tabs -/

def spaced : Settings := { banner := false, indentSize := 2 }

def tabbed : Settings := { banner := false, useTabs := true }

theorem nestedClasses_render_sameRows :
    spaced.SameButIndentation tabbed ∧ 0 ≤ spaced.indentSize ∧ 0 ≤ tabbed.indentSize ∧
      ∃ w w' rows,
        spaced.render {} { library := { name := "Nested", types := nestedClasses true true } }
          (nestedClasses true true) = .ok w ∧
        tabbed.render {} { library := { name := "Nested", types := nestedClasses true true } }
          (nestedClasses true true) = .ok w' ∧
        Writer.MadeOf "  " rows w.text ∧ Writer.MadeOf "\t" rows w'.text := by
  have hsame : spaced.SameButIndentation tabbed := rfl
  have hspaced : 0 ≤ spaced.indentSize := by decide
  have htabbed : 0 ≤ tabbed.indentSize := by decide
  refine ⟨hsame, hspaced, htabbed, ?_⟩
  rcases render_sameRows hsame hspaced htabbed {}
      { library := { name := "Nested", types := nestedClasses true true } }
      (nestedClasses true true) with ⟨refusal, hrefused, -⟩ | hrows
  · rw [render_of_banner hspaced rfl] at hrefused
    cases hrefused
  · exact hrows

end Settings

end ApiShell
