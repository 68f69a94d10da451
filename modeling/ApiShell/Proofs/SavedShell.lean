import ApiShell.Proofs.Places
import ApiShell.Proofs.StrandedTypes

/-!
# What a run does to the files

A run reads files while it makes a shell, and writes only once the shell is made. Main statement:
a run that is kept from its shell leaves all files and directories as they are, a run whose shell
is not to be saved does so too, and a run that saves its shell writes that one file and makes the
directories above it that are missing.
-/

namespace ApiShell

/-- The start of a path, down to a depth; from the length of the path on it is the path itself. -/
def Path.upTo (p : Path) (depth : Nat) : Path :=
  { p with parts := p.parts.take depth }

theorem Path.upTo_length (p : Path) : p.upTo p.parts.length = p := by
  simp [Path.upTo]

namespace FileTree

/-- The later tree is the earlier one, with directories added that are at a path or above it. -/
structure Grown (before after : FileTree) (p : Path) : Prop where
  cwd : after.cwd = before.cwd
  files : after.files = before.files
  kept : ∀ place, before.hasDir place = true → after.hasDir place = true
  added : ∀ place, after.hasDir place = true →
    before.hasDir place = true ∨ ∃ depth, place = (p.upTo depth).place before.cwd

/-- The later tree is the earlier one with a content written at a path: no other file is changed,
and the directories are those from before with the directory of the path and those above it. -/
structure Saved (before after : FileTree) (p : Path) (content : ByteArray) : Prop where
  cwd : after.cwd = before.cwd
  reads : after.read? p = some content
  others : ∀ place, place ≠ p.place before.cwd → after.content? place = before.content? place
  dirs : ∀ place, after.hasDir place = true ↔
    before.hasDir place = true ∨ ∃ depth, place = (p.parent.upTo depth).place before.cwd

variable {t : FileTree}

/-! ## Single changes -/

theorem hasDir_addDir (t : FileTree) (place other : List String) :
    (t.addDir place).hasDir other = true ↔ t.hasDir other = true ∨ other = place := by
  unfold addDir
  by_cases h : t.hasDir place = true
  · rw [if_pos h]
    constructor
    · exact .inl
    · rintro (hother | rfl)
      · exact hother
      · exact h
  · rw [if_neg h]
    simp [hasDir]

/-- Replacing what stands at a place changes what is found there and nothing else. -/
theorem lookup_replaced (files : List (List String × ByteArray)) (place other : List String)
    (content : ByteArray) :
    (files.map fun (p, c) => if p = place then (p, content) else (p, c)).lookup other =
      if other = place then (files.lookup place).map fun _ => content else files.lookup other := by
  induction files with
  | nil => simp
  | cons entry rest ih =>
    obtain ⟨first, old⟩ := entry
    rw [List.map_cons]
    by_cases hfirst : first = place
    · subst hfirst
      by_cases hother : other = first
      · simp [hother]
      · have hne : (other == first) = false := by simpa using hother
        simp only [if_true, List.lookup_cons, hne, ih, if_neg hother]
    · by_cases hother : other = place
      · subst hother
        have hne : (other == first) = false := by simpa using Ne.symm hfirst
        simp only [if_neg hfirst, List.lookup_cons, hne, ih, if_true]
      · simp only [if_neg hfirst, List.lookup_cons, ih, if_neg hother]

theorem content?_addFile (t : FileTree) (place other : List String) (content : ByteArray) :
    (t.addFile place content).content? other =
      if other = place then some content else t.content? other := by
  unfold addFile content?
  by_cases hthere : (t.files.lookup place).isSome = true
  · obtain ⟨old, hold⟩ := Option.isSome_iff_exists.mp hthere
    rw [if_pos hthere, lookup_replaced, hold, Option.map_some]
  · have hnone : t.files.lookup place = none := Option.not_isSome_iff_eq_none.mp hthere
    rw [if_neg hthere, List.lookup_append]
    by_cases hother : other = place
    · subst hother
      simp [hnone]
    · have hne : (other == place) = false := by simpa using hother
      rw [if_neg hother, List.lookup_cons, hne, List.lookup_nil, Option.or_none]

/-! ## Walking -/

theorem place_of_locate {p : Path} {place : List String} (h : t.locate p = .ok place) :
    place = p.place t.cwd :=
  eq_foldl_of_follow (follow_of_locate h)

/-- What stands before the end of a walk are directories. -/
theorem hasDir_of_follow {p : Path} {place parts there : List String}
    (h : t.follow p place parts = .ok there) {depth : Nat} (hdepth : depth < parts.length) :
    t.hasDir ((parts.take depth).foldl Path.walk place) = true := by
  induction parts generalizing place depth with
  | nil => cases hdepth
  | cons part rest ih =>
    simp only [follow] at h
    split at h
    · next hdir =>
      split at h
      · cases h
      · cases depth with
        | zero => exact hdir
        | succ depth => exact ih h (by simpa using hdepth)
    · split at h <;> cases h

/-- A file that is added does not stop a walk that succeeds. -/
theorem follow_addFile {p : Path} {place parts there : List String}
    (h : t.follow p place parts = .ok there) (other : List String) (content : ByteArray) :
    (t.addFile other content).follow p place parts = .ok there := by
  induction parts generalizing place with
  | nil => exact h
  | cons part rest ih =>
    simp only [follow] at h ⊢
    split at h
    · next hdir =>
      have hkept : (t.addFile other content).hasDir place = true := hdir
      split at h
      · cases h
      · next hshort =>
        rw [if_pos hkept, if_neg hshort]
        exact ih h
    · split at h <;> cases h

theorem locate_addFile {p : Path} {place : List String} (h : t.locate p = .ok place)
    (other : List String) (content : ByteArray) :
    (t.addFile other content).locate p = .ok place := by
  unfold locate at h ⊢
  split at h
  · cases h
  · next hshort =>
    rw [if_neg hshort]
    exact follow_addFile h other content

/-! ## Making directories -/

theorem makeDir_eq_ok {p : Path} {made : FileTree} (h : t.makeDir p = .ok made) :
    t.locate p = .ok (p.place t.cwd) ∧ made = t.addDir (p.place t.cwd) := by
  unfold makeDir at h
  split at h
  · cases h
  · rw [bind_eq_ok_iff] at h
    obtain ⟨place, hlocate, h⟩ := h
    cases place_of_locate hlocate
    refine ⟨hlocate, ?_⟩
    split at h
    · next hdir =>
      cases h
      rw [addDir, if_pos hdir]
    · split at h
      · cases h
      · exact (pure_eq_ok_iff.mp h).symm

theorem addDir_cwd (t : FileTree) (place : List String) : (t.addDir place).cwd = t.cwd := by
  unfold addDir
  split <;> rfl

theorem addDir_files (t : FileTree) (place : List String) : (t.addDir place).files = t.files := by
  unfold addDir
  split <;> rfl

theorem Grown.refl (t : FileTree) (p : Path) : t.Grown t p where
  cwd := rfl
  files := rfl
  kept _ h := h
  added _ h := .inl h

theorem makeDir_grown {p : Path} {made : FileTree} (h : t.makeDir p = .ok made) :
    t.Grown made p := by
  obtain ⟨-, rfl⟩ := makeDir_eq_ok h
  refine ⟨addDir_cwd _ _, addDir_files _ _, fun place hdir => ?_, fun place hdir => ?_⟩
  · exact (hasDir_addDir _ _ _).mpr (.inl hdir)
  · rcases (hasDir_addDir _ _ _).mp hdir with hdir | rfl
    · exact .inl hdir
    · exact .inr ⟨p.parts.length, by rw [Path.upTo_length]⟩

/-- Where a directory was made, it is there, and so are those above it. -/
theorem makeDir_dirs {p : Path} {made : FileTree} (h : t.makeDir p = .ok made) (depth : Nat) :
    made.hasDir ((p.upTo depth).place t.cwd) = true := by
  obtain ⟨hlocate, rfl⟩ := makeDir_eq_ok h
  rw [hasDir_addDir]
  by_cases hdepth : depth < p.parts.length
  · exact .inl (hasDir_of_follow (follow_of_locate hlocate) hdepth)
  · right
    rw [Path.upTo, List.take_of_length_le (by omega)]

/-- Directories made above a path and then at the path itself are at the path or above it. -/
theorem Grown.deeper {before between after : FileTree} {root : String} {above : List String}
    {part : String} (first : before.Grown between { root, parts := above })
    (second : between.Grown after { root, parts := above ++ [part] }) :
    before.Grown after { root, parts := above ++ [part] } where
  cwd := second.cwd.trans first.cwd
  files := second.files.trans first.files
  kept place h := second.kept place (first.kept place h)
  added place h := by
    rcases second.added place h with hdir | ⟨depth, hplace⟩
    · rcases first.added place hdir with hdir | ⟨depth, hplace⟩
      · exact .inl hdir
      · refine .inr ⟨min depth above.length, ?_⟩
        have hsame : (above ++ [part]).take (min depth above.length) = above.take depth := by
          rw [List.take_append_of_le_length (by omega), List.take_eq_take_iff]
          omega
        rw [hplace, Path.upTo, Path.upTo, hsame]
    · rw [first.cwd] at hplace
      exact .inr ⟨depth, hplace⟩

/-- Making directories changes no file and adds no other directory, also where it fails on the
way. The induction goes up the path. -/
theorem makeDirsFrom_grown (root : String) (parts : List String) (t : FileTree) :
    t.Grown (makeDirsFrom root parts t).tree { root, parts := parts.reverse } := by
  induction parts with
  | nil =>
    unfold makeDirsFrom
    split
    · next hmade => exact makeDir_grown hmade
    · exact Grown.refl _ _
  | cons part above ih =>
    unfold makeDirsFrom
    dsimp only
    split
    · next hmade => exact makeDir_grown hmade
    · rw [List.reverse_cons]
      have hnone : t.Grown (makeDirsFrom root above t).tree
          { root, parts := above.reverse ++ [part] } := ih.deeper (Grown.refl _ _)
      split
      · exact hnone
      · split
        · next hmade => exact ih.deeper (makeDir_grown hmade)
        · exact hnone
    · exact Grown.refl _ _

theorem makeDirsFrom_dirs {root : String} {parts : List String}
    (h : (makeDirsFrom root parts t).error = none) (depth : Nat) :
    (makeDirsFrom root parts t).tree.hasDir
      ((({ root, parts := parts.reverse } : Path).upTo depth).place t.cwd) = true := by
  cases parts with
  | nil =>
    unfold makeDirsFrom at h ⊢
    split at h
    · next hmade => exact makeDir_dirs hmade depth
    · cases h
  | cons part above =>
    unfold makeDirsFrom at h ⊢
    dsimp only at h ⊢
    split at h
    · next hmade => exact makeDir_dirs hmade depth
    · split at h
      · next hbelow =>
        rw [hbelow] at h
        cases h
      · next hbelow =>
        split at h
        · next hmade =>
          rw [← (makeDirsFrom_grown root above t).cwd]
          exact makeDir_dirs hmade depth
        · cases h
    · cases h

/-! ## Saving -/

theorem write_eq_ok {p : Path} {content : ByteArray} {written : FileTree}
    (h : t.write p content = .ok written) :
    t.locate p = .ok (p.place t.cwd) ∧ written = t.addFile (p.place t.cwd) content := by
  unfold write at h
  split at h
  · cases h
  · rw [bind_eq_ok_iff] at h
    obtain ⟨place, hlocate, h⟩ := h
    cases place_of_locate hlocate
    split at h
    · cases h
    · exact ⟨hlocate, (pure_eq_ok_iff.mp h).symm⟩

theorem save_eq_ok {p : Path} {content : ByteArray} (h : (t.save p content).error = none) :
    (t.makeDirs p.parent).error = none ∧
      (t.makeDirs p.parent).tree.write p content = .ok (t.save p content).tree := by
  unfold save at h ⊢
  dsimp only at h ⊢
  split at h
  · next hmade =>
    rw [hmade] at h
    cases h
  · next hmade =>
    split at h
    · next hwritten => exact ⟨hmade, hwritten⟩
    · cases h

/-- What was saved can be read at its path; nothing else has changed but for the directories on
the way. -/
theorem saved_of_save {p : Path} {content : ByteArray} (h : (t.save p content).error = none) :
    t.Saved (t.save p content).tree p content := by
  obtain ⟨hmade, hwritten⟩ := save_eq_ok h
  have hgrown : t.Grown (t.makeDirs p.parent).tree p.parent := by
    have hall := makeDirsFrom_grown p.parent.root p.parent.parts.reverse t
    rwa [List.reverse_reverse] at hall
  have hdirs : ∀ depth, (t.makeDirs p.parent).tree.hasDir
      ((p.parent.upTo depth).place t.cwd) = true := by
    intro depth
    have hall := makeDirsFrom_dirs hmade depth
    rwa [List.reverse_reverse] at hall
  obtain ⟨hlocate, hafter⟩ := write_eq_ok hwritten
  rw [hafter]
  refine ⟨hgrown.cwd, ?_, fun place hother => ?_, fun place => ?_⟩
  · rw [read?, locate_addFile hlocate]
    dsimp only
    rw [content?_addFile, if_pos rfl]
  · rw [hgrown.cwd, content?_addFile, if_neg hother, content?, content?, hgrown.files]
  · constructor
    · exact hgrown.added place
    · rintro (hdir | ⟨depth, rfl⟩)
      · exact hgrown.kept place hdir
      · exact hdirs depth

end FileTree

/-! ## Runs -/

open Log

namespace Settings

/-- What keeps a run from its shell: no library is given, a document cannot be loaded, the comment
at the top cannot be made, or the indentation is refused. -/
inductive Hindered [Yaml.Reader] [Banner.Engine] (s : Settings) (t : FileTree) :
    RunError → Prop where
  | library (missing : s.library = none) : s.Hindered t .noLibrary
  | document {path : Path} {error : LoadError} (given : s.library = some path)
      (refused : load (.still t) s.searchPaths path = .error error) : s.Hindered t (.load error)
  | comment {path : Path} {loaded : Loaded} {error : TemplateError}
      (given : s.library = some path)
      (accepted : load (.still t) s.searchPaths path = .ok loaded)
      (refused : s.bannerOf t loaded.library = .error error) : s.Hindered t (.template error)
  | indentation {path : Path} {loaded : Loaded} {banner : Option String}
      (given : s.library = some path)
      (accepted : load (.still t) s.searchPaths path = .ok loaded)
      (commented : s.bannerOf t loaded.library = .ok banner) (negative : s.indentSize < 0) :
      s.Hindered t (.writer .negativeIndent)

variable {s : Settings} {t : FileTree}

theorem render_eq_error_iff [Banner.Engine] {loaded : Loaded} {shown : List TypeDecl}
    {error : RunError} :
    s.render t loaded shown = .error error ↔
      (∃ refusal, s.bannerOf t loaded.library = .error refusal ∧ error = .template refusal) ∨
        (∃ banner, s.bannerOf t loaded.library = .ok banner) ∧ s.indentSize < 0 ∧
          error = .writer .negativeIndent := by
  constructor
  · intro h
    rcases render_eq_error h with hrefused | hindent
    · exact .inl hrefused
    · cases hbanner : s.bannerOf t loaded.library with
      | error refusal =>
        rw [render, hbanner] at h
        cases h
        exact .inl ⟨refusal, rfl, rfl⟩
      | ok banner => exact .inr ⟨⟨banner, rfl⟩, hindent⟩
  · rintro (⟨refusal, hbanner, rfl⟩ | ⟨⟨banner, hbanner⟩, hindent, rfl⟩)
    · rw [render, hbanner]
    · rw [render, hbanner, Writer.fresh?, if_pos hindent]

/-- A shell is not made exactly where something hinders it. -/
theorem synthesize_eq_error_iff [Yaml.Reader] [Banner.Engine] {error : RunError} :
    s.synthesize (.still t) = .error error ↔ s.Hindered t error := by
  constructor
  · intro h
    unfold synthesize at h
    split at h
    · next hmissing =>
      cases h
      exact .library hmissing
    · next path hgiven =>
      rw [View.after_still] at h
      split at h
      · next hrefused =>
        cases h
        exact .document hgiven hrefused
      · next loaded haccepted =>
        rw [bind_eq_error_iff] at h
        rcases h with h | ⟨writer, -, h⟩
        · rcases render_eq_error_iff.mp h with
            ⟨refusal, hbanner, rfl⟩ | ⟨⟨banner, hbanner⟩, hindent, rfl⟩
          · exact .comment hgiven haccepted hbanner
          · exact .indentation hgiven haccepted hbanner hindent
        · cases h
  · intro h
    cases h with
    | library missing => rw [synthesize, missing]
    | document given refused =>
      rw [synthesize, given]
      dsimp only
      rw [View.after_still, refused]
    | comment given accepted refused =>
      rw [synthesize, given]
      dsimp only
      rw [View.after_still, accepted, bind_eq_error_iff]
      exact .inl (render_eq_error_iff.mpr (.inl ⟨_, refused, rfl⟩))
    | indentation given accepted commented negative =>
      rw [synthesize, given]
      dsimp only
      rw [View.after_still, accepted, bind_eq_error_iff]
      exact .inl (render_eq_error_iff.mpr (.inr ⟨⟨_, commented⟩, negative, rfl⟩))

theorem path_of_synthesize [Yaml.Reader] [Banner.Engine] {files : View} {shell : Shell}
    (h : s.synthesize files = .ok shell) :
    shell.path = none := by
  unfold synthesize at h
  split at h
  · cases h
  · split at h
    · cases h
    · rw [bind_eq_ok_iff] at h
      obtain ⟨writer, -, h⟩ := h
      cases h
      rfl

/-- The ways a run can end: it is hindered, it has a shell that is not to be saved, it saves its
shell, or it fails to save it. -/
theorem run_cases [Yaml.Reader] [Banner.Engine] (s : Settings) (t : FileTree) :
    (∃ error, s.Hindered t error ∧
      s.run (.still t) = { result := .error error, tree := t }) ∨
    ∃ shell : Shell, shell.path = none ∧
      (s.output = none ∧ s.run (.still t) = { result := .ok shell, tree := t } ∨
      ∃ p, s.output = some p ∧
        ((t.save p shell.text.toUTF8).error = none ∧
          s.run (.still t) = { result := .ok { shell with path := some p }
                               tree := (t.save p shell.text.toUTF8).tree } ∨
        ∃ failure, (t.save p shell.text.toUTF8).error = some failure ∧
          (s.run (.still t)).result = .error (.file failure))) := by
  cases hmade : s.synthesize (.still t) with
  | error error =>
    refine .inl ⟨error, synthesize_eq_error_iff.mp hmade, ?_⟩
    rw [run, hmade]
    rfl
  | ok shell =>
    refine .inr ⟨shell, path_of_synthesize hmade, ?_⟩
    cases houtput : s.output with
    | none =>
      refine .inl ⟨rfl, ?_⟩
      rw [run, hmade, houtput]
      rfl
    | some p =>
      refine .inr ⟨p, rfl, ?_⟩
      cases hsave : (t.save p shell.text.toUTF8).error with
      | none =>
        refine .inl ⟨rfl, ?_⟩
        simp only [run, hmade, houtput, View.still_apply, hsave]
      | some failure =>
        refine .inr ⟨failure, rfl, ?_⟩
        simp only [run, hmade, houtput, View.still_apply, hsave]

/-- A run that is hindered fails for that reason and leaves the tree as it is; it can fail for no
other reason but that its shell cannot be saved. A run that ends with a shell saves the text of
the shell where it is asked to, and does nothing else to the tree. -/
theorem run_changes_output_alone [Yaml.Reader] [Banner.Engine] (s : Settings) (t : FileTree) :
    (∀ error, s.Hindered t error →
      (s.run (.still t)).result = .error error ∧ (s.run (.still t)).tree = t) ∧
    (∀ error, (s.run (.still t)).result = .error error →
      s.Hindered t error ∨ ∃ failure, error = .file failure) ∧
    ∀ shell, (s.run (.still t)).result = .ok shell →
      shell.path = s.output ∧
      (s.output = none → (s.run (.still t)).tree = t) ∧
      ∀ p, s.output = some p → t.Saved (s.run (.still t)).tree p shell.text.toUTF8 := by
  refine ⟨fun error hhindered => ?_, fun error hfails => ?_, fun shell hdone => ?_⟩
  · rw [run, synthesize_eq_error_iff.mpr hhindered]
    exact ⟨rfl, rfl⟩
  · obtain ⟨reason, hhindered, hrun⟩ | ⟨shell, -, hmade⟩ := run_cases s t
    · rw [hrun] at hfails
      cases hfails
      exact .inl hhindered
    · obtain ⟨-, hrun⟩ | ⟨p, -, ⟨-, hrun⟩ | ⟨failure, -, hrun⟩⟩ := hmade
      all_goals
        rw [hrun] at hfails
        cases hfails
      exact .inr ⟨failure, rfl⟩
  · obtain ⟨reason, -, hrun⟩ | ⟨made, hpath, hmade⟩ := run_cases s t
    · rw [hrun] at hdone
      cases hdone
    · obtain ⟨houtput, hrun⟩ | ⟨p, houtput, ⟨hsaved, hrun⟩ | ⟨failure, -, hrun⟩⟩ := hmade
      · rw [hrun] at hdone ⊢
        cases hdone
        refine ⟨hpath.trans houtput.symm, fun _ => rfl, fun p hp => ?_⟩
        rw [houtput] at hp
        cases hp
      · rw [hrun] at hdone ⊢
        cases hdone
        refine ⟨houtput.symm, fun hnone => ?_, fun q hq => ?_⟩
        · rw [houtput] at hnone
          cases hnone
        · rw [houtput] at hq
          cases hq
          exact FileTree.saved_of_save hsaved
      · rw [hrun] at hdone
        cases hdone

end Settings

/-- Where the shell of the nested types is to be saved: two directories that are not there. -/
def shellPath : Path := { parts := ["api", "stubs", "Nested.cs"] }

def savingSettings (indentSize : Int) : Settings :=
  { library := some nestedPath, output := some shellPath, banner := false, indentSize }

theorem savingSettings_not_hindered (error : RunError) :
    ¬ (savingSettings 4).Hindered nestedTree error := by
  intro h
  cases h with
  | library missing => cases missing
  | document given refused =>
    cases given
    have hloads : load (.still nestedTree) [] nestedPath = .error _ := refused
    rw [nestedTree_load] at hloads
    cases hloads
  | comment _ _ refused => cases refused
  | indentation _ _ _ negative => exact absurd negative (by decide)

theorem savingSettings_run : ∃ shell,
    ((savingSettings 4).run (.still nestedTree)).result = .ok shell := by
  obtain ⟨error, hhindered, -⟩ | ⟨shell, -, hmade⟩ :=
    Settings.run_cases (savingSettings 4) nestedTree
  · exact absurd hhindered (savingSettings_not_hindered error)
  · obtain ⟨houtput, -⟩ | ⟨p, houtput, ⟨-, hrun⟩ | ⟨failure, hfailed, -⟩⟩ := hmade
    · cases houtput
    · exact ⟨_, by rw [hrun]⟩
    · cases houtput
      have hsaves : (nestedTree.save shellPath shell.text.toUTF8).error = none := rfl
      rw [hsaves] at hfailed
      cases hfailed

/-- The shell of the nested types is saved with the two directories above it; with a negative
indentation nothing is. -/
theorem nested_shell_saved :
    (∃ shell, ((savingSettings 4).run (.still nestedTree)).result = .ok shell ∧
      nestedTree.Saved ((savingSettings 4).run (.still nestedTree)).tree shellPath
        shell.text.toUTF8) ∧
    nestedTree.hasDir ["api", "stubs"] = false ∧
    ((savingSettings 4).run (.still nestedTree)).tree.hasDir ["api", "stubs"] = true ∧
    (savingSettings (-1)).Hindered nestedTree (.writer .negativeIndent) ∧
    ((savingSettings (-1)).run (.still nestedTree)).tree = nestedTree := by
  obtain ⟨shell, hdone⟩ := savingSettings_run
  have hsaved := ((Settings.run_changes_output_alone (savingSettings 4) nestedTree).2.2 shell
    hdone).2.2 shellPath rfl
  have hhindered : (savingSettings (-1)).Hindered nestedTree (.writer .negativeIndent) :=
    .indentation rfl nestedTree_load rfl (by decide)
  refine ⟨⟨shell, hdone, hsaved⟩, by decide, ?_, hhindered, ?_⟩
  · exact (hsaved.dirs _).mpr (.inr ⟨2, rfl⟩)
  · exact ((Settings.run_changes_output_alone (savingSettings (-1)) nestedTree).1 _ hhindered).2

end ApiShell
