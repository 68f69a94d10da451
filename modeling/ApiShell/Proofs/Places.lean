import ApiShell.Document.Closure
import Mathlib.Data.List.Forall2

/-!
# Places and paths

One file can be reached by many paths. In a tree that a file system can hold, a path to a file ends
in the name of that file, and the directory before it opens. So two paths to one file read the same
document, and a reference that is looked for from either of them leads to the same file, unless one
of the two ways is too long to be walked.
-/

namespace ApiShell

namespace FileTree

/-- What a file system can hold: there is a working directory, what is above a directory is a
directory, and no place is both a directory and a file. -/
structure Proper (t : FileTree) : Prop where
  cwd : t.hasDir t.cwd = true
  above : ∀ place, t.hasDir place = true → t.hasDir place.dropLast = true
  apart : ∀ place, t.hasDir place = true → t.content? place = none

/-- Where a path starts from. -/
def startOf (t : FileTree) (p : Path) : List String :=
  if p.isAbsolute then [] else t.cwd

/-- The path names a directory, and every part of it can be walked. -/
structure Opens (t : FileTree) (dir : Path) : Prop where
  clean : dir.holdsNull = false
  walks : ∀ p, t.follow p (t.startOf dir) dir.parts = .ok (dir.place t.cwd)

/-! ## Walking -/

variable {t : FileTree}

theorem follow_append (p : Path) (place a b : List String) :
    t.follow p place (a ++ b) = t.follow p place a >>= fun there => t.follow p there b := by
  induction a generalizing place with
  | nil => rfl
  | cons part rest ih =>
    simp only [List.cons_append, follow]
    split
    · split
      · rfl
      · exact ih _
    · split <;> rfl

/-- The path a walk is made for shows in its faults only. -/
theorem follow_of_follow {p : Path} {place parts there : List String}
    (h : t.follow p place parts = .ok there) (q : Path) :
    t.follow q place parts = .ok there := by
  induction parts generalizing place with
  | nil => exact h
  | cons part rest ih =>
    simp only [follow] at h ⊢
    split at h
    · next hdir =>
      split at h
      · cases h
      · next hshort =>
        rw [if_pos hdir, if_neg hshort]
        exact ih h
    · split at h <;> cases h

/-- A walk that succeeds ends where the parts lead. -/
theorem eq_foldl_of_follow {p : Path} {place parts there : List String}
    (h : t.follow p place parts = .ok there) : there = parts.foldl Path.walk place := by
  induction parts generalizing place with
  | nil =>
    cases h
    rfl
  | cons part rest ih =>
    simp only [follow] at h
    split at h
    · split at h
      · cases h
      · exact ih h
    · split at h <;> cases h

theorem follow_of_locate {p : Path} {there : List String} (h : t.locate p = .ok there) :
    t.follow p (t.startOf p) p.parts = .ok there := by
  unfold locate at h
  split at h
  · cases h
  · exact h

theorem isFile_eq_true {p : Path} (h : t.isFile p = .ok true) :
    p.holdsNull = false ∧ t.locate p = .ok (p.place t.cwd) ∧
      ∃ content, t.content? (p.place t.cwd) = some content := by
  unfold isFile lookAt at h
  split at h
  · cases h
  · next hnull =>
    have hclean : p.holdsNull = false := by simpa using hnull
    cases hlocate : t.locate p with
    | error e =>
      rw [hlocate] at h
      cases e <;> cases h
    | ok there =>
      rw [hlocate] at h
      have hplace : there = p.place t.cwd := eq_foldl_of_follow (follow_of_locate hlocate)
      subst hplace
      have hsome : (t.content? (p.place t.cwd)).isSome = true := Except.ok.inj h
      exact ⟨hclean, rfl, Option.isSome_iff_exists.mp hsome⟩

/-- Where there is a file at the end of a path, the path is found to be one of a file unless it is
too long. -/
theorem eq_true_of_isFile {p : Path} {b : Bool} (hclean : p.holdsNull = false)
    (hwalks : t.follow p (t.startOf p) p.parts = .ok (p.place t.cwd))
    (hcontent : (t.content? (p.place t.cwd)).isSome = true) (h : t.isFile p = .ok b) :
    b = true := by
  unfold isFile lookAt at h
  rw [if_neg (by simp [hclean])] at h
  unfold locate at h
  split at h
  · next e heq =>
    split at heq
    · cases heq
    · rw [show t.follow p (if p.isAbsolute then [] else t.cwd) p.parts = _ from hwalks] at heq
      cases heq
      rw [← Except.ok.inj h]
      exact hcontent
  · cases h
  · next e hne heq =>
    split at heq
    · cases heq
      exact absurd rfl (hne p)
    · rw [show t.follow p (if p.isAbsolute then [] else t.cwd) p.parts = _ from hwalks] at heq
      cases heq

/-- A path that cannot be asked about is too long. -/
theorem error_of_isFile {p : Path} {e : FileError} (h : t.isFile p = .error e) :
    ∃ q, e = .nameTooLong q := by
  unfold isFile lookAt at h
  split at h
  · cases h
  · split at h
    · cases h
    · next q _ =>
      cases h
      exact ⟨q, rfl⟩
    · cases h

/-! ## Paths to files -/

namespace Proper

/-- The root is a directory. -/
theorem root (proper : t.Proper) : t.hasDir [] = true := by
  have hup : ∀ (n : Nat) (place : List String), place.length = n → t.hasDir place = true →
      t.hasDir [] = true := by
    intro n
    induction n with
    | zero =>
      intro place hlen hdir
      rwa [List.eq_nil_of_length_eq_zero hlen] at hdir
    | succ n ih =>
      intro place hlen hdir
      exact ih place.dropLast (by simp [hlen]) (proper.above place hdir)
  exact hup _ t.cwd rfl proper.cwd

theorem startOf_dir (proper : t.Proper) (p : Path) : t.hasDir (t.startOf p) = true := by
  unfold startOf
  split
  · exact proper.root
  · exact proper.cwd

/-- A path to a file ends in the name of the file, and what stands before it opens. -/
theorem parts_of_isFile (proper : t.Proper) {p : Path} (h : t.isFile p = .ok true) :
    ∃ name, p.parts = p.parent.parts ++ [name] ∧
      p.place t.cwd = p.parent.place t.cwd ++ [name] ∧ t.Opens p.parent := by
  obtain ⟨hclean, hlocate, content, hcontent⟩ := isFile_eq_true h
  have hwalks := follow_of_locate hlocate
  rcases List.eq_nil_or_concat p.parts with hnil | ⟨before, name, hparts⟩
  · -- the path of a directory leads to no file
    have hplace : p.place t.cwd = t.startOf p := by
      rw [Path.place, hnil]
      rfl
    rw [hplace, proper.apart _ (proper.startOf_dir p)] at hcontent
    cases hcontent
  · rw [List.concat_eq_append] at hparts
    have hparent : p.parent.parts = before := by
      simp [Path.parent, hparts]
    have hplace : p.place t.cwd = Path.walk (p.parent.place t.cwd) name := by
      rw [Path.place, Path.place, hparent, hparts, List.foldl_concat]
      rfl
    rw [hparts, follow_append] at hwalks
    cases hbefore : t.follow p (t.startOf p) before with
    | error e =>
      rw [hbefore] at hwalks
      cases hwalks
    | ok there =>
      have hthere : there = p.parent.place t.cwd := by
        rw [eq_foldl_of_follow hbefore, Path.place, hparent]
        rfl
      rw [hbefore] at hwalks
      have hstep : t.follow p there [name] = .ok (p.place t.cwd) := hwalks
      have hdir : t.hasDir there = true := by
        by_contra hno
        simp only [follow, if_neg hno] at hstep
        split at hstep <;> cases hstep
      subst hthere
      have hname : name ≠ ".." := by
        rintro rfl
        have hup : p.place t.cwd = (p.parent.place t.cwd).dropLast := hplace
        rw [hup, proper.apart _ (proper.above _ hdir)] at hcontent
        cases hcontent
      refine ⟨name, by rw [hparent, hparts], ?_, ?_, ?_⟩
      · rw [hplace, Path.walk, if_neg hname]
      · rw [Path.holdsNull, hparts, List.any_append, Bool.or_eq_false_iff] at hclean
        rw [Path.holdsNull, hparent]
        exact hclean.1
      · intro q
        rw [hparent]
        exact follow_of_follow hbefore q

/-- Two paths to one file end in the same name, and their directories are one place. -/
theorem same_file (proper : t.Proper) {p q : Path} (hp : t.isFile p = .ok true)
    (hq : t.isFile q = .ok true) (hplace : p.place t.cwd = q.place t.cwd) :
    p.name = q.name ∧ p.parent.place t.cwd = q.parent.place t.cwd := by
  obtain ⟨a, hpparts, hpplace, -⟩ := proper.parts_of_isFile hp
  obtain ⟨b, hqparts, hqplace, -⟩ := proper.parts_of_isFile hq
  rw [hpplace, hqplace] at hplace
  obtain ⟨hdir, hname⟩ := List.append_inj' hplace rfl
  refine ⟨?_, hdir⟩
  obtain rfl : a = b := List.singleton_inj.mp hname
  rw [Path.name, Path.name, hpparts, hqparts, List.getLast?_concat, List.getLast?_concat]

end Proper

/-! ## Looking in one directory by two names -/

/-- Two paths lead to one place, and where both can be asked about, both answer alike. -/
structure Agree (t : FileTree) (p q : Path) : Prop where
  place : p.place t.cwd = q.place t.cwd
  forth : t.isFile p = .ok true → ∀ b, t.isFile q = .ok b → b = true
  back : t.isFile q = .ok true → ∀ b, t.isFile p = .ok b → b = true

theorem Agree.refl (p : Path) : t.Agree p p where
  place := rfl
  forth h b hb := by
    rw [h] at hb
    exact (Except.ok.inj hb).symm
  back h b hb := by
    rw [h] at hb
    exact (Except.ok.inj hb).symm

theorem join_of_relative (dir : Path) {p : Path} (hrelative : p.isAbsolute = false) :
    dir.join p = { dir with parts := dir.parts ++ p.parts } := by
  simp [Path.join, hrelative]

theorem join_place (dir : Path) {p : Path} (hrelative : p.isAbsolute = false) :
    (dir.join p).place t.cwd = p.parts.foldl Path.walk (dir.place t.cwd) := by
  rw [join_of_relative dir hrelative, Path.place, List.foldl_append]
  rfl

theorem join_follow {dir : Path} (hopens : t.Opens dir) {p : Path}
    (hrelative : p.isAbsolute = false) (q : Path) :
    t.follow q (t.startOf (dir.join p)) (dir.join p).parts
      = t.follow q (dir.place t.cwd) p.parts := by
  have hdir : t.follow q (t.startOf dir) dir.parts = .ok (dir.place t.cwd) := hopens.walks q
  rw [join_of_relative dir hrelative]
  show t.follow q (t.startOf dir) (dir.parts ++ p.parts) = _
  rw [follow_append, hdir]
  rfl

theorem join_holdsNull {dir : Path} (hopens : t.Opens dir) {p : Path}
    (hrelative : p.isAbsolute = false) : (dir.join p).holdsNull = p.holdsNull := by
  have hclean := hopens.clean
  unfold Path.holdsNull at hclean
  rw [join_of_relative dir hrelative, Path.holdsNull, List.any_append, hclean, Bool.false_or]
  rfl

/-- What is found below a directory is found by every path that opens the directory. -/
theorem isFile_join {dir other : Path} (hdir : t.Opens dir) (hother : t.Opens other)
    (hplace : dir.place t.cwd = other.place t.cwd) {p : Path} (hrelative : p.isAbsolute = false)
    (h : t.isFile (dir.join p) = .ok true) (b : Bool) (hb : t.isFile (other.join p) = .ok b) :
    b = true := by
  obtain ⟨hclean, hlocate, content, hcontent⟩ := isFile_eq_true h
  have hwalks := follow_of_locate hlocate
  have hsame : (dir.join p).place t.cwd = (other.join p).place t.cwd := by
    rw [join_place _ hrelative, join_place _ hrelative, hplace]
  rw [join_holdsNull hdir hrelative] at hclean
  rw [join_follow hdir hrelative, hplace, hsame] at hwalks
  refine eq_true_of_isFile ?_ ?_ ?_ hb
  · rw [join_holdsNull hother hrelative, hclean]
  · rw [join_follow hother hrelative]
    exact follow_of_follow hwalks _
  · rw [← hsame, hcontent]
    rfl

theorem Agree.join {dir other : Path} (hdir : t.Opens dir) (hother : t.Opens other)
    (hplace : dir.place t.cwd = other.place t.cwd) (text : String) :
    t.Agree (dir.joinText text) (other.joinText text) := by
  unfold Path.joinText
  by_cases habsolute : (Path.ofText text).isAbsolute = true
  · have hsame : dir.join (Path.ofText text) = other.join (Path.ofText text) := by
      simp [Path.join, habsolute]
    rw [hsame]
    exact Agree.refl _
  · have hrelative : (Path.ofText text).isAbsolute = false := by simpa using habsolute
    refine ⟨?_, ?_, ?_⟩
    · rw [join_place _ hrelative, join_place _ hrelative, hplace]
    · exact isFile_join hdir hother hplace hrelative
    · exact isFile_join hother hdir hplace.symm hrelative

/-! ## The first file of a list -/

theorem isFile_of_firstFile? {paths : List Path} {p : Path}
    (h : t.firstFile? paths = .ok (some p)) : t.isFile p = .ok true := by
  induction paths with
  | nil => cases h
  | cons path rest ih =>
    simp only [firstFile?] at h
    split at h
    · cases h
    · next hfile =>
      cases h
      exact hfile
    · exact ih h

theorem error_of_firstFile? {paths : List Path} {e : FileError}
    (h : t.firstFile? paths = .error e) : ∃ q, e = .nameTooLong q := by
  induction paths with
  | nil => cases h
  | cons path rest ih =>
    simp only [firstFile?] at h
    split at h
    · next hfile =>
      cases h
      exact error_of_isFile hfile
    · cases h
    · exact ih h

/-- Lists of paths that agree one by one have their first files at one place, if both can be asked
about. -/
theorem firstFile?_agree {paths others : List Path} (h : List.Forall₂ t.Agree paths others)
    {found found' : Option Path} (hpaths : t.firstFile? paths = .ok found)
    (hothers : t.firstFile? others = .ok found') :
    found.map (·.place t.cwd) = found'.map (·.place t.cwd) := by
  induction h with
  | nil =>
    cases hpaths
    cases hothers
    rfl
  | @cons p q rest more hpq _ ih =>
    simp only [firstFile?] at hpaths hothers
    cases hp : t.isFile p with
    | error e => simp [hp] at hpaths
    | ok b =>
      cases hq : t.isFile q with
      | error e => simp [hq] at hothers
      | ok b' =>
        cases b with
        | true =>
          have htrue := hpq.forth hp b' hq
          subst htrue
          simp only [hp] at hpaths
          simp only [hq] at hothers
          cases hpaths
          cases hothers
          simp [hpq.place]
        | false =>
          cases b' with
          | true => exact absurd (hpq.back hq false hp) Bool.false_ne_true
          | false =>
            simp only [hp] at hpaths
            simp only [hq] at hothers
            exact ih hpaths hothers

end FileTree

/-! ## Documents and references -/

/-- The fault is that a path is too long to be asked about. -/
def LoadError.IsOverlong (e : LoadError) : Prop :=
  ∃ p, e = .file (.nameTooLong p)

namespace Document

variable {t : FileTree} {searchPaths : List Path}

/-- What is read at a file does not depend on the path to it. -/
theorem read_of_same_file [Yaml.Reader] (proper : t.Proper) {p q : Path}
    (hp : t.isFile p = .ok true) (hq : t.isFile q = .ok true)
    (hplace : p.place t.cwd = q.place t.cwd) :
    read t p = read t q := by
  obtain ⟨hname, -⟩ := proper.same_file hp hq hplace
  obtain ⟨-, hlocate, content, hcontent⟩ := FileTree.isFile_eq_true hp
  obtain ⟨-, hlocate', -⟩ := FileTree.isFile_eq_true hq
  have hsuffix : p.suffix = q.suffix := by
    rw [Path.suffix, Path.suffix, hname]
  have hother : t.content? (q.place t.cwd) = some content := hplace ▸ hcontent
  simp only [read, FileTree.read?, hlocate, hlocate', hcontent, hother, ofContent, hname, hsuffix]

theorem resolveReference_isFile {base path : Path} {name : String}
    (h : resolveReference t searchPaths base name = .ok path) : t.isFile path = .ok true := by
  unfold resolveReference at h
  split at h
  · cases h
  · next hfirst =>
    cases h
    exact FileTree.isFile_of_firstFile? hfirst
  · cases h

/-- The places at which a reference is looked for do not depend on the path to its referrer. -/
theorem candidates_agree (proper : t.Proper) (searchPaths : List Path) {p q : Path}
    (hp : t.isFile p = .ok true) (hq : t.isFile q = .ok true)
    (hplace : p.place t.cwd = q.place t.cwd) (name : String) :
    List.Forall₂ t.Agree (candidates searchPaths p.parent name)
      (candidates searchPaths q.parent name) := by
  obtain ⟨-, hdir⟩ := proper.same_file hp hq hplace
  obtain ⟨-, -, -, hpopens⟩ := proper.parts_of_isFile hp
  obtain ⟨-, -, -, hqopens⟩ := proper.parts_of_isFile hq
  have hjoin := fun text => FileTree.Agree.join hpopens hqopens hdir text
  unfold candidates
  rw [List.flatMap_cons, List.flatMap_cons]
  refine List.rel_append ?_ (List.forall₂_same.mpr fun path _ => FileTree.Agree.refl path)
  refine .cons (hjoin name) ?_
  split
  · exact .nil
  · exact List.forall₂_map_left_iff.mpr
      (List.forall₂_map_right_iff.mpr (List.forall₂_same.mpr fun suffix _ => hjoin _))

/-- A reference leads to one file from wherever its referrer is reached. -/
theorem resolveReference_place (proper : t.Proper) {p q : Path} (hp : t.isFile p = .ok true)
    (hq : t.isFile q = .ok true) (hplace : p.place t.cwd = q.place t.cwd) {name : String}
    {found found' : Path}
    (h : resolveReference t searchPaths p.parent name = .ok found)
    (h' : resolveReference t searchPaths q.parent name = .ok found') :
    found.place t.cwd = found'.place t.cwd := by
  have hagree := candidates_agree proper searchPaths hp hq hplace name
  unfold resolveReference at h h'
  split at h
  · cases h
  · next hfirst =>
    cases h
    split at h'
    · cases h'
    · next hfirst' =>
      cases h'
      simpa using FileTree.firstFile?_agree hagree hfirst hfirst'
    · cases h'
  · cases h

/-- A reference that leads somewhere from one path to its referrer can fail from another only by
length. -/
theorem resolveReference_overlong (proper : t.Proper) {p q : Path} (hp : t.isFile p = .ok true)
    (hq : t.isFile q = .ok true) (hplace : p.place t.cwd = q.place t.cwd) {name : String}
    {found : Path} {e : LoadError}
    (h : resolveReference t searchPaths p.parent name = .ok found)
    (h' : resolveReference t searchPaths q.parent name = .error e) : e.IsOverlong := by
  have hagree := candidates_agree proper searchPaths hp hq hplace name
  unfold resolveReference at h h'
  split at h'
  · next e' hfirst =>
    cases h'
    obtain ⟨path, rfl⟩ := FileTree.error_of_firstFile? hfirst
    exact ⟨path, rfl⟩
  · cases h'
  · next hfirst' =>
    split at h
    · cases h
    · next hfirst =>
      have hsame := FileTree.firstFile?_agree hagree hfirst hfirst'
      cases hsame
    · cases h

end Document

end ApiShell
