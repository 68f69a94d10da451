import ApiShell.Proofs.Acceptance
import ApiShell.Proofs.Places
import ApiShell.Yaml.Reader
import Mathlib.Data.List.Nodup
import Mathlib.Logic.Relation

/-!
# The closure of references

Which documents are read along with a primary one. The loop that follows references keeps a queue
and the places seen. Beside it stands a search in rounds, which keeps neither: a round follows all
references of the documents that the round before found, in order, and finds the documents at new
places. Main statement: the loop does what the rounds do, which end because there are only so many
files, and what they find is what the primary document leads to.
-/

namespace ApiShell.Document

open Relation Log

/-! ## Following references in rounds -/

/-- A document with the path at which it was found and the references it makes. -/
structure Found where
  path : Path
  document : Entries
  references : List (Path × String)

/-- The document at a path, unless its references cannot be told. -/
def Found.of (path : Path) (document : Entries) : Except LoadError Found :=
  (outgoing path document).map fun references => { path, document, references }

/-- The place of the file that a document was found in. -/
def Found.place (t : FileTree) (f : Found) : List String :=
  f.path.place t.cwd

/-- Follows a reference to the document that it leads to. -/
def followReference [Yaml.Reader] (t : FileTree) (searchPaths : List Path) (ref : Path × String) :
    Except LoadError Found := do
  let path ← resolveReference t searchPaths ref.1 ref.2
  let document ← read t path
  Found.of path document

/-- Those of some documents that are at new places, at each place the first. -/
def fresh (t : FileTree) (known : List Found) : List Found → List Found
  | [] => []
  | f :: rest =>
    if f.place t ∈ known.map (·.place t) then fresh t known rest
    else f :: fresh t (known ++ [f]) rest

/-- All documents that some rounds found, and those that the last one did. -/
structure Rounds where
  all : List Found
  last : List Found

/-- A search in rounds from a document, which ends at the first reference that cannot be
followed. -/
def rounds [Yaml.Reader] (t : FileTree) (searchPaths : List Path) (start : Found) :
    Nat → Except LoadError Rounds
  | 0 => .ok { all := [start], last := [start] }
  | n + 1 => do
    let before ← rounds t searchPaths start n
    let targets ← (before.last.flatMap (·.references)).mapM (followReference t searchPaths)
    let new := fresh t before.all targets
    pure { all := before.all ++ new, last := new }

/-- One document makes a reference that leads to the other. -/
def Leads [Yaml.Reader] (t : FileTree) (searchPaths : List Path) (f g : Found) : Prop :=
  ∃ ref ∈ f.references, followReference t searchPaths ref = .ok g

/-- The fault is the first that a search in rounds from the primary document comes to. -/
def FirstFault [Yaml.Reader] (t : FileTree) (searchPaths : List Path) (path : Path)
    (primary : Entries) (e : LoadError) : Prop :=
  Found.of path primary = .error e ∨
    ∃ start n, Found.of path primary = .ok start ∧ rounds t searchPaths start n = .error e

/-- The fault is one of the primary document or of a reference that some document makes to which
the primary one leads. -/
def ReachableFault [Yaml.Reader] (t : FileTree) (searchPaths : List Path) (path : Path)
    (primary : Entries) (e : LoadError) : Prop :=
  Found.of path primary = .error e ∨
    ∃ start f ref, Found.of path primary = .ok start ∧
      ReflTransGen (Leads t searchPaths) start f ∧ ref ∈ f.references ∧
      followReference t searchPaths ref = .error e

/-- What a closure of references has to be. -/
structure IsExactClosure [Yaml.Reader] (t : FileTree) (searchPaths : List Path) (path : Path)
    (primary : Entries) (c : Closure) : Prop where
  /-- Without a fault, the rounds came to an end, and the documents read are those that they found,
  in order: one for each file that the primary document leads to, apart from its own. -/
  exact_of_none : c.error = none → ∃ start found n, Found.of path primary = .ok start ∧
    rounds t searchPaths start n = .ok { all := start :: found, last := [] } ∧
    c.documents = found.map (·.document) ∧ c.bound.map (·.2) = found.map (·.path) ∧
    ((start :: found).map (·.place t)).Nodup ∧
    ∀ place, place ∈ found.map (·.place t) ↔ place ≠ start.place t ∧
      ∃ f, ReflTransGen (Leads t searchPaths) start f ∧ f.place t = place
  /-- The fault is the one that the rounds come to first. -/
  error_iff : ∀ e, c.error = some e ↔ FirstFault t searchPaths path primary e
  /-- A fault is one of a document or a reference that can be reached. -/
  reachable_of_error : ∀ e, c.error = some e → ReachableFault t searchPaths path primary e
  /-- Where a fault can be reached there is one, unless it is only that a way round is too long. -/
  error_of_reachable : ∀ e, ReachableFault t searchPaths path primary e → ¬ e.IsOverlong →
    ∃ first, c.error = some first

/-! ## Documents that were found -/

variable {t : FileTree} {searchPaths : List Path}

/-- The document is the one in the file at its path, and the references are its own. -/
structure Found.Sound [Yaml.Reader] (t : FileTree) (f : Found) : Prop where
  isFile : t.isFile f.path = .ok true
  read : Document.read t f.path = .ok f.document
  references : outgoing f.path f.document = .ok f.references

theorem Found.of_eq_ok {path : Path} {document : Entries} {f : Found}
    (h : Found.of path document = .ok f) :
    f.path = path ∧ f.document = document ∧ outgoing path document = .ok f.references := by
  unfold Found.of at h
  cases hrefs : outgoing path document with
  | error e =>
    rw [hrefs] at h
    cases h
  | ok references =>
    rw [hrefs] at h
    cases h
    exact ⟨rfl, rfl, rfl⟩

theorem Found.outgoing_eq_error {path : Path} {document : Entries} {e : LoadError}
    (h : Found.of path document = .error e) : outgoing path document = .error e := by
  unfold Found.of at h
  cases hrefs : outgoing path document with
  | error e' =>
    rw [hrefs] at h
    cases h
    rfl
  | ok references =>
    rw [hrefs] at h
    cases h

theorem Found.sound_of [Yaml.Reader] {path : Path} {document : Entries} {f : Found}
    (hfile : t.isFile path = .ok true) (hread : Document.read t path = .ok document)
    (h : Found.of path document = .ok f) : f.Sound t := by
  obtain ⟨rfl, rfl, hrefs⟩ := Found.of_eq_ok h
  exact ⟨hfile, hread, hrefs⟩

theorem followReference_eq_ok [Yaml.Reader] {ref : Path × String} {f : Found}
    (h : followReference t searchPaths ref = .ok f) :
    resolveReference t searchPaths ref.1 ref.2 = .ok f.path ∧ f.Sound t := by
  simp only [followReference, bind_eq_ok_iff] at h
  obtain ⟨path, hpath, document, hdocument, h⟩ := h
  have hsound := Found.sound_of (resolveReference_isFile hpath) hdocument h
  obtain ⟨rfl, -, -⟩ := Found.of_eq_ok h
  exact ⟨hpath, hsound⟩

theorem Found.Sound.exists_names [Yaml.Reader] {f : Found} (h : f.Sound t) :
    ∃ names, referenceNames f.document = .ok names ∧
      f.references = names.map fun name => (f.path.parent, name) := by
  have hrefs := h.references
  unfold outgoing at hrefs
  cases hnames : referenceNames f.document with
  | error e =>
    rw [hnames] at hrefs
    cases hrefs
  | ok names =>
    rw [hnames] at hrefs
    exact ⟨names, rfl, (Except.ok.inj hrefs).symm⟩

/-- Documents found in one file make the same references, each looked for from the path that its
document was found at. -/
theorem Found.Sound.same_references [Yaml.Reader] (proper : t.Proper) {f g : Found} (hf : f.Sound t)
    (hg : g.Sound t) (hplace : f.place t = g.place t) {ref : Path × String}
    (href : ref ∈ f.references) :
    ref.1 = f.path.parent ∧ (g.path.parent, ref.2) ∈ g.references := by
  have hsame : f.document = g.document := by
    have hread := read_of_same_file proper hf.isFile hg.isFile hplace
    rw [hf.read, hg.read] at hread
    exact Except.ok.inj hread
  obtain ⟨names, hnames, hrefs⟩ := hf.exists_names
  obtain ⟨names', hnames', hrefs'⟩ := hg.exists_names
  rw [hsame, hnames'] at hnames
  cases hnames
  rw [hrefs] at href
  obtain ⟨name, hname, rfl⟩ := List.mem_map.mp href
  refine ⟨rfl, ?_⟩
  rw [hrefs']
  exact List.mem_map_of_mem hname

/-- A file that was read before can be read again. -/
theorem followReference_of_known [Yaml.Reader] (proper : t.Proper) {ref : Path × String}
    {path : Path} (h : resolveReference t searchPaths ref.1 ref.2 = .ok path) {known : Found}
    (hknown : known.Sound t) (hplace : path.place t.cwd = known.place t) :
    ∃ f, followReference t searchPaths ref = .ok f := by
  have hread : Document.read t path = .ok known.document := by
    rw [read_of_same_file proper (resolveReference_isFile h) hknown.isFile hplace, hknown.read]
  obtain ⟨names, hnames, -⟩ := hknown.exists_names
  have hof : ∃ f, Found.of path known.document = .ok f := by
    rw [Found.of, outgoing, hnames]
    exact ⟨_, rfl⟩
  obtain ⟨f, hof⟩ := hof
  refine ⟨f, ?_⟩
  simp only [followReference, bind_eq_ok_iff]
  exact ⟨path, h, known.document, hread, hof⟩

/-! ## New places -/

theorem fresh_subset (known targets : List Found) : fresh t known targets ⊆ targets := by
  induction targets generalizing known with
  | nil => exact List.Subset.refl _
  | cons f rest ih =>
    unfold fresh
    split
    · exact List.subset_cons_of_subset _ (ih known)
    · exact List.cons_subset_cons _ (ih _)

/-- Every target is at a known place or at a new one. -/
theorem place_mem_append_fresh (known : List Found) {targets : List Found} {f : Found}
    (hf : f ∈ targets) :
    f.place t ∈ (known ++ fresh t known targets).map (·.place t) := by
  induction targets generalizing known with
  | nil => cases hf
  | cons g rest ih =>
    unfold fresh
    split
    · next hg =>
      rcases List.mem_cons.mp hf with rfl | hf
      · rw [List.map_append]
        exact List.mem_append_left _ hg
      · exact ih known hf
    · rcases List.mem_cons.mp hf with rfl | hf
      · simp
      · have hmem := ih (known ++ [g]) hf
        rwa [List.append_assoc, List.singleton_append] at hmem

theorem nodup_append_fresh {known : List Found} (targets : List Found)
    (h : (known.map (·.place t)).Nodup) :
    ((known ++ fresh t known targets).map (·.place t)).Nodup := by
  induction targets generalizing known with
  | nil => simpa [fresh] using h
  | cons f rest ih =>
    unfold fresh
    split
    · exact ih h
    · next hf =>
      have hmore : ((known ++ [f]).map (·.place t)).Nodup := by
        rw [List.map_append, List.map_singleton, ← List.concat_eq_append]
        exact h.concat hf
      have hall := ih hmore
      rwa [List.append_assoc, List.singleton_append] at hall

/-- How many files are at places that are not known. -/
def unseen (t : FileTree) (known : List Found) : Nat :=
  ((t.files.map (·.1)).filter (· ∉ known.map (·.place t))).length

theorem unseen_le_length (known : List Found) : unseen t known ≤ t.files.length := by
  unfold unseen
  have hle := List.length_filter_le (· ∉ known.map (·.place t)) (t.files.map (·.1))
  simpa using hle

/-- A file at a new place is among the unseen. -/
theorem mem_unseen {path : Path} (hfile : t.isFile path = .ok true) (known : List Found)
    (hnew : path.place t.cwd ∉ known.map (·.place t)) :
    path.place t.cwd ∈ (t.files.map (·.1)).filter (· ∉ known.map (·.place t)) := by
  obtain ⟨-, -, content, hcontent⟩ := FileTree.isFile_eq_true hfile
  obtain ⟨before, after, hfiles, -⟩ := List.lookup_eq_some_iff.mp hcontent
  refine List.mem_filter.mpr ⟨?_, by simpa using hnew⟩
  rw [hfiles]
  simp

/-- A document at a new place leaves fewer files unseen. -/
theorem unseen_concat_lt [Yaml.Reader] {known : List Found} {f : Found} (hf : f.Sound t)
    (hnew : f.place t ∉ known.map (·.place t)) : unseen t (known ++ [f]) < unseen t known := by
  have hfilter : (t.files.map (·.1)).filter (· ∉ (known ++ [f]).map (·.place t))
      = ((t.files.map (·.1)).filter (· ∉ known.map (·.place t))).filter (· ≠ f.place t) := by
    rw [List.filter_filter]
    refine List.filter_congr fun place _ => ?_
    by_cases h : place = f.place t <;> simp [h]
  unfold unseen
  rw [hfilter, List.length_filter_lt_length_iff_exists]
  exact ⟨f.place t, mem_unseen hf.isFile known hnew, by simp⟩

/-! ## The loop -/

/-- The closure has read these documents without a fault. -/
structure Closure.Holds (c : Closure) (found : List Found) : Prop where
  error : c.error = none
  documents : c.documents = found.map (·.document)
  bound : c.bound.map (·.2) = found.map (·.path)

variable {ref : Path × String} {known found : List Found} {done : Closure} {fuel : Nat}

theorem closeOver_nil [Yaml.Reader] (seen : List (List String)) :
    closeOver (.still t) searchPaths fuel [] seen done = done := by
  rw [closeOver.eq_def]

/-- A reference to a known file is passed over. -/
theorem closeOver_known [Yaml.Reader] {f : Found} (h : followReference t searchPaths ref = .ok f)
    (hplace : f.place t ∈ known.map (·.place t)) (rest : List (Path × String)) :
    closeOver (.still t) searchPaths fuel (ref :: rest) (known.map (·.place t)) done
      = closeOver (.still t) searchPaths fuel rest (known.map (·.place t)) done := by
  obtain ⟨hpath, -⟩ := followReference_eq_ok h
  have hseen : (known.map (·.place t)).contains (f.path.place t.cwd) = true := by
    exact List.contains_iff_mem.mpr hplace
  rw [closeOver.eq_def]
  simp only [View.still_apply, hpath, hseen, if_true]

/-- A reference to a new file adds its document, and the references of that one come last. -/
theorem closeOver_new [Yaml.Reader] {f : Found} (h : followReference t searchPaths ref = .ok f)
    (hplace : f.place t ∉ known.map (·.place t)) (hdone : done.Holds found) (fuel : Nat)
    (rest : List (Path × String)) :
    ∃ more, Closure.Holds more (found ++ [f]) ∧
      closeOver (.still t) searchPaths (fuel + 1) (ref :: rest) (known.map (·.place t)) done
        = closeOver (.still t) searchPaths fuel (rest ++ f.references)
            ((known ++ [f]).map (·.place t)) more := by
  obtain ⟨hpath, hsound⟩ := followReference_eq_ok h
  have hseen : (known.map (·.place t)).contains (f.path.place t.cwd) = false := by
    exact Bool.eq_false_iff.mpr fun h => hplace (List.contains_iff_mem.mp h)
  refine ⟨{ done with
      bound := done.bound ++ [(ref.2, f.path)], documents := done.documents ++ [f.document] },
    ?_, ?_⟩
  · refine ⟨hdone.error, ?_, ?_⟩
    · simp [hdone.documents]
    · simp [hdone.bound]
  · rw [closeOver.eq_def]
    simp only [View.still_apply, hpath, hseen, hsound.read, hsound.references, List.map_append,
      List.map_singleton]
    rfl

/-- A reference that cannot be followed ends the loop with its fault. -/
theorem closeOver_fault [Yaml.Reader] (proper : t.Proper) {e : LoadError}
    (h : followReference t searchPaths ref = .error e) (hknown : ∀ f ∈ known, f.Sound t)
    (hfuel : unseen t known ≤ fuel) (rest : List (Path × String)) :
    (closeOver (.still t) searchPaths fuel (ref :: rest) (known.map (·.place t)) done).error
      = some e := by
  rw [closeOver.eq_def]
  rw [followReference, bind_eq_error_iff] at h
  rcases h with hpath | ⟨path, hpath, h⟩
  · simp only [View.still_apply, hpath]
  · have hfollow : followReference t searchPaths ref = .error e := by
      rw [followReference, bind_eq_error_iff]
      exact .inr ⟨path, hpath, h⟩
    have hnew : path.place t.cwd ∉ known.map (·.place t) := by
      intro hmem
      obtain ⟨f, hf, hplace⟩ := List.mem_map.mp hmem
      obtain ⟨g, hg⟩ := followReference_of_known proper hpath (hknown f hf) hplace.symm
      rw [hfollow] at hg
      cases hg
    have hseen : (known.map (·.place t)).contains (path.place t.cwd) = false :=
      Bool.eq_false_iff.mpr fun h => hnew (List.contains_iff_mem.mp h)
    have hpos : 0 < unseen t known :=
      List.length_pos_of_mem (mem_unseen (resolveReference_isFile hpath) known hnew)
    obtain ⟨fuel, rfl⟩ : ∃ k, fuel = k + 1 := ⟨fuel - 1, by omega⟩
    simp only [View.still_apply, hpath, hseen, Bool.false_eq_true, if_false]
    rw [bind_eq_error_iff] at h
    rcases h with hread | ⟨document, hread, h⟩
    · simp only [hread]
    · simp only [hread, Found.outgoing_eq_error h]

/-- The loop works off references as one round does. What they lead to comes after all that is
pending. -/
theorem closeOver_round [Yaml.Reader] {refs : List (Path × String)} {targets : List Found}
    (h : refs.mapM (followReference t searchPaths) = .ok targets) (hdone : done.Holds found)
    (hfuel : unseen t known ≤ fuel) (later : List (Path × String)) :
    ∃ fuel' more, Closure.Holds more (found ++ fresh t known targets) ∧
      unseen t (known ++ fresh t known targets) ≤ fuel' ∧
      closeOver (.still t) searchPaths fuel (refs ++ later) (known.map (·.place t)) done
        = closeOver (.still t) searchPaths fuel'
            (later ++ (fresh t known targets).flatMap (·.references))
            ((known ++ fresh t known targets).map (·.place t)) more := by
  induction refs generalizing later known found done fuel targets with
  | nil =>
    rw [List.mapM_nil, pure_eq_ok_iff] at h
    subst h
    exact ⟨fuel, done, by simpa [fresh] using hdone, by simpa [fresh] using hfuel,
      by simp [fresh]⟩
  | cons ref refs ih =>
    simp only [List.mapM_cons, bind_eq_ok_iff, pure_eq_ok_iff] at h
    obtain ⟨f, hf, targets, htargets, rfl⟩ := h
    unfold fresh
    split
    · next hplace =>
      obtain ⟨fuel', more, hmore, hfuel', heq⟩ := ih htargets hdone hfuel later
      refine ⟨fuel', more, hmore, hfuel', ?_⟩
      rw [List.cons_append, closeOver_known hf hplace, heq]
    · next hplace =>
      have hless := unseen_concat_lt (followReference_eq_ok hf).2 hplace
      obtain ⟨fuel, rfl⟩ : ∃ k, fuel = k + 1 := ⟨fuel - 1, by omega⟩
      have hfuel' : unseen t (known ++ [f]) ≤ fuel := by omega
      obtain ⟨mid, hmid, hstep⟩ := closeOver_new hf hplace hdone fuel (refs ++ later)
      obtain ⟨fuel', more, hmore, hfuel', heq⟩ := ih htargets hmid hfuel' (later ++ f.references)
      refine ⟨fuel', more, by simpa using hmore, by simpa using hfuel', ?_⟩
      rw [List.cons_append, hstep, List.append_assoc, heq]
      simp

/-- A reference that cannot be followed ends the loop when all before it are worked off. -/
theorem closeOver_round_fault [Yaml.Reader] (proper : t.Proper) {refs : List (Path × String)}
    {e : LoadError} (h : refs.mapM (followReference t searchPaths) = .error e)
    (hknown : ∀ f ∈ known, f.Sound t) (hdone : done.Holds found) (hfuel : unseen t known ≤ fuel)
    (later : List (Path × String)) :
    (closeOver (.still t) searchPaths fuel (refs ++ later) (known.map (·.place t)) done).error
      = some e := by
  induction refs generalizing later known found done fuel with
  | nil => cases h
  | cons ref refs ih =>
    rw [List.mapM_cons, bind_eq_error_iff] at h
    rcases h with hfault | ⟨f, hf, h⟩
    · exact closeOver_fault proper hfault hknown hfuel _
    · rw [bind_eq_error_iff] at h
      rcases h with hrest | ⟨targets, -, h⟩
      · by_cases hplace : f.place t ∈ known.map (·.place t)
        · rw [List.cons_append, closeOver_known hf hplace]
          exact ih hrest hknown hdone hfuel later
        · have hsound := (followReference_eq_ok hf).2
          have hless := unseen_concat_lt hsound hplace
          obtain ⟨fuel, rfl⟩ : ∃ k, fuel = k + 1 := ⟨fuel - 1, by omega⟩
          obtain ⟨mid, hmid, hstep⟩ := closeOver_new hf hplace hdone fuel (refs ++ later)
          rw [List.cons_append, hstep, List.append_assoc]
          refine ih hrest (fun g hg => ?_) hmid (by omega) _
          rcases List.mem_append.mp hg with hg | hg
          · exact hknown g hg
          · rw [List.mem_singleton.mp hg]
            exact hsound
      · cases h

/-! ## The rounds -/

/-- What holds after every round. -/
structure Rounds.Inv [Yaml.Reader] (t : FileTree) (searchPaths : List Path) (start : Found)
    (r : Rounds) :
    Prop where
  starts : ∃ found, r.all = start :: found
  once : (r.all.map (·.place t)).Nodup
  sound : ∀ f ∈ r.all, f.Sound t
  reachable : ∀ f ∈ r.all, ReflTransGen (Leads t searchPaths) start f
  last_subset : r.last ⊆ r.all
  /-- The references of all but the last documents lead to files that were found. -/
  closed : ∀ f ∈ r.all, f ∈ r.last ∨ ∀ ref ∈ f.references, ∃ g,
    followReference t searchPaths ref = .ok g ∧ g.place t ∈ r.all.map (·.place t)

variable {start : Found}

/-- A reference that was followed with others leads to one of their targets. -/
theorem mem_of_mapM_followReference [Yaml.Reader] {refs : List (Path × String)}
    {targets : List Found} (h : refs.mapM (followReference t searchPaths) = .ok targets) :
    (∀ ref ∈ refs, ∃ f ∈ targets, followReference t searchPaths ref = .ok f) ∧
      ∀ f ∈ targets, ∃ ref ∈ refs, followReference t searchPaths ref = .ok f := by
  have hall := forall₂_of_mapM h
  clear h
  induction hall with
  | nil => simp
  | @cons ref f refs targets hf _ ih =>
    constructor
    · intro r hr
      rcases List.mem_cons.mp hr with rfl | hr
      · exact ⟨f, List.mem_cons_self, hf⟩
      · obtain ⟨g, hg, hfollow⟩ := ih.1 r hr
        exact ⟨g, List.mem_cons_of_mem _ hg, hfollow⟩
    · intro g hg
      rcases List.mem_cons.mp hg with rfl | hg
      · exact ⟨ref, List.mem_cons_self, hf⟩
      · obtain ⟨r, hr, hfollow⟩ := ih.2 g hg
        exact ⟨r, List.mem_cons_of_mem _ hr, hfollow⟩

/-- Every round keeps what holds after the one before. -/
theorem Rounds.Inv.next [Yaml.Reader] {r : Rounds} (h : r.Inv t searchPaths start)
    {targets : List Found}
    (htargets : (r.last.flatMap (·.references)).mapM (followReference t searchPaths)
      = .ok targets) :
    Rounds.Inv t searchPaths start
      { all := r.all ++ fresh t r.all targets, last := fresh t r.all targets } := by
  obtain ⟨hfollowed, hfrom⟩ := mem_of_mapM_followReference htargets
  have hnew : ∀ f ∈ fresh t r.all targets, ∃ g ∈ r.last, ∃ ref ∈ g.references,
      followReference t searchPaths ref = .ok f := by
    intro f hf
    obtain ⟨ref, href, hfollow⟩ := hfrom f (fresh_subset _ _ hf)
    obtain ⟨g, hg, href⟩ := List.mem_flatMap.mp href
    exact ⟨g, hg, ref, href, hfollow⟩
  constructor
  case starts =>
    obtain ⟨found, hfound⟩ := h.starts
    exact ⟨found ++ fresh t r.all targets, by rw [hfound, List.cons_append]⟩
  case once => exact nodup_append_fresh targets h.once
  case sound =>
    intro f hf
    rcases List.mem_append.mp hf with hf | hf
    · exact h.sound f hf
    · obtain ⟨-, -, ref, -, hfollow⟩ := hnew f hf
      exact (followReference_eq_ok hfollow).2
  case reachable =>
    intro f hf
    rcases List.mem_append.mp hf with hf | hf
    · exact h.reachable f hf
    · obtain ⟨g, hg, ref, href, hfollow⟩ := hnew f hf
      exact (h.reachable g (h.last_subset hg)).tail ⟨ref, href, hfollow⟩
  case last_subset => exact List.subset_append_right _ _
  case closed =>
    intro f hf
    rcases List.mem_append.mp hf with hf | hf
    · right
      intro ref href
      rcases h.closed f hf with hlast | hclosed
      · obtain ⟨g, hg, hfollow⟩ := hfollowed ref (List.mem_flatMap.mpr ⟨f, hlast, href⟩)
        exact ⟨g, hfollow, place_mem_append_fresh r.all hg⟩
      · obtain ⟨g, hfollow, hplace⟩ := hclosed ref href
        refine ⟨g, hfollow, ?_⟩
        rw [List.map_append]
        exact List.mem_append_left _ hplace
    · exact .inl hf

theorem rounds_succ_eq_ok [Yaml.Reader] {n : Nat} {r : Rounds}
    (h : rounds t searchPaths start (n + 1) = .ok r) :
    ∃ before targets, rounds t searchPaths start n = .ok before ∧
      (before.last.flatMap (·.references)).mapM (followReference t searchPaths) = .ok targets ∧
      r = { all := before.all ++ fresh t before.all targets, last := fresh t before.all targets } := by
  simp only [rounds, bind_eq_ok_iff, pure_eq_ok_iff] at h
  obtain ⟨before, hbefore, targets, htargets, rfl⟩ := h
  exact ⟨before, targets, hbefore, htargets, rfl⟩

theorem rounds_inv [Yaml.Reader] (hstart : start.Sound t) {n : Nat} {r : Rounds}
    (h : rounds t searchPaths start n = .ok r) : r.Inv t searchPaths start := by
  induction n generalizing r with
  | zero =>
    cases h
    constructor
    case starts => exact ⟨[], rfl⟩
    case once => simp
    case sound =>
      intro f hf
      rwa [List.mem_singleton.mp hf]
    case reachable =>
      intro f hf
      rw [List.mem_singleton.mp hf]
    case last_subset => exact List.Subset.refl _
    case closed => exact fun f hf => .inl hf
  | succ n ih =>
    obtain ⟨before, targets, hbefore, htargets, rfl⟩ := rounds_succ_eq_ok h
    exact (ih hbefore).next htargets

/-- The loop does what the rounds do. -/
theorem closeOver_rounds [Yaml.Reader] {n : Nat} {r : Rounds}
    (h : rounds t searchPaths start n = .ok r) :
    ∃ found fuel done, r.all = start :: found ∧ Closure.Holds done found ∧
      unseen t r.all ≤ fuel ∧
      closeOver (.still t) searchPaths t.files.length start.references [start.place t] {}
        = closeOver (.still t) searchPaths fuel (r.last.flatMap (·.references))
            (r.all.map (·.place t)) done := by
  induction n generalizing r with
  | zero =>
    cases h
    exact ⟨[], t.files.length, {}, rfl, ⟨rfl, rfl, rfl⟩, unseen_le_length _, by simp⟩
  | succ n ih =>
    obtain ⟨before, targets, hbefore, htargets, rfl⟩ := rounds_succ_eq_ok h
    obtain ⟨found, fuel, done, hall, hdone, hfuel, heq⟩ := ih hbefore
    obtain ⟨fuel', more, hmore, hfuel', hround⟩ := closeOver_round htargets hdone hfuel []
    refine ⟨_, fuel', more, ?_, hmore, hfuel', ?_⟩
    · rw [hall, List.cons_append]
    · rw [heq]
      simpa using hround

/-- A fault of the rounds is a fault of the loop. -/
theorem closeOver_rounds_fault [Yaml.Reader] (proper : t.Proper) (hstart : start.Sound t) {n : Nat}
    {e : LoadError} (h : rounds t searchPaths start n = .error e) :
    (closeOver (.still t) searchPaths t.files.length start.references [start.place t] {}).error
        = some e ∧
      ∃ f ref, ReflTransGen (Leads t searchPaths) start f ∧ ref ∈ f.references ∧
        followReference t searchPaths ref = .error e := by
  induction n with
  | zero => cases h
  | succ n ih =>
    rw [rounds, bind_eq_error_iff] at h
    rcases h with hbefore | ⟨r, hbefore, h⟩
    · exact ih hbefore
    · rw [bind_eq_error_iff] at h
      rcases h with hfault | ⟨targets, -, h⟩
      · have hinv := rounds_inv hstart hbefore
        constructor
        · obtain ⟨found, fuel, done, -, hdone, hfuel, heq⟩ := closeOver_rounds hbefore
          have hloop := closeOver_round_fault proper hfault hinv.sound hdone hfuel []
          rw [heq]
          simpa using hloop
        · obtain ⟨ref, href, hfollow⟩ := exists_of_mapM_eq_error hfault
          obtain ⟨f, hf, href⟩ := List.mem_flatMap.mp href
          exact ⟨f, ref, hinv.reachable f (hinv.last_subset hf), href, hfollow⟩
      · cases h

/-- The rounds come to an end: with a fault, or when they find nothing new. -/
theorem rounds_end [Yaml.Reader] (hstart : start.Sound t) (searchPaths : List Path) :
    ∃ n, (∃ e, rounds t searchPaths start n = .error e) ∨
      ∃ all, rounds t searchPaths start n = .ok { all, last := [] } := by
  by_contra hnever
  simp only [not_exists, not_or] at hnever
  -- every round would find a file more, and there are only so many
  have hmore : ∀ n, ∃ r, rounds t searchPaths start n = .ok r ∧ n < r.all.length := by
    intro n
    induction n with
    | zero => exact ⟨_, rfl, by simp⟩
    | succ n ih =>
      obtain ⟨before, hbefore, hlength⟩ := ih
      cases h : rounds t searchPaths start (n + 1) with
      | error e => exact absurd h ((hnever (n + 1)).1 e)
      | ok r =>
        obtain ⟨before', targets, hbefore', -, rfl⟩ := rounds_succ_eq_ok h
        rw [hbefore] at hbefore'
        cases hbefore'
        refine ⟨_, rfl, ?_⟩
        have hsome : fresh t before.all targets ≠ [] := by
          intro hnil
          rw [hnil] at h
          exact (hnever (n + 1)).2 _ h
        have hpos := List.length_pos_of_ne_nil hsome
        simp only [List.length_append]
        omega
  obtain ⟨r, hr, hlength⟩ := hmore t.files.length
  have hinv := rounds_inv hstart hr
  have hfiles : r.all.map (·.place t) ⊆ t.files.map (·.1) := by
    intro place hplace
    obtain ⟨f, hf, rfl⟩ := List.mem_map.mp hplace
    have hmem := mem_unseen (hinv.sound f hf).isFile [] List.not_mem_nil
    exact List.mem_of_mem_filter hmem
  have hle := hinv.once.length_le_of_subset hfiles
  simp only [List.length_map] at hle
  omega

/-! ## What is reached -/

theorem sound_of_reachable [Yaml.Reader] (hstart : start.Sound t) {f : Found}
    (h : ReflTransGen (Leads t searchPaths) start f) : f.Sound t := by
  cases h with
  | refl => exact hstart
  | tail _ h =>
    obtain ⟨ref, -, hfollow⟩ := h
    exact (followReference_eq_ok hfollow).2

/-- When the last round found nothing, a reference of a document in one of the files leads from the
path at which that file was found to one of the files. -/
theorem Rounds.Inv.covered [Yaml.Reader] (proper : t.Proper) {r : Rounds}
    (hinv : r.Inv t searchPaths start) (hlast : r.last = []) {f : Found} (hsound : f.Sound t)
    (hmem : f.place t ∈ r.all.map (·.place t)) {ref : Path × String} (href : ref ∈ f.references) :
    ∃ known ∈ r.all, f.place t = known.place t ∧ ref.1 = f.path.parent ∧
      ∃ g, followReference t searchPaths (known.path.parent, ref.2) = .ok g ∧
        g.place t ∈ r.all.map (·.place t) := by
  obtain ⟨known, hknown, hplace⟩ := List.mem_map.mp hmem
  obtain ⟨hbase, hsame⟩ :=
    hsound.same_references proper (hinv.sound known hknown) hplace.symm href
  rcases hinv.closed known hknown with hnew | hclosed
  · rw [hlast] at hnew
    cases hnew
  · exact ⟨known, hknown, hplace.symm, hbase, hclosed _ hsame⟩

/-- A document that is reached by whatever paths is in one of the files found. -/
theorem place_mem_of_reachable [Yaml.Reader] (proper : t.Proper) {r : Rounds}
    (hinv : r.Inv t searchPaths start) (hlast : r.last = []) {f : Found}
    (h : ReflTransGen (Leads t searchPaths) start f) :
    f.place t ∈ r.all.map (·.place t) := by
  obtain ⟨found, hall⟩ := hinv.starts
  have hstart : start ∈ r.all := by simp [hall]
  induction h with
  | refl => exact List.mem_map_of_mem hstart
  | @tail f g hf hleads ih =>
    obtain ⟨ref, href, hfollow⟩ := hleads
    have hsound := sound_of_reachable (hinv.sound start hstart) hf
    obtain ⟨known, hknown, hplace, hbase, g', hfollow', hmem⟩ :=
      hinv.covered proper hlast hsound ih href
    have hresolve := (followReference_eq_ok hfollow).1
    rw [hbase] at hresolve
    have hend := resolveReference_place proper hsound.isFile (hinv.sound known hknown).isFile
      hplace hresolve (followReference_eq_ok hfollow').1
    rw [Found.place, hend]
    exact hmem

/-- When the last round found nothing, a reference can fail only by the length of a way to it. -/
theorem overlong_of_reachable [Yaml.Reader] (proper : t.Proper) {r : Rounds}
    (hinv : r.Inv t searchPaths start) (hlast : r.last = []) {f : Found}
    (h : ReflTransGen (Leads t searchPaths) start f) {ref : Path × String}
    (href : ref ∈ f.references) {e : LoadError}
    (hfault : followReference t searchPaths ref = .error e) : e.IsOverlong := by
  obtain ⟨found, hall⟩ := hinv.starts
  have hsound := sound_of_reachable (hinv.sound start (by simp [hall])) h
  obtain ⟨known, hknown, hplace, hbase, g, hfollow, -⟩ :=
    hinv.covered proper hlast hsound (place_mem_of_reachable proper hinv hlast h) href
  have hfile := (hinv.sound known hknown).isFile
  obtain ⟨hresolve, hg⟩ := followReference_eq_ok hfollow
  cases hpath : resolveReference t searchPaths ref.1 ref.2 with
  | error e' =>
    rw [followReference, hpath] at hfault
    cases hfault
    rw [hbase] at hpath
    exact resolveReference_overlong proper hfile hsound.isFile hplace.symm hresolve hpath
  | ok path =>
    -- the file is one that was read before
    have hend : path.place t.cwd = g.place t := by
      rw [hbase] at hpath
      exact resolveReference_place proper hsound.isFile hfile hplace hpath hresolve
    obtain ⟨f', hf'⟩ := followReference_of_known proper hpath hg hend
    rw [hfault] at hf'
    cases hf'

/-! ## The closure -/

theorem closure_of_fault [Yaml.Reader] {path : Path} {primary : Entries} {e : LoadError}
    (h : Found.of path primary = .error e) :
    (closure (.still t) searchPaths path primary).error = some e := by
  rw [closure, Found.outgoing_eq_error h]

theorem closure_of_start [Yaml.Reader] {path : Path} {primary : Entries}
    (h : Found.of path primary = .ok start) :
    closure (.still t) searchPaths path primary
      = closeOver (.still t) searchPaths t.files.length start.references [start.place t] {} := by
  obtain ⟨rfl, rfl, hrefs⟩ := Found.of_eq_ok h
  rw [closure, hrefs]
  rfl

/-- A search that ended without a fault gives the documents of the closure. -/
theorem closure_of_rounds [Yaml.Reader] {path : Path} {primary : Entries}
    (h : Found.of path primary = .ok start) {n : Nat} {all : List Found}
    (hend : rounds t searchPaths start n = .ok { all, last := [] }) :
    ∃ found, all = start :: found ∧
      (closure (.still t) searchPaths path primary).Holds found := by
  obtain ⟨found, fuel, done, hall, hdone, -, hloop⟩ := closeOver_rounds hend
  rw [List.flatMap_nil, closeOver_nil] at hloop
  rw [closure_of_start h, hloop]
  exact ⟨found, hall, hdone⟩

section

variable {path : Path} {primary : Entries}

/-- The first fault is what the closure ends with, and it can be reached. -/
theorem error_of_firstFault [Yaml.Reader] (proper : t.Proper) (hfile : t.isFile path = .ok true)
    (hread : read t path = .ok primary) {e : LoadError}
    (h : FirstFault t searchPaths path primary e) :
    (closure (.still t) searchPaths path primary).error = some e ∧
      ReachableFault t searchPaths path primary e := by
  rcases h with hof | ⟨start, n, hof, hrounds⟩
  · exact ⟨closure_of_fault hof, .inl hof⟩
  · have hstart := Found.sound_of hfile hread hof
    obtain ⟨hloop, f, ref, hf, href, hfollow⟩ := closeOver_rounds_fault proper hstart hrounds
    rw [closure_of_start hof]
    exact ⟨hloop, .inr ⟨start, f, ref, hof, hf, href, hfollow⟩⟩

/-- There is a first fault, or the rounds end without one. -/
theorem firstFault_or_end [Yaml.Reader] (hfile : t.isFile path = .ok true)
    (hread : read t path = .ok primary) (searchPaths : List Path) :
    (∃ e, FirstFault t searchPaths path primary e) ∨
      ∃ start all n, Found.of path primary = .ok start ∧
        rounds t searchPaths start n = .ok { all, last := [] } := by
  cases hof : Found.of path primary with
  | error e => exact .inl ⟨e, .inl hof⟩
  | ok start =>
    have hstart := Found.sound_of hfile hread hof
    obtain ⟨n, ⟨e, hend⟩ | ⟨all, hend⟩⟩ := rounds_end hstart searchPaths
    · exact .inl ⟨e, .inr ⟨start, n, hof, hend⟩⟩
    · exact .inr ⟨start, all, n, rfl, hend⟩

/-- Whatever files there are, the loop that follows references ends, and it reads what the primary
document leads to, each file once and breadth first, or ends with the first fault on the way. -/
theorem closure_isExactClosure [Yaml.Reader] (proper : t.Proper) (searchPaths : List Path)
    (hfile : t.isFile path = .ok true) (hread : read t path = .ok primary) :
    IsExactClosure t searchPaths path primary (closure (.still t) searchPaths path primary) := by
  rcases firstFault_or_end hfile hread searchPaths with
    ⟨e, hfirst⟩ | ⟨start, all, n, hof, hend⟩
  · obtain ⟨hclosure, hreachable⟩ := error_of_firstFault proper hfile hread hfirst
    constructor
    case exact_of_none => exact fun h => by simp [hclosure] at h
    case error_iff =>
      intro e'
      refine ⟨fun h => ?_, fun h => (error_of_firstFault proper hfile hread h).1⟩
      rw [hclosure] at h
      cases h
      exact hfirst
    case reachable_of_error =>
      intro e' h
      rw [hclosure] at h
      cases h
      exact hreachable
    case error_of_reachable => exact fun _ _ _ => ⟨e, hclosure⟩
  · obtain ⟨found, rfl, hholds⟩ := closure_of_rounds hof hend
    have hinv := rounds_inv (Found.sound_of hfile hread hof) hend
    have hnone : ∀ {e : LoadError}, (closure (.still t) searchPaths path primary).error ≠ some e :=
      fun h => by simp [hholds.error] at h
    constructor
    case exact_of_none =>
      intro _
      refine ⟨start, found, n, hof, hend, hholds.documents, hholds.bound, hinv.once, fun place => ?_⟩
      have honce := (List.nodup_cons.mp hinv.once).1
      constructor
      · intro hplace
        obtain ⟨f, hf, rfl⟩ := List.mem_map.mp hplace
        refine ⟨fun heq => ?_, f, hinv.reachable f (List.mem_cons_of_mem _ hf), rfl⟩
        rw [heq] at hplace
        exact honce hplace
      · rintro ⟨hother, f, hf, rfl⟩
        have hmem := place_mem_of_reachable proper hinv rfl hf
        exact List.mem_of_ne_of_mem hother hmem
    case error_iff =>
      intro e
      exact ⟨fun h => absurd h hnone,
        fun h => absurd (error_of_firstFault proper hfile hread h).1 hnone⟩
    case reachable_of_error => exact fun e h => absurd h hnone
    case error_of_reachable =>
      rintro e (hof' | ⟨start', f, ref, hof', hf, href, hfault⟩) hshort
      · rw [hof] at hof'
        cases hof'
      · rw [hof] at hof'
        cases hof'
        exact absurd (overlong_of_reachable proper hinv rfl hf href hfault) hshort

end

/-! ## Two documents that refer to each other -/

/-- A document that refers to another one in two ways and to itself. -/
def leftText : String :=
  "\x7b\"references\": [\"right\", \"left.json\", \"sub/../right.json\"]\x7d"

/-- The other document, which refers back. -/
def rightText : String := "\x7b\"references\": \"left\"\x7d"

/-- The entries of the first of the two documents. -/
def leftDocument : Entries :=
  [(.text "references", .list [.text "right", .text "left.json", .text "sub/../right.json"])]

def leftPath : Path := { parts := ["left.json"] }

/-- A tree with the two documents and a directory beside them. -/
def mutualTree : FileTree :=
  { dirs := [[], ["sub"]]
    files := [(["left.json"], leftText.toUTF8), (["right.json"], rightText.toUTF8)] }

theorem mutualTree_proper : mutualTree.Proper := by
  have hdirs : ∀ place, mutualTree.hasDir place = true → place = [] ∨ place = ["sub"] := by
    intro place h
    simpa [FileTree.hasDir, mutualTree] using h
  refine ⟨by decide, fun place h => ?_, fun place h => ?_⟩
  · rcases hdirs place h with rfl | rfl <;> decide
  · rcases hdirs place h with rfl | rfl <;> rfl

theorem mutualTree_read : read mutualTree leftPath = .ok leftDocument := by
  have hcontent : mutualTree.read? leftPath = some leftText.toUTF8 := rfl
  refine read_of_json hcontent (by decide) (by decide +kernel) (by decide +kernel) ?_
  cbv

theorem mutualTree_isExactClosure :
    mutualTree.Proper ∧ mutualTree.isFile leftPath = .ok true ∧
      read mutualTree leftPath = .ok leftDocument ∧
      IsExactClosure mutualTree [] leftPath leftDocument
        (closure (.still mutualTree) [] leftPath leftDocument) :=
  ⟨mutualTree_proper, rfl, mutualTree_read,
    closure_isExactClosure mutualTree_proper [] rfl mutualTree_read⟩

end ApiShell.Document
