import ApiShell.Proofs.Acceptance
import ApiShell.Settings.Reader
import ApiShell.Yaml.Reader

/-!
# Document roots

What becomes of a file whose root is no mapping. As JSON it is refused, whatever its root is. As YAML
and as settings a root that counts as nothing, such as zero or an empty list, is taken for an empty
mapping, and a settings file of blanks alone is one before its text is read at all. Main statement:
the exact conditions for the three ways of reading, which agree on a root only where it is a mapping
or counts as something. An empty list stands at the end.
-/

namespace ApiShell

/-! ## Roots -/

/-- A value is a mapping. -/
def Value.IsMap (v : Value) : Prop := ∃ entries, v = .map entries

/-- A file is there and has a text. -/
def FileTree.Holds (t : FileTree) (path : Path) (text : String) : Prop :=
  ∃ content, t.read? path = some content ∧ Document.textOf content = .ok text

namespace Document

/-- The root of the JSON file at a path. -/
def JsonRoot (t : FileTree) (path : Path) (v : Value) : Prop :=
  path.suffix = jsonSuffix ∧ ∃ text, t.Holds path text ∧ Json.read text = .ok v

/-- The root of the YAML file at a path. -/
def YamlRoot [Yaml.Reader] (t : FileTree) (path : Path) (v : Value) : Prop :=
  path.suffix ≠ jsonSuffix ∧ ∃ text, t.Holds path text ∧ Yaml.Reader.value text = .ok v

/-- The document at a path is refused because its root is no mapping. -/
def RefusesRoot [Yaml.Reader] (t : FileTree) (path : Path) : Prop :=
  read t path = .error (.format (.rootNotMapping path.name))

/-- The document at a path is accepted. -/
def Accepts [Yaml.Reader] (t : FileTree) (path : Path) : Prop :=
  ∃ entries, read t path = .ok entries

end Document

/-- The settings file for a path, with its text and its root. -/
def Settings.HasRoot [Yaml.Reader] (t : FileTree) (path file : Path) (text : String) (v : Value) :
    Prop :=
  filePath t path = .ok file ∧ t.isThere file = .ok true ∧ t.Holds file text ∧
    Yaml.Reader.value text = .ok v

/-! ## Blank texts -/

/-- No value starts with a blank. -/
theorem Json.readValue_of_blank {c : Char} (hblank : Text.isBlank c = true) (size fuel : Nat)
    (rest : List Char) : ∃ reason, readValue size fuel (c :: rest) = .error reason := by
  have hother : ∀ d : Char, Text.isBlank d = false → c ≠ d := by
    rintro d hd rfl
    rw [hd] at hblank
    cases hblank
  have hword : readWord? (c :: rest) = none := by
    have hn := hother 'n' (by decide)
    have ht := hother 't' (by decide)
    have hf := hother 'f' (by decide)
    have hN := hother 'N' (by decide)
    have hI := hother 'I' (by decide)
    have hminus := hother '-' (by decide)
    simp [readWord?, words, Text.afterStart?, hn.symm, ht.symm, hf.symm, hN.symm, hI.symm,
      hminus.symm]
  have hdigit : Binary64.isDigit c = false := by
    rw [← Bool.not_eq_true]
    intro hc
    simp only [Binary64.isDigit, Bool.and_eq_true, decide_eq_true_eq] at hc
    have hlow : 48 ≤ c.toNat := UInt32.le_iff_toNat_le.mp hc.1
    have hhigh : c.toNat ≤ 57 := UInt32.le_iff_toNat_le.mp hc.2
    simp only [Text.isBlank, Bool.or_eq_true, Bool.and_eq_true, decide_eq_true_eq,
      beq_iff_eq] at hblank
    omega
  have hnumber : ∃ reason, readNumber false (c :: rest) = .error reason := by
    have hzero := hother '0' (by decide)
    have hrun : digitRun (c :: rest) = ([], c :: rest) := by
      simp [digitRun, hdigit]
    unfold readNumber
    split
    · next hcons => exact absurd (List.cons.inj hcons).1 hzero
    · rw [hrun]
      exact ⟨_, rfl⟩
  cases fuel with
  | zero => exact ⟨_, rfl⟩
  | succ fuel =>
    unfold readValue
    split
    · next hnil => cases hnil
    · next hcons => exact absurd (List.cons.inj hcons).1 (hother '"' (by decide))
    · next hcons => exact absurd (List.cons.inj hcons).1 (hother '[' (by decide))
    · next hcons => exact absurd (List.cons.inj hcons).1 (hother '\x7b' (by decide))
    · next hcons => exact absurd (List.cons.inj hcons).1 (hother '-' (by decide))
    · rw [hword]
      exact hnumber

/-- A blank text has no root as JSON. -/
theorem Json.read_of_allBlank {text : String} (h : Text.allBlank text = true) :
    ∃ reason, read text = .error reason := by
  have hchars : ∀ c ∈ skipGap text.toList, Text.isBlank c = true := by
    intro c hc
    exact List.all_eq_true.mp h c ((List.dropWhile_sublist _).subset hc)
  unfold read
  cases hrest : skipGap text.toList with
  | nil => exact ⟨_, rfl⟩
  | cons c rest =>
    rw [hrest] at hchars
    obtain ⟨reason, hreason⟩ := readValue_of_blank (hchars c List.mem_cons_self)
      ((c :: rest).length + 1) ((c :: rest).length + 1) rest
    simp only [hreason]
    exact ⟨_, rfl⟩

/-! ## What becomes of a root -/

namespace Document

theorem read_of_holds [Yaml.Reader] {t : FileTree} {path : Path} {text : String}
    (h : t.Holds path text) :
    read t path = (do
      let value ←
        if path.suffix = jsonSuffix then jsonValue path.name text else yamlValue path.name text
      rootEntries path.name value) := by
  obtain ⟨content, hcontent, htext⟩ := h
  simp only [read, hcontent, ofContent, htext]

theorem rootEntries_of_map {v : Value} (file : String) (h : v.IsMap) :
    ∃ entries, v = .map entries ∧ rootEntries file v = .ok entries := by
  obtain ⟨entries, rfl⟩ := h
  exact ⟨entries, rfl, rfl⟩

theorem rootEntries_of_other {v : Value} (file : String) (h : ¬ v.IsMap) :
    rootEntries file v = .error (.format (.rootNotMapping file)) := by
  cases v with
  | map entries => exact absurd ⟨entries, rfl⟩ h
  | _ => rfl

/-- A JSON file is what its root is. -/
theorem JsonRoot.read_eq [Yaml.Reader] {t : FileTree} {path : Path} {v : Value}
    (h : JsonRoot t path v) :
    read t path = rootEntries path.name v := by
  obtain ⟨hsuffix, text, hholds, hroot⟩ := h
  have hsome : Text.allBlank text = false := by
    rw [← Bool.not_eq_true]
    intro hblank
    obtain ⟨reason, hreason⟩ := Json.read_of_allBlank hblank
    rw [hroot] at hreason
    cases hreason
  have hvalue : jsonValue path.name text = .ok v := by
    simp only [jsonValue, hsome, hroot, Bool.false_eq_true, if_false]
  rw [read_of_holds hholds, if_pos hsuffix, hvalue]
  rfl

/-- A YAML file is what its root is, unless that counts as nothing. -/
theorem YamlRoot.read_eq [Yaml.Reader] {t : FileTree} {path : Path} {v : Value}
    (h : YamlRoot t path v) :
    read t path = rootEntries path.name (if v.truthy then v else .map []) := by
  obtain ⟨hsuffix, text, hholds, hroot⟩ := h
  have hvalue : yamlValue path.name text = .ok (if v.truthy then v else .map []) := by
    simp only [yamlValue, hroot]
  rw [read_of_holds hholds, if_neg hsuffix, hvalue]
  rfl

variable {t : FileTree} {path : Path} {v : Value}

theorem JsonRoot.refusesRoot_iff [Yaml.Reader] (h : JsonRoot t path v) :
    RefusesRoot t path ↔ ¬ v.IsMap := by
  rw [RefusesRoot, h.read_eq]
  by_cases hmap : v.IsMap
  · obtain ⟨entries, -, haccepted⟩ := rootEntries_of_map path.name hmap
    rw [haccepted]
    simp [hmap]
  · simp [rootEntries_of_other path.name hmap, hmap]

theorem JsonRoot.accepts_iff [Yaml.Reader] (h : JsonRoot t path v) : Accepts t path ↔ v.IsMap := by
  rw [Accepts, h.read_eq]
  by_cases hmap : v.IsMap
  · obtain ⟨entries, -, haccepted⟩ := rootEntries_of_map path.name hmap
    exact iff_of_true ⟨entries, haccepted⟩ hmap
  · simp [rootEntries_of_other path.name hmap, hmap]

/-- The root that YAML is taken for is a mapping, or it is the root that is there. -/
theorem YamlRoot.root_cases [Yaml.Reader] (h : YamlRoot t path v) :
    (v.IsMap ∨ v.truthy = false) ∧ Accepts t path ∨
      ¬ v.IsMap ∧ v.truthy = true ∧ RefusesRoot t path := by
  rw [Accepts, RefusesRoot, h.read_eq]
  cases htruthy : v.truthy with
  | false => exact .inl ⟨.inr rfl, [], rfl⟩
  | true =>
    rw [if_pos rfl]
    by_cases hmap : v.IsMap
    · obtain ⟨entries, -, haccepted⟩ := rootEntries_of_map path.name hmap
      exact .inl ⟨.inl hmap, entries, haccepted⟩
    · exact .inr ⟨hmap, rfl, rootEntries_of_other path.name hmap⟩

theorem not_accepts_of_refusesRoot [Yaml.Reader] (h : RefusesRoot t path) : ¬ Accepts t path := by
  rintro ⟨entries, haccepted⟩
  rw [RefusesRoot, haccepted] at h
  cases h

theorem YamlRoot.refusesRoot_iff [Yaml.Reader] (h : YamlRoot t path v) :
    RefusesRoot t path ↔ ¬ v.IsMap ∧ v.truthy = true := by
  rcases h.root_cases with ⟨hkind, haccepted⟩ | ⟨hmap, htruthy, hrefused⟩
  · refine iff_of_false (fun hrefused => not_accepts_of_refusesRoot hrefused haccepted) ?_
    rintro ⟨hmap, htruthy⟩
    rcases hkind with hkind | hkind
    · exact hmap hkind
    · rw [htruthy] at hkind
      cases hkind
  · exact iff_of_true hrefused ⟨hmap, htruthy⟩

theorem YamlRoot.accepts_iff [Yaml.Reader] (h : YamlRoot t path v) :
    Accepts t path ↔ v.IsMap ∨ v.truthy = false := by
  rcases h.root_cases with ⟨hkind, haccepted⟩ | ⟨hmap, htruthy, hrefused⟩
  · exact iff_of_true haccepted hkind
  · refine iff_of_false (not_accepts_of_refusesRoot hrefused) ?_
    simp [hmap, htruthy]

end Document

namespace Settings

variable {t : FileTree} {path file : Path} {text : String} {v : Value}

theorem ofEntries_nil (root : Path) : ofEntries root [] = .ok { root } := rfl

theorem ofEntries_ne_rootNotMapping (root : Path) (entries : List (Value × Value)) :
    ofEntries root entries ≠ .error .rootNotMapping := by
  intro h
  unfold ofEntries at h
  dsimp only at h
  split at h <;> cases h

theorem HasRoot.read_eq [Yaml.Reader] (h : HasRoot t path file text v) :
    ∃ content, Document.textOf content = .ok text ∧ Yaml.Reader.value text = .ok v ∧
      read t path = (readEntries file (some content)).bind (ofEntries file.parent) := by
  obtain ⟨hfile, hthere, ⟨content, hcontent, htext⟩, hroot⟩ := h
  refine ⟨content, htext, hroot, ?_⟩
  simp only [read, hfile, hthere, hcontent]
  rfl

/-- Blanks alone, and a root that counts as nothing, leave all settings as they are without a
file. -/
theorem HasRoot.read_of_nothing [Yaml.Reader] (h : HasRoot t path file text v)
    (hnothing : Text.allBlank text = true ∨ v.truthy = false) :
    read t path = .ok { root := file.parent } := by
  obtain ⟨content, htext, hroot, hread⟩ := h.read_eq
  have hentries : readEntries file (some content) = .ok [] := by
    simp only [readEntries, htext, hroot]
    by_cases hblank : Text.allBlank text = true
    · rw [if_pos hblank]
    · have hfalsy : v.truthy = false := hnothing.resolve_left hblank
      simp [hblank, hfalsy]
  rw [hread, hentries]
  exact ofEntries_nil file.parent

/-- Any other root has to be a mapping. -/
theorem HasRoot.read_of_something [Yaml.Reader] (h : HasRoot t path file text v)
    (hsome : Text.allBlank text = false) (htruthy : v.truthy = true) :
    (∃ entries, v = .map entries ∧ read t path = ofEntries file.parent entries) ∨
      ¬ v.IsMap ∧ read t path = .error .rootNotMapping := by
  obtain ⟨content, htext, hroot, hread⟩ := h.read_eq
  rw [hread]
  simp only [readEntries, htext, hroot, hsome, htruthy, if_true, Bool.false_eq_true, if_false]
  by_cases hmap : v.IsMap
  · obtain ⟨entries, rfl⟩ := hmap
    exact .inl ⟨entries, rfl, rfl⟩
  · refine .inr ⟨hmap, ?_⟩
    cases v with
    | map entries => exact absurd ⟨entries, rfl⟩ hmap
    | _ => rfl

theorem HasRoot.refused_iff [Yaml.Reader] (h : HasRoot t path file text v) :
    read t path = .error .rootNotMapping ↔
      ¬ v.IsMap ∧ v.truthy = true ∧ Text.allBlank text = false := by
  by_cases hnothing : Text.allBlank text = true ∨ v.truthy = false
  · rw [h.read_of_nothing hnothing]
    refine iff_of_false (by simp) ?_
    rintro ⟨-, htruthy, hsome⟩
    simp [htruthy, hsome] at hnothing
  · rw [not_or, Bool.not_eq_true, Bool.not_eq_false] at hnothing
    obtain ⟨hsome, htruthy⟩ := hnothing
    rcases h.read_of_something hsome htruthy with ⟨entries, rfl, hread⟩ | ⟨hmap, hread⟩
    · rw [hread]
      refine iff_of_false (ofEntries_ne_rootNotMapping file.parent entries) ?_
      rintro ⟨hmap, -⟩
      exact hmap ⟨entries, rfl⟩
    · exact iff_of_true hread ⟨hmap, htruthy, hsome⟩

end Settings

/-! ## The three ways of reading -/

open Document in
/-- When a file is refused for its root. As JSON it is exactly where the root is no mapping. As YAML
the root also has to count as something, and as settings the text must not be blank as well; a root
that counts as nothing is an empty mapping there. So JSON and YAML agree on a root exactly where it
is a mapping or counts as something. -/
theorem root_refused_iff [Yaml.Reader] (v : Value) :
    (∀ t path, JsonRoot t path v →
      (RefusesRoot t path ↔ ¬ v.IsMap) ∧ (Accepts t path ↔ v.IsMap)) ∧
    (∀ t path, YamlRoot t path v →
      (RefusesRoot t path ↔ ¬ v.IsMap ∧ v.truthy = true) ∧
        (Accepts t path ↔ v.IsMap ∨ v.truthy = false)) ∧
    (∀ t path file text, Settings.HasRoot t path file text v →
      (Settings.read t path = .error .rootNotMapping ↔
        ¬ v.IsMap ∧ v.truthy = true ∧ Text.allBlank text = false) ∧
        (Text.allBlank text = true ∨ v.truthy = false →
          Settings.read t path = .ok { root := file.parent })) ∧
    ∀ t path t' path', JsonRoot t path v → YamlRoot t' path' v →
      ((Accepts t path ↔ Accepts t' path') ↔ v.IsMap ∨ v.truthy = true) := by
  refine ⟨fun t path h => ⟨h.refusesRoot_iff, h.accepts_iff⟩,
    fun t path h => ⟨h.refusesRoot_iff, h.accepts_iff⟩,
    fun t path file text h => ⟨h.refused_iff, h.read_of_nothing⟩, ?_⟩
  intro t path t' path' hjson hyaml
  rw [hjson.accepts_iff, hyaml.accepts_iff]
  cases htruthy : v.truthy <;> simp

/-! ## Roots of small files -/

/-- A tree with one text as a JSON file, a YAML file and a settings file. -/
def rootTree (text : String) : FileTree where
  dirs := [[]]
  files := [(["root.json"], text.toUTF8), (["root.yml"], text.toUTF8),
    ([".declshell.yml"], text.toUTF8)]

theorem rootTree_roots [Yaml.Reader] (text : String) (v : Value)
    (hlines : String.ofList (Text.plainNewlines text.toList) = text)
    (hjson : Json.read text = .ok v) (hyaml : Yaml.Reader.value text = .ok v) :
    Document.JsonRoot (rootTree text) { parts := ["root.json"] } v ∧
      Document.YamlRoot (rootTree text) { parts := ["root.yml"] } v ∧
      Settings.HasRoot (rootTree text) {} { root := "/", parts := [".declshell.yml"] } text v := by
  have htext : Document.textOf text.toUTF8 = .ok text := by
    rw [Document.textOf_toUTF8, hlines]
  refine ⟨⟨by decide, text, ⟨_, rfl, htext⟩, hjson⟩, ⟨by decide, text, ⟨_, rfl, htext⟩, hyaml⟩,
    rfl, rfl, ⟨_, rfl, htext⟩, hyaml⟩

/-- A list with one item is refused in all three ways. -/
theorem oneItem_refused :
    Document.JsonRoot (rootTree "[[]]") { parts := ["root.json"] } (.list [.list []]) ∧
      Document.YamlRoot (rootTree "[[]]") { parts := ["root.yml"] } (.list [.list []]) ∧
      Settings.HasRoot (rootTree "[[]]") {} { root := "/", parts := [".declshell.yml"] } "[[]]"
        (.list [.list []]) ∧
      Document.RefusesRoot (rootTree "[[]]") { parts := ["root.json"] } ∧
      Document.RefusesRoot (rootTree "[[]]") { parts := ["root.yml"] } ∧
      Settings.read (rootTree "[[]]") {} = .error .rootNotMapping ∧
      (Document.Accepts (rootTree "[[]]") { parts := ["root.json"] } ↔
        Document.Accepts (rootTree "[[]]") { parts := ["root.yml"] }) := by
  obtain ⟨hjson, hyaml, hsettings⟩ := rootTree_roots "[[]]" (.list [.list []])
    (by decide +kernel) rfl rfl
  have hmap : ¬ (Value.list [.list []]).IsMap := by
    rintro ⟨entries, hentries⟩
    cases hentries
  obtain ⟨hasJson, hasYaml, hasSettings, hagree⟩ := root_refused_iff (.list [.list []])
  exact ⟨hjson, hyaml, hsettings, (hasJson _ _ hjson).1.mpr hmap,
    (hasYaml _ _ hyaml).1.mpr ⟨hmap, rfl⟩,
    (hasSettings _ _ _ _ hsettings).1.mpr ⟨hmap, rfl, by decide +kernel⟩,
    (hagree _ _ _ _ hjson hyaml).mpr (.inr rfl)⟩

/-- An empty list is refused as JSON, and accepted as YAML and as settings. -/
theorem emptyList_accepted :
    Document.JsonRoot (rootTree "[]") { parts := ["root.json"] } (.list []) ∧
      Document.YamlRoot (rootTree "[]") { parts := ["root.yml"] } (.list []) ∧
      Settings.HasRoot (rootTree "[]") {} { root := "/", parts := [".declshell.yml"] } "[]"
        (.list []) ∧
      ¬ (Value.list []).IsMap ∧ Value.list [] ≠ .null ∧
      Document.RefusesRoot (rootTree "[]") { parts := ["root.json"] } ∧
      Document.read (rootTree "[]") { parts := ["root.yml"] } = .ok [] ∧
      Settings.read (rootTree "[]") {} = .ok { root := { root := "/" } } := by
  obtain ⟨hjson, hyaml, hsettings⟩ := rootTree_roots "[]" (.list [])
    (by decide +kernel) rfl rfl
  have hmap : ¬ (Value.list []).IsMap := by
    rintro ⟨entries, hentries⟩
    cases hentries
  exact ⟨hjson, hyaml, hsettings, hmap, by simp, hjson.refusesRoot_iff.mpr hmap, hyaml.read_eq,
    hsettings.read_of_nothing (.inr rfl)⟩

end ApiShell
