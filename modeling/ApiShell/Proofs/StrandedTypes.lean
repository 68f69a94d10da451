import ApiShell.Proofs.Assignability
import ApiShell.Proofs.Blocks
import ApiShell.Proofs.DeclarationTrail
import ApiShell.Synthesis
import ApiShell.Template.Engine

/-!
# Stranded types

A type is shown for its own sake and that of its outermost type, but it is declared inside the
types around it. Between the two a shown type can be stranded: one of the types around it is
hidden or has no room for nested types, so that nothing declares it. Main statements: the number
of types and the ids left out that a run reports fit the declarations of the shell exactly when no
type is stranded, and an interface in a header is declared exactly when it is not stranded. The
header of a ship names an interface that is declared inside a harbor; a door to a vault at the end
has a stranded interface in its header.
-/

namespace ApiShell

open Log

/-- The type is shown, but a type around it is hidden or has no room for nested types. -/
structure Stranded (types : List TypeDecl) (ignored : List String) (d : TypeDecl) : Prop where
  isPublic : d.isPublic = true
  underShown : UnderShownType types ignored d
  between : ∃ p, NestedIn types d p ∧ (p.isPublic = false ∨ p.kind ∉ hostKinds)

/-! ## Shown and declared types -/

/-- Of two lists without repetition one of which holds the other, both are as long exactly when
they hold the same, and then they are permutations of each other. -/
theorem perm_iff_of_subset {α : Type} {a b : List α} (ha : a.Nodup) (hb : b.Nodup)
    (hab : a ⊆ b) : (a.Perm b ↔ b ⊆ a) ∧ (b.length = a.length ↔ b ⊆ a) := by
  have hperm : a.Perm b ↔ b ⊆ a := by
    constructor
    · intro h
      exact h.symm.subset
    · intro hba
      exact (ha.subperm hab).antisymm (hb.subperm hba)
  refine ⟨hperm, ?_⟩
  rw [← hperm]
  constructor
  · intro hlength
    exact (ha.subperm hab).perm_of_length_le hlength.le
  · intro h
    exact h.length_eq.symm

section

variable {types : List TypeDecl} {ignored : List String} {d : TypeDecl}

/-- The visible types are those that are shown and not stranded. -/
theorem visible_iff_not_stranded (distinct : DistinctIds types) (acyclic : AcyclicNesting types)
    (hd : d ∈ types) :
    Visible types ignored d ↔ isShown types ignored d = true ∧ ¬ Stranded types ignored d := by
  constructor
  · intro h
    refine ⟨h.isShown distinct acyclic hd, fun hstranded => ?_⟩
    obtain ⟨p, hdp, hbetween⟩ := hstranded.between
    obtain ⟨hpublic, hhost⟩ := h.around p hdp
    rcases hbetween with hhidden | hroom
    · rw [hpublic] at hhidden
      cases hhidden
    · exact hroom hhost
  · rintro ⟨hshown, hfree⟩
    obtain ⟨hpublic, hunder⟩ := (isShown_iff distinct acyclic hd).mp hshown
    obtain ⟨o, ho, -, hkept⟩ := id hunder
    refine ⟨hpublic, fun p hdp => ?_, o, ho, hkept⟩
    by_contra hbad
    refine hfree ⟨hpublic, hunder, p, hdp, ?_⟩
    rwa [not_and_or, Bool.not_eq_true] at hbad

theorem declared_isPreorder (distinct : DistinctIds types) (acyclic : AcyclicNesting types)
    (known : ∀ d ∈ types, ∀ outer, d.enclosing = some outer → ∃ p ∈ types, p.id = outer)
    {g : Graph} (hg : g.emitted = shownTypes types ignored) :
    IsVisiblePreorder types ignored g.declared :=
  (topLevel_nesting_full distinct acyclic hg).isVisiblePreorder distinct acyclic known

/-- A declared type is shown, and all shown types are declared exactly when none is stranded. -/
theorem shownTypes_subset_declared_iff (distinct : DistinctIds types)
    (acyclic : AcyclicNesting types)
    (known : ∀ d ∈ types, ∀ outer, d.enclosing = some outer → ∃ p ∈ types, p.id = outer)
    {g : Graph} (hg : g.emitted = shownTypes types ignored) :
    g.declared ⊆ shownTypes types ignored ∧
      (shownTypes types ignored ⊆ g.declared ↔ ∀ d ∈ types, ¬ Stranded types ignored d) := by
  have hdeclared := (declared_isPreorder distinct acyclic known hg).mem_iff
  refine ⟨fun d hd => ?_, ?_, ?_⟩
  · obtain ⟨hin, hvisible⟩ := (hdeclared d).mp hd
    exact mem_shownTypes.mpr ⟨hin, hvisible.isShown distinct acyclic hin⟩
  · intro hall d hd hstranded
    have hshown : isShown types ignored d = true :=
      (isShown_iff distinct acyclic hd).mpr ⟨hstranded.isPublic, hstranded.underShown⟩
    have hvisible := ((hdeclared d).mp (hall (mem_shownTypes.mpr ⟨hd, hshown⟩))).2
    exact ((visible_iff_not_stranded distinct acyclic hd).mp hvisible).2 hstranded
  · intro hfree d hd
    obtain ⟨hin, hshown⟩ := mem_shownTypes.mp hd
    exact (hdeclared d).mpr
      ⟨hin, (visible_iff_not_stranded distinct acyclic hin).mpr ⟨hshown, hfree d hin⟩⟩

/-- The ids of the types left out and those of the shown types are the ids of all types. -/
theorem skippedIds_append_perm (types : List TypeDecl) (ignored : List String) :
    (skippedIds types ignored ++ (shownTypes types ignored).map (·.id)).Perm
      (types.map (·.id)) := by
  rw [skippedIds, shownTypes, ← List.map_append]
  exact (List.perm_append_comm.trans (List.filter_append_perm _ types)).map _

/-- The shown types are as many as the declared ones, and the ids of the declared types complete
those left out, exactly when no type is stranded. -/
theorem declared_complete_iff (distinct : DistinctIds types) (acyclic : AcyclicNesting types)
    (known : ∀ d ∈ types, ∀ outer, d.enclosing = some outer → ∃ p ∈ types, p.id = outer)
    {g : Graph} (hg : g.emitted = shownTypes types ignored) :
    ((shownTypes types ignored).length = g.declared.length ↔
        ∀ d ∈ types, ¬ Stranded types ignored d) ∧
      ((skippedIds types ignored ++ g.declared.map (·.id)).Perm (types.map (·.id)) ↔
        ∀ d ∈ types, ¬ Stranded types ignored d) := by
  obtain ⟨hsub, hall⟩ := shownTypes_subset_declared_iff distinct acyclic known hg
  obtain ⟨hperm, hlength⟩ := perm_iff_of_subset
    (declared_isPreorder distinct acyclic known hg).once (distinct.nodup.filter _) hsub
  have hids : (g.declared.map (·.id)).Perm ((shownTypes types ignored).map (·.id)) ↔
      g.declared.Perm (shownTypes types ignored) := by
    constructor
    · intro h
      have hsame := h.length_eq
      rw [List.length_map, List.length_map] at hsame
      exact hperm.mpr (hlength.mp hsame.symm)
    · exact fun h => h.map _
  have hparts := skippedIds_append_perm types ignored
  refine ⟨hlength.trans hall, ?_⟩
  calc (skippedIds types ignored ++ g.declared.map (·.id)).Perm (types.map (·.id))
      ↔ (skippedIds types ignored ++ g.declared.map (·.id)).Perm
          (skippedIds types ignored ++ (shownTypes types ignored).map (·.id)) :=
        ⟨fun h => h.trans hparts.symm, fun h => h.trans hparts⟩
    _ ↔ (g.declared.map (·.id)).Perm ((shownTypes types ignored).map (·.id)) :=
        List.perm_append_left_iff _
    _ ↔ g.declared.Perm (shownTypes types ignored) := hids
    _ ↔ ∀ d ∈ types, ¬ Stranded types ignored d := hperm.trans hall

end

/-! ## Records of a run -/

theorem declarations_eq_nil {trail : List Record} (h : ∀ r ∈ trail, isDeclaration r = false) :
    declarations trail = [] := by
  rw [declarations, List.filter_eq_nil_iff]
  intro r hr
  simp [h r hr]

theorem declarations_cons_of_other {level : Level} {part : String}
    (h : isDeclaration (.of level part "") = false) (message : String) (rest : List Record) :
    declarations (.of level part message :: rest) = declarations rest := by
  rw [← List.singleton_append, declarations_append, declarations_of_other h, List.nil_append]

theorem Attribute.declarations_argumentTrail (g : Graph) (aliases isDescription : Bool)
    (a : Argument) : declarations (argumentTrail g aliases isDescription a) = [] := by
  unfold argumentTrail
  split
  · split
    · rfl
    · exact declarations_nameTrail _
  · exact declarations_literalTrail ..

theorem Library.declarations_attributesTrail (l : Library) (g : Graph) (aliases : Bool) :
    declarations (l.attributesTrail g aliases) = [] := by
  refine declarations_flatMap fun a _ => ?_
  rw [Attribute.trail, declarations_append, declarations_append, declarations_nameTrail,
    declarations_flatMap fun arg _ => Attribute.declarations_argumentTrail g aliases _ arg,
    declarations_flatMap fun named _ =>
      Attribute.declarations_argumentTrail g aliases false named.2]
  rfl

/-- Nothing is declared while a library is loaded. -/
theorem declarations_loadTrail [Yaml.Reader] (files : View) (searchPaths : List Path)
    (path : Path) :
    declarations (loadTrail files searchPaths path) = [] := by
  have hbound : ∀ c : Document.Closure, declarations c.records = [] := by
    intro c
    refine declarations_eq_nil fun r hr => ?_
    obtain ⟨bound, -, rfl⟩ := List.mem_map.mp hr
    rfl
  unfold loadTrail
  split
  · rfl
  · rfl
  · rw [readingRecord, declarations_cons_of_other (by decide)]
    split
    · rfl
    · rw [declarations_append, hbound, List.nil_append]
      split
      · exact declarations_of_other (by decide) _
      · rfl

namespace Settings

/-- Nothing is declared before the types of the library are chosen. -/
theorem declarations_choiceTrail [Yaml.Reader] (s : Settings) (files : View) (path : Path)
    (loaded : Loaded) :
    declarations (s.choiceTrail files path loaded) = [] := by
  rw [choiceTrail, declarations_append, startRecord, declarations_cons_of_other (by decide),
    declarations_loadTrail, List.nil_append, skippedTrail]
  split
  · rfl
  · exact declarations_of_other (by decide) _

/-- Writing a shell declares the types that the shell is to hold. -/
theorem declarations_renderTrail [Banner.Engine] {s : Settings} {t : FileTree} {loaded : Loaded}
    {shown : List TypeDecl} {writer : Writer} (h : s.render t loaded shown = .ok writer) :
    declarations (s.renderTrail t loaded shown) =
      declarations (s.emitter (loaded.graph shown)).typesTrail := by
  have hattributes : declarations (if s.noAttributes then []
      else loaded.library.attributesTrail (loaded.graph shown) s.aliases) = [] := by
    split
    · rfl
    · exact loaded.library.declarations_attributesTrail _ _
  simp only [renderTrail, h]
  rw [declarations_append, declarations_append, hattributes, List.nil_append,
    declarations_of_other (by decide), List.append_nil]

/-! ## What a run reports -/

/-- A shell that was made counts the shown types and lists the ids of the others, and what was
declared for it are the declared types of the graph. -/
theorem synthesize_eq_ok [Yaml.Reader] [Banner.Engine] {s : Settings} {files : View} {path : Path}
    {loaded : Loaded} (given : s.library = some path)
    (accepted : load (files.after [startRecord path]) s.searchPaths path = .ok loaded)
    {shell : Shell} (h : s.synthesize files = .ok shell) :
    let shown := shownTypes loaded.library.types s.ignored
    shell.typeCount = shown.length ∧
      shell.skipped = skippedIds loaded.library.types s.ignored ∧
      declarations (s.synthesisTrail files) =
        (loaded.graph shown).declared.map declarationRecord := by
  intro shown
  simp only [synthesize, given, accepted, bind_eq_ok_iff, pure_eq_ok_iff] at h
  obtain ⟨writer, hwriter, rfl⟩ := h
  refine ⟨rfl, rfl, ?_⟩
  simp only [synthesisTrail, given, accepted]
  rw [declarations_append, declarations_choiceTrail, List.nil_append,
    declarations_renderTrail hwriter]
  exact (Emitter.types_written_as_recorded _).2

/-- Saving a shell changes neither its number of types nor the ids left out. -/
theorem run_eq_ok [Yaml.Reader] [Banner.Engine] {s : Settings} {files : View} {shell : Shell}
    (h : (s.run files).result = .ok shell) :
    ∃ made, s.synthesize files = .ok made ∧ shell.typeCount = made.typeCount ∧
      shell.skipped = made.skipped := by
  unfold run at h
  cases hmade : s.synthesize files with
  | error error =>
    rw [hmade] at h
    cases h
  | ok made =>
    rw [hmade] at h
    refine ⟨made, rfl, ?_⟩
    cases houtput : s.output with
    | none =>
      rw [houtput] at h
      cases h
      exact ⟨rfl, rfl⟩
    | some path =>
      simp only [houtput] at h
      split at h
      · cases h
      · cases h
        exact ⟨rfl, rfl⟩

/-- A run that ends with a shell reports on the shown types and declares those of the graph. -/
theorem run_reports [Yaml.Reader] [Banner.Engine] {s : Settings} {files : View} {path : Path}
    {loaded : Loaded} {shell : Shell} (given : s.library = some path)
    (accepted : load (files.after [startRecord path]) s.searchPaths path = .ok loaded)
    (done : (s.run files).result = .ok shell) :
    let shown := shownTypes loaded.library.types s.ignored
    shell.typeCount = shown.length ∧
      shell.skipped = skippedIds loaded.library.types s.ignored ∧
      declarations (s.synthesisTrail files) =
        (loaded.graph shown).declared.map declarationRecord := by
  obtain ⟨made, hmade, hcount, hskipped⟩ := run_eq_ok done
  rw [hcount, hskipped]
  exact synthesize_eq_ok given accepted hmade

/-- A run that is not kept from its library, its comment, its indentation and its file ends with
a shell. -/
theorem exists_shell [Yaml.Reader] [Banner.Engine] {s : Settings} {files : View} {path : Path}
    {loaded : Loaded} (given : s.library = some path)
    (accepted : load (files.after [startRecord path]) s.searchPaths path = .ok loaded)
    (bare : s.banner = false) (indented : ¬ s.indentSize < 0) (unsaved : s.output = none) :
    ∃ shell, (s.run files).result = .ok shell := by
  cases hrender : s.render (files (s.choiceTrail files path loaded)) loaded
      (shownTypes loaded.library.types s.ignored) with
  | error error =>
    rcases render_eq_error hrender with ⟨refusal, hbanner, -⟩ | ⟨hindent, -⟩
    · rw [bannerOf, bare] at hbanner
      cases hbanner
    · exact absurd hindent indented
  | ok writer =>
    have hmade : s.synthesize files = .ok
        { text := writer.text
          typeCount := (shownTypes loaded.library.types s.ignored).length
          skipped := skippedIds loaded.library.types s.ignored } := by
      simp only [synthesize, given, accepted, hrender]
      rfl
    exact ⟨_, by rw [run, hmade, unsaved]⟩

/-- The records of a run name the types it declares. These are as many as it reports exactly when
no type is stranded, and exactly then their ids with those left out are the ids of all types. -/
theorem typeCount_eq_declarations_iff [Yaml.Reader] [Banner.Engine] {s : Settings} {files : View}
    {path : Path} {loaded : Loaded} {shell : Shell} (given : s.library = some path)
    (accepted : load (files.after [startRecord path]) s.searchPaths path = .ok loaded)
    (acyclic : AcyclicNesting loaded.library.types) (done : (s.run files).result = .ok shell) :
    let types := loaded.library.types
    let declared := (loaded.graph (shownTypes types s.ignored)).declared
    declarations (s.synthesisTrail files) = declared.map declarationRecord ∧
      (shell.typeCount = declared.length ↔ ∀ d ∈ types, ¬ Stranded types s.ignored d) ∧
      ((shell.skipped ++ declared.map (·.id)).Perm (types.map (·.id)) ↔
        ∀ d ∈ types, ¬ Stranded types s.ignored d) := by
  intro types declared
  obtain ⟨distinct, known⟩ := wellNested_of_load accepted
  obtain ⟨hcount, hskipped, htrail⟩ := run_reports given accepted done
  rw [hcount, hskipped]
  exact ⟨htrail, declared_complete_iff distinct acyclic known rfl⟩

end Settings

theorem nested_run_complete :
    let s : Settings := { library := some nestedPath, banner := false }
    AcyclicNesting nestedTypes ∧ ∃ shell, (s.run (.still nestedTree)).result = .ok shell ∧
      shell.typeCount = 3 ∧ (declarations (s.synthesisTrail (.still nestedTree))).length = 3 ∧
      (∀ d ∈ nestedTypes, ¬ Stranded nestedTypes [] d) ∧
      (shell.skipped ++ ({ emitted := shownTypes nestedTypes [], external := nestedTypes } :
        Graph).declared.map (·.id)).Perm (nestedTypes.map (·.id)) := by
  intro s
  have accepted : load ((View.still nestedTree).after [Settings.startRecord nestedPath]) []
      nestedPath = .ok { library := { name := "nested", types := nestedTypes } } :=
    nestedTree_load
  obtain ⟨shell, hdone⟩ := Settings.exists_shell (s := s) rfl accepted rfl (by decide) rfl
  obtain ⟨hcount, -, -⟩ := Settings.run_reports (s := s) rfl accepted hdone
  obtain ⟨htrail, hlength, hids⟩ := Settings.typeCount_eq_declarations_iff (s := s) rfl accepted
    nestedTypes_acyclic hdone
  have hfree := hlength.mp hcount
  refine ⟨nestedTypes_acyclic, shell, hdone, hcount, ?_, hfree, hids.mpr hfree⟩
  rw [htrail, List.length_map]
  rfl

/-! ## Interfaces in headers -/

/-- An interface of the library that a header names is public, and it is declared exactly when
all types around it are public and have room for it. -/
theorem leafInterface_declared_iff [Yaml.Reader] {files : View} {searchPaths : List Path}
    {path : Path} {loaded : Loaded} (accepted : load files searchPaths path = .ok loaded)
    (acyclic : AcyclicNesting loaded.library.types) (budget : Nat) {d p : TypeDecl}
    {ref : TypeRef} (hin : p ∈ loaded.library.types) :
    let types := loaded.library.types
    let graph := { loaded.graph (shownTypes types []) with budget }
    ref ∈ graph.leafInterfaces d → graph.resolve? ref = some p →
      p.isPublic = true ∧
        (p ∈ graph.declared ↔
          ∀ q, NestedIn types p q → q.isPublic = true ∧ q.kind ∈ hostKinds) := by
  intro types graph href hresolve
  obtain ⟨distinct, known⟩ := wellNested_of_load accepted
  have hpublic : p.isPublic = true := by
    rw [Graph.leafInterfaces] at href
    split at href
    · cases href
    · have hlisted := leavesOnto_subset href
      rw [List.nil_append, List.mem_filter, Graph.isPublic, hresolve] at hlisted
      exact hlisted.2
  refine ⟨hpublic, ?_⟩
  rw [(declared_isPreorder distinct acyclic known rfl : IsVisiblePreorder types [] _).mem_iff p]
  constructor
  · rintro ⟨-, hvisible⟩
    exact hvisible.around
  · intro haround
    refine ⟨hin, hpublic, haround, ?_⟩
    exact ⟨_, outermost_isOutermost distinct acyclic hin, by simp [Ignored]⟩

/-! ## A ship in a harbor -/

/-- The lines of a document with an interface inside a public class, and with a class that has it. -/
def harborLines : List String :=
  ["\x7b\"types\":[\x7b\"name\":\"Harbor\"\x7d,",
   "\x7b\"name\":\"IBerth\",\"kind\":\"interface\",\"nested_in\":\"Harbor\"\x7d,",
   "\x7b\"name\":\"Ship\",\"interfaces\":[\"Harbor+IBerth\"]\x7d]\x7d"]

def harborDocument : Document.Entries :=
  [(.text "types", .list
    [.map [(.text "name", .text "Harbor")],
     .map [(.text "name", .text "IBerth"), (.text "kind", .text "interface"),
       (.text "nested_in", .text "Harbor")],
     .map [(.text "name", .text "Ship"), (.text "interfaces", .list [.text "Harbor+IBerth"])]])]

def harborClass : TypeDecl :=
  { id := "Harbor", name := "Harbor", kind := .cls }

def berthInterface : TypeDecl :=
  { id := "Harbor+IBerth", name := "IBerth", kind := .interface, enclosing := some "Harbor" }

def berthRef : TypeRef := { name := "Harbor+IBerth" }

def shipClass : TypeDecl :=
  { id := "Ship", name := "Ship", kind := .cls, interfaces := [berthRef] }

/-- The types of that document. -/
def harborTypes : List TypeDecl := [harborClass, berthInterface, shipClass]

def harborPath : Path := { parts := ["harbor.json"] }

/-- A tree in which that document is the only file. -/
def harborTree : FileTree :=
  { dirs := [[]], files := [(["harbor.json"], (String.join harborLines).toUTF8)] }

theorem harborTree_read : Document.read harborTree harborPath = .ok harborDocument := by
  refine Document.read_of_json_lines harborLines rfl (by decide) (by decide +kernel)
    (by decide +kernel) ?_
  rw [Json.read, String.toList_join]
  cbv

theorem harborTree_load : load (.still harborTree) [] harborPath =
    .ok { library := { name := "harbor", types := harborTypes } } :=
  load_of_single_document rfl harborTree_read rfl rfl []

theorem harborTypes_acyclic : AcyclicNesting harborTypes := by
  refine acyclicNesting_of_rank (fun d => d.id.length) ?_
  decide

/-- The types of that document, all of which are shown. -/
def harborGraph : Graph := { emitted := shownTypes harborTypes [], external := harborTypes }

/-- The harbor is all that is around the berth. -/
theorem nestedIn_berth_iff {q : TypeDecl} :
    NestedIn harborTypes berthInterface q ↔ q = harborClass := by
  constructor
  · intro h
    obtain ⟨p, ⟨hp, hlink⟩, hq⟩ := Relation.TransGen.head'_iff.mp h
    have hharbor : p = harborClass := by
      simp only [harborTypes, List.mem_cons, List.not_mem_nil, or_false] at hp
      rcases hp with rfl | rfl | rfl
      · rfl
      · exact absurd hlink (by decide)
      · exact absurd hlink (by decide)
    rw [hharbor] at hq
    rcases Relation.ReflTransGen.cases_head hq with hsame | ⟨outer, ⟨-, hlink⟩, -⟩
    · exact hsame.symm
    · cases hlink
  · rintro rfl
    exact .single ⟨by simp [harborTypes], rfl⟩

theorem berth_in_header_declared :
    load (.still harborTree) [] harborPath =
        .ok { library := { name := "harbor", types := harborTypes } } ∧
      AcyclicNesting harborTypes ∧ berthInterface ∈ harborTypes ∧
      berthRef ∈ harborGraph.leafInterfaces shipClass ∧
      harborGraph.resolve? berthRef = some berthInterface ∧
      NestedIn harborTypes berthInterface harborClass ∧ berthInterface ∈ harborGraph.declared := by
  have hin : berthInterface ∈ harborTypes := by simp [harborTypes]
  have hleaf : berthRef ∈ harborGraph.leafInterfaces shipClass := by
    have hleaves : harborGraph.leafInterfaces shipClass = [berthRef] := rfl
    simp [hleaves]
  have hresolve : harborGraph.resolve? berthRef = some berthInterface := rfl
  have hiff := (leafInterface_declared_iff harborTree_load harborTypes_acyclic 1000000 hin hleaf
    hresolve).2
  refine ⟨harborTree_load, harborTypes_acyclic, hin, hleaf, hresolve, nestedIn_berth_iff.mpr rfl,
    hiff.mpr fun q hq => ?_⟩
  obtain rfl := nestedIn_berth_iff.mp hq
  exact ⟨rfl, by decide⟩

/-! ## A door to a vault -/

/-- The lines of a document with a vault, a hidden safe in it and a key in the safe, and with a
door that has both the key and a lock as interfaces. -/
def vaultLines : List String :=
  ["\x7b\"types\":[\x7b\"name\":\"Vault\"\x7d,",
   "\x7b\"name\":\"Safe\",\"nested_in\":\"Vault\",\"public\":false\x7d,",
   "\x7b\"name\":\"IKey\",\"kind\":\"interface\",\"nested_in\":\"Vault+Safe\"\x7d,",
   "\x7b\"name\":\"ILock\",\"kind\":\"interface\"\x7d,",
   "\x7b\"name\":\"Door\",\"interfaces\":[\"Vault+Safe+IKey\",\"ILock\"]\x7d]\x7d"]

def vaultText : String := String.join vaultLines

def vaultDocument : Document.Entries :=
  [(.text "types", .list
    [.map [(.text "name", .text "Vault")],
     .map [(.text "name", .text "Safe"), (.text "nested_in", .text "Vault"),
       (.text "public", .bool false)],
     .map [(.text "name", .text "IKey"), (.text "kind", .text "interface"),
       (.text "nested_in", .text "Vault+Safe")],
     .map [(.text "name", .text "ILock"), (.text "kind", .text "interface")],
     .map [(.text "name", .text "Door"), (.text "interfaces", .list
       [.text "Vault+Safe+IKey", .text "ILock"])]])]

def vaultClass : TypeDecl :=
  { id := "Vault", name := "Vault", kind := .cls }

def safeClass : TypeDecl :=
  { id := "Vault+Safe", name := "Safe", kind := .cls, enclosing := some "Vault",
    isPublic := false }

def keyInterface : TypeDecl :=
  { id := "Vault+Safe+IKey", name := "IKey", kind := .interface,
    enclosing := some "Vault+Safe" }

def lockInterface : TypeDecl :=
  { id := "ILock", name := "ILock", kind := .interface }

def doorClass : TypeDecl :=
  { id := "Door", name := "Door", kind := .cls,
    interfaces := [{ name := "Vault+Safe+IKey" }, { name := "ILock" }] }

/-- The types of that document. -/
def vaultTypes : List TypeDecl :=
  [vaultClass, safeClass, keyInterface, lockInterface, doorClass]

def vaultPath : Path := { parts := ["vault.json"] }

/-- A tree in which that document is the only file. -/
def vaultTree : FileTree :=
  { dirs := [[]], files := [(["vault.json"], vaultText.toUTF8)] }

theorem vaultTree_read : Document.read vaultTree vaultPath = .ok vaultDocument := by
  refine Document.read_of_json_lines vaultLines rfl (by decide) (by decide +kernel)
    (by decide +kernel) ?_
  rw [Json.read, String.toList_join]
  cbv

theorem vaultTree_load : load (.still vaultTree) [] vaultPath =
    .ok { library := { name := "vault", types := vaultTypes } } :=
  load_of_single_document rfl vaultTree_read rfl rfl []

theorem vaultTypes_acyclic : AcyclicNesting vaultTypes := by
  refine acyclicNesting_of_rank (fun d => d.id.length) ?_
  decide

/-- The types of that document with those of them that are shown. -/
def vaultGraph : Graph := { emitted := shownTypes vaultTypes [], external := vaultTypes }

theorem vaultGraph_declared : vaultGraph.declared = [vaultClass, lockInterface, doorClass] := rfl

theorem vaultGraph_doorLeaves : vaultGraph.leafInterfaces doorClass =
    [{ name := "Vault+Safe+IKey" }, { name := "ILock" }] := by
  have hpublic : doorClass.interfaces.filter vaultGraph.isPublic = doorClass.interfaces := rfl
  have hkey : vaultGraph.isAssignable { name := "Vault+Safe+IKey" } { name := "ILock" } =
      false := by decide +kernel
  have hlock : vaultGraph.isAssignable { name := "ILock" } { name := "Vault+Safe+IKey" } =
      false := by decide +kernel
  rw [Graph.leafInterfaces, if_neg (by decide), hpublic]
  simp [leaves, leavesOnto, doorClass, hkey, hlock]

/-- The header of the door names the key, which nothing declares: the safe around it is
hidden. -/
theorem key_in_header_undeclared :
    load (.still vaultTree) [] vaultPath =
        .ok { library := { name := "vault", types := vaultTypes } } ∧
      AcyclicNesting vaultTypes ∧ doorClass ∈ vaultGraph.declared ∧
      ({ name := "Vault+Safe+IKey" } : TypeRef) ∈ vaultGraph.leafInterfaces doorClass ∧
      vaultGraph.resolve? { name := "Vault+Safe+IKey" } = some keyInterface ∧
      keyInterface ∈ vaultTypes ∧ keyInterface ∉ vaultGraph.declared ∧
      NestedIn vaultTypes keyInterface safeClass ∧ safeClass.isPublic = false := by
  refine ⟨vaultTree_load, vaultTypes_acyclic, by simp [vaultGraph_declared],
    by simp [vaultGraph_doorLeaves], rfl, by simp [vaultTypes], ?_,
    .single ⟨by simp [vaultTypes], rfl⟩, rfl⟩
  simp [vaultGraph_declared, keyInterface, vaultClass, lockInterface, doorClass]

/-- A run on the vault reports four types, although it declares three, and names the safe alone
as left out, so that the key is neither declared nor left out. -/
theorem vault_count_exceeds_declarations :
    let s : Settings := { library := some vaultPath, banner := false }
    AcyclicNesting vaultTypes ∧ ∃ shell, (s.run (.still vaultTree)).result = .ok shell ∧
      shell.typeCount = 4 ∧ (declarations (s.synthesisTrail (.still vaultTree))).length = 3 ∧
      vaultTypes.map (·.id) = ["Vault", "Vault+Safe", "Vault+Safe+IKey", "ILock", "Door"] ∧
      shell.skipped ++ vaultGraph.declared.map (·.id) =
        ["Vault+Safe", "Vault", "ILock", "Door"] := by
  intro s
  have accepted : load ((View.still vaultTree).after [Settings.startRecord vaultPath]) []
      vaultPath = .ok { library := { name := "vault", types := vaultTypes } } := vaultTree_load
  obtain ⟨shell, hdone⟩ := Settings.exists_shell (s := s) rfl accepted rfl (by decide) rfl
  obtain ⟨hcount, hskipped, htrail⟩ := Settings.run_reports (s := s) rfl accepted hdone
  refine ⟨vaultTypes_acyclic, shell, hdone, hcount, ?_, rfl, ?_⟩
  · rw [htrail, List.length_map]
    rfl
  · rw [hskipped]
    rfl

end ApiShell
