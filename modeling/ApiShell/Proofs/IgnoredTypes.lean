import ApiShell.Proofs.Category
import ApiShell.Proofs.Forest
import ApiShell.Synthesis
import ApiShell.Yaml.Reader

/-!
# Leaving types out

Two shells of one library that leave different types out. Declarations ask the graph for types
by id and for the types nested in a type, and for nothing else; types that are left out stay
known by id, and a type that both shells show has the same types inside it in both. So it is
declared by the same steps.
-/

namespace ApiShell

/-! ## Graphs that know the same types -/

/-- Two graphs find the same types by their ids and search for supertypes equally far. -/
structure Graph.SameTypes (g g' : Graph) : Prop where
  get?_eq : ∀ id, g.get? id = g'.get? id
  budget_eq : g.budget = g'.budget

namespace Graph.SameTypes

variable {g g' : Graph} (same : g.SameTypes g')

include same

theorem resolve?_eq (ref : TypeRef) : g.resolve? ref = g'.resolve? ref :=
  same.get?_eq _

theorem enumMembers_eq (ref : TypeRef) : g.enumMembers ref = g'.enumMembers ref := by
  simp only [enumMembers, same.resolve?_eq]

theorem isPublic_eq (ref : TypeRef) : g.isPublic ref = g'.isPublic ref := by
  simp only [isPublic, same.resolve?_eq]

theorem parents_eq (ref : TypeRef) : g.parents ref = g'.parents ref := by
  simp only [parents, same.resolve?_eq]

theorem search_eq (fuel : Nat) (s : Search) : g.search fuel s = g'.search fuel s := by
  induction fuel generalizing s with
  | zero =>
    obtain ⟨found, pending, expanded⟩ := s
    cases pending <;> simp [search]
  | succ fuel ih =>
    obtain ⟨found, pending, expanded⟩ := s
    cases pending with
    | nil => simp [search]
    | cons ref rest => simp only [search, same.parents_eq, ih]

theorem supertypes_eq (ref : TypeRef) : g.supertypes ref = g'.supertypes ref := by
  simp only [supertypes, supertypes?, searchFrom?, same.search_eq, same.budget_eq]

theorem isAssignable_eq : g.isAssignable = g'.isAssignable := by
  funext target source
  simp only [isAssignable, same.supertypes_eq]

theorem leafInterfaces_eq (d : TypeDecl) : g.leafInterfaces d = g'.leafInterfaces d := by
  simp only [leafInterfaces, same.isAssignable_eq, funext same.isPublic_eq]

/-! ## Expressions -/

theorem enumMember_eq (aliases : Bool) (ref : TypeRef) (position : Int) :
    enumMember g aliases ref position = enumMember g' aliases ref position := by
  simp only [enumMember, same.enumMembers_eq]

theorem defaultValue_eq (aliases : Bool) (ref : TypeRef) :
    defaultValue g aliases ref = defaultValue g' aliases ref := by
  unfold defaultValue
  simp only [same.enumMember_eq]

theorem returnStatement_eq (aliases : Bool) (ref : TypeRef) :
    returnStatement g aliases ref = returnStatement g' aliases ref := by
  simp only [returnStatement, same.defaultValue_eq]

theorem literal_eq (aliases : Bool) (ref : TypeRef) (value : Value) :
    literal g aliases ref value = literal g' aliases ref value := by
  unfold literal
  simp only [same.enumMember_eq]

theorem attributeLines_eq (library : Library) (aliases : Bool) (copyright : String) :
    library.attributeLines g aliases copyright = library.attributeLines g' aliases copyright := by
  have hargument : ∀ isDescription,
      Attribute.argumentText g aliases isDescription =
        Attribute.argumentText g' aliases isDescription := by
    intro isDescription
    funext a
    simp only [Attribute.argumentText, same.literal_eq]
  have hline : Attribute.line g aliases = Attribute.line g' aliases := by
    funext a
    simp only [Attribute.line, Attribute.argumentTexts, hargument]
  simp only [Library.attributeLines, hline]

/-! ## Declarations -/

section

open Emitter

variable (s : Settings) (d : TypeDecl)

theorem assignments_eq (ps : List Parameter) :
    (s.emitter g).assignments ps = (s.emitter g').assignments ps := by
  simp only [assignments, assignment, Settings.emitter, same.defaultValue_eq]

theorem constructors_eq : (s.emitter g).constructors d = (s.emitter g').constructors d := by
  have hone : (s.emitter g).constructorSteps d = (s.emitter g').constructorSteps d := by
    funext ps
    rw [constructorSteps, constructorSteps, same.assignments_eq]
    rfl
  simp only [constructors, hone]

theorem fields_eq : (s.emitter g).fields d = (s.emitter g').fields d := by
  have hone : (s.emitter g).fieldText = (s.emitter g').fieldText := by
    funext f
    have hvalue := same.literal_eq s.aliases f.type f.value
    unfold fieldText
    rw [Settings.emitter, hvalue]
    rfl
  unfold fields
  rw [hone]

theorem properties_eq : (s.emitter g).properties d = (s.emitter g').properties d := by
  have hone : ∀ inInterface, (s.emitter g).propertySteps inInterface =
      (s.emitter g').propertySteps inInterface := by
    intro inInterface
    funext p
    simp only [propertySteps, propertyBody, Settings.emitter, same.returnStatement_eq]
    rfl
  simp only [properties, hone]

theorem methods_eq : (s.emitter g).methods d = (s.emitter g').methods d := by
  have hone : (s.emitter g).methodSteps d = (s.emitter g').methodSteps d := by
    funext m
    rw [methodSteps, methodSteps, methodBody, methodBody, same.assignments_eq]
    simp only [Settings.emitter, same.returnStatement_eq]
    rfl
  simp only [methods, hone]

theorem members_eq : (s.emitter g).members d = (s.emitter g').members d := by
  have hevents : (s.emitter g).events d = (s.emitter g').events d := rfl
  rw [members, members, same.constructors_eq, same.fields_eq, same.properties_eq, hevents,
    same.methods_eq]

theorem inheritance_eq : (s.emitter g).inheritance d = (s.emitter g').inheritance d := by
  simp only [inheritance, Settings.emitter, same.leafInterfaces_eq]
  rfl

omit same

mutual

theorem declare_eq (same : g.SameTypes g') (s : Settings) : ∀ tree : Nesting,
    (s.emitter g).declare tree = (s.emitter g').declare tree
  | .node d inner => by
    unfold declare
    split
    · rw [same.fields_eq]
    · rfl
    · rw [compositeHeader, compositeHeader, same.inheritance_eq, declareAll_eq same s inner,
        same.members_eq]

theorem declareAll_eq (same : g.SameTypes g') (s : Settings) : ∀ trees : List Nesting,
    (s.emitter g).declareAll trees = (s.emitter g').declareAll trees
  | [] => rfl
  | tree :: rest => by rw [declareAll, declareAll, declare_eq same s tree, declareAll_eq same s rest]

end

end

end Graph.SameTypes

/-! ## Types known by id -/

section

variable {types : List TypeDecl} {ignored ignored' : List String} {d c : TypeDecl}

theorem shownTypes_sublist (types : List TypeDecl) (ignored : List String) :
    (shownTypes types ignored).Sublist types :=
  List.filter_sublist

/-- A lookup among some of the types finds nothing that a lookup among all of them would not. -/
theorem findType?_or_of_sublist (distinct : DistinctIds types) {shown : List TypeDecl}
    (hshown : shown.Sublist types) (id : String) :
    (findType? shown id).or (findType? types id) = findType? types id := by
  cases hfind : findType? shown id with
  | none => rfl
  | some d =>
    obtain ⟨hd, rfl⟩ := mem_of_findType? hfind
    rw [findType?_id distinct (hshown.subset hd)]
    rfl

/-- Whichever types of a library are emitted, lookups by id ask the whole library first and the
other documents then. -/
theorem get?_graph_of_sublist {loaded : Loaded} (distinct : DistinctIds loaded.library.types)
    {shown : List TypeDecl} (hshown : shown.Sublist loaded.library.types) (id : String) :
    (loaded.graph shown).get? id
      = (findType? loaded.library.types id).or (findType? loaded.external id) := by
  show findType? ((loaded.external ++ loaded.library.types) ++ shown) id = _
  rw [findType?_append, findType?_append, ← Option.or_assoc,
    findType?_or_of_sublist distinct hshown]

/-! ## Types inside a type -/

theorem AcyclicNesting.subset {sub : List TypeDecl} (acyclic : AcyclicNesting types)
    (hsub : sub ⊆ types) : AcyclicNesting sub := by
  intro d hd hself
  have wider : NestedDirectly sub ≤ NestedDirectly types := fun a b hab => ⟨hsub hab.1, hab.2⟩
  exact acyclic d (hsub hd) (Relation.TransGen.mono wider d d hself)

/-- Inside a shown type just the public types are shown. -/
theorem isShown_of_nestedDirectly (distinct : DistinctIds types) (acyclic : AcyclicNesting types)
    (hc : c ∈ types) (hcd : NestedDirectly types c d) (hd : isShown types ignored d = true) :
    isShown types ignored c = c.isPublic := by
  have hunder := ((isShown_iff distinct acyclic hcd.1).mp hd).2
  rw [← underShownType_iff_of_nestedIn distinct acyclic hc (.single hcd)] at hunder
  rw [Bool.eq_iff_iff, isShown_iff distinct acyclic hc]
  simp [hunder]

theorem nestedIn_eq_of_shown (distinct : DistinctIds types) (acyclic : AcyclicNesting types)
    {g : Graph} (hg : g.emitted = shownTypes types ignored) (hd : d ∈ types)
    (hshown : isShown types ignored d = true) :
    g.nestedIn d.id = types.filter (fun c => c.enclosing == some d.id && c.isPublic) := by
  rw [Graph.nestedIn, hg, shownTypes, List.filter_filter]
  refine List.filter_congr fun c hc => ?_
  by_cases hlink : c.enclosing = some d.id
  · rw [isShown_of_nestedDirectly distinct acyclic hc ⟨hd, hlink⟩ hshown]
  · rw [beq_false_of_ne hlink]
    simp

/-- To any depth, a type that is shown in both graphs has the same types inside it. -/
theorem nestingWithin_eq_of_shown (distinct : DistinctIds types) (acyclic : AcyclicNesting types)
    {g g' : Graph} (hg : g.emitted = shownTypes types ignored)
    (hg' : g'.emitted = shownTypes types ignored') (depth : Nat) (d : TypeDecl) (hd : d ∈ types)
    (hshown : isShown types ignored d = true) (hshown' : isShown types ignored' d = true) :
    g.nestingWithin depth d = g'.nestingWithin depth d := by
  induction depth generalizing d with
  | zero => rfl
  | succ depth ih =>
    have hinside := nestedIn_eq_of_shown distinct acyclic hg hd hshown
    have hinside' := nestedIn_eq_of_shown distinct acyclic hg' hd hshown'
    rw [Graph.nestingWithin, Graph.nestingWithin, hinside, hinside']
    congr 2
    refine List.map_congr_left fun c hc => ?_
    simp only [List.mem_filter, Bool.and_eq_true, beq_iff_eq] at hc
    obtain ⟨hc, hlink, hpublic⟩ := hc
    refine ih c hc ?_ ?_
    · rw [isShown_of_nestedDirectly distinct acyclic hc ⟨hd, hlink⟩ hshown, hpublic]
    · rw [isShown_of_nestedDirectly distinct acyclic hc ⟨hd, hlink⟩ hshown', hpublic]

theorem nesting_eq_of_shown (distinct : DistinctIds types) (acyclic : AcyclicNesting types)
    {g g' : Graph} (hg : g.emitted = shownTypes types ignored)
    (hg' : g'.emitted = shownTypes types ignored')
    (hd : d ∈ shownTypes types ignored) (hd' : d ∈ shownTypes types ignored') :
    g.nesting d = g'.nesting d := by
  have deep : ∀ {g : Graph} {ignored : List String}, g.emitted = shownTypes types ignored →
      d ∈ shownTypes types ignored → g.nestingWithin types.length d = g.nesting d := by
    intro g ignored hg hd
    have hsub : g.emitted.Sublist types := hg ▸ shownTypes_sublist types ignored
    exact nestingWithin_of_length_le (acyclic.subset hsub.subset) (hg ▸ hd) hsub.length_le
  rw [← deep hg hd, ← deep hg' hd']
  obtain ⟨hin, hshown⟩ := mem_shownTypes.mp hd
  exact nestingWithin_eq_of_shown distinct acyclic hg hg' _ d hin hshown
    (mem_shownTypes.mp hd').2

/-! ## Which types are left out -/

theorem isIgnored_mono (h : ignored ⊆ ignored') (hd : d.isIgnored ignored = true) :
    d.isIgnored ignored' = true := by
  rw [isIgnored_iff] at hd ⊢
  rcases hd with ⟨space, hspace, hne, heq⟩ | hid | hname
  · exact .inl ⟨space, h hspace, hne, heq⟩
  · exact .inr (.inl (h hid))
  · exact .inr (.inr (h hname))

/-- More ignored names leave fewer types. -/
theorem shownTypes_sublist_of_subset (h : ignored ⊆ ignored') :
    (shownTypes types ignored').Sublist (shownTypes types ignored) := by
  refine List.monotone_filter_right types fun d hd => ?_
  simp only [isShown, Bool.and_eq_true, Bool.not_eq_true'] at hd ⊢
  refine ⟨hd.1, ?_⟩
  by_contra hignored
  rw [Bool.not_eq_false] at hignored
  rw [isIgnored_mono h hignored] at hd
  exact Bool.noConfusion hd.2

/-- A choice among types: each is either shown or its id is listed as left out, both in the order
of the document. -/
structure SplitsTypes (types shown : List TypeDecl) (skipped : List String) : Prop where
  shown_eq : shown = types.filter (fun d => d.id ∉ skipped)
  skipped_eq : skipped = (types.map (·.id)).filter (fun id => id ∉ shown.map (·.id))

theorem id_mem_shownTypes (distinct : DistinctIds types) (hd : d ∈ types) :
    d.id ∈ (shownTypes types ignored).map (·.id) ↔ isShown types ignored d = true := by
  simp only [List.mem_map, mem_shownTypes]
  constructor
  · rintro ⟨e, ⟨he, hshown⟩, hid⟩
    rwa [← distinct.eq_of_id_eq he hd hid]
  · intro hshown
    exact ⟨d, ⟨hd, hshown⟩, rfl⟩

theorem shownTypes_splits (distinct : DistinctIds types) (ignored : List String) :
    SplitsTypes types (shownTypes types ignored) (skippedIds types ignored) := by
  constructor
  · rw [shownTypes]
    refine List.filter_congr fun d hd => ?_
    simp [id_mem_skippedIds distinct hd]
  · rw [skippedIds, List.filter_map]
    congr 1
    refine List.filter_congr fun d hd => ?_
    simp only [Function.comp_apply, id_mem_shownTypes distinct hd]
    simp

end

/-! ## Two shells of one library -/

open Log

/-- Whatever two lists of names are ignored, a type that both shells of an accepted library show is
declared by the same steps, which write the same lines on any writer, and the attributes of the
library are the same. Ignoring more names only takes types away, and every type is either shown or
left out. -/
theorem shells_differ_only_in_ignored [Yaml.Reader] {files : View} {searchPaths : List Path}
    {path : Path} {loaded : Loaded} (accepted : load files searchPaths path = .ok loaded)
    (acyclic : AcyclicNesting loaded.library.types) (ignored ignored' : List String) (s : Settings)
    (budget : Nat) :
    let types := loaded.library.types
    let graph := { loaded.graph (shownTypes types ignored) with budget }
    let graph' := { loaded.graph (shownTypes types ignored') with budget }
    (∀ d ∈ shownTypes types ignored, d ∈ shownTypes types ignored' →
        (s.emitter graph).declare (graph.nesting d) =
          (s.emitter graph').declare (graph'.nesting d)) ∧
      loaded.library.attributeLines graph s.aliases s.copyright =
        loaded.library.attributeLines graph' s.aliases s.copyright ∧
      (ignored ⊆ ignored' → (shownTypes types ignored').Sublist (shownTypes types ignored)) ∧
      SplitsTypes types (shownTypes types ignored) (skippedIds types ignored) := by
  intro types graph graph'
  obtain ⟨distinct, -⟩ := wellNested_of_load accepted
  have same : graph.SameTypes graph' := by
    refine ⟨fun id => ?_, rfl⟩
    exact (get?_graph_of_sublist distinct (shownTypes_sublist types ignored) id).trans
      (get?_graph_of_sublist distinct (shownTypes_sublist types ignored') id).symm
  refine ⟨?_, same.attributeLines_eq loaded.library _ _, shownTypes_sublist_of_subset,
    shownTypes_splits distinct ignored⟩
  intro d hd hd'
  have htree : graph.nesting d = graph'.nesting d :=
    nesting_eq_of_shown distinct acyclic rfl rfl hd hd'
  rw [htree, same.declare_eq s]

/-- A document with a class that holds a constant of an enum, and with that enum. -/
def paletteText : String :=
  "\x7b\"types\":[\x7b\"name\":\"A\",\"fields\":[\x7b\"name\":\"x\",\"type\":\"E\"\x7d]\x7d," ++
    "\x7b\"name\":\"E\",\"kind\":\"enum\"\x7d]\x7d"

def paletteDocument : Document.Entries :=
  [(.text "types", .list
    [.map [(.text "name", .text "A"), (.text "fields", .list
       [.map [(.text "name", .text "x"), (.text "type", .text "E")]])],
     .map [(.text "name", .text "E"), (.text "kind", .text "enum")]])]

/-- The class of that document. -/
def paletteClass : TypeDecl :=
  { id := "A", name := "A", kind := .cls,
    fields := [{ name := "x", type := { name := "E", category := .enum } }] }

/-- The types of that document. -/
def paletteTypes : List TypeDecl :=
  [paletteClass, { id := "E", name := "E", kind := .enum }]

def palettePath : Path := { parts := ["palette.json"] }

/-- A tree in which that document is the only file. -/
def paletteTree : FileTree :=
  { dirs := [[]], files := [(["palette.json"], paletteText.toUTF8)] }

theorem paletteTree_read : Document.read paletteTree palettePath = .ok paletteDocument := by
  have hcontent : paletteTree.read? palettePath = some paletteText.toUTF8 := rfl
  refine Document.read_of_json hcontent (by decide) (by decide +kernel) (by decide +kernel) ?_
  cbv

theorem paletteTree_load : load (.still paletteTree) [] palettePath =
    .ok { library := { name := "palette", types := paletteTypes } } :=
  load_of_single_document rfl paletteTree_read rfl rfl []

theorem paletteTypes_acyclic : AcyclicNesting paletteTypes := by
  refine acyclicNesting_of_rank (fun d => d.id.length) ?_
  decide

theorem paletteClass_shown : paletteClass ∈ shownTypes paletteTypes [] ∧
    paletteClass ∈ shownTypes paletteTypes ["E"] :=
  ⟨mem_shownTypes.mpr ⟨by simp [paletteTypes], by decide⟩,
    mem_shownTypes.mpr ⟨by simp [paletteTypes], by decide⟩⟩

theorem palette_shells_differ_only_in_ignored :
    load (.still paletteTree) [] palettePath =
        .ok { library := { name := "palette", types := paletteTypes } } ∧
      AcyclicNesting paletteTypes ∧
      let all : Graph := { emitted := shownTypes paletteTypes [], external := paletteTypes }
      let most : Graph := { emitted := shownTypes paletteTypes ["E"], external := paletteTypes }
      (({} : Settings).emitter all).declare (all.nesting paletteClass) =
        (({} : Settings).emitter most).declare (most.nesting paletteClass) :=
  ⟨paletteTree_load, paletteTypes_acyclic,
    (shells_differ_only_in_ignored paletteTree_load paletteTypes_acyclic [] ["E"] {}
      1000000).1 paletteClass paletteClass_shown.1 paletteClass_shown.2⟩

end ApiShell
