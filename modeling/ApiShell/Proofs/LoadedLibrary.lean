import ApiShell.Proofs.Category
import ApiShell.Proofs.Grammar
import ApiShell.Yaml.Reader

/-!
# Loaded libraries

What holds of every library that was loaded, and what the later stages rely on without asking: ids
are distinct and follow the document, enclosing types are there, no by-reference mark is left in
the name of a reference at any depth, and the graph lists every type once, at the top or under the
type around it.
-/

namespace ApiShell

/-! ## References in a library -/

namespace TypeRef

/-- A reference stands in another: it is that reference, or it stands in one of its arguments. -/
inductive StandsIn (part : TypeRef) : TypeRef → Prop where
  | itself : part.StandsIn part
  | argument {ref arg : TypeRef} (listed : arg ∈ ref.args) (inside : part.StandsIn arg) :
      part.StandsIn ref

/-- No by-reference mark is left at the end of a name, at any depth. -/
def Unmarked (ref : TypeRef) : Prop :=
  ∀ part : TypeRef, part.StandsIn ref → Text.endsWith '&' part.name = false

theorem unmarked_of_args {ref : TypeRef} (hname : Text.endsWith '&' ref.name = false)
    (hargs : ∀ arg ∈ ref.args, arg.Unmarked) : ref.Unmarked := by
  intro part hpart
  cases hpart with
  | itself => exact hname
  | argument listed inside => exact hargs _ listed part inside

theorem void_unmarked : void.Unmarked := by
  refine unmarked_of_args (by decide) ?_
  intro arg harg
  cases harg

theorem endsWith_elementName (name : String) : Text.endsWith '&' (elementName name) = false := by
  have hhead : ∀ chars : List Char, (chars.dropWhile (· = '&')).head? ≠ some '&' := by
    intro chars h
    have hnot := List.head?_dropWhile_not (· = '&') chars
    rw [h] at hnot
    simp at hnot
  simpa [Text.endsWith, elementName, Text.trimEnd, Text.dropEnd] using hhead name.toList.reverse

theorem endsWith_of_elementName {name : String} (h : elementName name = name) :
    Text.endsWith '&' name = false := by
  rw [← h]
  exact endsWith_elementName name

end TypeRef

/-- The references that a property is declared with. -/
def Property.refs (p : Property) : List TypeRef :=
  p.type :: p.indexParameters.map (·.type)

/-- The references that a method is declared with. -/
def Method.refs (m : Method) : List TypeRef :=
  m.returns :: m.baseDefinition.toList ++ m.parameters.map (·.type)

/-- The references that a type is declared with: its parents and those of its members. -/
def TypeDecl.refs (d : TypeDecl) : List TypeRef :=
  d.base.toList ++ d.interfaces ++ d.constructors.flatten.map (·.type) ++
    d.fields.map (·.type) ++ d.properties.flatMap (·.refs) ++ d.events.map (·.handler) ++
    d.methods.flatMap (·.refs)

/-- The types that the arguments of an attribute are written at. -/
def Attribute.refs (a : Attribute) : List TypeRef :=
  a.arguments.map (·.type) ++ a.named.map (·.2.type)

/-- The references of a loaded library: of its types, of the types of other libraries and of its
attributes. -/
def Loaded.refs (l : Loaded) : List TypeRef :=
  (l.library.types ++ l.external).flatMap (·.refs) ++ l.library.attributes.flatMap (·.refs)

namespace Document

open TypeRef

theorem bound_args {scope : Scope} {entries : Entries} {args : List TypeRef} {text : String}
    {r : TypeRef} (h : scope.bound entries args text = .ok r) : r.args = args := by
  simp only [Scope.bound] at h
  split at h
  · cases h
    rfl
  · split at h
    · cases h
      rfl
    · cases h

mutual

/-- A reference that was read has no mark left, nor have those in it. The induction follows the
nesting of the document. -/
theorem reference_unmarked (scope : Scope) : ∀ (value : Value) {r : TypeRef},
    reference scope value = .ok r → r.Unmarked
  | .null, _, h => by
    cases h
    exact void_unmarked
  | .text s, _, h => by
    cases h
    refine unmarked_of_args (endsWith_of_elementName (elementName_of_split s)) ?_
    intro arg harg
    cases harg
  | .map entries, _, h => by
    simp only [reference, bind_eq_ok_iff] at h
    obtain ⟨text, -, args, hargs, h⟩ := h
    refine unmarked_of_args (endsWith_of_elementName (bound_eq_ok h).1) ?_
    rw [bound_args h]
    exact argumentsIn_unmarked scope entries hargs
  | .bool _, _, h | .int _, _, h | .float _, _, h | .moment _, _, h | .list _, _, h => by
    cases h

theorem argumentsIn_unmarked (scope : Scope) : ∀ (entries : Entries) {refs : List TypeRef},
    argumentsIn scope entries = .ok refs → ∀ r ∈ refs, r.Unmarked
  | [], _, h => by
    cases h
    simp
  | (key, value) :: rest, _, h => by
    by_cases hkey : key = .text "arguments"
    · subst hkey
      rw [argumentsIn] at h
      exact argumentList_unmarked scope value h
    · rw [argumentsIn] at h
      · exact argumentsIn_unmarked scope rest h
      · exact hkey

theorem argumentList_unmarked (scope : Scope) : ∀ (value : Value) {refs : List TypeRef},
    argumentList scope value = .ok refs → ∀ r ∈ refs, r.Unmarked
  | .null, _, h => by
    cases h
    simp
  | .list items, _, h => by
    rw [argumentList] at h
    exact references_unmarked scope items h
  | .text _, _, h | .map _, _, h | .bool _, _, h | .int _, _, h | .float _, _, h
  | .moment _, _, h => by
    cases h

theorem references_unmarked (scope : Scope) : ∀ (items : List Value) {refs : List TypeRef},
    references scope items = .ok refs → ∀ r ∈ refs, r.Unmarked
  | [], _, h => by
    cases h
    simp
  | item :: rest, _, h => by
    simp only [references, bind_eq_ok_iff, pure_eq_ok_iff] at h
    obtain ⟨ref, href, refs, hrefs, rfl⟩ := h
    exact List.forall_mem_cons.mpr
      ⟨reference_unmarked scope item href, references_unmarked scope rest hrefs⟩

end

theorem optionalReference_unmarked {scope : Scope} {value : Value} {ref : Option TypeRef}
    (h : optionalReference scope value = .ok ref) : ∀ r ∈ ref.toList, r.Unmarked := by
  unfold optionalReference at h
  split at h
  · cases h
    simp
  · cases href : reference scope value with
    | error e =>
      rw [href] at h
      cases h
    | ok r =>
      rw [href] at h
      cases h
      simpa using reference_unmarked scope value href

/-! ## Members and types -/

/-- What every step for an item gives holds of all the results for a list. -/
theorem forall_of_mapM {ε α β : Type} {step : α → Except ε β} {p : β → Prop} {items : List α}
    {results : List β} (h : items.mapM step = .ok results)
    (each : ∀ item b, step item = .ok b → p b) : ∀ b ∈ results, p b := by
  intro b hb
  obtain ⟨item, -, hstep⟩ := exists_of_forall₂ (forall₂_of_mapM h) hb
  exact each item b hstep

theorem parameters_unmarked {scope : Scope} {value : Value} {ps : List Parameter}
    (h : parameters scope value = .ok ps) : ∀ p ∈ ps, p.type.Unmarked := by
  rw [parameters, bind_eq_ok_iff] at h
  obtain ⟨found, -, h⟩ := h
  refine forall_of_mapM h fun entries p hp => ?_
  unfold parameter at hp
  dsimp only at hp
  split at hp
  · cases hp
  · simp only [bind_eq_ok_iff, pure_eq_ok_iff] at hp
    obtain ⟨name, -, type, htype, rfl⟩ := hp
    exact reference_unmarked scope _ htype

theorem field_unmarked {scope : Scope} {entries : Entries} {f : Field}
    (h : field scope entries = .ok f) : f.type.Unmarked := by
  simp only [field, bind_eq_ok_iff, pure_eq_ok_iff] at h
  obtain ⟨name, -, type, htype, rfl⟩ := h
  exact reference_unmarked scope _ htype

theorem property_unmarked {scope : Scope} {value : Value} {p : Property}
    (h : property scope value = .ok p) : ∀ r ∈ p.refs, r.Unmarked := by
  simp only [property, bind_eq_ok_iff, pure_eq_ok_iff] at h
  obtain ⟨entries, -, name, -, type, htype, indexParameters, hindex, rfl⟩ := h
  refine List.forall_mem_cons.mpr ⟨reference_unmarked scope _ htype, ?_⟩
  exact List.forall_mem_map.mpr (parameters_unmarked hindex)

theorem event_unmarked {scope : Scope} {privateFields : List String} {value : Value} {ev : Event}
    (h : event scope privateFields value = .ok ev) : ev.handler.Unmarked := by
  simp only [event, bind_eq_ok_iff, pure_eq_ok_iff] at h
  obtain ⟨entries, -, name, -, handler, hhandler, rfl⟩ := h
  exact reference_unmarked scope _ hhandler

theorem method_unmarked {scope : Scope} {properties events : List String} {value : Value}
    {m : Method} (h : method scope properties events value = .ok m) :
    ∀ r ∈ m.refs, r.Unmarked := by
  simp only [method, bind_eq_ok_iff] at h
  obtain ⟨entries, -, name, -, generics, -, h⟩ := h
  -- the role is read in one of two ways, and all else in the same way after it
  split at h <;> simp only [bind_eq_ok_iff, pure_eq_ok_iff] at h <;>
    obtain ⟨accessor, -, returns, hreturns, parameters, hparameters, base, hbase, rfl⟩ := h
  all_goals
    refine List.forall_mem_cons.mpr ⟨reference_unmarked _ _ hreturns, ?_⟩
    refine List.forall_mem_append.mpr ⟨optionalReference_unmarked hbase, ?_⟩
    exact List.forall_mem_map.mpr (parameters_unmarked hparameters)

theorem type_unmarked {kinds : Kinds} {value : Value} {d : TypeDecl}
    (h : type kinds value = .ok d) : ∀ r ∈ d.refs, r.Unmarked := by
  obtain ⟨entries, -, hreads⟩ := readsType_of_type h
  obtain ⟨privateFields, -, hevents⟩ := hreads.events
  obtain ⟨constructorEntries, -, hconstructors⟩ := hreads.constructors
  obtain ⟨fieldEntries, -, hfields⟩ := hreads.fields
  simp only [TypeDecl.refs, List.forall_mem_append, List.forall_mem_map, List.mem_flatMap,
    List.mem_flatten, forall_exists_index, and_imp]
  refine ⟨⟨⟨⟨⟨⟨?_, ?_⟩, ?_⟩, ?_⟩, ?_⟩, ?_⟩, ?_⟩
  · exact optionalReference_unmarked hreads.base
  · exact forall_of_mapM hreads.interfaces fun value r hr => reference_unmarked _ value hr
  · intro p ps hps hp
    exact forall_of_mapM hconstructors (fun _ _ hread => parameters_unmarked hread) ps hps p hp
  · exact forall_of_mapM hfields fun _ _ hread => field_unmarked hread
  · intro r p hp hr
    exact forall_of_mapM hreads.properties (fun _ _ hread => property_unmarked hread) p hp r hr
  · exact forall_of_mapM hevents fun _ _ hread => event_unmarked hread
  · intro r m hm hr
    exact forall_of_mapM hreads.methods (fun _ _ hread => method_unmarked hread) m hm r hr

theorem types_unmarked {kinds : Kinds} {document : Entries} {types : List TypeDecl}
    (h : Document.types kinds document = .ok types) : ∀ d ∈ types, ∀ r ∈ d.refs, r.Unmarked := by
  obtain ⟨values, -, -, hread⟩ := types_eq_ok h
  intro d hd
  obtain ⟨value, -, htype⟩ := exists_of_forall₂ hread hd
  exact type_unmarked htype

/-! ## Attributes -/

theorem argument_unmarked {kinds : Kinds} {value : Value} {a : Argument}
    (h : argument kinds value = .ok a) : a.type.Unmarked := by
  have hread : ∃ scope stated, reference scope stated = .ok a.type := by
    unfold argument at h
    split at h
    · dsimp only at h
      split at h <;> simp only [bind_eq_ok_iff, pure_eq_ok_iff] at h <;>
        obtain ⟨type, htype, rfl⟩ := h <;> exact ⟨_, _, htype⟩
    · simp only [bind_eq_ok_iff, pure_eq_ok_iff] at h
      obtain ⟨type, htype, rfl⟩ := h
      exact ⟨_, _, htype⟩
  obtain ⟨scope, stated, htype⟩ := hread
  exact reference_unmarked scope stated htype

theorem libraryAttribute_unmarked {kinds : Kinds} {value : Value} {a : Attribute}
    (h : libraryAttribute kinds value = .ok a) : ∀ r ∈ a.refs, r.Unmarked := by
  simp only [libraryAttribute, bind_eq_ok_iff, pure_eq_ok_iff] at h
  obtain ⟨entries, -, stated, -, typeName, -, items, -, h⟩ := h
  obtain ⟨arguments, harguments, named, hnamed, rfl⟩ := h
  simp only [Attribute.refs, List.forall_mem_append, List.forall_mem_map]
  refine ⟨forall_of_mapM harguments fun _ _ hread => argument_unmarked hread, ?_⟩
  refine forall_of_mapM hnamed fun entry b hb => ?_
  simp only [namedArgument, bind_eq_ok_iff, pure_eq_ok_iff] at hb
  obtain ⟨a, ha, rfl⟩ := hb
  exact argument_unmarked ha

theorem library_attributes {kinds : Kinds} {fallback : String} {document : Entries} {l : Library}
    (h : library kinds fallback document = .ok l) :
    ∀ a ∈ l.attributes, ∀ r ∈ a.refs, r.Unmarked := by
  rw [library, bind_eq_ok_iff] at h
  obtain ⟨types, -, h⟩ := h
  split at h
  · cases h
  · simp only [bind_eq_ok_iff, pure_eq_ok_iff] at h
    obtain ⟨items, -, attributes, hattributes, references, -, rfl⟩ := h
    exact forall_of_mapM hattributes fun _ _ hread => libraryAttribute_unmarked hread

theorem refs_unmarked_of_assemble {fallback : String} {primary : Entries}
    {secondary : List Entries} {loaded : Loaded}
    (h : assemble fallback primary secondary = .ok loaded) : ∀ r ∈ loaded.refs, r.Unmarked := by
  obtain ⟨tables, external, -, hlibrary, hexternal, hloaded⟩ := assemble_eq_ok h
  have htypes := types_unmarked (library_eq_ok hlibrary).1
  have hothers : ∀ d ∈ external.flatten, ∀ r ∈ d.refs, r.Unmarked := by
    intro d hd
    obtain ⟨types, htypes, hd⟩ := List.mem_flatten.mp hd
    exact forall_of_mapM hexternal (fun _ _ hread => types_unmarked hread) types htypes d hd
  rw [Loaded.refs, hloaded]
  refine List.forall_mem_append.mpr ⟨fun r hr => ?_, fun r hr => ?_⟩
  · obtain ⟨d, hd, hr⟩ := List.mem_flatMap.mp hr
    rcases List.mem_append.mp hd with hd | hd
    · exact htypes d hd r hr
    · exact hothers d hd r hr
  · obtain ⟨a, ha, hr⟩ := List.mem_flatMap.mp hr
    exact library_attributes hlibrary a ha r hr

end Document

/-! ## The index of the graph -/

/-- The emitted types as the graph lists them: those at the top, then under each type those
directly in it. -/
def Graph.index (g : Graph) : List TypeDecl :=
  g.topLevel ++ g.emitted.flatMap fun d => g.nestedIn d.id

section

variable {g : Graph}

theorem mem_index (known : ∀ d ∈ g.emitted, ∀ outer, d.enclosing = some outer →
    ∃ p ∈ g.emitted, p.id = outer) (d : TypeDecl) : d ∈ g.index ↔ d ∈ g.emitted := by
  simp only [Graph.index, Graph.topLevel, Graph.nestedIn, List.mem_append, List.mem_flatMap,
    List.mem_filter, beq_iff_eq, Option.isNone_iff_eq_none]
  constructor
  · rintro (⟨hd, -⟩ | ⟨p, -, hd, -⟩)
    · exact hd
    · exact hd
  · intro hd
    cases hlink : d.enclosing with
    | none => exact .inl ⟨hd, rfl⟩
    | some outer =>
      obtain ⟨p, hp, rfl⟩ := known d hd outer hlink
      exact .inr ⟨p, hp, hd, rfl⟩

/-- No type is listed twice: it names at most one type around it, and an id is that of one
type. -/
theorem index_nodup (distinct : DistinctIds g.emitted) : g.index.Nodup := by
  have hnodup := distinct.nodup
  refine List.nodup_append'.mpr ⟨hnodup.filter _, ?_, ?_⟩
  · refine List.nodup_flatMap.mpr ⟨fun p _ => hnodup.filter _, ?_⟩
    have hapart : g.emitted.Pairwise fun p q => p.id ≠ q.id := List.pairwise_map.mp distinct
    refine hapart.imp fun {p q} hne d hp hq => hne ?_
    simp only [Graph.nestedIn, List.mem_filter, beq_iff_eq] at hp hq
    exact Option.some.inj (hp.2.symm.trans hq.2)
  · intro d htop hinner
    obtain ⟨p, -, hd⟩ := List.mem_flatMap.mp hinner
    simp only [Graph.topLevel, Graph.nestedIn, List.mem_filter, beq_iff_eq,
      Option.isNone_iff_eq_none] at htop hd
    rw [htop.2] at hd
    cases hd.2

theorem index_perm (distinct : DistinctIds g.emitted)
    (known : ∀ d ∈ g.emitted, ∀ outer, d.enclosing = some outer → ∃ p ∈ g.emitted, p.id = outer) :
    g.index.Perm g.emitted :=
  (List.perm_ext_iff_of_nodup (index_nodup distinct) distinct.nodup).mpr (mem_index known)

end

/-! ## Well-formed libraries -/

open Log

/-- What the later stages rely on in a library that was loaded from a primary document. -/
structure Loaded.WellFormed (l : Loaded) (primary : Document.Entries) : Prop where
  /-- The types stand in the order of their entries. -/
  ordered : l.library.types.map (·.id) =
    (Document.itemsOf (Value.get primary "types")).map Document.entryId
  distinct : DistinctIds l.library.types
  enclosed : ∀ d ∈ l.library.types, ∀ outer, d.enclosing = some outer →
    ∃ p ∈ l.library.types, p.id = outer
  unmarked : ∀ ref ∈ l.refs, ∀ part : TypeRef, part.StandsIn ref →
    Text.endsWith '&' part.name = false
  /-- The graph lists every type once and nothing else. -/
  indexed : (l.graph l.library.types).index.Perm (l.graph l.library.types).emitted

/-- Every library that is loaded is well formed. -/
theorem loaded_wellFormed [Yaml.Reader] {files : View} {searchPaths : List Path} {path : Path}
    {loaded : Loaded} (accepted : load files searchPaths path = .ok loaded) :
    ∃ primary, Document.read (files [readingRecord path]) path = .ok primary ∧
      loaded.WellFormed primary := by
  obtain ⟨primary, hread, -, hassemble⟩ := load_eq_ok accepted
  obtain ⟨hdistinct, hknown⟩ := wellNested_of_assemble hassemble
  obtain ⟨tables, -, -, hlibrary, -, -⟩ := Document.assemble_eq_ok hassemble
  obtain ⟨values, hvalues, -, htypes⟩ := Document.types_eq_ok (Document.library_eq_ok hlibrary).1
  refine ⟨primary, hread, ?_, hdistinct, hknown, ?_, ?_⟩
  · rw [Document.itemsOf_of_list hvalues]
    exact Document.ids_of_types htypes
  · exact Document.refs_unmarked_of_assemble hassemble
  · exact index_perm hdistinct hknown

/-! ## A map passed by reference -/

/-- The lines of a document in which a nested type comes before the type around it and has a
field with marks at two depths. -/
def entryLines : List String :=
  ["\x7b\"types\":[\x7b\"name\":\"Entry\",\"nested_in\":\"Map\",\"fields\":[",
   "\x7b\"name\":\"owner\",\"type\":\x7b\"name\":\"Map&\",\"arguments\":[\"K&&\"]\x7d\x7d",
   "]\x7d,\x7b\"name\":\"Map\"\x7d]\x7d"]

def entryDocument : Document.Entries :=
  [(.text "types", .list
    [.map [(.text "name", .text "Entry"), (.text "nested_in", .text "Map"),
       (.text "fields", .list
         [.map [(.text "name", .text "owner"), (.text "type", .map
           [(.text "name", .text "Map&"), (.text "arguments", .list [.text "K&&"])])]])],
     .map [(.text "name", .text "Map")]])]

def ownerRef : TypeRef :=
  { name := "Map", args := [{ name := "K", byRef := true }], byRef := true }

def entryTypes : List TypeDecl :=
  [{ id := "Map+Entry", name := "Entry", kind := .cls, enclosing := some "Map",
     fields := [{ name := "owner", type := ownerRef }] },
   { id := "Map", name := "Map", kind := .cls }]

def entryPath : Path := { parts := ["entry.json"] }

/-- A tree in which that document is the only file. -/
def entryTree : FileTree :=
  { dirs := [[]], files := [(["entry.json"], (String.join entryLines).toUTF8)] }

theorem entryTree_read : Document.read entryTree entryPath = .ok entryDocument := by
  refine Document.read_of_json_lines entryLines rfl (by decide) (by decide +kernel)
    (by decide +kernel) ?_
  rw [Json.read, String.toList_join]
  cbv

theorem entryTree_load : load (.still entryTree) [] entryPath =
    .ok { library := { name := "entry", types := entryTypes } } :=
  load_of_single_document rfl entryTree_read rfl rfl []

theorem entryTree_wellFormed :
    load (.still entryTree) [] entryPath =
        .ok { library := { name := "entry", types := entryTypes } } ∧
      Loaded.WellFormed { library := { name := "entry", types := entryTypes } } entryDocument := by
  obtain ⟨primary, hread, hwellFormed⟩ := loaded_wellFormed entryTree_load
  rw [View.still_apply, entryTree_read] at hread
  cases hread
  exact ⟨entryTree_load, hwellFormed⟩

end ApiShell
