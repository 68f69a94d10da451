import ApiShell.Proofs.Acceptance
import ApiShell.Proofs.Text

/-!
# Inferred categories

A reference that states no category takes the one of the type it names, as far as that type is
known. Two tables know the types: the kinds that all documents announce, which reading uses, and
the graph, which everything after reading uses. In the first a later document overrides an
earlier one, the library itself included; in the second the library overrides the documents it
refers to. Main statement: an inferred category follows the graph unless the library and such a
document declare one id with kinds that references tell apart.
-/

namespace ApiShell

/-- The category of references to types of a kind. -/
def Kind.category : Kind → Category
  | .enum => .enum
  | .struct => .valueType
  | _ => .reference

/-- The category of a reference says what the graph knows of the type that it points at. -/
structure FollowsGraph (g : Graph) (r : TypeRef) : Prop where
  enum_iff : r.category = .enum ↔ ∃ d, g.resolve? r = some d ∧ d.kind = .enum
  valueType_iff : r.category = .valueType ↔ ∃ d, g.resolve? r = some d ∧ d.kind = .struct
  reference_iff : r.category = .reference ↔
    ∀ d, g.resolve? r = some d → d.kind ≠ .enum ∧ d.kind ≠ .struct

/-- The library and the documents it refers to both declare the id, with kinds that references
tell apart. -/
def ClashingKinds (loaded : Loaded) (id : String) : Prop :=
  ∃ d other, findType? loaded.library.types id = some d ∧
    findType? loaded.external id = some other ∧ d.kind.category ≠ other.kind.category

namespace Document

/-- The value writes a reference and its category with it. -/
def StatesCategory : Value → Prop
  | .map entries => Value.get entries "category" ≠ .null
  | _ => False

/-- The value writes the reference, as it is read where the generic parameters are in scope and
all the documents are known. -/
def Writes (documents : List Entries) (parameters : List String) (value : Value) (r : TypeRef) :
    Prop :=
  ∃ tables, documents.mapM declaredKinds = .ok tables ∧
    reference { kinds := tables.flatten, parameters } value = .ok r

end Document

/-! ## Names of references -/

namespace TypeRef

theorem elementName_elementName (name : String) :
    elementName (elementName name) = elementName name := by
  simp [elementName, Text.trimEnd, Text.dropEnd_dropEnd]

theorem elementName_of_unmarked {name : String} (h : ¬ Text.endsWith '&' name = true) :
    elementName name = name := by
  rw [Text.endsWith, beq_iff_eq] at h
  have hlast : ∀ c ∈ name.toList.getLast?, decide (c = '&') = false := by
    intro c hc
    have hne : c ≠ '&' := fun heq => h (heq ▸ hc)
    simpa using hne
  rw [elementName, Text.trimEnd, Text.dropEnd_of_last hlast, String.ofList_toList]

/-- The type behind a reference without marks in its name has that name. -/
theorem element_name {r : TypeRef} (h : elementName r.name = r.name) :
    r.element.name = r.name := by
  rw [element]
  split
  · exact h
  · rfl

end TypeRef

namespace Document

open TypeRef

/-- The name that is left of a text once the mark at its end was understood. -/
theorem elementName_of_split (text : String) :
    elementName (if Text.endsWith '&' text then elementName text else text)
      = if Text.endsWith '&' text then elementName text else text := by
  split
  · exact elementName_elementName text
  · next h => exact elementName_of_unmarked h

theorem bound_eq_ok {scope : Scope} {entries : Entries} {args : List TypeRef} {text : String}
    {r : TypeRef} (h : scope.bound entries args text = .ok r) :
    elementName r.name = r.name ∧
      (Value.get entries "category" = .null → r.category = scope.category r.name r.nullable) := by
  simp only [Scope.bound] at h
  split at h
  · cases h
    exact ⟨elementName_of_split text, fun _ => rfl⟩
  · next hstated =>
    split at h
    · cases h
      exact ⟨elementName_of_split text, fun hnull => absurd hnull hstated⟩
    · cases h

/-- A reference that was read has no mark left in its name, and the category that its scope
gives it unless another is stated. -/
theorem reference_eq_ok {scope : Scope} {value : Value} {r : TypeRef}
    (h : reference scope value = .ok r) (hvoid : r ≠ .void) :
    elementName r.name = r.name ∧
      (¬ StatesCategory value → r.category = scope.category r.name r.nullable) := by
  cases value with
  | null =>
    cases h
    exact absurd rfl hvoid
  | text s =>
    cases h
    exact ⟨elementName_of_split s, fun _ => rfl⟩
  | map entries =>
    simp only [reference, bind_eq_ok_iff] at h
    obtain ⟨text, -, args, -, h⟩ := h
    obtain ⟨hname, hcategory⟩ := bound_eq_ok h
    exact ⟨hname, fun hunstated => hcategory (not_not.mp hunstated)⟩
  | _ => cases h

/-- What the scope says of a name that is neither a parameter nor known to every library. -/
theorem Scope.category_of_unknown {scope : Scope} {name : String}
    (hparameter : name ∉ scope.parameters) (hknown : wellKnown.lookup name = none) :
    scope.category name false = (Kinds.find? scope.kinds name).elim .reference Kind.category := by
  have hcontains : scope.parameters.contains name = false := by simpa using hparameter
  simp only [Scope.category, hcontains, hknown, Bool.false_eq_true, if_false]
  rcases Kinds.find? scope.kinds name with _ | kind
  · rfl
  · cases kind <;> rfl

end Document

/-! ## Tables of types -/

theorem findType?_append (a b : List TypeDecl) (id : String) :
    findType? (a ++ b) id = (findType? b id).or (findType? a id) := by
  rw [findType?, List.reverse_append, List.find?_append]
  rfl

/-- The graph over the whole library asks the library first and the other documents then. -/
theorem get?_graph_library (loaded : Loaded) (id : String) :
    (loaded.graph loaded.library.types).get? id
      = (findType? loaded.library.types id).or (findType? loaded.external id) := by
  show findType? ((loaded.external ++ loaded.library.types) ++ loaded.library.types) id = _
  rw [findType?_append, findType?_append, ← Option.or_assoc, Option.or_self]

namespace Document

/-- A table of kinds that was made from types finds the kind of the type that has the id. -/
theorem find?_kinds (types : List TypeDecl) (id : String) :
    Kinds.find? (types.map fun d => (d.id, d.kind)) id = (findType? types id).map (·.kind) := by
  rw [Kinds.find?, findType?, ← List.map_reverse]
  induction types.reverse with
  | nil => rfl
  | cons d rest ih =>
    rw [List.map_cons, List.lookup_cons, List.find?_cons]
    by_cases h : id = d.id
    · subst h
      simp only [beq_self_eq_true, Option.map_some]
    · have hkey : (id == d.id) = false := beq_false_of_ne h
      have hid : (d.id == id) = false := beq_false_of_ne (Ne.symm h)
      simp only [hkey, hid, ih]

/-- Documents announce the kinds of the types that are read from them. -/
theorem kinds_of_documents {kinds : Kinds} {documents : List Entries} {tables : List Kinds}
    {types : List (List TypeDecl)}
    (hannounced : List.Forall₂ (fun document table => declaredKinds document = .ok table)
      documents tables)
    (hread : List.Forall₂ (fun document found => Document.types kinds document = .ok found)
      documents types) :
    tables.flatten = types.flatten.map fun d => (d.id, d.kind) := by
  induction hannounced generalizing types with
  | nil =>
    cases hread
    rfl
  | cons htable _ ih =>
    cases hread with
    | cons hfound hrest =>
      rw [List.flatten_cons, List.flatten_cons, List.map_append, ih hrest,
        declaredKinds_of_types hfound htable]

/-- The table of kinds lists the types of the library and then those of the other documents. -/
theorem kinds_of_assemble {fallback : String} {primary : Entries} {secondary : List Entries}
    {loaded : Loaded} {tables : List Kinds}
    (h : assemble fallback primary secondary = .ok loaded)
    (hknown : (primary :: secondary).mapM declaredKinds = .ok tables) :
    tables.flatten = (loaded.library.types ++ loaded.external).map fun d => (d.id, d.kind) := by
  obtain ⟨tables', external, htables, hlibrary, hexternal, hall⟩ := assemble_eq_ok h
  rw [hknown] at htables
  cases htables
  have hread : List.Forall₂ (fun document found => types tables.flatten document = .ok found)
      (primary :: secondary) (loaded.library.types :: external) :=
    .cons (library_eq_ok hlibrary).1 (forall₂_of_mapM hexternal)
  rw [kinds_of_documents (forall₂_of_mapM hknown) hread, List.flatten_cons, hall]

end Document

/-! ## Following the graph -/

/-- A category follows the graph when it is the one of the kind found there. -/
theorem followsGraph_iff (g : Graph) (r : TypeRef) :
    FollowsGraph g r ↔ r.category = ((g.resolve? r).map (·.kind)).elim .reference Kind.category := by
  cases hfound : g.resolve? r with
  | none =>
    constructor
    · intro h
      exact h.reference_iff.mpr (by simp [hfound])
    · intro h
      have href : r.category = .reference := h
      constructor <;> simp [href, hfound]
  | some d =>
    constructor
    · intro h
      cases hkind : d.kind with
      | enum => simpa [hkind, Kind.category] using h.enum_iff.mpr ⟨d, hfound, hkind⟩
      | struct => simpa [hkind, Kind.category] using h.valueType_iff.mpr ⟨d, hfound, hkind⟩
      | _ =>
        have href := h.reference_iff.mpr (by simp [hfound, hkind])
        simpa [hkind, Kind.category] using href
    · intro h
      have hcategory : r.category = d.kind.category := h
      constructor <;> cases hkind : d.kind <;> simp [hcategory, hfound, hkind, Kind.category]

/-- The category that is inferred for a reference comes from the other documents first and from
the library then. -/
theorem category_of_writes {fallback : String} {primary : Document.Entries}
    {secondary : List Document.Entries} {loaded : Loaded} {parameters : List String}
    {value : Value} {r : TypeRef}
    (accepted : Document.assemble fallback primary secondary = .ok loaded)
    (written : Document.Writes (primary :: secondary) parameters value r)
    (unstated : ¬ Document.StatesCategory value) (plain : r.nullable = false)
    (notParameter : r.name ∉ parameters) (unknown : Document.wellKnown.lookup r.name = none) :
    r.element.name = r.name ∧
      r.category = (((findType? loaded.external r.name).or
        (findType? loaded.library.types r.name)).map (·.kind)).elim .reference Kind.category := by
  obtain ⟨tables, hknown, hread⟩ := written
  -- null writes the type without values, which every library knows
  have hvoid : r ≠ .void := by
    rintro rfl
    exact absurd unknown (by decide)
  obtain ⟨hname, hcategory⟩ := Document.reference_eq_ok hread hvoid
  refine ⟨TypeRef.element_name hname, ?_⟩
  rw [hcategory unstated, plain, Document.Scope.category_of_unknown notParameter unknown,
    Document.kinds_of_assemble accepted hknown, Document.find?_kinds, findType?_append]

/-- Whatever the documents are, an inferred category follows the graph of the loaded library
exactly when the named type has no clashing kinds. -/
theorem inferred_category_followsGraph_iff {fallback : String} {primary : Document.Entries}
    {secondary : List Document.Entries} {loaded : Loaded} {parameters : List String}
    {value : Value} {r : TypeRef}
    (accepted : Document.assemble fallback primary secondary = .ok loaded)
    (written : Document.Writes (primary :: secondary) parameters value r)
    (unstated : ¬ Document.StatesCategory value) (plain : r.nullable = false)
    (notParameter : r.name ∉ parameters) (unknown : Document.wellKnown.lookup r.name = none) :
    FollowsGraph (loaded.graph loaded.library.types) r ↔ ¬ ClashingKinds loaded r.name := by
  obtain ⟨hname, hcategory⟩ :=
    category_of_writes accepted written unstated plain notParameter unknown
  rw [followsGraph_iff, Graph.resolve?, hname, get?_graph_library, hcategory, ClashingKinds]
  cases hlibrary : findType? loaded.library.types r.name with
  | none => simp
  | some d =>
    cases hexternal : findType? loaded.external r.name with
    | none => simp
    | some other =>
      -- both tables know the id, and each gives the kind of its own type
      simp [eq_comm]

/-! ## A canvas and its shapes

The canvas has a mode, which another document declares, and an outline, whose type the library
and that document declare with different kinds. -/

def fieldEntry (name type : String) : Value :=
  .map [(.text "name", .text name), (.text "type", .text type)]

def typeEntry (name kind : String) (fields : List Value) : Value :=
  .map [(.text "name", .text name), (.text "kind", .text kind), (.text "fields", .list fields)]

def canvasDocument : Document.Entries :=
  [(.text "types", .list
    [typeEntry "Canvas" "class" [fieldEntry "mode" "Mode", fieldEntry "outline" "Shape"],
     typeEntry "Shape" "struct" []])]

def modesDocument : Document.Entries :=
  [(.text "types", .list [typeEntry "Mode" "enum" [], typeEntry "Shape" "enum" []])]

def modeRef : TypeRef := { name := "Mode", category := .enum }

def outlineRef : TypeRef := { name := "Shape", category := .enum }

def canvasLoaded : Loaded where
  library :=
    { name := "Drawing"
      types :=
        [{ id := "Canvas", name := "Canvas", kind := .cls
           fields := [{ name := "mode", type := modeRef },
             { name := "outline", type := outlineRef }] },
         { id := "Shape", name := "Shape", kind := .struct }] }
  external := [{ id := "Mode", name := "Mode", kind := .enum },
    { id := "Shape", name := "Shape", kind := .enum }]

theorem canvas_accepted :
    Document.assemble "Drawing" canvasDocument [modesDocument] = .ok canvasLoaded := rfl

theorem mode_written :
    Document.Writes [canvasDocument, modesDocument] [] (.text "Mode") modeRef := ⟨_, rfl, rfl⟩

theorem outline_written :
    Document.Writes [canvasDocument, modesDocument] [] (.text "Shape") outlineRef := ⟨_, rfl, rfl⟩

theorem mode_category_followsGraph :
    ¬ ClashingKinds canvasLoaded modeRef.name ∧
      FollowsGraph (canvasLoaded.graph canvasLoaded.library.types) modeRef := by
  have hclear : ¬ ClashingKinds canvasLoaded modeRef.name := by
    rintro ⟨d, other, hlibrary, -, -⟩
    cases hlibrary
  exact ⟨hclear, (inferred_category_followsGraph_iff canvas_accepted mode_written id rfl
    List.not_mem_nil (by decide)).mpr hclear⟩

/-- The category of the outline is the one of the enum in the other document, while the graph
finds the struct of the library. -/
theorem outline_category_misses_graph :
    Document.assemble "Drawing" canvasDocument [modesDocument] = .ok canvasLoaded ∧
      Document.Writes [canvasDocument, modesDocument] [] (.text "Shape") outlineRef ∧
      ¬ Document.StatesCategory (.text "Shape") ∧ outlineRef.nullable = false ∧
      outlineRef.name ∉ ([] : List String) ∧
      Document.wellKnown.lookup outlineRef.name = none ∧
      (∃ d ∈ canvasLoaded.library.types, ∃ f ∈ d.fields, f.type = outlineRef) ∧
      ¬ FollowsGraph (canvasLoaded.graph canvasLoaded.library.types) outlineRef := by
  refine ⟨canvas_accepted, outline_written, id, rfl, List.not_mem_nil, by decide, ?_, ?_⟩
  · exact ⟨_, .head _, _, .tail _ (.head _), rfl⟩
  · intro h
    obtain ⟨d, hfound, hkind⟩ := h.enum_iff.mp rfl
    cases hfound
    cases hkind

end ApiShell
