import ApiShell.Proofs.Forest
import ApiShell.Trail.Declarations
import ApiShell.Yaml.Reader
import Mathlib

/-!
# The trail of declarations

A run records each type at the moment when it is declared. Names, default values, constants and
interface lists leave records too, and none of them looks like a declaration, so the records of
declarations among all records of a run name the declared types in the order of their
declarations. The steps that are written have the declarations of just these types, in this order.
-/

namespace ApiShell

open Log

/-- The record of a type that is declared. -/
def declarationRecord (d : TypeDecl) : Record :=
  .of .debug "assembler" ("Declaring " ++ d.kind.word ++ " " ++ d.id)

/-- Whether a record is of a type that is declared: these alone come from the part that puts
declarations together without being warnings. -/
def isDeclaration (record : Record) : Bool :=
  record.level == .debug && record.source == Log.name ++ ".assembler"

/-- The records of declared types. -/
def declarations (trail : List Record) : List Record :=
  trail.filter isDeclaration

@[simp]
theorem declarations_append (a b : List Record) :
    declarations (a ++ b) = declarations a ++ declarations b :=
  List.filter_append ..

/-- What a record says does not matter for whether it is of a declaration. -/
theorem declarations_of_other {level : Level} {part : String}
    (h : isDeclaration (.of level part "") = false) (message : String) :
    declarations [.of level part message] = [] := by
  have hother : isDeclaration (.of level part message) = false := h
  simp [declarations, hother]

@[simp]
theorem declarations_declarationRecord_cons (d : TypeDecl) (rest : List Record) :
    declarations (declarationRecord d :: rest) = declarationRecord d :: declarations rest := by
  have h : isDeclaration (declarationRecord d) = true := by
    simp [isDeclaration, declarationRecord, Record.of, Log.name]
  simp [declarations, h]

/-- Parts that record no declaration do not record one together. -/
theorem declarations_flatMap {α : Type} {items : List α} {trail : α → List Record}
    (h : ∀ item ∈ items, declarations (trail item) = []) :
    declarations (items.flatMap trail) = [] := by
  induction items with
  | nil => rfl
  | cons item rest ih =>
    rw [List.flatMap_cons, declarations_append, h item (by simp),
      ih fun item hitem => h item (by simp [hitem])]
    rfl

/-! ## Names and expressions -/

mutual

theorem declarations_nameTrail : ∀ ref : TypeRef, declarations ref.nameTrail = []
  | { name, args := [], nullable, category, byRef } => by
    simp only [TypeRef.nameTrail, TypeRef.bareTrail]
    split
    · rfl
    · split
      · exact declarations_of_other (by decide) _
      · split
        · exact declarations_of_other (by decide) _
        · rfl
  | { name, args := arg :: more, nullable, category, byRef } => by
    simp only [TypeRef.nameTrail]
    split
    · rfl
    · rw [declarations_append, declarations_nameTrail arg]
      split
      · rfl
      · rw [declarations_nameTrails more]
        rfl

theorem declarations_nameTrails : ∀ refs : List TypeRef,
    declarations (TypeRef.nameTrails refs) = []
  | [] => rfl
  | ref :: rest => by
    rw [TypeRef.nameTrails, declarations_append, declarations_nameTrail ref,
      declarations_nameTrails rest]
    rfl

end

attribute [simp] declarations_nameTrail

@[simp]
theorem declarations_flatMap_nameTrail (refs : List TypeRef) :
    declarations (refs.flatMap TypeRef.nameTrail) = [] :=
  declarations_flatMap fun ref _ => declarations_nameTrail ref

@[simp]
theorem declarations_enumMemberTrail (g : Graph) (aliases : Bool) (ref : TypeRef)
    (position : Int) : declarations (enumMemberTrail g aliases ref position) = [] := by
  rw [enumMemberTrail, declarations_append, declarations_nameTrail, List.nil_append]
  split
  · rfl
  · exact declarations_of_other (by decide) _

@[simp]
theorem declarations_defaultTrail (g : Graph) (aliases : Bool) (ref : TypeRef) :
    declarations (defaultTrail g aliases ref) = [] := by
  unfold defaultTrail
  split
  · rfl
  · dsimp only
    split
    case h_1 | h_2 | h_3 => rfl
    case h_7 => exact declarations_enumMemberTrail ..
    case h_8 =>
      split
      · exact declarations_nameTrail _
      · rfl
    all_goals exact declarations_nameTrail _

@[simp]
theorem declarations_literalTrail (g : Graph) (aliases : Bool) (ref : TypeRef) (value : Value) :
    declarations (literalTrail g aliases ref value) = [] := by
  unfold literalTrail
  split
  case h_2 => exact declarations_enumMemberTrail ..
  case h_3 | h_4 => rfl
  all_goals exact declarations_nameTrail _

/-! ## Interfaces -/

theorem declarations_supertypesTrail (g : Graph) (ref : TypeRef) :
    declarations (g.supertypesTrail ref) = [] := by
  rw [Graph.supertypesTrail]
  cases g.searchFrom? ref with
  | none => rfl
  | some search => exact declarations_flatMap fun r _ => declarations_flatMap_nameTrail _

theorem declarations_comparisonTrail (identity : String) (refs : List TypeRef) :
    declarations (Graph.comparisonTrail identity refs) = [] := by
  induction refs with
  | nil => rfl
  | cons ref rest ih =>
    rw [Graph.comparisonTrail]
    split
    all_goals simp [ih]

theorem declarations_assignableTrail (g : Graph) (target source : TypeRef) :
    declarations (g.assignableTrail target source) = [] := by
  rw [Graph.assignableTrail]
  split
  all_goals simp [declarations_supertypesTrail, declarations_comparisonTrail]

theorem declarations_anyAssignableTrail (g : Graph) (target : TypeRef) (refs : List TypeRef) :
    declarations (g.anyAssignableTrail target refs) = [] := by
  induction refs with
  | nil => rfl
  | cons ref rest ih =>
    rw [Graph.anyAssignableTrail]
    split
    all_goals simp [ih, declarations_assignableTrail]

theorem declarations_leavesTrail (g : Graph) (kept refs : List TypeRef) :
    declarations (g.leavesTrail kept refs) = [] := by
  induction refs generalizing kept with
  | nil => rfl
  | cons ref rest ih =>
    rw [Graph.leavesTrail]
    simp only [declarations_append, declarations_anyAssignableTrail, List.nil_append]
    split
    · exact ih kept
    · rw [declarations_append, declarations_anyAssignableTrail]
      split
      · exact ih kept
      · exact ih (kept ++ [ref])

@[simp]
theorem declarations_leafInterfacesTrail (g : Graph) (d : TypeDecl) :
    declarations (g.leafInterfacesTrail d) = [] := by
  rw [Graph.leafInterfacesTrail]
  split
  · rfl
  · exact declarations_leavesTrail g [] _

/-! ## Members -/

namespace Emitter

variable (e : Emitter) (d : TypeDecl)

@[simp]
theorem declarations_parametersTrail (ps : List Parameter) :
    declarations (parametersTrail ps) = [] :=
  declarations_flatMap fun p _ => declarations_nameTrail p.type

@[simp]
theorem declarations_assignmentsTrail (ps : List Parameter) :
    declarations (e.assignmentsTrail ps) = [] :=
  declarations_flatMap fun p _ => declarations_defaultTrail e.graph e.aliases p.type.element

theorem declarations_constructorsTrail : declarations (e.constructorsTrail d) = [] := by
  rw [constructorsTrail]
  split
  · exact declarations_flatMap fun ps _ => by simp
  · rfl

theorem declarations_fieldTrail (f : Field) : declarations (e.fieldTrail f) = [] := by
  rw [fieldTrail]
  split
  all_goals simp

theorem declarations_fieldsTrail : declarations (e.fieldsTrail d) = [] := by
  unfold fieldsTrail
  split
  · rfl
  · rfl
  · exact declarations_flatMap fun f _ => declarations_fieldTrail e f

theorem declarations_propertiesTrail : declarations (e.propertiesTrail d) = [] := by
  rw [propertiesTrail]
  split
  · refine declarations_flatMap fun p _ => ?_
    split
    all_goals simp
  · rfl

theorem declarations_eventsTrail : declarations (eventsTrail d) = [] := by
  rw [eventsTrail]
  split
  · exact declarations_flatMap fun ev _ => declarations_nameTrail ev.handler
  · rfl

theorem declarations_methodTrail (m : Method) : declarations (e.methodTrail d m) = [] := by
  unfold methodTrail
  split
  · exact declarations_of_other (by decide) _
  · split
    all_goals simp

theorem declarations_methodsTrail : declarations (e.methodsTrail d) = [] := by
  rw [methodsTrail]
  split
  · exact declarations_flatMap fun m _ => declarations_methodTrail e d m
  · rfl

theorem declarations_membersTrail : declarations (e.membersTrail d) = [] := by
  simp [membersTrail, declarations_constructorsTrail, declarations_fieldsTrail,
    declarations_propertiesTrail, declarations_eventsTrail, declarations_methodsTrail]

theorem declarations_declaredNameTrail : declarations (declaredNameTrail d) = [] :=
  declarations_flatMap fun _ _ => declarations_nameTrail _

theorem declarations_inheritanceTrail : declarations (e.inheritanceTrail d) = [] := by
  simp [inheritanceTrail]

theorem declarations_delegateTrail : declarations (delegateTrail d) = [] := by
  rw [delegateTrail, declarations_append, declarations_declaredNameTrail, List.append_nil]
  split
  · simp
  · exact declarations_of_other (by decide) _

end Emitter

/-! ## Types -/

/-- Only types of a kind with room for nested types have types inside them. -/
inductive Nesting.Fits : Nesting → Prop where
  | node {d : TypeDecl} {inner : List Nesting} (room : d.kind.isComposite = true ∨ inner = [])
      (inside : ∀ tree ∈ inner, Fits tree) : Fits (.node d inner)

theorem Graph.nestingWithin_fits (g : Graph) (depth : Nat) (d : TypeDecl) :
    (g.nestingWithin depth d).Fits := by
  induction depth generalizing d with
  | zero => exact .node (.inr rfl) (List.forall_mem_nil _)
  | succ depth ih =>
    rw [nestingWithin]
    split
    · next hroom =>
      refine .node (.inl hroom) fun tree htree => ?_
      obtain ⟨c, -, rfl⟩ := List.mem_map.mp htree
      exact ih c
    · exact .node (.inr rfl) (List.forall_mem_nil _)

namespace Emitter

variable {e : Emitter} {tree : Nesting} {steps : List Step} {ds : List TypeDecl}

/-- Steps with the declarations of types, in order. The declaration of a type has those of the types
inside it before its members. Between declarations, blocks of namespaces are opened and closed. -/
inductive WritesTypes (e : Emitter) : List Step → List TypeDecl → Prop where
  | nil : WritesTypes e [] []
  | opening (space : String) {steps : List Step} {ds : List TypeDecl}
      (rest : WritesTypes e steps ds) :
      WritesTypes e (.openBlock ("namespace " ++ space) :: steps) ds
  | closing {steps : List Step} {ds : List TypeDecl} (rest : WritesTypes e steps ds) :
      WritesTypes e (.closeBlock "" :: steps) ds
  | enum {d : TypeDecl} {steps : List Step} {ds : List TypeDecl} (kind : d.kind = .enum)
      (rest : WritesTypes e steps ds) :
      WritesTypes e (.block ("public enum " ++ d.name) (e.fields d) :: steps) (d :: ds)
  | delegate {d : TypeDecl} {steps : List Step} {ds : List TypeDecl} (kind : d.kind = .delegate)
      (rest : WritesTypes e steps ds) : WritesTypes e (.line (e.delegateLine d) :: steps) (d :: ds)
  | composite {d : TypeDecl} {body steps : List Step} {inside ds : List TypeDecl}
      (kind : d.kind.isComposite = true) (inner : WritesTypes e body inside)
      (rest : WritesTypes e steps ds) :
      WritesTypes e (.block (e.compositeHeader d) (body ++ e.members d) :: steps)
        (d :: (inside ++ ds))

theorem writesTypes_declareAll {trees : List Nesting}
    (h : ∀ tree ∈ trees, ∀ steps ds, e.WritesTypes steps ds →
      e.WritesTypes (e.declare tree :: steps) (tree.preorder ++ ds)) :
    e.WritesTypes (e.declareAll trees) (Nesting.preorderAll trees) := by
  induction trees with
  | nil => exact .nil
  | cons tree rest ih =>
    have hrest := ih fun tree htree => h tree (List.mem_cons_of_mem _ htree)
    exact h tree List.mem_cons_self _ _ hrest

/-- A tree is written with its types in preorder. -/
theorem writesTypes_declare (h : tree.Fits) (hrest : e.WritesTypes steps ds) :
    e.WritesTypes (e.declare tree :: steps) (tree.preorder ++ ds) := by
  induction h generalizing steps ds with
  | @node d inner room inside ih =>
    have hinner : e.WritesTypes (e.declareAll inner) (Nesting.preorderAll inner) :=
      writesTypes_declareAll fun tree htree _ _ => ih tree htree
    rw [Nesting.preorder, List.cons_append]
    -- enums and delegates have no types inside them
    cases hkind : d.kind with
    | enum =>
      obtain rfl := room.resolve_left (by rw [hkind]; decide)
      simpa [declare, hkind, Nesting.preorderAll] using WritesTypes.enum hkind hrest
    | delegate =>
      obtain rfl := room.resolve_left (by rw [hkind]; decide)
      simpa [declare, hkind, Nesting.preorderAll] using WritesTypes.delegate hkind hrest
    | cls | struct | interface =>
      simpa [declare, hkind] using WritesTypes.composite (by rw [hkind]; rfl) hinner hrest

theorem WritesTypes.leaving (h : e.WritesTypes steps ds) (space : Option String) :
    e.WritesTypes (leaveSpace space ++ steps) ds := by
  rw [leaveSpace]
  split
  · exact .closing h
  · exact h

theorem WritesTypes.entering (h : e.WritesTypes steps ds) (space : Option String) :
    e.WritesTypes (enterSpace space ++ steps) ds := by
  rw [enterSpace]
  split
  · exact .opening _ h
  · exact h

theorem writesTypes_declareFrom (current : Option String) (types : List TypeDecl) :
    e.WritesTypes (e.declareFrom current types)
      (Nesting.preorderAll (types.map e.graph.nesting)) := by
  induction types generalizing current with
  | nil =>
    rw [declareFrom, ← List.append_nil (leaveSpace current)]
    exact WritesTypes.nil.leaving current
  | cons d rest ih =>
    have hfits : (e.graph.nesting d).Fits := e.graph.nestingWithin_fits _ d
    have hrest := writesTypes_declare hfits (ih d.space)
    rw [declareFrom]
    split
    · exact hrest
    · rw [List.append_assoc]
      exact (hrest.entering d.space).leaving current

theorem declarations_declareAllTrail {trees : List Nesting}
    (h : ∀ tree ∈ trees,
      declarations (e.declareTrail tree) = tree.preorder.map declarationRecord) :
    declarations (e.declareAllTrail trees) =
      (Nesting.preorderAll trees).map declarationRecord := by
  induction trees with
  | nil => rfl
  | cons tree rest ih =>
    rw [declareAllTrail, declarations_append, h tree (by simp),
      ih fun tree htree => h tree (by simp [htree]), Nesting.preorderAll, List.map_append]

/-- The record of a type comes before those of the types inside it; a type without room for
nested types is declared alone. -/
theorem declarations_declareTrail (h : tree.Fits) :
    declarations (e.declareTrail tree) = tree.preorder.map declarationRecord := by
  induction h with
  | @node d inner room inside ih =>
    have hinner : declarations (e.declareAllTrail inner) =
        (Nesting.preorderAll inner).map declarationRecord := declarations_declareAllTrail ih
    unfold declareTrail
    rw [← declarationRecord, declarations_declarationRecord_cons, Nesting.preorder, List.map_cons]
    congr 1
    split
    · next hkind =>
      obtain rfl := room.resolve_left (by rw [hkind]; decide)
      rfl
    · next hkind =>
      obtain rfl := room.resolve_left (by rw [hkind]; decide)
      exact declarations_delegateTrail d
    · simp [declarations_declaredNameTrail, declarations_inheritanceTrail,
        declarations_membersTrail, hinner]

/-- The types recorded are those whose declarations are written, in the same order. -/
theorem types_written_as_recorded (e : Emitter) :
    e.WritesTypes e.types e.graph.declared ∧
      declarations e.typesTrail = e.graph.declared.map declarationRecord := by
  refine ⟨writesTypes_declareFrom none e.graph.topLevel, declarations_declareAllTrail ?_⟩
  intro tree htree
  obtain ⟨d, -, rfl⟩ := List.mem_map.mp htree
  exact declarations_declareTrail (e.graph.nestingWithin_fits _ d)

end Emitter

/-! ## Accepted libraries -/

/-- The types that are declared for an accepted library are its visible types, each once and in
the preorder of their nesting, and the run records just these declarations. -/
theorem declared_isVisiblePreorder [Yaml.Reader] {files : View} {searchPaths : List Path}
    {path : Path} {loaded : Loaded} (accepted : load files searchPaths path = .ok loaded)
    (acyclic : AcyclicNesting loaded.library.types) (ignored : List String)
    (aliases forceVirtual : Bool) :
    let graph := loaded.graph (shownTypes loaded.library.types ignored)
    IsVisiblePreorder loaded.library.types ignored graph.declared ∧
      declarations (Emitter.typesTrail { graph, aliases, forceVirtual }) =
        graph.declared.map declarationRecord := by
  intro graph
  obtain ⟨distinct, known⟩ := wellNested_of_load accepted
  have hemitted : graph.emitted = shownTypes loaded.library.types ignored := rfl
  constructor
  · have hforest := topLevel_nesting_full distinct acyclic hemitted
    exact hforest.isVisiblePreorder distinct acyclic known
  · exact (Emitter.types_written_as_recorded _).2

/-- A document in which an enum is nested in a class that comes before the class around it. -/
def nestedText : String :=
  "types:\n- name: B\n  nested_in: A\n- name: A\n- name: C\n  kind: enum\n  nested_in: A+B\n"

/-- The types of that document. -/
def nestedTypes : List TypeDecl :=
  [{ id := "A+B", name := "B", kind := .cls, enclosing := some "A" },
   { id := "A", name := "A", kind := .cls },
   { id := "A+B+C", name := "C", kind := .enum, enclosing := some "A+B" }]

/-- Where that document is. -/
def nestedPath : Path := { parts := ["nested.yml"] }

/-- A tree in which that document is the only file. -/
def nestedTree : FileTree :=
  { dirs := [[]], files := [(["nested.yml"], nestedText.toUTF8)] }

theorem nestedTree_read : Document.read nestedTree nestedPath = .ok [(.text "types", .list
    [.map [(.text "name", .text "B"), (.text "nested_in", .text "A")],
     .map [(.text "name", .text "A")],
     .map [(.text "name", .text "C"), (.text "kind", .text "enum"),
       (.text "nested_in", .text "A+B")]])] := by
  have hcontent : nestedTree.read? nestedPath = some nestedText.toUTF8 := rfl
  refine Document.read_of_yaml hcontent (by decide) (by decide +kernel) ?_ (by simp)
  cbv

theorem nestedTree_load : load (.still nestedTree) [] nestedPath =
    .ok { library := { name := "nested", types := nestedTypes } } :=
  load_of_single_document rfl nestedTree_read rfl rfl []

theorem nestedTypes_acyclic : AcyclicNesting nestedTypes := by
  refine acyclicNesting_of_rank (fun d => d.id.length) ?_
  decide

theorem nestedTypes_declared_isVisiblePreorder :
    load (.still nestedTree) [] nestedPath =
        .ok { library := { name := "nested", types := nestedTypes } } ∧
      AcyclicNesting nestedTypes ∧
      IsVisiblePreorder nestedTypes []
        ({ emitted := shownTypes nestedTypes [], external := nestedTypes } : Graph).declared :=
  ⟨nestedTree_load, nestedTypes_acyclic,
    (declared_isVisiblePreorder nestedTree_load nestedTypes_acyclic [] true false).1⟩

end ApiShell
