import ApiShell.Declaration.Members
import ApiShell.Document.Library
import ApiShell.Proofs.Text
import Mathlib.Data.List.Forall2

/-!
# Stub bodies

What the members of classes and structs do in the shell. A body gives every output parameter a
value, one line each and in the order of the parameters, and then returns a value where the
member has a result. The header and the body settle separately whether there is a result: the
header writes the source name of the type, and the body asks whether the type is the one without
values. Main statements: the two agree except for references whose source name is the word
`void` by accident (`sourceName_eq_void_iff`), and with that exception all bodies are complete. A
scanner at the end has the cases in which a body is not what its header announces.
-/

namespace ApiShell

/-! ## Source names that read as no value -/

theorem eq_voidName_of_lookup {base : String} (h : keywordAliases.lookup base = some "void") :
    base = TypeRef.voidName := by
  obtain ⟨before, after, htable, -⟩ := List.lookup_eq_some_iff.mp h
  have hall : ∀ entry ∈ keywordAliases, entry.2 = "void" → entry.1 = TypeRef.voidName := by decide
  exact hall (base, "void") (by simp [htable]) rfl

theorem aliased_eq_void_iff {text : String} :
    aliased text = "void" ↔ text = "void" ∨ text = TypeRef.voidName := by
  constructor
  · intro h
    obtain ⟨hwhole, hshape⟩ := Text.dropEnd_append_drop isShapeChar text.toList
    simp only [aliased, Text.trimEnd, String.toList_ofList] at h
    set shape := text.toList.drop (Text.dropEnd isShapeChar text.toList).length
    -- an array or pointer suffix would stay at the end
    have hnone : shape = [] := by
      rcases List.eq_nil_or_concat shape with hnil | ⟨front, c, hlast⟩
      · exact hnil
      · have hc : isShapeChar c = true := hshape c (by simp [hlast])
        have hend := congrArg (fun s => s.toList.getLast?) h
        simp only [hlast, String.toList_append, String.toList_ofList] at hend
        simp only [List.concat_eq_append, List.getLast?_append, List.getLast?_singleton,
          Option.some_or] at hend
        cases hend
        exact absurd hc (by decide)
    rw [hnone, List.append_nil] at hwhole
    rw [hnone, hwhole, String.ofList_toList, String.ofList_nil, String.append_empty] at h
    cases hkey : keywordAliases.lookup text with
    | none =>
      rw [hkey] at h
      exact .inl h
    | some keyword =>
      rw [hkey] at h
      exact .inr (eq_voidName_of_lookup (hkey.trans (congrArg some h)))
  · rintro (rfl | rfl)
    · decide +kernel
    · decide +kernel

namespace Arity

theorem mem_bracketed {args : List (List Char)} (h : args ≠ []) : '<' ∈ bracketed args := by
  have hsome : args.isEmpty = false := List.isEmpty_eq_false_iff.mpr h
  simp [bracketed, hsome]

/-- Arguments stand in a segment or are left over. -/
theorem mem_attachTo (segments : List (List Char)) {args : List (List Char)} (h : args ≠ []) :
    (∃ segment ∈ (attachTo segments args).1, '<' ∈ segment) ∨
      (attachTo segments args).2 ≠ [] := by
  induction segments generalizing args with
  | nil => exact .inr h
  | cons segment rest ih =>
    have hlater : ∀ {args : List (List Char)}, args ≠ [] → ∀ first : List Char,
        (∃ other ∈ first :: (attachTo rest args).1, '<' ∈ other) ∨
          (attachTo rest args).2 ≠ [] := by
      intro args hargs first
      rcases ih hargs with ⟨other, hother, hbracket⟩ | hleft
      · exact .inl ⟨other, List.mem_cons_of_mem _ hother, hbracket⟩
      · exact .inr hleft
    rw [attachTo]
    cases cut? segment with
    | none => exact hlater h segment
    | some cut =>
      by_cases htaken : args.take cut.count = []
      · refine hlater (fun hnone => h ?_) _
        rw [← List.take_append_drop cut.count args, htaken, hnone, List.nil_append]
      · refine .inl ⟨_, List.mem_cons_self, ?_⟩
        simp [mem_bracketed htaken]

theorem mem_attach (name : List Char) {args : List (List Char)} (h : args ≠ []) :
    '<' ∈ attach name args := by
  simp only [attach, List.mem_append]
  rcases mem_attachTo (Text.splitOn '+' name) h with ⟨segment, hsegment, hbracket⟩ | hleft
  · exact .inl (Text.mem_joinWith hsegment hbracket)
  · exact .inr (mem_bracketed hleft)

end Arity

namespace TypeRef

/-- A reference that is not to the type without values although its source name says so: the name
is the word itself or, where built-in types go by their keywords, reads as the metadata name of
that type once markers, plus signs and by-reference marks are gone. -/
def PosesAsVoid (aliases : Bool) (ref : TypeRef) : Prop :=
  ref.isVoid = false ∧ ref.nullable = false ∧ ref.args = [] ∧
    (bareName false ref.name = "void" ∨ aliases = true ∧ bareName false ref.name = voidName)

theorem bareName_eq_void_iff {aliases : Bool} {name : String} :
    bareName aliases name = "void" ↔
      bareName false name = "void" ∨ aliases = true ∧ bareName false name = voidName := by
  cases aliases with
  | false => simp
  | true =>
    have halias : bareName true name = aliased (bareName false name) := rfl
    rw [halias, aliased_eq_void_iff]
    simp

/-- A name with arguments has a bracket in it. -/
theorem boundName_ne_void (name : String) {args : List String} (h : args ≠ []) :
    boundName name args ≠ "void" := by
  intro hvoid
  have hbracket : '<' ∈ (boundName name args).toList := by
    rw [boundName, String.toList_ofList, dotted]
    refine Text.mem_dropEnds ?_ rfl
    exact List.mem_map.mpr ⟨'<', Arity.mem_attach _ (by simpa using h), rfl⟩
  rw [hvoid] at hbracket
  exact absurd hbracket (by decide)

/-- Which references are written as `void`. -/
theorem sourceName_eq_void_iff (aliases : Bool) (ref : TypeRef) :
    ref.sourceName aliases = "void" ↔ ref.isVoid = true ∨ ref.PosesAsVoid aliases := by
  obtain ⟨name, args, nullable, category, byRef⟩ := ref
  rw [sourceName.eq_def, PosesAsVoid, isVoid]
  dsimp only
  by_cases hvoid : (category == .void || name == voidName) = true
  · simp [hvoid]
  · rw [if_neg hvoid]
    simp only [hvoid]
    cases nullable with
    | true =>
      have hmark : ∀ inner : String, inner ++ "?" ≠ "void" := by
        intro inner hsame
        have hlast := congrArg (fun s => s.toList.getLast?) hsame
        simp [String.toList_append] at hlast
      simp [hmark]
    | false =>
      cases args with
      | nil =>
        show bareName aliases name = "void" ↔ _
        rw [bareName_eq_void_iff]
        simp
      | cons arg more => simp [boundName_ne_void]

end TypeRef

/-! ## Default values -/

theorem enumMember_ne_empty (g : Graph) (aliases : Bool) (ref : TypeRef) (position : Int) :
    enumMember g aliases ref position ≠ "" := by
  simp only [enumMember]
  split
  · simp
  · split
    all_goals simp

theorem nativeZero_ne_empty (identity : String) :
    (nativeZeros.lookup identity).getD "0" ≠ "" := by
  cases hzero : nativeZeros.lookup identity with
  | none => decide
  | some zero =>
    obtain ⟨before, after, htable, -⟩ := List.lookup_eq_some_iff.mp hzero
    have hall : ∀ entry ∈ nativeZeros, entry.2 ≠ "" := by decide
    exact hall (identity, zero) (by simp [htable])

/-- Every type with values has a default value that is spelled out. -/
theorem defaultValue_ne_empty (g : Graph) (aliases : Bool) {ref : TypeRef}
    (h : ref.isVoid = false) : defaultValue g aliases ref ≠ "" := by
  simp only [defaultValue, h, Bool.false_eq_true, if_false]
  split
  · decide
  · decide
  · exact nativeZero_ne_empty _
  · decide
  · exact enumMember_ne_empty g aliases ref.element 0
  · simp
  · split
    · simp
    · split
      all_goals simp

/-! ## Bodies -/

/-- The text assigns to the parameter. What it assigns is spelled out unless the parameter's type
has no values. -/
def Parameter.AssignedBy (p : Parameter) (text : String) : Prop :=
  ∃ value, text = Identifier.escape p.name ++ " = " ++ value ++ ";" ∧
    (p.type.element.isVoid = false → value ≠ "")

/-- The text returns a value that is spelled out. -/
def ReturnsValue (text : String) : Prop :=
  ∃ value, value ≠ "" ∧ text = "return " ++ value ++ ";"

/-- Statements that give the result of a member whose header writes the type: one that returns a
value where the header announces a result, and none where it says `void`. For types that pose as
the one without values it is left open which. -/
structure GivesResult (aliases : Bool) (type : TypeRef) (statements : List String) : Prop where
  atMostOne : statements = [] ∨ ∃ text, statements = [text] ∧ ReturnsValue text
  asAnnounced : ¬ type.PosesAsVoid aliases →
    (statements ≠ [] ↔ type.sourceName aliases ≠ "void")

/-- A body that assigns to each output parameter once, in the order of the parameters, and has
nothing behind the assignments but the given statements. -/
def IsStub (ps : List Parameter) (returned : List String) (body : List Step) : Prop :=
  ∃ assigned, List.Forall₂ Parameter.AssignedBy (ps.filter (·.direction = .output)) assigned ∧
    body = (assigned ++ returned).map Step.line

/-- The constructors that a class or struct declares: a static class has none, a struct does not
declare the one without parameters, and any other class has one without parameters. -/
def TypeDecl.ownConstructors (d : TypeDecl) : List (List Parameter) :=
  match d.kind with
  | .struct => d.constructors.filter (!·.isEmpty)
  | .cls =>
    if d.isStatic then []
    else d.constructors ++ if d.constructors.any (·.isEmpty) then [] else [[]]
  | _ => []

namespace Emitter

/-- A constructor with these parameters, declared with a stub. -/
def StubsConstructor (e : Emitter) (ps : List Parameter) (step : Step) : Prop :=
  ∃ before after body, step = .block (before ++ "(" ++ e.parameterList ps ++ ")" ++ after) body ∧
    IsStub ps [] body

/-- A method, declared with a stub that gives the result its header announces. -/
def StubsMethod (e : Emitter) (m : Method) (step : Step) : Prop :=
  ∃ before name returned body,
    step = .block (before ++ m.returns.sourceName e.aliases ++ name ++
      "(" ++ e.parameterList m.parameters ++ ")") body ∧
    IsStub m.parameters returned body ∧ GivesResult e.aliases m.returns returned

/-- A property, declared so that reading it gives the result its header announces. Nothing else
happens in the body. -/
def StubsProperty (e : Emitter) (p : Property) (step : Step) : Prop :=
  ∃ before returned more,
    step = .block (before ++ p.type.sourceName e.aliases ++ " " ++ e.propertyDeclarator p)
      (.line ("get \x7b " ++ String.join returned ++ " \x7d") :: more) ∧
    GivesResult e.aliases p.type returned ∧ (more = [] ∨ more = [.line "set \x7b \x7d"])

/-- All bodies that a type declares are complete, member by member. -/
structure CompleteStubs (e : Emitter) (d : TypeDecl) : Prop where
  constructors : List.Forall₂ e.StubsConstructor d.ownConstructors (e.constructors d)
  methods : List.Forall₂ e.StubsMethod (d.methods.filter (·.accessor.isNone)) (e.methods d)
  properties : List.Forall₂ (fun p step => p.canRead = true → e.StubsProperty p step)
    d.properties (e.properties d)

/-- The statements at the end of a body with a result of the type. -/
def resultStatements (e : Emitter) (type : TypeRef) : List String :=
  if type.isVoid then [] else [returnStatement e.graph e.aliases type]

theorem resultStatements_givesResult (e : Emitter) (type : TypeRef) :
    GivesResult e.aliases type (e.resultStatements type) := by
  rw [resultStatements]
  by_cases hvoid : type.isVoid = true
  · rw [if_pos hvoid]
    refine ⟨.inl rfl, fun _ => ?_⟩
    have hword := (type.sourceName_eq_void_iff e.aliases).mpr (.inl hvoid)
    simp [hword]
  · rw [if_neg hvoid]
    constructor
    · refine .inr ⟨_, rfl, defaultValue e.graph e.aliases type, ?_, ?_⟩
      · exact defaultValue_ne_empty e.graph e.aliases (Bool.eq_false_iff.mpr hvoid)
      · rw [returnStatement, if_neg hvoid]
    · intro hposes
      have hword : type.sourceName e.aliases ≠ "void" := fun h =>
        ((type.sourceName_eq_void_iff e.aliases).mp h).elim hvoid hposes
      simp [hword]

theorem forall₂_map_of_forall {α β : Type} {related : α → β → Prop} {f : α → β}
    (h : ∀ a, related a (f a)) (items : List α) : List.Forall₂ related items (items.map f) := by
  rw [List.forall₂_map_right_iff, List.forall₂_same]
  exact fun a _ => h a

theorem assignments_isStub (e : Emitter) (ps : List Parameter) (returned : List String) :
    IsStub ps returned (e.assignments ps ++ returned.map Step.line) := by
  refine ⟨(ps.filter (·.direction = .output)).map e.assignment, ?_, ?_⟩
  · refine forall₂_map_of_forall (fun p => ?_) _
    exact ⟨_, rfl, defaultValue_ne_empty e.graph e.aliases⟩
  · rw [List.map_append, List.map_map]
    rfl

theorem constructorSteps_stubs (e : Emitter) (d : TypeDecl) (ps : List Parameter) :
    e.StubsConstructor ps (e.constructorSteps d ps) := by
  refine ⟨"public " ++ Arity.strip d.name, if d.kind = .struct then " : this()" else "",
    e.assignments ps, rfl, ?_⟩
  simpa using e.assignments_isStub ps []

theorem impliedConstructor_stubs (e : Emitter) (d : TypeDecl) :
    e.StubsConstructor [] (.block ("protected " ++ Arity.strip d.name ++ "()") []) :=
  ⟨"protected " ++ Arity.strip d.name, "", [], by simp [parameterList, String.append_assoc],
    [], .nil, rfl⟩

theorem constructors_stubs (e : Emitter) (d : TypeDecl) :
    List.Forall₂ e.StubsConstructor d.ownConstructors (e.constructors d) := by
  have hall := forall₂_map_of_forall (e.constructorSteps_stubs d)
  unfold TypeDecl.ownConstructors constructors
  cases d.kind with
  | struct => exact hall _
  | cls =>
    by_cases hstatic : d.isStatic = true
    · simp [hstatic]
    · simp only [if_neg hstatic]
      refine List.rel_append (hall _) ?_
      split
      · exact .nil
      · exact .cons (e.impliedConstructor_stubs d) .nil
  | _ => exact .nil

theorem methodHeader_announces (e : Emitter) (d : TypeDecl) (m : Method) :
    ∃ before name, e.methodHeader d m = before ++ m.returns.sourceName e.aliases ++ name ++
      "(" ++ e.parameterList m.parameters ++ ")" := by
  rw [methodHeader]
  generalize (if d.kind = .interface then "" else e.methodModifiers d m) = modifiers
  cases conversionWords.lookup m.name with
  | some word => exact ⟨modifiers ++ word ++ " operator ", "", by simp [String.append_assoc]⟩
  | none => exact ⟨modifiers, " " ++ methodName m, by simp [String.append_assoc]⟩

theorem methodSteps_stubs (e : Emitter) {d : TypeDecl} (hkind : d.kind ≠ .interface) (m : Method) :
    e.StubsMethod m (e.methodSteps d m) := by
  obtain ⟨before, name, hheader⟩ := e.methodHeader_announces d m
  refine ⟨before, name, e.resultStatements m.returns, e.methodBody m, ?_, ?_,
    e.resultStatements_givesResult m.returns⟩
  · rw [methodSteps, if_neg hkind, hheader]
  · have hbody : e.methodBody m =
        e.assignments m.parameters ++ (e.resultStatements m.returns).map Step.line := by
      rw [methodBody, resultStatements]
      split
      all_goals rfl
    rw [hbody]
    exact e.assignments_isStub m.parameters _

theorem propertySteps_stubs (e : Emitter) (p : Property) (hread : p.canRead = true) :
    e.StubsProperty p (e.propertySteps false p) := by
  have hstatement : returnStatement e.graph e.aliases p.type =
      String.join (e.resultStatements p.type) := by
    rw [resultStatements]
    split
    · next hvoid => rw [returnStatement, if_pos hvoid]; rfl
    · simp
  refine ⟨if p.isStatic then "public static " else "public ", e.resultStatements p.type,
    if p.canWrite then [.line "set \x7b \x7d"] else [], ?_,
    e.resultStatements_givesResult p.type, ?_⟩
  · simp only [propertySteps, propertyHeader, propertyBody, hread, hstatement, Bool.true_or,
      if_true, Bool.false_eq_true, if_false, List.singleton_append]
  · cases p.canWrite
    · exact .inl rfl
    · exact .inr rfl

/-- Whatever a class or struct declares, its bodies are complete: each output parameter of a
constructor or method is assigned to by one line, in order and before anything is returned, and a
value is returned exactly where the header announces one. -/
theorem stubs_complete (e : Emitter) {d : TypeDecl} (hkind : d.kind = .cls ∨ d.kind = .struct) :
    e.CompleteStubs d := by
  have hcomposite : d.kind.isComposite = true := by
    rcases hkind with h | h
    all_goals rw [h]; rfl
  have hinterface : d.kind ≠ .interface := by
    rcases hkind with h | h
    all_goals simp [h]
  refine ⟨e.constructors_stubs d, ?_, ?_⟩
  · rw [methods, if_pos hcomposite]
    exact forall₂_map_of_forall (e.methodSteps_stubs hinterface) _
  · rw [properties, if_pos hcomposite, decide_eq_false hinterface]
    exact forall₂_map_of_forall e.propertySteps_stubs _

end Emitter

/-! ## A reader and a scanner -/

def intRefOf (byRef : Bool) : TypeRef := { name := "System.Int32", category := .primitive, byRef }

/-- A method with two output parameters behind an ordinary one. -/
def tryRead : Method where
  name := "TryRead"
  returns := { name := "System.Boolean", category := .boolean }
  parameters :=
    [{ name := "limit", type := intRefOf false },
     { name := "value", type := intRefOf true, direction := .output },
     { name := "ref", type := { name := "System.String" }, direction := .output }]

def readerClass : TypeDecl where
  id := "Reader"
  name := "Reader"
  kind := .cls
  constructors := [[{ name := "count", type := intRefOf true, direction := .output }]]
  properties := [{ name := "Length", type := intRefOf false }]
  methods := [tryRead]

def readerEmitter : Emitter where
  graph := { emitted := [readerClass] }

theorem reader_stubs_complete :
    readerClass.kind = .cls ∧ readerClass.methods = [tryRead] ∧
      readerEmitter.CompleteStubs readerClass :=
  ⟨rfl, rfl, readerEmitter.stubs_complete (.inl rfl)⟩

example : readerEmitter.methodSteps readerClass tryRead =
    .block "public bool TryRead(int limit, out int value, out string @ref)"
      [.line "value = 0;", .line "@ref = null;", .line "return false;"] := by
  rfl

/-- An index that is an output parameter, an output parameter without a type, and a method whose
result is of a type by the name of `void`. -/
def scannerEntries : Document.Entries :=
  [(.text "name", .text "Scanner"),
   (.text "properties", .list
     [.map [(.text "name", .text "Item"), (.text "type", .text "System.Int32"),
       (.text "index_parameters", .list
         [.map [(.text "name", .text "at"), (.text "type", .text "System.Int32"),
           (.text "direction", .text "out")]])]]),
   (.text "methods", .list
     [.map [(.text "name", .text "Next"), (.text "parameters", .list
        [.map [(.text "name", .text "token"), (.text "direction", .text "out")]])],
      .map [(.text "name", .text "Reset"), (.text "returns", .text "void")]])]

def scannerClass : TypeDecl where
  id := "Scanner"
  name := "Scanner"
  kind := .cls
  properties :=
    [{ name := "Item", type := intRefOf false
       indexParameters := [{ name := "at", type := intRefOf false, direction := .output }] }]
  methods :=
    [{ name := "Next", parameters := [{ name := "token", type := .void, direction := .output }] },
     { name := "Reset", returns := { name := "void" } }]

def scannerEmitter : Emitter where
  graph := { emitted := [scannerClass] }

/-- The output parameter without a type is assigned nothing, the method whose header says `void`
returns a value, and nothing is assigned to the index. -/
theorem scanner_bodies_fall_short :
    Document.type [] (.map scannerEntries) = .ok scannerClass ∧ scannerClass.kind = .cls ∧
      scannerEmitter.methods scannerClass =
        [.block "public void Next(out void token)" [.line "token = ;"],
         .block "public void Reset()" [.line "return null;"]] ∧
      (∀ value, "token = ;" = Identifier.escape "token" ++ " = " ++ value ++ ";" → value = "") ∧
      ReturnsValue "return null;" ∧
      scannerEmitter.properties scannerClass =
        [.block "public int this[out int at]" [.line "get \x7b return 0; \x7d"]] ∧
      ∀ value, "get \x7b return 0; \x7d" ≠ Identifier.escape "at" ++ " = " ++ value ++ ";" := by
  refine ⟨rfl, rfl, rfl, ?_, ⟨"null", by decide, rfl⟩, rfl, ?_⟩
  · intro value h
    have hname : Identifier.escape "token" = "token" := by decide
    have hchars := congrArg String.toList h
    simpa [hname, String.toList_append] using hchars
  · intro value h
    have hname : Identifier.escape "at" = "at" := by decide
    have hchars := congrArg String.toList h
    simp [hname, String.toList_append] at hchars

end ApiShell
