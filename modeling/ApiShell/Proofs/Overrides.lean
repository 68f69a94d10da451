import ApiShell.Declaration.Members
import ApiShell.Proofs.Category

/-!
# Overrides

A virtual method overrides another where its base definition is on another type. Whether a type is
another one is told by open forms: ids without arity markers, in which a dot stands for a plus
sign. Main statement: where the graph knows the type of the base definition, a method is declared
as an override exactly when the open forms of the two ids differ. So a type is never taken for
another one, and it is told from all others exactly where no other type that can be referred to
has its open form. A box and a generic box at the end share theirs.
-/

namespace ApiShell

/-- The open form of an id: without arity markers and by-reference marks at the end, and dotted. -/
def openForm (id : String) : String :=
  String.ofList (Text.replaceChar '+' '.' (Arity.strip (TypeRef.elementName id)).toList)

theorem openForm_elementName (id : String) : openForm (TypeRef.elementName id) = openForm id := by
  rw [openForm, TypeRef.elementName_elementName, openForm]

namespace TypeRef

/-- The type behind a reference has the name without marks, whether or not there were any. -/
theorem element_name_eq (r : TypeRef) : r.element.name = elementName r.name := by
  rw [element]
  split
  · rfl
  · next h =>
    rw [Bool.or_eq_true, not_or] at h
    exact (elementName_of_unmarked h.2).symm

end TypeRef

/-- What a reference points at has the name of the reference, without marks, as its id. -/
theorem Graph.id_of_resolve? {g : Graph} {ref : TypeRef} {d : TypeDecl}
    (h : g.resolve? ref = some d) : d.id = TypeRef.elementName ref.name := by
  rw [resolve?, get?, TypeRef.element_name_eq] at h
  simpa using List.find?_some h

namespace Emitter

theorem openName_eq (ref : TypeRef) : openName ref = openForm ref.name := by
  rw [openName, TypeRef.element_name_eq, openForm]

/-- The method is neither static nor kept from being virtual, and its base definition is on a type
that the graph knows. -/
structure Traces (e : Emitter) (m : Method) (origin : TypeDecl) : Prop where
  bound : m.isStatic = false
  virtual : m.isVirtual = true ∨ e.forceVirtual = true
  base : ∃ ref, m.baseDefinition = some ref ∧ e.graph.resolve? ref = some origin

variable {e : Emitter} {d origin : TypeDecl} {m : Method}

theorem methodModifiers_eq_override_iff (bound : m.isStatic = false)
    (virtual : m.isVirtual = true ∨ e.forceVirtual = true) :
    e.methodModifiers d m = "public override " ↔ isDeclaredOn m.baseDefinition d = false := by
  have hopen : (!(m.isVirtual || e.forceVirtual)) = false := by
    rcases virtual with h | h <;> simp [h]
  rw [methodModifiers, bound, hopen]
  cases isDeclaredOn m.baseDefinition d with
  | false => simp
  | true => by_cases h : canBeInherited d = true <;> simp [h]

theorem Traces.isDeclaredOn_iff (h : e.Traces m origin) :
    isDeclaredOn m.baseDefinition d = true ↔ openForm origin.id = openForm d.id := by
  obtain ⟨ref, hbase, hresolve⟩ := h.base
  rw [hbase, isDeclaredOn, Option.all_some, beq_iff_eq, openName_eq, openName_eq,
    Graph.id_of_resolve? hresolve, openForm_elementName]
  rfl

theorem Traces.override_iff (h : e.Traces m origin) :
    e.methodModifiers d m = "public override " ↔ openForm origin.id ≠ openForm d.id := by
  rw [methodModifiers_eq_override_iff h.bound h.virtual, ← Bool.not_eq_true, h.isDeclaredOn_iff]

/-- A method is declared as an override exactly when the open forms of the ids of its type and of
the type of its base definition differ. The ids themselves decide about every method exactly when
no type that can be referred to shares its open form with a class or struct of another id. -/
theorem override_iff_open_forms_differ (e : Emitter) :
    (∀ d m origin, e.Traces m origin →
      (e.methodModifiers d m = "public override " ↔ openForm origin.id ≠ openForm d.id)) ∧
    ((∀ d ∈ e.graph.external ++ e.graph.emitted, d.kind = .cls ∨ d.kind = .struct →
        ∀ m origin, e.Traces m origin →
          (e.methodModifiers d m = "public override " ↔ origin.id ≠ d.id)) ↔
      ∀ d ∈ e.graph.external ++ e.graph.emitted, d.kind = .cls ∨ d.kind = .struct →
        ∀ ref origin, e.graph.resolve? ref = some origin →
          openForm origin.id = openForm d.id → origin.id = d.id) := by
  refine ⟨fun d m origin h => h.override_iff, ?_, ?_⟩
  · intro hids d hd hkind ref origin hresolve hsame
    -- a method that refers to the type is taken for one of the type's own
    have htraces : e.Traces { name := "Open", isVirtual := true, baseDefinition := some ref }
        origin := ⟨rfl, .inl rfl, ref, rfl, hresolve⟩
    by_contra hne
    exact htraces.override_iff.mp ((hids d hd hkind _ origin htraces).mpr hne) hsame
  · intro hforms d hd hkind m origin htraces
    obtain ⟨ref, -, hresolve⟩ := htraces.base
    rw [htraces.override_iff]
    refine not_congr ⟨hforms d hd hkind ref origin hresolve, fun hid => ?_⟩
    rw [hid]

end Emitter

/-! ## Boxes -/

def boxClass : TypeDecl := { id := "Acme.Box", name := "Box", kind := .cls, space := some "Acme" }

def genericBoxClass : TypeDecl :=
  { id := "Acme.Box\x601", name := "Box\x601", kind := .cls, space := some "Acme",
    base := some { name := "Acme.Box" }, genericParameters := ["T"] }

def crateClass : TypeDecl :=
  { id := "Acme.Crate", name := "Crate", kind := .cls, space := some "Acme",
    base := some { name := "Acme.Box" } }

def boxEmitter : Emitter := { graph := { emitted := [boxClass, genericBoxClass, crateClass] } }

/-- The method by which boxes are opened, as the box defines it first. -/
def opening : Method :=
  { name := "Open", isVirtual := true, baseDefinition := some { name := "Acme.Box" } }

theorem opening_traces_box : boxEmitter.Traces opening boxClass :=
  ⟨rfl, .inl rfl, { name := "Acme.Box" }, rfl, rfl⟩

/-- The crate opens as an override of the box. -/
theorem crate_overrides_box :
    boxEmitter.Traces opening boxClass ∧
      boxEmitter.methodModifiers crateClass opening = "public override " := by
  refine ⟨opening_traces_box, ?_⟩
  refine ((Emitter.override_iff_open_forms_differ boxEmitter).1 crateClass opening boxClass
    opening_traces_box).mpr ?_
  decide +kernel

/-- The generic box opens as if it were the box, which has another id. -/
theorem genericBox_taken_for_box :
    genericBoxClass ∈ boxEmitter.graph.emitted ∧ genericBoxClass.kind = .cls ∧
      boxEmitter.Traces opening boxClass ∧ boxClass.id ≠ genericBoxClass.id ∧
      boxEmitter.methodModifiers genericBoxClass opening = "public virtual " := by
  refine ⟨by simp [boxEmitter], rfl, opening_traces_box, by decide, ?_⟩
  decide +kernel

end ApiShell
