import ApiShell.Proofs.Enclosing

/-!
# What is left out

Which types of a list are shown, in terms of their enclosing chains. The choice looks at a type
and at its outermost type only, so a type that is left out takes along the types nested in it
except in one case, which `skipped_with_enclosing_iff` names: a hidden type under a shown
outermost type leaves the public types inside it behind. `Visible` looks at the whole chain; it
passes from a type to those directly inside it (`visible_iff_of_nestedDirectly`).
-/

namespace ApiShell

/-- One of the names is the namespace, the id or the name of the type. -/
def Ignored (ignored : List String) (d : TypeDecl) : Prop :=
  (∃ space ∈ ignored, space ≠ "" ∧ d.space = some space) ∨ d.id ∈ ignored ∨ d.name ∈ ignored

/-- The outermost type around a type is public and not ignored. -/
def UnderShownType (types : List TypeDecl) (ignored : List String) (d : TypeDecl) : Prop :=
  ∃ o, IsOutermost types d o ∧ o.isPublic = true ∧ ¬ Ignored ignored o

theorem isIgnored_iff {ignored : List String} {d : TypeDecl} :
    d.isIgnored ignored = true ↔ Ignored ignored d := by
  rw [TypeDecl.isIgnored, Ignored, Bool.or_eq_true, Bool.or_eq_true, or_assoc]
  refine or_congr ?_ (by simp)
  cases d.space with
  | none => simp
  | some space => simp; tauto

variable {types : List TypeDecl} {ignored : List String} {d p : TypeDecl}

theorem underShownType_iff (distinct : DistinctIds types) (acyclic : AcyclicNesting types)
    (hd : d ∈ types) :
    UnderShownType types ignored d ↔
      (outermost types d).isPublic = true ∧ ¬ Ignored ignored (outermost types d) := by
  have hout := outermost_isOutermost distinct acyclic hd
  constructor
  · rintro ⟨o, ho, hpublic, hkept⟩
    rw [hout.unique distinct ho]
    exact ⟨hpublic, hkept⟩
  · rintro ⟨hpublic, hkept⟩
    exact ⟨_, hout, hpublic, hkept⟩

/-- A type is shown when it is public and its outermost type is public and not ignored. -/
theorem isShown_iff (distinct : DistinctIds types) (acyclic : AcyclicNesting types)
    (hd : d ∈ types) :
    isShown types ignored d = true ↔ d.isPublic = true ∧ UnderShownType types ignored d := by
  rw [underShownType_iff distinct acyclic hd, ← isIgnored_iff, isShown, Bool.and_eq_true,
    Bool.and_eq_true, and_assoc, Bool.not_eq_true', Bool.not_eq_true]

theorem underShownType_iff_of_nestedIn (distinct : DistinctIds types)
    (acyclic : AcyclicNesting types) (hd : d ∈ types) (hdp : NestedIn types d p) :
    UnderShownType types ignored d ↔ UnderShownType types ignored p := by
  rw [underShownType_iff distinct acyclic hd, underShownType_iff distinct acyclic hdp.mem,
    outermost_eq_of_nestedIn distinct acyclic hd hdp]

theorem mem_shownTypes : d ∈ shownTypes types ignored ↔ d ∈ types ∧ isShown types ignored d := by
  rw [shownTypes, List.mem_filter]

/-- An id is among those left out exactly when its type is not shown. -/
theorem id_mem_skippedIds (distinct : DistinctIds types) (hd : d ∈ types) :
    d.id ∈ skippedIds types ignored ↔ isShown types ignored d = false := by
  simp only [skippedIds, List.mem_map, List.mem_filter, Bool.not_eq_true']
  constructor
  · rintro ⟨e, ⟨he, hhidden⟩, hid⟩
    rwa [← distinct.eq_of_id_eq he hd hid]
  · intro hhidden
    exact ⟨d, ⟨hd, hhidden⟩, rfl⟩

/-- A type nested in one that is left out is left out with it, unless it is itself public and
the one around it is left out only for being hidden, below a shown outermost type. -/
theorem skipped_with_enclosing_iff (distinct : DistinctIds types)
    (acyclic : AcyclicNesting types) (hd : d ∈ types) (hdp : NestedIn types d p)
    (dropped : p.id ∈ skippedIds types ignored) :
    d.id ∈ skippedIds types ignored ↔
      ¬ (d.isPublic = true ∧ p.isPublic = false ∧ UnderShownType types ignored p) := by
  have hp : ¬ (p.isPublic = true ∧ UnderShownType types ignored p) := by
    rw [id_mem_skippedIds distinct hdp.mem] at dropped
    rw [← isShown_iff distinct acyclic hdp.mem, dropped]
    exact Bool.false_ne_true
  rw [id_mem_skippedIds distinct hd, ← Bool.not_eq_true, isShown_iff distinct acyclic hd,
    underShownType_iff_of_nestedIn distinct acyclic hd hdp]
  refine not_congr ⟨?_, ?_⟩
  · rintro ⟨hpublic, hshown⟩
    refine ⟨hpublic, ?_, hshown⟩
    exact Bool.eq_false_iff.mpr fun hpp => hp ⟨hpp, hshown⟩
  · rintro ⟨hpublic, -, hshown⟩
    exact ⟨hpublic, hshown⟩

/-! ## Three levels of nesting -/

/-- The outermost of three nested classes. -/
def outerClass (isPublic : Bool) : TypeDecl :=
  { id := "Outer", name := "Outer", kind := .cls, isPublic }

/-- The class between the other two. -/
def middleClass (isPublic : Bool) : TypeDecl :=
  { id := "Outer+Middle", name := "Middle", kind := .cls, enclosing := some "Outer", isPublic }

/-- The innermost of three nested classes, which is public. -/
def innerClass : TypeDecl :=
  { id := "Outer+Middle+Inner", name := "Inner", kind := .cls, enclosing := some "Outer+Middle" }

/-- Three nested classes of which the outer two may be hidden. -/
def nestedClasses (outer middle : Bool) : List TypeDecl :=
  [outerClass outer, middleClass middle, innerClass]

theorem nestedClasses_distinctIds (outer middle : Bool) :
    DistinctIds (nestedClasses outer middle) := by
  cases outer <;> cases middle <;> decide

theorem nestedClasses_acyclic (outer middle : Bool) :
    AcyclicNesting (nestedClasses outer middle) := by
  refine acyclicNesting_of_rank (fun d => d.id.length) ?_
  cases outer <;> cases middle <;> decide

theorem innerClass_nestedIn_middle (outer middle : Bool) :
    NestedIn (nestedClasses outer middle) innerClass (middleClass middle) :=
  .single ⟨by simp [nestedClasses], rfl⟩

theorem innerClass_nestedIn_outer (outer middle : Bool) :
    NestedIn (nestedClasses outer middle) innerClass (outerClass outer) :=
  .tail (innerClass_nestedIn_middle outer middle) ⟨by simp [nestedClasses], rfl⟩

theorem skipped_with_hidden_outer_class :
    (outerClass false).id ∈ skippedIds (nestedClasses false true) [] ∧
      (innerClass.id ∈ skippedIds (nestedClasses false true) [] ↔
        ¬ (innerClass.isPublic = true ∧ (outerClass false).isPublic = false ∧
          UnderShownType (nestedClasses false true) [] (outerClass false))) :=
  ⟨by decide,
    skipped_with_enclosing_iff (nestedClasses_distinctIds false true)
      (nestedClasses_acyclic false true) (by simp [nestedClasses])
      (innerClass_nestedIn_outer false true) (by decide)⟩

/-- Leaving out is not closed under nesting: a public class stays when the hidden class around
it is left out. -/
theorem innerClass_survives_hidden_middle :
    DistinctIds (nestedClasses true false) ∧ AcyclicNesting (nestedClasses true false) ∧
      innerClass ∈ nestedClasses true false ∧
      NestedIn (nestedClasses true false) innerClass (middleClass false) ∧
      (middleClass false).id ∈ skippedIds (nestedClasses true false) [] ∧
      innerClass.id ∉ skippedIds (nestedClasses true false) [] :=
  ⟨nestedClasses_distinctIds true false, nestedClasses_acyclic true false,
    by simp [nestedClasses], innerClass_nestedIn_middle true false, by decide, by decide⟩

/-! ## Types that can be declared -/

/-- The kinds whose declarations have room for nested types. -/
def hostKinds : List Kind := [.cls, .struct, .interface]

/-- A type and all types around it are public, those around it have room for nested types, and
the outermost one is not ignored. -/
structure Visible (types : List TypeDecl) (ignored : List String) (d : TypeDecl) : Prop where
  isPublic : d.isPublic = true
  around : ∀ p, NestedIn types d p → p.isPublic = true ∧ p.kind ∈ hostKinds
  outermost : ∃ o, IsOutermost types d o ∧ ¬ Ignored ignored o

theorem isComposite_iff {kind : Kind} : kind.isComposite = true ↔ kind ∈ hostKinds := by
  cases kind <;> decide

theorem Visible.isShown (distinct : DistinctIds types) (acyclic : AcyclicNesting types)
    (hd : d ∈ types) (h : Visible types ignored d) : isShown types ignored d = true := by
  obtain ⟨o, ho, hkept⟩ := h.outermost
  refine (isShown_iff distinct acyclic hd).mpr ⟨h.isPublic, o, ho, ?_, hkept⟩
  rcases Relation.reflTransGen_iff_eq_or_transGen.mp ho.1 with rfl | hnested
  · exact h.isPublic
  · exact (h.around o hnested).1

/-- A type directly inside `d` is nested in `d` and in the types that `d` is nested in. -/
theorem nestedIn_iff_of_nestedDirectly (distinct : DistinctIds types) {c : TypeDecl}
    (hcd : NestedDirectly types c d) :
    NestedIn types c p ↔ p = d ∨ NestedIn types d p := by
  rw [NestedIn, Relation.TransGen.head'_iff]
  constructor
  · rintro ⟨q, hcq, hqp⟩
    rw [hcq.unique distinct hcd] at hqp
    exact Relation.reflTransGen_iff_eq_or_transGen.mp hqp
  · intro h
    exact ⟨d, hcd, Relation.reflTransGen_iff_eq_or_transGen.mpr h⟩

theorem isOutermost_iff_of_nestedDirectly (distinct : DistinctIds types) {c o : TypeDecl}
    (hcd : NestedDirectly types c d) : IsOutermost types c o ↔ IsOutermost types d o := by
  constructor
  · rintro ⟨hreach, hend⟩
    rcases hreach.cases_head with rfl | ⟨q, hcq, hqo⟩
    · exact absurd hcd (hend d)
    · rw [hcq.unique distinct hcd] at hqo
      exact ⟨hqo, hend⟩
  · rintro ⟨hreach, hend⟩
    exact ⟨.head hcd hreach, hend⟩

/-- A nested type is visible when it is public and the type around it is visible and has room
for it. -/
theorem visible_iff_of_nestedDirectly (distinct : DistinctIds types) {c : TypeDecl}
    (hcd : NestedDirectly types c d) :
    Visible types ignored c ↔
      c.isPublic = true ∧ d.kind ∈ hostKinds ∧ Visible types ignored d := by
  constructor
  · intro h
    obtain ⟨hpublic, hhost⟩ := h.around d (.single hcd)
    obtain ⟨o, ho, hkept⟩ := h.outermost
    refine ⟨h.isPublic, hhost, hpublic, fun p hp => ?_, o, ?_, hkept⟩
    · exact h.around p ((nestedIn_iff_of_nestedDirectly distinct hcd).mpr (.inr hp))
    · exact (isOutermost_iff_of_nestedDirectly distinct hcd).mp ho
  · rintro ⟨hpublic, hhost, h⟩
    obtain ⟨o, ho, hkept⟩ := h.outermost
    refine ⟨hpublic, fun p hp => ?_, o, ?_, hkept⟩
    · rcases (nestedIn_iff_of_nestedDirectly distinct hcd).mp hp with rfl | hp
      · exact ⟨h.isPublic, hhost⟩
      · exact h.around p hp
    · exact (isOutermost_iff_of_nestedDirectly distinct hcd).mpr ho

/-- A type that is not nested is visible when it is shown. -/
theorem visible_iff_isShown_of_top (distinct : DistinctIds types)
    (acyclic : AcyclicNesting types) (hd : d ∈ types) (htop : d.enclosing = none) :
    Visible types ignored d ↔ isShown types ignored d = true := by
  constructor
  · exact Visible.isShown distinct acyclic hd
  · intro h
    obtain ⟨hpublic, o, ho, -, hkept⟩ := (isShown_iff distinct acyclic hd).mp h
    refine ⟨hpublic, fun p hp => ?_, o, ho, hkept⟩
    obtain ⟨q, hq, -⟩ := Relation.TransGen.head'_iff.mp hp
    rw [hq.2] at htop
    cases htop

end ApiShell
