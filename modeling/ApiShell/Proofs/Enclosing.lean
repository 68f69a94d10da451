import ApiShell.Library.Visible
import Mathlib.Data.List.Nodup
import Mathlib.Logic.Relation

/-!
# Enclosing chains

The enclosing links of a list of types as a relation, apart from the search that follows them.
Where ids are distinct and no type is nested in itself, the walk outwards ends at the one type
that encloses a type and is itself enclosed by none of the list, before its steps run out.
-/

namespace ApiShell

open Relation

/-- Different types have different ids. -/
def DistinctIds (types : List TypeDecl) : Prop :=
  (types.map (·.id)).Nodup

instance (types : List TypeDecl) : Decidable (DistinctIds types) :=
  inferInstanceAs (Decidable (types.map (·.id)).Nodup)

/-- `p` is one of the types, and `d` says that it is nested in `p`. -/
def NestedDirectly (types : List TypeDecl) (d p : TypeDecl) : Prop :=
  p ∈ types ∧ d.enclosing = some p.id

/-- `d` is nested in `p`, directly or through any number of levels. -/
def NestedIn (types : List TypeDecl) : TypeDecl → TypeDecl → Prop :=
  TransGen (NestedDirectly types)

/-- No type is nested in itself. -/
def AcyclicNesting (types : List TypeDecl) : Prop :=
  ∀ d ∈ types, ¬ NestedIn types d d

/-- `o` is the last type on the enclosing chain of `d`, which starts with `d` itself. -/
def IsOutermost (types : List TypeDecl) (d o : TypeDecl) : Prop :=
  ReflTransGen (NestedDirectly types) d o ∧ ∀ p, ¬ NestedDirectly types o p

/-! ## Lookups by id -/

theorem DistinctIds.nodup {types : List TypeDecl} (distinct : DistinctIds types) :
    types.Nodup :=
  distinct.of_map _

theorem DistinctIds.eq_of_id_eq {types : List TypeDecl} (distinct : DistinctIds types)
    {a b : TypeDecl} (ha : a ∈ types) (hb : b ∈ types) (h : a.id = b.id) : a = b :=
  List.inj_on_of_nodup_map distinct ha hb h

theorem mem_of_findType? {types : List TypeDecl} {id : String} {p : TypeDecl}
    (h : findType? types id = some p) : p ∈ types ∧ p.id = id := by
  rw [findType?] at h
  have hmem := List.mem_of_find?_eq_some h
  exact ⟨List.mem_reverse.mp hmem, by simpa using List.find?_some h⟩

theorem findType?_id {types : List TypeDecl} (distinct : DistinctIds types) {p : TypeDecl}
    (hp : p ∈ types) : findType? types p.id = some p := by
  cases h : findType? types p.id with
  | none =>
    rw [findType?, List.find?_eq_none] at h
    exact absurd (h p (List.mem_reverse.mpr hp)) (by simp)
  | some q =>
    obtain ⟨hq, hid⟩ := mem_of_findType? h
    rw [distinct.eq_of_id_eq hq hp hid]

/-- The lookup that the walk outwards makes follows exactly the enclosing links. -/
theorem enclosing_bind_eq_some_iff {types : List TypeDecl} (distinct : DistinctIds types)
    {d p : TypeDecl} :
    d.enclosing.bind (findType? types) = some p ↔ NestedDirectly types d p := by
  rw [Option.bind_eq_some_iff]
  constructor
  · rintro ⟨id, hd, hfind⟩
    obtain ⟨hp, rfl⟩ := mem_of_findType? hfind
    exact ⟨hp, hd⟩
  · rintro ⟨hp, hd⟩
    exact ⟨p.id, hd, findType?_id distinct hp⟩

theorem NestedDirectly.unique {types : List TypeDecl} (distinct : DistinctIds types)
    {d p q : TypeDecl} (hp : NestedDirectly types d p) (hq : NestedDirectly types d q) :
    p = q := by
  have hid : some p.id = some q.id := hp.2.symm.trans hq.2
  exact distinct.eq_of_id_eq hp.1 hq.1 (Option.some.inj hid)

/-! ## Nesting at any depth -/

theorem NestedIn.mem {types : List TypeDecl} {d p : TypeDecl} (h : NestedIn types d p) :
    p ∈ types := by
  cases h with
  | single h => exact h.1
  | tail _ h => exact h.1

theorem AcyclicNesting.irrefl {types : List TypeDecl} (acyclic : AcyclicNesting types)
    (d : TypeDecl) : ¬ NestedIn types d d :=
  fun h => acyclic d h.mem h

/-- Nesting is acyclic where every enclosing type has a smaller rank than what it encloses. -/
theorem acyclicNesting_of_rank {types : List TypeDecl} (rank : TypeDecl → Nat)
    (h : ∀ d ∈ types, ∀ p ∈ types, d.enclosing = some p.id → rank p < rank d) :
    AcyclicNesting types := by
  have outwards : ∀ {d p : TypeDecl}, NestedIn types d p → d ∈ types → rank p < rank d := by
    intro d p hdp hd
    induction hdp with
    | single step => exact h d hd _ step.1 step.2
    | tail inner step ih => exact Nat.lt_trans (h _ (NestedIn.mem inner) _ step.1 step.2) ih
  intro d hd hself
  exact Nat.lt_irrefl _ (outwards hself hd)

/-- Types of which each is related to all later ones by an irreflexive relation are no more than
there are types at all. Both the walk outwards and the descent into nested types are bounded by
this. -/
theorem length_le_of_pairwise {types : List TypeDecl} {related : TypeDecl → TypeDecl → Prop}
    {path : List TypeDecl} (hpath : path.Pairwise related) (irrefl : ∀ d, ¬ related d d)
    (hsub : path ⊆ types) : path.length ≤ types.length := by
  have hnodup : path.Nodup := by
    refine hpath.imp ?_
    rintro a b hab rfl
    exact irrefl a hab
  exact hnodup.length_le_of_subset hsub

/-! ## The outermost type -/

/-- The walk outwards ends when it has steps left for every type it has not passed yet; `path`
holds the types passed so far, the last one first. -/
theorem outermostWithin_isOutermost {types : List TypeDecl} (distinct : DistinctIds types)
    (acyclic : AcyclicNesting types) (steps : Nat) (d : TypeDecl) (path : List TypeDecl)
    (hpath : (d :: path).Pairwise (fun a b => NestedIn types b a)) (hsub : d :: path ⊆ types)
    (hsteps : types.length ≤ steps + path.length) :
    IsOutermost types d (outermostWithin types steps d) := by
  induction steps generalizing d path with
  | zero =>
    have hlen := length_le_of_pairwise hpath acyclic.irrefl hsub
    simp only [List.length_cons] at hlen
    omega
  | succ steps ih =>
    rw [outermostWithin]
    cases hlink : d.enclosing.bind (findType? types) with
    | none =>
      refine ⟨.refl, fun p hp => ?_⟩
      rw [(enclosing_bind_eq_some_iff distinct).mpr hp] at hlink
      cases hlink
    | some outer =>
      have hstep := (enclosing_bind_eq_some_iff distinct).mp hlink
      have hfurther : (outer :: d :: path).Pairwise (fun a b => NestedIn types b a) := by
        refine List.pairwise_cons.mpr ⟨fun q hq => ?_, hpath⟩
        rcases List.mem_cons.mp hq with rfl | hq
        · exact .single hstep
        · exact .tail ((List.pairwise_cons.mp hpath).1 q hq) hstep
      have hin : outer :: d :: path ⊆ types := List.cons_subset.mpr ⟨hstep.1, hsub⟩
      obtain ⟨hreach, hend⟩ := ih outer (d :: path) hfurther hin
        (by simp only [List.length_cons]; omega)
      exact ⟨.head hstep hreach, hend⟩

/-- The walk outwards finds the outermost type. -/
theorem outermost_isOutermost {types : List TypeDecl} (distinct : DistinctIds types)
    (acyclic : AcyclicNesting types) {d : TypeDecl} (hd : d ∈ types) :
    IsOutermost types d (outermost types d) :=
  outermostWithin_isOutermost distinct acyclic types.length d [] (List.pairwise_singleton ..)
    (by simpa using hd) (by simp)

theorem IsOutermost.unique {types : List TypeDecl} (distinct : DistinctIds types)
    {d o o' : TypeDecl} (h : IsOutermost types d o) (h' : IsOutermost types d o') : o = o' := by
  have links : Relator.RightUnique (NestedDirectly types) := fun _ _ _ hp hq =>
    hp.unique distinct hq
  -- one of the two chains continues the other, and neither can be continued
  rcases ReflTransGen.total_of_right_unique links h.1 h'.1 with hoo | hoo
  · rcases hoo.cases_head with heq | ⟨p, hp, -⟩
    · exact heq
    · exact absurd hp (h.2 p)
  · rcases hoo.cases_head with heq | ⟨p, hp, -⟩
    · exact heq.symm
    · exact absurd hp (h'.2 p)

/-- A type and the types nested in it have the same outermost type. -/
theorem outermost_eq_of_nestedIn {types : List TypeDecl} (distinct : DistinctIds types)
    (acyclic : AcyclicNesting types) {d p : TypeDecl} (hd : d ∈ types)
    (hdp : NestedIn types d p) : outermost types d = outermost types p := by
  obtain ⟨hreach, hend⟩ := outermost_isOutermost distinct acyclic hdp.mem
  exact (outermost_isOutermost distinct acyclic hd).unique distinct
    ⟨hdp.to_reflTransGen.trans hreach, hend⟩

end ApiShell
