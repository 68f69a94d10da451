import ApiShell.Proofs.Assignability

/-!
# Supertypes

The search for supertypes finds the transitive closure of the step from a reference to its direct
parents, up to identity: what it finds lies above the reference, no identity is found twice, and
no parent of anything found is missed. This holds for diamonds, for cycles and for references
that come back to where the search started.
-/

namespace ApiShell.Graph

variable {g : Graph} {ref : TypeRef} {found : List TypeRef}

/-- One step up: the base type or an interface of the type that a reference points at, with the
arguments of the reference put for the generic parameters of the type. -/
def DirectParent (g : Graph) (r p : TypeRef) : Prop :=
  ∃ d, g.resolve? r = some d ∧ ∃ listed : TypeRef,
    (d.base = some listed ∨ listed ∈ d.interfaces) ∧ p = listed.substitute (d.binding r)

theorem mem_parents_iff {r p : TypeRef} : p ∈ g.parents r ↔ g.DirectParent r p := by
  rw [parents, DirectParent]
  cases g.resolve? r with
  | none => simp
  | some d =>
    simp only [List.mem_map, List.mem_append, Option.mem_toList, Option.some.injEq,
      exists_eq_left', eq_comm]

/-! ## No identity is found twice -/

/-- The references met so far have different identities. -/
def Search.Distinct (s : Search) : Prop :=
  (s.found.map TypeRef.identity).Nodup

theorem Search.Distinct.meet {s : Search} (h : s.Distinct) (p : TypeRef) :
    (s.meet p).Distinct := by
  rw [Search.meet]
  split
  · exact h
  · next hnew =>
    have hfresh : p.identity ∉ s.found.map TypeRef.identity := by
      intro hmem
      obtain ⟨q, hq, hsame⟩ := List.mem_map.mp hmem
      exact hnew (List.any_eq_true.mpr ⟨q, hq, by simpa using hsame⟩)
    rw [Search.Distinct, List.map_append, List.map_singleton]
    exact List.nodup_append.mpr ⟨h, by simp, by simpa using hfresh⟩

theorem Search.Distinct.foldl_meet (ps : List TypeRef) {s : Search} (h : s.Distinct) :
    (ps.foldl Search.meet s).Distinct := by
  induction ps generalizing s with
  | nil => exact h
  | cons p rest ih => exact ih (h.meet p)

theorem distinct_of_supertypes? (h : g.supertypes? ref = some found) :
    (found.map TypeRef.identity).Nodup := by
  rw [supertypes?, Option.map_eq_some_iff] at h
  obtain ⟨done, hrun, rfl⟩ := h
  have hstart : Search.Distinct { pending := [ref] } := List.nodup_nil
  exact (search_keeps (fun hs => Search.Distinct.foldl_meet _ hs) hstart hrun).1

/-! ## How long a search may go on -/

theorem search_of_nothing_pending (g : Graph) (fuel : Nat) (found expanded : List TypeRef) :
    g.search fuel { found, pending := [], expanded } =
      some { found, pending := [], expanded } := by
  cases fuel <;> rfl

/-- Searches that end within different bounds end alike. -/
theorem search_unique {fuel fuel' : Nat} {s done done' : Search}
    (h : g.search fuel s = some done) (h' : g.search fuel' s = some done') : done = done' := by
  induction fuel generalizing fuel' s with
  | zero =>
    obtain ⟨found, pending, expanded⟩ := s
    cases pending with
    | nil =>
      rw [search_of_nothing_pending] at h h'
      exact Option.some.inj (h.symm.trans h')
    | cons r rest => cases h
  | succ fuel ih =>
    obtain ⟨found, pending, expanded⟩ := s
    cases pending with
    | nil =>
      rw [search_of_nothing_pending] at h h'
      exact Option.some.inj (h.symm.trans h')
    | cons r rest =>
      cases fuel' with
      | zero => cases h'
      | succ fuel' =>
        rw [search] at h h'
        exact ih h h'

/-! ## The closure -/

/-- The supertypes of a reference on which the search ends are the transitive closure of its
direct parents: each lies above it, their identities are distinct, and each direct parent of the
reference or of a supertype has the identity of a supertype. How long the search might have gone
on does not matter. So one reference can stand for another exactly when it has its identity or
that of one of its supertypes. -/
theorem supertypes_closure_of_parents (g : Graph) (ref : TypeRef) (found : List TypeRef)
    (h : g.supertypes? ref = some found) :
    (∀ q ∈ found, Relation.TransGen g.DirectParent ref q) ∧
    (found.map TypeRef.identity).Nodup ∧
    (∀ r ∈ ref :: found, ∀ p, g.DirectParent r p →
      p.identity ∈ found.map TypeRef.identity) ∧
    (∀ fuel done, g.search fuel { pending := [ref] } = some done → done.found = found) ∧
    ∀ target : TypeRef, g.isAssignable target ref = true ↔
      target.identity = ref.identity ∨ target.identity ∈ found.map TypeRef.identity := by
  refine ⟨?_, distinct_of_supertypes? h, ?_, ?_, ?_⟩
  · intro q hq
    refine Relation.TransGen.mono (fun r p hstep => ?_) ref q (above_of_supertypes? h hq)
    exact mem_parents_iff.mp hstep.1
  · intro r hr p hp
    obtain ⟨q, hq, hsame⟩ := closed_of_supertypes? h hr (mem_parents_iff.mpr hp)
    exact List.mem_map.mpr ⟨q, hq, hsame⟩
  · intro fuel done hrun
    rw [supertypes?, Option.map_eq_some_iff] at h
    obtain ⟨done', hrun', rfl⟩ := h
    rw [search_unique hrun hrun']
  · intro target
    have hfound : g.supertypes ref = found := by rw [supertypes, h, Option.getD_some]
    rw [isAssignable_iff, hfound]
    simp [eq_comm]

/-! ## A ring of interfaces -/

/-- A node is a link and a link is a node again, and both are items. -/
def ringGraph : Graph where
  emitted :=
    [interfaceType "IItem\x601" ["T"] [],
     interfaceType "ILink\x601" ["T"] [ofItems "IItem\x601" "T", ofItems "INode\x601" "T"],
     interfaceType "INode\x601" ["T"] [ofItems "ILink\x601" "T", ofItems "IItem\x601" "T"]]
  budget := 10

/-- The search from a node comes back to the node, and meets the item once on two ways. -/
theorem node_supertypes_closed :
    ringGraph.supertypes? (ofItems "INode\x601" "Book") =
        some [ofItems "ILink\x601" "Book", ofItems "IItem\x601" "Book",
          ofItems "INode\x601" "Book"] ∧
      Relation.TransGen ringGraph.DirectParent (ofItems "INode\x601" "Book")
        (ofItems "INode\x601" "Book") ∧
      ringGraph.isAssignable (ofItems "IItem\x601" "Book") (ofItems "INode\x601" "Book")
        = true := by
  have hends : ringGraph.supertypes? (ofItems "INode\x601" "Book") =
      some [ofItems "ILink\x601" "Book", ofItems "IItem\x601" "Book",
        ofItems "INode\x601" "Book"] := rfl
  obtain ⟨habove, -, -, -, hassignable⟩ := supertypes_closure_of_parents _ _ _ hends
  exact ⟨hends, habove _ (by simp), (hassignable _).mpr (.inr (by simp))⟩

end ApiShell.Graph
