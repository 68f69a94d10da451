import ApiShell.Proofs.Substitution
import ApiShell.Proofs.Supertypes
import Mathlib.Data.Finset.Card
import Mathlib.Data.List.Perm.Basic

/-!
# Searches that end

A search for supertypes can come back to where it was, and what is pending may grow while the
search goes on. With every reference that is looked at, however, either less is pending or fewer
identities are left to be met. Main statement: where the references above a reference have
finitely many identities, the search ends when it has looked at the reference and at one reference
of each identity at most. This holds of every reference where parents are listed without
arguments, however they are linked: what lies above is then listed by some type or is found among
the arguments of the reference.
-/

namespace ApiShell

open scoped List

namespace Graph

variable {g : Graph} {ref : TypeRef} {identities : Finset String}

/-! ## What is left to be met -/

/-- What holds of a search from a reference at every moment: after the reference itself come, in
some order, the references met so far, which are above it and differ in identity. -/
structure Search.Sweeps (g : Graph) (ref : TypeRef) (s : Search) : Prop where
  order : ∃ others, s.expanded ++ s.pending = ref :: others ∧ others.Perm s.found
  distinct : s.Distinct
  above : ∀ q ∈ s.found, Relation.TransGen g.DirectParent ref q

theorem Search.sweeps_start (g : Graph) (ref : TypeRef) :
    Search.Sweeps g ref { pending := [ref] } where
  order := ⟨[], rfl, .nil⟩
  distinct := List.nodup_nil
  above := by simp

/-- A reference in the sequence of a search is where the search starts or above it. -/
theorem Search.Sweeps.reaches {s : Search} (h : Search.Sweeps g ref s) {r : TypeRef}
    (hr : r ∈ s.expanded ++ s.pending) : Relation.ReflTransGen g.DirectParent ref r := by
  obtain ⟨others, horder, hperm⟩ := h.order
  rw [horder] at hr
  rcases List.mem_cons.mp hr with rfl | hr
  · exact .refl
  · exact (h.above r (hperm.mem_iff.mp hr)).to_reflTransGen

/-- New references come behind the one that was looked at, so the sequence goes on. -/
theorem order_expand {found fresh expanded rest : List TypeRef} {r : TypeRef}
    (h : ∃ others, expanded ++ r :: rest = ref :: others ∧ others.Perm found) :
    ∃ others, (expanded ++ [r]) ++ (fresh.reverse ++ rest) = ref :: others ∧
      others.Perm (found ++ fresh) := by
  obtain ⟨others, horder, hperm⟩ := h
  cases expanded with
  | nil =>
    obtain ⟨rfl, rfl⟩ := List.cons_eq_cons.mp horder
    refine ⟨fresh.reverse ++ rest, rfl, ?_⟩
    exact List.perm_append_comm.trans (hperm.append (List.reverse_perm fresh))
  | cons first more =>
    obtain ⟨rfl, rfl⟩ := List.cons_eq_cons.mp horder
    refine ⟨more ++ [r] ++ (fresh.reverse ++ rest), rfl, ?_⟩
    calc more ++ [r] ++ (fresh.reverse ++ rest)
        _ ~ more ++ [r] ++ (rest ++ fresh.reverse) := List.perm_append_comm.append_left _
        _ = more ++ r :: rest ++ fresh.reverse := by simp
        _ ~ found ++ fresh := hperm.append (List.reverse_perm fresh)

theorem Search.Sweeps.expand {r : TypeRef} {found rest expanded : List TypeRef}
    (h : Search.Sweeps g ref { found, pending := r :: rest, expanded }) :
    Search.Sweeps g ref ((g.parents r).foldl Search.meet
      { found, pending := rest, expanded := expanded ++ [r] }) := by
  have hdistinct : Search.Distinct { found, pending := rest, expanded := expanded ++ [r] } :=
    h.distinct
  have hmet := hdistinct.foldl_meet (g.parents r)
  obtain ⟨fresh, hrun, hsub, -⟩ :=
    foldl_meet (g.parents r) { found, pending := rest, expanded := expanded ++ [r] }
  rw [hrun] at hmet ⊢
  refine ⟨order_expand h.order, hmet, fun q hq => ?_⟩
  rcases List.mem_append.mp hq with hq | hq
  · exact h.above q hq
  · have hstep : g.DirectParent r q := mem_parents_iff.mp (hsub hq)
    exact Relation.TransGen.tail' (h.reaches (by simp)) hstep

/-- There are no more references met than identities that can be met. -/
theorem Search.Sweeps.length_le {s : Search} (h : Search.Sweeps g ref s)
    (hall : ∀ q, Relation.TransGen g.DirectParent ref q → q.identity ∈ identities) :
    s.found.length ≤ identities.card := by
  have hsub : (s.found.map TypeRef.identity).toFinset ⊆ identities := by
    intro identity hmem
    obtain ⟨q, hq, rfl⟩ := List.mem_map.mp (List.mem_toFinset.mp hmem)
    exact hall q (h.above q hq)
  have hcard := Finset.card_le_card hsub
  rwa [List.toFinset_card_of_nodup h.distinct, List.length_map] at hcard

/-- A search ends when it may go on for as many references as are pending and as there are
identities left to be met. -/
theorem Search.Sweeps.ends (fuel : Nat) {s : Search} (h : Search.Sweeps g ref s)
    (hall : ∀ q, Relation.TransGen g.DirectParent ref q → q.identity ∈ identities)
    (hfuel : s.pending.length + identities.card ≤ fuel + s.found.length) :
    ∃ done, g.search fuel s = some done := by
  have hmet := h.length_le hall
  induction fuel generalizing s with
  | zero =>
    obtain ⟨found, pending, expanded⟩ := s
    cases pending with
    | nil => exact ⟨_, search_of_nothing_pending g 0 found expanded⟩
    | cons r rest =>
      simp only [List.length_cons] at hfuel hmet
      omega
  | succ fuel ih =>
    obtain ⟨found, pending, expanded⟩ := s
    cases pending with
    | nil => exact ⟨_, search_of_nothing_pending g (fuel + 1) found expanded⟩
    | cons r rest =>
      rw [search]
      have hnext := h.expand
      refine ih hnext ?_ (hnext.length_le hall)
      -- what is new is pending as well as met, and one reference less is pending
      obtain ⟨fresh, hrun, -, -⟩ :=
        foldl_meet (g.parents r) { found, pending := rest, expanded := expanded ++ [r] }
      rw [hrun]
      simp only [List.length_append, List.length_reverse, List.length_cons] at hfuel ⊢
      omega

theorem search_ends_within
    (hall : ∀ q, Relation.TransGen g.DirectParent ref q → q.identity ∈ identities) :
    ∃ done others, (∀ fuel, identities.card + 1 ≤ fuel →
        g.search fuel { pending := [ref] } = some done) ∧
      done.expanded = ref :: others ∧ (others.map TypeRef.identity).Nodup ∧
      ∀ r ∈ others, r.identity ∈ identities := by
  have hstart := Search.sweeps_start g ref
  have hends : ∀ fuel, identities.card + 1 ≤ fuel →
      ∃ done, g.search fuel { pending := [ref] } = some done := by
    intro fuel hfuel
    refine hstart.ends fuel hall ?_
    simp only [List.length_singleton, List.length_nil]
    omega
  obtain ⟨done, hrun⟩ := hends _ le_rfl
  obtain ⟨hsweeps, hempty⟩ := search_keeps (fun h => h.expand) hstart hrun
  obtain ⟨others, horder, hperm⟩ := hsweeps.order
  rw [hempty, List.append_nil] at horder
  refine ⟨done, others, fun fuel hfuel => ?_, horder, ?_, fun r hr => ?_⟩
  · obtain ⟨done', hrun'⟩ := hends fuel hfuel
    rw [hrun', search_unique hrun' hrun]
  · exact (hperm.map TypeRef.identity).nodup_iff.mpr hsweeps.distinct
  · exact hall r (hsweeps.above r (hperm.mem_iff.mp hr))

end Graph

/-! ## Parents without arguments -/

namespace TypeRef

mutual

/-- A reference and the references among its arguments, at any depth. -/
def parts : TypeRef → List TypeRef
  | { name, args, nullable, category, byRef } =>
    { name, args, nullable, category, byRef } :: partsAll args

/-- The references in a list and among their arguments. -/
def partsAll : List TypeRef → List TypeRef
  | [] => []
  | ref :: rest => parts ref ++ partsAll rest

end

theorem partsAll_eq (refs : List TypeRef) : partsAll refs = refs.flatMap parts := by
  induction refs with
  | nil => rfl
  | cons ref rest ih => simp [partsAll, ih]

theorem parts_eq (r : TypeRef) : r.parts = r :: r.args.flatMap parts := by
  obtain ⟨name, args, nullable, category, byRef⟩ := r
  rw [parts, partsAll_eq]

/-- The arguments of a part are parts. -/
theorem arg_mem_parts {whole r a : TypeRef} (hr : r ∈ whole.parts) (ha : a ∈ r.args) :
    a ∈ whole.parts := by
  induction whole using induction_on_args with
  | h whole ih =>
    rw [parts_eq] at hr ⊢
    refine List.mem_cons_of_mem _ (List.mem_flatMap.mpr ?_)
    rcases List.mem_cons.mp hr with rfl | hr
    · exact ⟨a, ha, by rw [parts_eq]; exact List.mem_cons_self⟩
    · obtain ⟨inner, hinner, hr⟩ := List.mem_flatMap.mp hr
      exact ⟨inner, hinner, ih inner hinner hr⟩

end TypeRef

namespace Graph

variable {g : Graph} {ref r p : TypeRef}

/-- The base types and interfaces that the types of a graph list. -/
def listedParents (g : Graph) : List TypeRef :=
  (g.external ++ g.emitted).flatMap fun d => d.base.toList ++ d.interfaces

/-- No type of the graph lists a parent with arguments. -/
def ListsPlainParents (g : Graph) : Prop :=
  ∀ listed ∈ g.listedParents, listed.args = []

theorem mem_of_resolve? {d : TypeDecl} (h : g.resolve? r = some d) :
    d ∈ g.external ++ g.emitted := by
  rw [resolve?, get?] at h
  exact List.mem_reverse.mp (List.mem_of_find?_eq_some h)

theorem arg_of_lookup {d : TypeDecl} {name : String} (h : (d.binding r).lookup name = some p) :
    p ∈ r.args := by
  obtain ⟨before, after, htable, -⟩ := List.lookup_eq_some_iff.mp h
  have hmem : (name, p) ∈ d.binding r := by simp [htable]
  rw [TypeDecl.binding, List.mem_reverse] at hmem
  exact (List.of_mem_zip hmem).2

/-- Where parents are listed without arguments, a parent is one that is listed, or it is an
argument that is put for a generic parameter. -/
theorem ListsPlainParents.parent (plain : g.ListsPlainParents) (h : g.DirectParent r p) :
    p ∈ g.listedParents ∨ p ∈ r.args := by
  obtain ⟨d, hd, listed, hlisted, rfl⟩ := h
  have hmem : listed ∈ g.listedParents := by
    refine List.mem_flatMap.mpr ⟨d, mem_of_resolve? hd, ?_⟩
    simpa [eq_comm] using hlisted
  rw [TypeRef.substitute_bare (plain listed hmem)]
  cases hbound : (d.binding r).lookup listed.name with
  | none => exact .inl hmem
  | some arg => exact .inr (arg_of_lookup hbound)

theorem ListsPlainParents.above (plain : g.ListsPlainParents)
    (h : Relation.TransGen g.DirectParent ref p) : p ∈ ref.parts ++ g.listedParents := by
  have hstep : ∀ r q, r ∈ ref.parts ++ g.listedParents → g.DirectParent r q →
      q ∈ ref.parts ++ g.listedParents := by
    intro r q hr hq
    rw [List.mem_append] at hr ⊢
    rcases plain.parent hq with hq | hq
    · exact .inr hq
    · rcases hr with hr | hr
      · exact .inl (TypeRef.arg_mem_parts hr hq)
      · -- a listed parent has no arguments
        rw [plain r hr] at hq
        cases hq
  induction h with
  | single hfirst =>
    refine hstep ref _ (List.mem_append_left _ ?_) hfirst
    rw [TypeRef.parts_eq]
    exact List.mem_cons_self
  | tail _ hlast ih => exact hstep _ _ ih hlast

/-- Where the references above a reference have finitely many identities, the search from it ends
after looking at one reference more than there are identities, and except for the reference itself
it looks at no two of one identity. Where parents are listed without arguments, the search from
every reference ends. -/
theorem search_ends_of_finitely_many (g : Graph) :
    (∀ (ref : TypeRef) (identities : Finset String),
      (∀ q, Relation.TransGen g.DirectParent ref q → q.identity ∈ identities) →
      ∃ done others, (∀ fuel, identities.card + 1 ≤ fuel →
          g.search fuel { pending := [ref] } = some done) ∧
        done.expanded = ref :: others ∧ (others.map TypeRef.identity).Nodup ∧
        ∀ r ∈ others, r.identity ∈ identities) ∧
    (g.ListsPlainParents → ∀ ref : TypeRef, ∃ done, ∀ fuel,
      ref.parts.length + g.listedParents.length + 1 ≤ fuel →
        g.search fuel { pending := [ref] } = some done) := by
  refine ⟨fun ref identities hall => search_ends_within hall, fun plain ref => ?_⟩
  have hall : ∀ q, Relation.TransGen g.DirectParent ref q →
      q.identity ∈ ((ref.parts ++ g.listedParents).map TypeRef.identity).toFinset := by
    intro q hq
    exact List.mem_toFinset.mpr (List.mem_map_of_mem (plain.above hq))
  obtain ⟨done, -, hends, -⟩ := search_ends_within hall
  refine ⟨done, fun fuel hfuel => hends fuel ?_⟩
  have hcard := List.toFinset_card_le ((ref.parts ++ g.listedParents).map TypeRef.identity)
  simp only [List.length_map, List.length_append] at hcard
  omega

end Graph

/-! ## Covers of a loop -/

/-- A cover is whatever it covers. A loop is a ring and lists itself, and a ring is a loop. -/
def coverGraph : Graph where
  emitted :=
    [interfaceType "ICover\x601" ["T"] [plainRef "T"],
     interfaceType "ILoop" [] [plainRef "ILoop", plainRef "IRing"],
     interfaceType "IRing" [] [plainRef "ILoop"]]

def coverOf (item : TypeRef) : TypeRef := { name := "ICover\x601", args := [item] }

/-- What lies above the cover of a cover of a loop. -/
def aboveCovers : List TypeRef := [coverOf (plainRef "ILoop"), plainRef "ILoop", plainRef "IRing"]

theorem coverGraph_listsPlainParents : coverGraph.ListsPlainParents := by
  intro listed hlisted
  have hall : coverGraph.listedParents =
      [plainRef "T", plainRef "ILoop", plainRef "IRing", plainRef "ILoop"] := rfl
  rw [hall] at hlisted
  simp only [List.mem_cons, List.not_mem_nil, or_false] at hlisted
  rcases hlisted with rfl | rfl | rfl | rfl <;> rfl

theorem mem_aboveCovers {q : TypeRef}
    (h : Relation.TransGen coverGraph.DirectParent (coverOf (coverOf (plainRef "ILoop"))) q) :
    q ∈ aboveCovers := by
  have hcovers : coverGraph.parents (coverOf (coverOf (plainRef "ILoop"))) =
      [coverOf (plainRef "ILoop")] := rfl
  have hcover : coverGraph.parents (coverOf (plainRef "ILoop")) = [plainRef "ILoop"] := rfl
  have hloop : coverGraph.parents (plainRef "ILoop") = [plainRef "ILoop", plainRef "IRing"] := rfl
  have hring : coverGraph.parents (plainRef "IRing") = [plainRef "ILoop"] := rfl
  induction h with
  | single hfirst =>
    rw [← Graph.mem_parents_iff, hcovers] at hfirst
    simpa [aboveCovers] using Or.inl (List.mem_singleton.mp hfirst)
  | @tail r p _ hlast ih =>
    rw [← Graph.mem_parents_iff] at hlast
    simp only [aboveCovers, List.mem_cons, List.not_mem_nil, or_false] at ih ⊢
    rcases ih with rfl | rfl | rfl
    · rw [hcover] at hlast
      exact .inr (.inl (List.mem_singleton.mp hlast))
    · rw [hloop] at hlast
      simpa using Or.inr hlast
    · rw [hring] at hlast
      exact .inr (.inl (List.mem_singleton.mp hlast))

/-- Three identities lie above the cover of a cover, and the search looks at four references in
all, although it meets the loop three times. -/
theorem cover_search_ends :
    (∃ done others, (∀ fuel, 4 ≤ fuel → coverGraph.search fuel
        { pending := [coverOf (coverOf (plainRef "ILoop"))] } = some done) ∧
      done.expanded = coverOf (coverOf (plainRef "ILoop")) :: others ∧
      (others.map TypeRef.identity).Nodup) ∧
    coverGraph.ListsPlainParents ∧
    ∃ done, ∀ fuel, 8 ≤ fuel → coverGraph.search fuel
      { pending := [coverOf (coverOf (plainRef "ILoop"))] } = some done := by
  have hall : ∀ q,
      Relation.TransGen coverGraph.DirectParent (coverOf (coverOf (plainRef "ILoop"))) q →
        q.identity ∈ ({"ICover<ILoop>", "ILoop", "IRing"} : Finset String) := by
    have hidentities : ∀ q ∈ aboveCovers,
        q.identity ∈ ({"ICover<ILoop>", "ILoop", "IRing"} : Finset String) := by decide +kernel
    intro q hq
    exact hidentities q (mem_aboveCovers hq)
  obtain ⟨hfinite, hplain⟩ := Graph.search_ends_of_finitely_many coverGraph
  obtain ⟨done, others, hends, hexpanded, hnodup, -⟩ := hfinite _ _ hall
  refine ⟨⟨done, others, hends, hexpanded, hnodup⟩, coverGraph_listsPlainParents, ?_⟩
  exact hplain coverGraph_listsPlainParents (coverOf (coverOf (plainRef "ILoop")))

end ApiShell
