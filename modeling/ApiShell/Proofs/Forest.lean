import ApiShell.Graph.Nesting
import ApiShell.Proofs.Acceptance
import ApiShell.Proofs.Visibility
import Mathlib.Data.List.Flatten

/-!
# The nesting forest

The types that a shell declares, in the order of their declarations. `FullTree` describes a tree
of the nesting forest without saying how it is built: under each type stand exactly the visible
types directly inside it, in document order. The trees that the graph builds are such trees, and
their depth never runs out; reading them in preorder gives every visible type once.
-/

namespace ApiShell

open Relation

/-! ## Order in lists -/

/-- A pair of a list without repetition stands in a sublist that has both in the same order. -/
theorem sublist_of_pair_sublist {α : Type} {l s : List α} (hl : l.Nodup) (hs : s.Sublist l)
    {a b : α} (hab : [a, b].Sublist l) (ha : a ∈ s) (hb : b ∈ s) : [a, b].Sublist s := by
  induction hs with
  | slnil => cases ha
  | @cons s l x hs ih =>
    have hx : x ∉ l := (List.nodup_cons.mp hl).1
    have hne : x ≠ a := fun h => hx (h ▸ hs.subset ha)
    refine ih (List.nodup_cons.mp hl).2 ?_ ha hb
    cases hab with
    | cons _ hab => exact hab
    | cons_cons _ hab => exact absurd rfl hne
  | @cons_cons s l x hs ih =>
    have hx : x ∉ l := (List.nodup_cons.mp hl).1
    cases hab with
    | cons _ hab =>
      have hne : ∀ y ∈ [a, b], y ≠ x := fun y hy h => hx (h ▸ hab.subset hy)
      have ha' := List.mem_of_ne_of_mem (hne a (by simp)) ha
      have hb' := List.mem_of_ne_of_mem (hne b (by simp)) hb
      exact (ih (List.nodup_cons.mp hl).2 hab ha' hb').cons x
    | cons_cons _ hb' =>
      have hbl : b ∈ l := List.singleton_sublist.mp hb'
      have hne : b ≠ a := fun h => hx (h ▸ hbl)
      exact (List.singleton_sublist.mpr (List.mem_of_ne_of_mem hne hb)).cons_cons a

/-- Standing before another is transitive in a list without repetition. -/
theorem pair_sublist_trans {α : Type} {l : List α} (hl : l.Nodup) {a b c : α}
    (hab : [a, b].Sublist l) (hbc : [b, c].Sublist l) : [a, c].Sublist l := by
  induction l with
  | nil => cases hab
  | cons x l ih =>
    obtain ⟨hx, hl⟩ := List.nodup_cons.mp hl
    have hbl : b ∈ l := by
      cases hab with
      | cons _ hab => exact hab.subset (by simp)
      | cons_cons _ hab => exact List.singleton_sublist.mp hab
    have hbc' : [b, c].Sublist l := by
      cases hbc with
      | cons _ hbc => exact hbc
      | cons_cons _ hbc => exact absurd hbl hx
    cases hab with
    | cons _ hab => exact (ih hl hab hbc').cons x
    | cons_cons _ hab =>
      have hc : c ∈ l := hbc'.subset (by simp)
      exact (List.singleton_sublist.mpr hc).cons_cons a

/-- The types with a property, in the order of the document. -/
def ListsInOrder (types : List TypeDecl) (property : TypeDecl → Prop) (listed : List TypeDecl) :
    Prop :=
  listed.Sublist types ∧ ∀ d, d ∈ listed ↔ d ∈ types ∧ property d

/-- Two listed types stand in the list as they stand in the document. -/
theorem ListsInOrder.pair_sublist {types listed : List TypeDecl} {property : TypeDecl → Prop}
    (h : ListsInOrder types property listed) (distinct : DistinctIds types) {a b : TypeDecl}
    (hab : [a, b].Sublist types) (ha : property a) (hb : property b) :
    [a, b].Sublist listed := by
  have hsub : [a, b] ⊆ types := hab.subset
  have hal : a ∈ listed := (h.2 a).mpr ⟨hsub (by simp), ha⟩
  have hbl : b ∈ listed := (h.2 b).mpr ⟨hsub (by simp), hb⟩
  exact sublist_of_pair_sublist distinct.nodup h.1 hab hal hbl

/-- Two members of the same enclosing type, or of none, are on no common chain unless they are
the same. -/
theorem eq_of_same_enclosing {types : List TypeDecl} (distinct : DistinctIds types)
    (acyclic : AcyclicNesting types) {d a b : TypeDecl}
    (ha : ReflTransGen (NestedDirectly types) d a) (hb : ReflTransGen (NestedDirectly types) d b)
    (hside : a.enclosing = b.enclosing) : a = b := by
  have links : Relator.RightUnique (NestedDirectly types) := fun _ _ _ hp hq =>
    hp.unique distinct hq
  -- a chain from one to the other would pass through what encloses both
  have along : ∀ {x y : TypeDecl}, ReflTransGen (NestedDirectly types) x y →
      x.enclosing = y.enclosing → x = y := by
    intro x y hxy hsame
    rcases hxy.cases_head with heq | ⟨p, hp, hpy⟩
    · exact heq
    · exact absurd (TransGen.tail' hpy ⟨hp.1, hsame ▸ hp.2⟩) (acyclic.irrefl p)
  rcases ReflTransGen.total_of_right_unique links ha hb with hab | hba
  · exact along hab hside
  · exact (along hba hside.symm).symm

namespace Nesting

/-- The type at the top of a tree. -/
def root : Nesting → TypeDecl
  | .node d _ => d

theorem preorderAll_eq_flatMap (trees : List Nesting) :
    preorderAll trees = trees.flatMap preorder := by
  induction trees with
  | nil => rfl
  | cons tree rest ih => rw [preorderAll, ih, List.flatMap_cons]

theorem root_mem_preorder (tree : Nesting) : tree.root ∈ tree.preorder := by
  cases tree
  simp [root, preorder]

theorem mem_preorderAll {trees : List Nesting} {d : TypeDecl} :
    d ∈ preorderAll trees ↔ ∃ tree ∈ trees, d ∈ tree.preorder := by
  rw [preorderAll_eq_flatMap, List.mem_flatMap]

theorem roots_sublist_preorderAll (trees : List Nesting) :
    (trees.map root).Sublist (preorderAll trees) := by
  induction trees with
  | nil => exact List.nil_sublist _
  | cons tree rest ih =>
    rw [List.map_cons, preorderAll]
    exact (List.singleton_sublist.mpr tree.root_mem_preorder).append ih

theorem preorder_sublist_preorderAll {trees : List Nesting} {tree : Nesting}
    (h : tree ∈ trees) : tree.preorder.Sublist (preorderAll trees) := by
  induction trees with
  | nil => cases h
  | cons first rest ih =>
    rw [preorderAll]
    rcases List.mem_cons.mp h with rfl | h
    · exact List.sublist_append_left _ _
    · exact (ih h).trans (List.sublist_append_right _ _)

/-- Under each type of the tree stand exactly the visible types directly inside it, in document
order. -/
inductive FullTree (types : List TypeDecl) (ignored : List String) : Nesting → Prop where
  | node {d : TypeDecl} {inner : List Nesting}
      (listed : ListsInOrder types
        (fun c => Visible types ignored c ∧ c.enclosing = some d.id) (inner.map root))
      (deeper : ∀ tree ∈ inner, FullTree types ignored tree) :
      FullTree types ignored (.node d inner)

/-- The trees of all visible types that are not nested, in document order. -/
structure FullForest (types : List TypeDecl) (ignored : List String) (forest : List Nesting) :
    Prop where
  listed : ListsInOrder types
    (fun d => Visible types ignored d ∧ d.enclosing = none) (forest.map root)
  full : ∀ tree ∈ forest, FullTree types ignored tree

variable {types : List TypeDecl} {ignored : List String} {tree : Nesting} {d c : TypeDecl}

theorem FullTree.root_mem_of_inner {inner : List Nesting}
    (hnode : FullTree types ignored (.node d inner)) (htree : tree ∈ inner) :
    tree.root ∈ types ∧ Visible types ignored tree.root ∧ tree.root.enclosing = some d.id := by
  cases hnode with
  | node listed _ => exact (listed.2 tree.root).mp (List.mem_map.mpr ⟨tree, htree, rfl⟩)

/-! ## What a full tree holds -/

/-- Every type of a tree is visible and leads outwards to the top of the tree. -/
theorem FullTree.visible_and_inside (h : FullTree types ignored tree)
    (hroot : tree.root ∈ types ∧ Visible types ignored tree.root) (hd : d ∈ tree.preorder) :
    (d ∈ types ∧ Visible types ignored d) ∧
      ReflTransGen (NestedDirectly types) d tree.root := by
  induction h with
  | @node top inner listed deeper ih =>
    rw [preorder] at hd
    rcases List.mem_cons.mp hd with rfl | hd
    · exact ⟨hroot, .refl⟩
    · obtain ⟨tree, htree, hd⟩ := mem_preorderAll.mp hd
      obtain ⟨hmem, hvisible, hlink⟩ := (FullTree.node listed deeper).root_mem_of_inner htree
      obtain ⟨hgood, hreach⟩ := ih tree htree ⟨hmem, hvisible⟩ hd
      exact ⟨hgood, hreach.tail ⟨hroot.1, hlink⟩⟩

/-- A tree that holds a type holds the visible types directly inside it, after it. -/
theorem FullTree.inside_after (h : FullTree types ignored tree) (hd : d ∈ tree.preorder)
    (hc : c ∈ types) (hvisible : Visible types ignored c) (hlink : c.enclosing = some d.id) :
    [d, c].Sublist tree.preorder := by
  induction h with
  | @node top inner listed deeper ih =>
    rw [preorder] at hd ⊢
    rcases List.mem_cons.mp hd with rfl | hd
    · have hroot : c ∈ inner.map root := (listed.2 c).mpr ⟨hc, hvisible, hlink⟩
      have hmem : c ∈ preorderAll inner := (roots_sublist_preorderAll inner).subset hroot
      exact (List.singleton_sublist.mpr hmem).cons_cons d
    · obtain ⟨tree, htree, hd⟩ := mem_preorderAll.mp hd
      exact ((ih tree htree hd).trans (preorder_sublist_preorderAll htree)).cons top

/-- Types directly inside the same type of a tree keep their order. -/
theorem FullTree.siblings_in_order (distinct : DistinctIds types)
    (h : FullTree types ignored tree) (hd : d ∈ tree.preorder) {a b : TypeDecl}
    (hab : [a, b].Sublist types)
    (ha : Visible types ignored a ∧ a.enclosing = some d.id)
    (hb : Visible types ignored b ∧ b.enclosing = some d.id) :
    [a, b].Sublist tree.preorder := by
  induction h with
  | @node top inner listed deeper ih =>
    rw [preorder] at hd ⊢
    rcases List.mem_cons.mp hd with rfl | hd
    · have hroots := listed.pair_sublist distinct hab ha hb
      exact (hroots.trans (roots_sublist_preorderAll inner)).cons d
    · obtain ⟨tree, htree, hd⟩ := mem_preorderAll.mp hd
      exact ((ih tree htree hd).trans (preorder_sublist_preorderAll htree)).cons top

/-- Trees whose tops stand side by side have no type in common. -/
theorem preorder_disjoint (distinct : DistinctIds types) (acyclic : AcyclicNesting types)
    {tree' : Nesting} (h : FullTree types ignored tree) (h' : FullTree types ignored tree')
    (hroot : tree.root ∈ types ∧ Visible types ignored tree.root)
    (hroot' : tree'.root ∈ types ∧ Visible types ignored tree'.root)
    (hside : tree.root.enclosing = tree'.root.enclosing) (hne : tree.root ≠ tree'.root) :
    tree.preorder.Disjoint tree'.preorder := by
  intro d hd hd'
  obtain ⟨-, hreach⟩ := h.visible_and_inside hroot hd
  obtain ⟨-, hreach'⟩ := h'.visible_and_inside hroot' hd'
  exact hne (eq_of_same_enclosing distinct acyclic hreach hreach' hside)

/-- The trees of a list whose tops stand side by side hold every type once. -/
theorem preorderAll_nodup (distinct : DistinctIds types) (acyclic : AcyclicNesting types)
    {trees : List Nesting} (outer : Option String)
    (hroots : ∀ tree ∈ trees, (tree.root ∈ types ∧ Visible types ignored tree.root) ∧
      tree.root.enclosing = outer)
    (hnodup : (trees.map root).Nodup) (hfull : ∀ tree ∈ trees, FullTree types ignored tree)
    (hone : ∀ tree ∈ trees, tree.preorder.Nodup) : (preorderAll trees).Nodup := by
  rw [preorderAll_eq_flatMap, List.nodup_flatMap]
  refine ⟨hone, ?_⟩
  rw [List.Nodup, List.pairwise_map] at hnodup
  refine hnodup.imp_of_mem ?_
  intro a b ha hb hne
  have hside : a.root.enclosing = b.root.enclosing := (hroots a ha).2.trans (hroots b hb).2.symm
  exact preorder_disjoint distinct acyclic (hfull a ha) (hfull b hb) (hroots a ha).1
    (hroots b hb).1 hside hne

theorem FullTree.preorder_nodup (distinct : DistinctIds types) (acyclic : AcyclicNesting types)
    (h : FullTree types ignored tree)
    (hroot : tree.root ∈ types ∧ Visible types ignored tree.root) : tree.preorder.Nodup := by
  induction h with
  | @node top inner listed deeper ih =>
    have hroots : ∀ tree ∈ inner, tree.root ∈ types ∧ Visible types ignored tree.root ∧
        tree.root.enclosing = some top.id := fun tree htree =>
      (FullTree.node listed deeper).root_mem_of_inner htree
    rw [preorder, List.nodup_cons]
    constructor
    · -- a type inside the top leads outwards to it, so it is not the top
      intro htop
      obtain ⟨tree, htree, hmem⟩ := mem_preorderAll.mp htop
      obtain ⟨hin, hvisible, hlink⟩ := hroots tree htree
      obtain ⟨-, hreach⟩ := (deeper tree htree).visible_and_inside ⟨hin, hvisible⟩ hmem
      exact acyclic.irrefl top (TransGen.tail' hreach ⟨hroot.1, hlink⟩)
    · refine preorderAll_nodup distinct acyclic (some top.id) (fun tree htree => ?_)
        (listed.1.nodup distinct.nodup) deeper (fun tree htree => ?_)
      · obtain ⟨hin, hvisible, hlink⟩ := hroots tree htree
        exact ⟨⟨hin, hvisible⟩, hlink⟩
      · obtain ⟨hin, hvisible, -⟩ := hroots tree htree
        exact ih tree htree ⟨hin, hvisible⟩

end Nesting

/-! ## The trees of the graph -/

section

variable {types : List TypeDecl} {ignored : List String} {d : TypeDecl}

theorem mem_nestedIn {g : Graph} {id : String} {c : TypeDecl} :
    c ∈ g.nestedIn id ↔ c ∈ g.emitted ∧ c.enclosing = some id := by
  rw [Graph.nestedIn, List.mem_filter, beq_iff_eq]

/-- Where the shown types of a list are emitted, a visible type is declared with exactly the
visible types directly inside it. -/
theorem nestedIn_listsInOrder (distinct : DistinctIds types) (acyclic : AcyclicNesting types)
    {g : Graph} (hg : g.emitted = shownTypes types ignored) (hd : d ∈ types)
    (hvisible : Visible types ignored d) :
    ListsInOrder types (fun c => Visible types ignored c ∧ c.enclosing = some d.id)
      (if d.kind.isComposite then g.nestedIn d.id else []) := by
  have hinside : ∀ c, c.enclosing = some d.id →
      (Visible types ignored c ↔ c.isPublic = true ∧ d.kind ∈ hostKinds) := by
    intro c hlink
    rw [visible_iff_of_nestedDirectly distinct ⟨hd, hlink⟩]
    simp [hvisible]
  split
  · next hcomposite =>
    have hhost := isComposite_iff.mp hcomposite
    refine ⟨?_, fun c => ?_⟩
    · rw [Graph.nestedIn, hg, shownTypes]
      exact List.filter_sublist.trans List.filter_sublist
    · rw [mem_nestedIn, hg, mem_shownTypes, and_assoc]
      refine and_congr_right fun hc => and_congr_left fun hlink => ?_
      constructor
      · intro hshown
        exact (hinside c hlink).mpr ⟨((isShown_iff distinct acyclic hc).mp hshown).1, hhost⟩
      · exact Visible.isShown distinct acyclic hc
  · next hleaf =>
    refine ⟨List.nil_sublist _, fun c => ⟨fun hc => absurd hc (by simp), ?_⟩⟩
    rintro ⟨-, hc, hlink⟩
    exact absurd (isComposite_iff.mpr ((hinside c hlink).mp hc).2) hleaf

/-- A way outwards goes on from a type directly inside its first one. -/
theorem pairwise_nestedIn_cons {c : TypeDecl} {path : List TypeDecl}
    (hcd : NestedDirectly types c d) (hpath : (d :: path).Pairwise (NestedIn types)) :
    (c :: d :: path).Pairwise (NestedIn types) := by
  refine List.pairwise_cons.mpr ⟨fun q hq => ?_, hpath⟩
  rcases List.mem_cons.mp hq with rfl | hq
  · exact .single hcd
  · exact .head hcd ((List.pairwise_cons.mp hpath).1 q hq)

theorem root_nestingWithin (g : Graph) (depth : Nat) (d : TypeDecl) :
    (g.nestingWithin depth d).root = d := by
  cases depth <;> rfl

/-- The tree of a visible type is full when it has depth left for every type that is not on the
way from the type outwards; `path` holds those on the way, the nearest first. -/
theorem nestingWithin_full (distinct : DistinctIds types) (acyclic : AcyclicNesting types)
    {g : Graph} (hg : g.emitted = shownTypes types ignored) (depth : Nat) (d : TypeDecl)
    (path : List TypeDecl) (hpath : (d :: path).Pairwise (NestedIn types))
    (hsub : d :: path ⊆ g.emitted) (hdepth : g.emitted.length ≤ depth + path.length)
    (hvisible : Visible types ignored d) :
    (g.nestingWithin depth d).FullTree types ignored := by
  have hin : d ∈ types := by
    have hd : d ∈ g.emitted := hsub (by simp)
    rw [hg] at hd
    exact (mem_shownTypes.mp hd).1
  induction depth generalizing d path with
  | zero =>
    have hlen := length_le_of_pairwise hpath acyclic.irrefl hsub
    simp only [List.length_cons] at hlen
    omega
  | succ depth ih =>
    have hlisted := nestedIn_listsInOrder distinct acyclic hg hin hvisible
    rw [Graph.nestingWithin]
    refine .node ?_ fun tree htree => ?_
    · convert hlisted using 1
      split
      · rw [List.map_map]
        exact List.map_id'' (root_nestingWithin g depth) _
      · rfl
    · split at htree
      · next hcomposite =>
        obtain ⟨c, hc, rfl⟩ := List.mem_map.mp htree
        rw [if_pos hcomposite] at hlisted
        obtain ⟨hcin, hcvisible, hlink⟩ := (hlisted.2 c).mp hc
        have hcd : NestedDirectly types c d := ⟨hin, hlink⟩
        have hcemitted : c ∈ g.emitted := List.mem_of_mem_filter hc
        exact ih c (d :: path) (pairwise_nestedIn_cons hcd hpath)
          (List.cons_subset.mpr ⟨hcemitted, hsub⟩)
          (by simp only [List.length_cons]; omega) hcvisible hcin
      · cases htree

/-- More depth changes nothing where there is depth left for every type that is not on the way
from the type outwards; `path` holds those on the way, the nearest first. -/
theorem nestingWithin_succ {g : Graph} (acyclic : AcyclicNesting g.emitted) (depth : Nat)
    (d : TypeDecl) (path : List TypeDecl) (hpath : (d :: path).Pairwise (NestedIn g.emitted))
    (hsub : d :: path ⊆ g.emitted) (hdepth : g.emitted.length ≤ depth + (path.length + 1)) :
    g.nestingWithin (depth + 1) d = g.nestingWithin depth d := by
  induction depth generalizing d path with
  | zero =>
    -- all types are on the way, so none is left that could be inside this one
    have hnone : g.nestedIn d.id = [] := by
      refine List.eq_nil_iff_forall_not_mem.mpr fun c hc => ?_
      obtain ⟨hin, hlink⟩ := mem_nestedIn.mp hc
      have hlen := length_le_of_pairwise (pairwise_nestedIn_cons ⟨hsub (by simp), hlink⟩ hpath)
        acyclic.irrefl (List.cons_subset.mpr ⟨hin, hsub⟩)
      simp only [List.length_cons] at hlen
      omega
    simp [Graph.nestingWithin, hnone]
  | succ depth ih =>
    have hinner : (g.nestedIn d.id).map (g.nestingWithin (depth + 1)) =
        (g.nestedIn d.id).map (g.nestingWithin depth) := by
      refine List.map_congr_left fun c hc => ?_
      obtain ⟨hin, hlink⟩ := mem_nestedIn.mp hc
      refine ih c (d :: path) (pairwise_nestedIn_cons ⟨hsub (by simp), hlink⟩ hpath)
        (List.cons_subset.mpr ⟨hin, hsub⟩) ?_
      simp only [List.length_cons]
      omega
    rw [Graph.nestingWithin, hinner, Graph.nestingWithin]

theorem nestingWithin_succ_of_mem {g : Graph} (acyclic : AcyclicNesting g.emitted) {depth : Nat}
    (hd : d ∈ g.emitted) (hdepth : g.emitted.length ≤ depth + 1) :
    g.nestingWithin (depth + 1) d = g.nestingWithin depth d :=
  nestingWithin_succ acyclic depth d [] (List.pairwise_singleton ..) (by simpa using hd) hdepth

/-- The tree of an emitted type is the same at every depth that is no less than the number of
types. -/
theorem nestingWithin_of_length_le {g : Graph} (acyclic : AcyclicNesting g.emitted)
    (hd : d ∈ g.emitted) {depth : Nat} (hdepth : g.emitted.length ≤ depth) :
    g.nestingWithin depth d = g.nesting d := by
  induction hdepth with
  | refl => rfl
  | @step depth hdepth ih =>
    rw [nestingWithin_succ_of_mem acyclic hd (Nat.le_succ_of_le hdepth), ih]

/-- The depth never runs out: the tree of a type holds the whole trees of the types inside it. -/
theorem nesting_eq {g : Graph} (acyclic : AcyclicNesting g.emitted) (d : TypeDecl) :
    g.nesting d =
      .node d (if d.kind.isComposite then (g.nestedIn d.id).map g.nesting else []) := by
  cases hlen : g.emitted.length with
  | zero =>
    have hnone : g.nestedIn d.id = [] := by
      rw [Graph.nestedIn, List.length_eq_zero_iff.mp hlen]
      rfl
    simp [Graph.nesting, hlen, Graph.nestingWithin, hnone]
  | succ depth =>
    have hinner : (g.nestedIn d.id).map (g.nestingWithin depth) =
        (g.nestedIn d.id).map g.nesting := by
      refine List.map_congr_left fun c hc => ?_
      have hin := (mem_nestedIn.mp hc).1
      rw [← nestingWithin_succ_of_mem acyclic hin (by omega),
        nestingWithin_of_length_le acyclic hin (by omega)]
    rw [Graph.nesting, hlen, Graph.nestingWithin, hinner]

/-- The trees that the graph builds are those of all visible types. -/
theorem topLevel_nesting_full (distinct : DistinctIds types) (acyclic : AcyclicNesting types)
    {g : Graph} (hg : g.emitted = shownTypes types ignored) :
    Nesting.FullForest types ignored (g.topLevel.map g.nesting) := by
  have htop : ∀ d, d ∈ g.topLevel ↔
      d ∈ types ∧ Visible types ignored d ∧ d.enclosing = none := by
    intro d
    rw [Graph.topLevel, List.mem_filter, Option.isNone_iff_eq_none, hg, mem_shownTypes, and_assoc]
    refine and_congr_right fun hd => and_congr_left fun hnone => ?_
    rw [visible_iff_isShown_of_top distinct acyclic hd hnone]
  have hroots : (g.topLevel.map g.nesting).map Nesting.root = g.topLevel := by
    rw [List.map_map]
    exact List.map_id'' (root_nestingWithin g _) _
  refine ⟨⟨?_, ?_⟩, fun tree htree => ?_⟩
  · rw [hroots, Graph.topLevel, hg, shownTypes]
    exact List.filter_sublist.trans List.filter_sublist
  · rw [hroots]
    exact htop
  · obtain ⟨d, hd, rfl⟩ := List.mem_map.mp htree
    have hemitted : d ∈ g.emitted := List.mem_of_mem_filter hd
    exact nestingWithin_full distinct acyclic hg g.emitted.length d []
      (List.pairwise_singleton ..) (by simpa using hemitted) (by simp) ((htop d).mp hd).2.1

/-! ## The order of declarations -/

/-- The sequence is the preorder of the nesting forest of the visible types: it has each of them
once, a type before those nested in it, and types side by side in document order. -/
structure IsVisiblePreorder (types : List TypeDecl) (ignored : List String)
    (sequence : List TypeDecl) : Prop where
  mem_iff : ∀ d, d ∈ sequence ↔ d ∈ types ∧ Visible types ignored d
  once : sequence.Nodup
  preorder : ∃ forest, Nesting.FullForest types ignored forest ∧
    sequence = Nesting.preorderAll forest
  enclosing_first : ∀ d ∈ sequence, ∀ p, NestedIn types d p → [p, d].Sublist sequence
  siblings_in_order : ∀ a ∈ sequence, ∀ b ∈ sequence, a.enclosing = b.enclosing →
    [a, b].Sublist types → [a, b].Sublist sequence

end

namespace Nesting

variable {types : List TypeDecl} {ignored : List String} {forest : List Nesting} {d c : TypeDecl}

theorem FullForest.root_mem (h : FullForest types ignored forest) {tree : Nesting}
    (htree : tree ∈ forest) :
    (tree.root ∈ types ∧ Visible types ignored tree.root) ∧ tree.root.enclosing = none := by
  obtain ⟨hin, hvisible, hnone⟩ :=
    (h.listed.2 tree.root).mp (List.mem_map.mpr ⟨tree, htree, rfl⟩)
  exact ⟨⟨hin, hvisible⟩, hnone⟩

theorem FullForest.visible (h : FullForest types ignored forest) (hd : d ∈ preorderAll forest) :
    d ∈ types ∧ Visible types ignored d := by
  obtain ⟨tree, htree, hd⟩ := mem_preorderAll.mp hd
  exact ((h.full tree htree).visible_and_inside (h.root_mem htree).1 hd).1

/-- A forest that holds a type holds the visible types directly inside it, after it. -/
theorem FullForest.inside_after (h : FullForest types ignored forest)
    (hd : d ∈ preorderAll forest) (hc : c ∈ types) (hvisible : Visible types ignored c)
    (hlink : c.enclosing = some d.id) : [d, c].Sublist (preorderAll forest) := by
  obtain ⟨tree, htree, hd⟩ := mem_preorderAll.mp hd
  exact ((h.full tree htree).inside_after hd hc hvisible hlink).trans
    (preorder_sublist_preorderAll htree)

/-- A forest holds every visible type whose enclosing links lead to types of the list: the type
at the end of its chain stands at the top of a tree, and each type on the way back is inside the
one before. -/
theorem FullForest.mem_of_visible (distinct : DistinctIds types)
    (known : ∀ d ∈ types, ∀ outer, d.enclosing = some outer → ∃ p ∈ types, p.id = outer)
    (h : FullForest types ignored forest) (hd : d ∈ types) (hvisible : Visible types ignored d) :
    d ∈ preorderAll forest := by
  obtain ⟨o, ⟨hreach, hend⟩, -⟩ := hvisible.outermost
  induction hreach using ReflTransGen.head_induction_on with
  | refl =>
    have hnone : o.enclosing = none := by
      cases hlink : o.enclosing with
      | none => rfl
      | some outer =>
        obtain ⟨p, hp, rfl⟩ := known o hd outer hlink
        exact absurd ⟨hp, hlink⟩ (hend p)
    exact (roots_sublist_preorderAll forest).subset ((h.listed.2 o).mpr ⟨hd, hvisible, hnone⟩)
  | @head x y hxy hyo ih =>
    obtain ⟨-, -, hy⟩ := (visible_iff_of_nestedDirectly distinct hxy).mp hvisible
    have hmem := ih hxy.1 hy
    exact (h.inside_after hmem hd hvisible hxy.2).subset (by simp)

theorem FullForest.mem_iff (distinct : DistinctIds types)
    (known : ∀ d ∈ types, ∀ outer, d.enclosing = some outer → ∃ p ∈ types, p.id = outer)
    (h : FullForest types ignored forest) (d : TypeDecl) :
    d ∈ preorderAll forest ↔ d ∈ types ∧ Visible types ignored d :=
  ⟨h.visible, fun hd => h.mem_of_visible distinct known hd.1 hd.2⟩

theorem FullForest.nodup (distinct : DistinctIds types) (acyclic : AcyclicNesting types)
    (h : FullForest types ignored forest) : (preorderAll forest).Nodup := by
  refine preorderAll_nodup distinct acyclic none (fun tree htree => h.root_mem htree)
    (h.listed.1.nodup distinct.nodup) h.full fun tree htree => ?_
  exact (h.full tree htree).preorder_nodup distinct acyclic (h.root_mem htree).1

/-- A type comes after every type that it is nested in. -/
theorem FullForest.enclosing_first (distinct : DistinctIds types)
    (acyclic : AcyclicNesting types)
    (known : ∀ d ∈ types, ∀ outer, d.enclosing = some outer → ∃ p ∈ types, p.id = outer)
    (h : FullForest types ignored forest) (hd : d ∈ preorderAll forest) {p : TypeDecl}
    (hdp : NestedIn types d p) : [p, d].Sublist (preorderAll forest) := by
  have hmem := h.mem_iff distinct known
  -- from the outermost type inwards, one level at a time
  induction hdp using TransGen.head_induction_on with
  | @single x hxp =>
    obtain ⟨hx, hvisible⟩ := (hmem x).mp hd
    obtain ⟨-, -, hp⟩ := (visible_iff_of_nestedDirectly distinct hxp).mp hvisible
    exact h.inside_after ((hmem p).mpr ⟨hxp.1, hp⟩) hx hvisible hxp.2
  | @head x y hxy hyp ih =>
    obtain ⟨hx, hvisible⟩ := (hmem x).mp hd
    obtain ⟨-, -, hy⟩ := (visible_iff_of_nestedDirectly distinct hxy).mp hvisible
    have hyin : y ∈ preorderAll forest := (hmem y).mpr ⟨hxy.1, hy⟩
    exact pair_sublist_trans (h.nodup distinct acyclic) (ih hyin)
      (h.inside_after hyin hx hvisible hxy.2)

/-- Types side by side, at the top or in one type, come as they stand in the document. -/
theorem FullForest.siblings_in_order (distinct : DistinctIds types)
    (known : ∀ d ∈ types, ∀ outer, d.enclosing = some outer → ∃ p ∈ types, p.id = outer)
    (h : FullForest types ignored forest) {a b : TypeDecl} (ha : a ∈ preorderAll forest)
    (hb : b ∈ preorderAll forest) (hside : a.enclosing = b.enclosing)
    (hab : [a, b].Sublist types) : [a, b].Sublist (preorderAll forest) := by
  have hmem := h.mem_iff distinct known
  obtain ⟨hain, havisible⟩ := (hmem a).mp ha
  obtain ⟨-, hbvisible⟩ := (hmem b).mp hb
  cases hlink : a.enclosing with
  | none =>
    have hroots := h.listed.pair_sublist distinct hab ⟨havisible, hlink⟩
      ⟨hbvisible, hside ▸ hlink⟩
    exact hroots.trans (roots_sublist_preorderAll forest)
  | some outer =>
    obtain ⟨p, hp, rfl⟩ := known a hain outer hlink
    obtain ⟨-, -, hpvisible⟩ :=
      (visible_iff_of_nestedDirectly distinct ⟨hp, hlink⟩).mp havisible
    obtain ⟨tree, htree, hptree⟩ := mem_preorderAll.mp ((hmem p).mpr ⟨hp, hpvisible⟩)
    have hinside := (h.full tree htree).siblings_in_order distinct hptree hab
      ⟨havisible, hlink⟩ ⟨hbvisible, hside ▸ hlink⟩
    exact hinside.trans (preorder_sublist_preorderAll htree)

theorem FullForest.isVisiblePreorder (distinct : DistinctIds types)
    (acyclic : AcyclicNesting types)
    (known : ∀ d ∈ types, ∀ outer, d.enclosing = some outer → ∃ p ∈ types, p.id = outer)
    (h : FullForest types ignored forest) :
    IsVisiblePreorder types ignored (preorderAll forest) where
  mem_iff := h.mem_iff distinct known
  once := h.nodup distinct acyclic
  preorder := ⟨forest, h, rfl⟩
  enclosing_first _ hd _ hdp := h.enclosing_first distinct acyclic known hd hdp
  siblings_in_order _ ha _ hb hside hab := h.siblings_in_order distinct known ha hb hside hab

end Nesting

end ApiShell
