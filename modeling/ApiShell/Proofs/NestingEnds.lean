import ApiShell.Proofs.DeclaredPath
import ApiShell.Proofs.Forest
import Mathlib.Data.List.Chain

/-!
# Nesting that ends

The walk from a type outwards and the descent into the types inside it follow the enclosing links,
and neither of them counts its steps. Where no type of a document states an id, the id of a nested
type is the id of the type around it and more, so ids get shorter on the way outwards and longer
on the way inwards. Main statement: in an accepted library without stated ids both ways end, from
every type.
-/

namespace ApiShell

open Relation

/-! ## Ways along the enclosing links -/

section

variable {types path : List TypeDecl} {d o : TypeDecl}

theorem pairwise_nestedIn_of_isChain (h : path.IsChain (NestedDirectly types)) :
    path.Pairwise (NestedIn types) :=
  (h.imp fun _ _ hlink => TransGen.single hlink).pairwise

/-- A way outwards passes no type twice and is no longer than the list of types. -/
theorem AcyclicNesting.way_outwards (acyclic : AcyclicNesting types) (hsub : path ⊆ types)
    (h : path.IsChain (NestedDirectly types)) : path.Nodup ∧ path.length ≤ types.length := by
  have hpairwise := pairwise_nestedIn_of_isChain h
  refine ⟨hpairwise.imp ?_, length_le_of_pairwise hpairwise acyclic.irrefl hsub⟩
  rintro a b hab rfl
  exact acyclic.irrefl a hab

theorem subset_of_isChain (hd : d ∈ types) (h : (d :: path).IsChain (NestedDirectly types)) :
    d :: path ⊆ types := by
  induction path generalizing d with
  | nil => simpa using hd
  | cons p rest ih =>
    obtain ⟨hlink, hrest⟩ := List.isChain_cons_cons.mp h
    exact List.cons_subset.mpr ⟨hd, ih hlink.1 hrest⟩

theorem IsOutermost.mem (h : IsOutermost types d o) (hd : d ∈ types) : o ∈ types := by
  rcases reflTransGen_iff_eq_or_transGen.mp h.1 with rfl | hnested
  · exact hd
  · exact NestedIn.mem hnested

/-- Where every enclosing link leads to a type, the outermost type has none. -/
theorem IsOutermost.top (h : IsOutermost types d o) (hd : d ∈ types)
    (known : ∀ d ∈ types, ∀ outer, d.enclosing = some outer → ∃ p ∈ types, p.id = outer) :
    o.enclosing = none := by
  cases hlink : o.enclosing with
  | none => rfl
  | some outer =>
    obtain ⟨p, hp, rfl⟩ := known o (h.mem hd) outer hlink
    exact absurd ⟨hp, hlink⟩ (h.2 p)

end

section

variable {g : Graph} {d : TypeDecl} {path : List TypeDecl}

/-- The types on a way inwards are emitted, and read backwards it is a way outwards. -/
theorem isChain_nestedIn (h : (d :: path).IsChain fun p c => c ∈ g.nestedIn p.id) :
    path ⊆ g.emitted ∧ path.reverse.IsChain (NestedDirectly g.emitted) := by
  rw [List.isChain_reverse]
  induction path generalizing d with
  | nil => simp
  | cons c rest ih =>
    obtain ⟨hc, hrest⟩ := List.isChain_cons_cons.mp h
    obtain ⟨hsub, hchain⟩ := ih hrest
    have hin : c ∈ g.emitted := (mem_nestedIn.mp hc).1
    refine ⟨List.cons_subset.mpr ⟨hin, hsub⟩, ?_⟩
    cases rest with
    | nil => exact List.isChain_singleton c
    | cons e more =>
      have he := (List.isChain_cons_cons.mp hrest).1
      exact List.isChain_cons_cons.mpr ⟨⟨hin, (mem_nestedIn.mp he).2⟩, hchain⟩

/-- A way inwards passes no type twice and is no longer than the list of emitted types. -/
theorem AcyclicNesting.way_inwards (acyclic : AcyclicNesting g.emitted)
    (h : (d :: path).IsChain fun p c => c ∈ g.nestedIn p.id) :
    path.Nodup ∧ path.length ≤ g.emitted.length := by
  obtain ⟨hsub, hchain⟩ := isChain_nestedIn h
  have hback := acyclic.way_outwards (by simpa using hsub) hchain
  simpa using hback

end

/-! ## Both ways end -/

/-- The walk from a type outwards ends. Every way outwards is bounded and without repetition, one
of them is the whole chain of enclosing types, and the type that the walk finds is reached by
enclosing links and is not nested. -/
structure EndsOutwards (types : List TypeDecl) (d : TypeDecl) : Prop where
  bounded : ∀ path, (d :: path).IsChain (NestedDirectly types) →
    (d :: path).Nodup ∧ (d :: path).length ≤ types.length
  complete : ∃ chain, EnclosingChain types chain d
  reached : ReflTransGen (NestedDirectly types) d (outermost types d)
  top : outermost types d ∈ types ∧ (outermost types d).enclosing = none

/-- The descent from a type inwards ends. Every way inwards is bounded and without repetition, and
the tree of the type holds the trees of all types that its declaration has inside. -/
structure EndsInwards (g : Graph) (d : TypeDecl) : Prop where
  bounded : ∀ path, (d :: path).IsChain (fun p c => c ∈ g.nestedIn p.id) →
    path.Nodup ∧ path.length ≤ g.emitted.length
  complete : g.nesting d =
    .node d (if d.kind.isComposite then (g.nestedIn d.id).map g.nesting else [])

theorem endsOutwards_of_acyclic {types : List TypeDecl} (distinct : DistinctIds types)
    (acyclic : AcyclicNesting types)
    (known : ∀ d ∈ types, ∀ outer, d.enclosing = some outer → ∃ p ∈ types, p.id = outer)
    (implied : ∀ d ∈ types, d.id = Document.impliedId d) {d : TypeDecl} (hd : d ∈ types) :
    EndsOutwards types d := by
  have hout := outermost_isOutermost distinct acyclic hd
  exact {
    bounded := fun path hpath => acyclic.way_outwards (subset_of_isChain hd hpath) hpath
    complete := exists_enclosingChain implied known d hd
    reached := hout.1
    top := ⟨hout.mem hd, hout.top hd known⟩ }

theorem endsInwards_of_acyclic {g : Graph} (acyclic : AcyclicNesting g.emitted) (d : TypeDecl) :
    EndsInwards g d where
  bounded _ hpath := acyclic.way_inwards hpath
  complete := nesting_eq acyclic d

/-- In an accepted library without stated ids the id of a nested type is longer than that of the
type around it. So the walk outwards ends from every type, and the descent inwards ends wherever
some of the types are emitted. -/
theorem nesting_ends_without_stated_ids {fallback : String} {primary : Document.Entries}
    {secondary : List Document.Entries} {loaded : Loaded}
    (accepted : Document.assemble fallback primary secondary = .ok loaded)
    (unstated : Document.StatesNoIds primary) :
    (∀ d ∈ loaded.library.types, ∀ outer, d.enclosing = some outer →
      outer.length < d.id.length) ∧
    (∀ d ∈ loaded.library.types, EndsOutwards loaded.library.types d) ∧
    ∀ g : Graph, g.emitted ⊆ loaded.library.types → ∀ d, EndsInwards g d := by
  have implied := Document.implied_of_assemble accepted unstated
  obtain ⟨distinct, known⟩ := wellNested_of_assemble accepted
  have hlonger : ∀ d ∈ loaded.library.types, ∀ outer, d.enclosing = some outer →
      outer.length < d.id.length := fun d hd _ hlink =>
    Document.enclosing_length_lt (implied d hd) hlink
  have hacyclic : ∀ types : List TypeDecl, types ⊆ loaded.library.types →
      AcyclicNesting types := fun types hsub =>
    acyclicNesting_of_rank (fun d => d.id.length) fun d hd p _ hlink => hlonger d (hsub hd) _ hlink
  refine ⟨hlonger, fun d hd => ?_, fun g hsub d => ?_⟩
  · exact endsOutwards_of_acyclic distinct (hacyclic _ (List.Subset.refl _)) known implied hd
  · exact endsInwards_of_acyclic (hacyclic _ hsub) d

/-! ## A leaf, a branch and a tree -/

/-- Three types nested in each other. The innermost one comes first, and an empty id counts as
none. -/
def leafDocument : Document.Entries :=
  [(.text "types", .list
    [.map [(.text "name", .text "Leaf"), (.text "nested_in", .text "Tree+Branch")],
     .map [(.text "name", .text "Branch"), (.text "nested_in", .text "Tree"),
       (.text "kind", .text "struct"), (.text "id", .text "")],
     .map [(.text "name", .text "Tree")]])]

def leafClass : TypeDecl :=
  { id := "Tree+Branch+Leaf", name := "Leaf", kind := .cls, enclosing := some "Tree+Branch" }

def branchStruct : TypeDecl :=
  { id := "Tree+Branch", name := "Branch", kind := .struct, enclosing := some "Tree" }

def treeClass : TypeDecl := { id := "Tree", name := "Tree", kind := .cls }

theorem leafDocument_accepted : Document.assemble "leaf" leafDocument [] =
    .ok { library := { name := "leaf", types := [leafClass, branchStruct, treeClass] } } := rfl

theorem leafDocument_statesNoIds : Document.StatesNoIds leafDocument := by
  intro values hvalues entries hentries
  cases hvalues
  simp only [List.mem_cons, List.not_mem_nil, or_false, Value.map.injEq] at hentries
  rcases hentries with rfl | rfl | rfl <;> rfl

/-- From the leaf the walk ends at the tree, and from the tree the descent ends at the leaf, also
where the branch is not emitted. -/
theorem leaf_nesting_ends :
    Document.StatesNoIds leafDocument ∧
      EndsOutwards [leafClass, branchStruct, treeClass] leafClass ∧
      outermost [leafClass, branchStruct, treeClass] leafClass = treeClass ∧
      EndsInwards { emitted := [leafClass, branchStruct, treeClass] } treeClass ∧
      EndsInwards { emitted := [leafClass, treeClass] } branchStruct := by
  obtain ⟨-, houtwards, hinwards⟩ :=
    nesting_ends_without_stated_ids leafDocument_accepted leafDocument_statesNoIds
  refine ⟨leafDocument_statesNoIds, houtwards leafClass (by simp), rfl, ?_, ?_⟩
  · exact hinwards _ (by simp) treeClass
  · exact hinwards _ (by simp) branchStruct

end ApiShell
