import ApiShell.Declaration.Types
import Mathlib.Data.List.Basic
import Mathlib.Logic.Relation

/-!
# Assignability

A type can stand for another when the search for its supertypes meets a reference of the same
identity. References are compared by identity but looked up by their metadata name, and two
names can have one identity: a generic name without arguments reads like the plain one. Where
references of one identity have parents of the same identities, assignability is transitive, and
then no public interface is lost when a header names the most derived ones only.
-/

namespace ApiShell

namespace Graph

variable {g : Graph} {ref : TypeRef} {found : List TypeRef}

/-! ## The search for supertypes -/

/-- A parent that was met is one step above a reference. -/
def MetAbove (g : Graph) (met : List TypeRef) (r p : TypeRef) : Prop :=
  p ∈ g.parents r ∧ p ∈ met

/-- What holds of a search from a reference at every moment: all that was met lies above the
reference by way of what was met, each reference is looked at or still pending, and the parents
of those looked at were met, or others of their identities. -/
structure Search.Inv (g : Graph) (ref : TypeRef) (s : Search) : Prop where
  above : ∀ q ∈ s.found, Relation.TransGen (g.MetAbove s.found) ref q
  pending : ∀ r ∈ s.pending, r = ref ∨ r ∈ s.found
  covered : ∀ r, r = ref ∨ r ∈ s.found → r ∈ s.expanded ∨ r ∈ s.pending
  closed : ∀ r ∈ s.expanded, ∀ p ∈ g.parents r, ∃ q ∈ s.found, q.identity = p.identity

/-- Meeting parents one by one adds those whose identities are new. -/
theorem foldl_meet (ps : List TypeRef) (s : Search) :
    ∃ fresh, ps.foldl Search.meet s =
        { s with found := s.found ++ fresh, pending := fresh.reverse ++ s.pending } ∧
      fresh ⊆ ps ∧ ∀ p ∈ ps, ∃ q ∈ s.found ++ fresh, q.identity = p.identity := by
  induction ps generalizing s with
  | nil => exact ⟨[], by simp, by simp, by simp⟩
  | cons p rest ih =>
    rw [List.foldl_cons]
    by_cases hmet : s.found.any (·.identity == p.identity) = true
    · have hstep : s.meet p = s := by rw [Search.meet, if_pos hmet]
      rw [hstep]
      obtain ⟨fresh, hrun, hsub, hall⟩ := ih s
      refine ⟨fresh, hrun, fun q hq => List.mem_cons_of_mem _ (hsub hq), ?_⟩
      intro q hq
      rcases List.mem_cons.mp hq with rfl | hq
      · obtain ⟨old, hold, hsame⟩ := List.any_eq_true.mp hmet
        exact ⟨old, List.mem_append_left _ hold, by simpa using hsame⟩
      · exact hall q hq
    · have hstep : s.meet p = { s with found := s.found ++ [p], pending := p :: s.pending } := by
        rw [Search.meet, if_neg hmet]
      rw [hstep]
      obtain ⟨fresh, hrun, hsub, hall⟩ :=
        ih { s with found := s.found ++ [p], pending := p :: s.pending }
      refine ⟨p :: fresh, by simp [hrun], ?_, ?_⟩
      · intro q hq
        rcases List.mem_cons.mp hq with rfl | hq
        · exact List.mem_cons_self
        · exact List.mem_cons_of_mem _ (hsub hq)
      · intro q hq
        rcases List.mem_cons.mp hq with rfl | hq
        · exact ⟨q, by simp, rfl⟩
        · simpa using hall q hq

theorem Search.inv_start (g : Graph) (ref : TypeRef) : Search.Inv g ref { pending := [ref] } where
  above := by simp
  pending := by simp
  covered := by simp
  closed := by simp

/-- Looking at the parents of the next reference keeps the invariant. -/
theorem Search.Inv.expand {r : TypeRef} {rest expanded : List TypeRef}
    (h : Search.Inv g ref { found, pending := r :: rest, expanded }) :
    Search.Inv g ref ((g.parents r).foldl Search.meet
      { found, pending := rest, expanded := expanded ++ [r] }) := by
  obtain ⟨fresh, hrun, hsub, hall⟩ :=
    foldl_meet (g.parents r) { found, pending := rest, expanded := expanded ++ [r] }
  rw [hrun]
  have hgrows : ∀ a b, g.MetAbove found a b → g.MetAbove (found ++ fresh) a b := by
    intro a b hstep
    exact ⟨hstep.1, List.mem_append_left _ hstep.2⟩
  have hold : ∀ q ∈ found, Relation.TransGen (g.MetAbove (found ++ fresh)) ref q := by
    intro q hq
    exact Relation.TransGen.mono hgrows ref q (h.above q hq)
  constructor
  · intro q hq
    rcases List.mem_append.mp hq with hq | hq
    · exact hold q hq
    · -- a new one is a parent of the reference just looked at
      have hstep : g.MetAbove (found ++ fresh) r q := ⟨hsub hq, List.mem_append_right _ hq⟩
      rcases h.pending r List.mem_cons_self with rfl | hr
      · exact .single hstep
      · exact (hold r hr).tail hstep
  · intro q hq
    rcases List.mem_append.mp hq with hq | hq
    · exact .inr (List.mem_append_right _ (List.mem_reverse.mp hq))
    · rcases h.pending q (List.mem_cons_of_mem _ hq) with rfl | hq
      · exact .inl rfl
      · exact .inr (List.mem_append_left _ hq)
  · intro q hq
    have hsplit : (q = ref ∨ q ∈ found) ∨ q ∈ fresh := by
      simpa [or_assoc] using hq
    rcases hsplit with hq | hq
    · rcases h.covered q hq with hq | hq
      · exact .inl (List.mem_append_left _ hq)
      · rcases List.mem_cons.mp hq with rfl | hq
        · exact .inl (by simp)
        · exact .inr (List.mem_append_right _ hq)
    · exact .inr (by simp [hq])
  · intro q hq p hp
    rcases List.mem_append.mp hq with hq | hq
    · obtain ⟨met, hmet, hsame⟩ := h.closed q hq p hp
      exact ⟨met, List.mem_append_left _ hmet, hsame⟩
    · rw [List.mem_singleton.mp hq] at hp
      exact hall p hp

/-- What looking at the parents of the next reference keeps holds at the end of a search, where
nothing is pending. -/
theorem search_keeps {P : Search → Prop}
    (hstep : ∀ {found r rest expanded}, P { found, pending := r :: rest, expanded } →
      P ((g.parents r).foldl Search.meet { found, pending := rest, expanded := expanded ++ [r] }))
    {fuel : Nat} {s done : Search} (h : P s) (hrun : g.search fuel s = some done) :
    P done ∧ done.pending = [] := by
  induction fuel generalizing s with
  | zero =>
    obtain ⟨found, pending, expanded⟩ := s
    cases pending with
    | nil =>
      simp only [Graph.search, Option.some.injEq] at hrun
      subst hrun
      exact ⟨h, rfl⟩
    | cons r rest => simp [Graph.search] at hrun
  | succ fuel ih =>
    obtain ⟨found, pending, expanded⟩ := s
    cases pending with
    | nil =>
      simp only [Graph.search, Option.some.injEq] at hrun
      subst hrun
      exact ⟨h, rfl⟩
    | cons r rest =>
      rw [Graph.search] at hrun
      exact ih (hstep h) hrun

/-- A search that ends keeps the invariant to its end. -/
theorem Search.Inv.search {fuel : Nat} {s done : Search} (h : Search.Inv g ref s)
    (hrun : g.search fuel s = some done) : Search.Inv g ref done ∧ done.pending = [] :=
  search_keeps (fun h => h.expand) h hrun

theorem searchFrom?_of_supertypes? (h : g.supertypes? ref = some found) :
    ∃ done, Search.Inv g ref done ∧ done.pending = [] ∧ done.found = found := by
  rw [supertypes?, Option.map_eq_some_iff] at h
  obtain ⟨done, hrun, hfound⟩ := h
  obtain ⟨hinv, hempty⟩ := (Search.inv_start g ref).search hrun
  exact ⟨done, hinv, hempty, hfound⟩

/-- All supertypes lie above the reference by way of supertypes. -/
theorem above_of_supertypes? (h : g.supertypes? ref = some found) {q : TypeRef} (hq : q ∈ found) :
    Relation.TransGen (g.MetAbove found) ref q := by
  obtain ⟨done, hinv, -, rfl⟩ := searchFrom?_of_supertypes? h
  exact hinv.above q hq

/-- The supertypes of a reference are closed under parents, up to identity. -/
theorem closed_of_supertypes? (h : g.supertypes? ref = some found) {r p : TypeRef}
    (hr : r ∈ ref :: found) (hp : p ∈ g.parents r) : ∃ q ∈ found, q.identity = p.identity := by
  obtain ⟨done, hinv, hempty, rfl⟩ := searchFrom?_of_supertypes? h
  rcases hinv.covered r (by simpa using hr) with hr | hr
  · exact hinv.closed r hr p hp
  · rw [hempty] at hr
    cases hr

/-! ## Transitivity -/

variable {a b c x y : TypeRef}

/-- Every parent of the first reference has the identity of a parent of the second. -/
def ParentsKept (g : Graph) (x y : TypeRef) : Prop :=
  ∀ p ∈ g.parents x, ∃ q ∈ g.parents y, q.identity = p.identity

/-- Where the searches from two references meet references of one identity, the second meets the
parents of the first. -/
def SearchesAgree (g : Graph) (b c : TypeRef) : Prop :=
  ∀ x ∈ b :: g.supertypes b, ∀ y ∈ c :: g.supertypes c,
    x.identity = y.identity → g.ParentsKept x y

theorem isAssignable_iff :
    g.isAssignable a b = true ↔ ∃ r ∈ b :: g.supertypes b, r.identity = a.identity := by
  simp only [isAssignable, Bool.or_eq_true, beq_iff_eq, List.any_eq_true, List.mem_cons]
  constructor
  · rintro (hself | ⟨r, hr, hsame⟩)
    · exact ⟨b, .inl rfl, hself.symm⟩
    · exact ⟨r, .inr hr, hsame⟩
  · rintro ⟨r, rfl | hr, hsame⟩
    · exact .inl hsame.symm
    · exact .inr ⟨r, hr, hsame⟩

theorem isAssignable_refl (a : TypeRef) : g.isAssignable a a = true := by
  simp [isAssignable]

/-- A supertype of a reference that can stand for another is a supertype of that one. -/
theorem identity_met_of_agree (hb : (g.supertypes? b).isSome) (hc : (g.supertypes? c).isSome)
    (hagree : g.SearchesAgree b c) (hbc : g.isAssignable b c = true) (hx : x ∈ g.supertypes b) :
    ∃ y ∈ c :: g.supertypes c, y.identity = x.identity := by
  obtain ⟨overB, hoverB⟩ := Option.isSome_iff_exists.mp hb
  obtain ⟨overC, hoverC⟩ := Option.isSome_iff_exists.mp hc
  have hsuperB : g.supertypes b = overB := by rw [supertypes, hoverB, Option.getD_some]
  have hsuperC : g.supertypes c = overC := by rw [supertypes, hoverC, Option.getD_some]
  rw [SearchesAgree, hsuperB, hsuperC] at hagree
  rw [isAssignable_iff, hsuperC] at hbc
  rw [hsuperB] at hx
  rw [hsuperC]
  -- a reference met from `b` whose identity is met from `c` hands this on to its parents
  have hstep : ∀ r p : TypeRef, r ∈ b :: overB → p ∈ g.parents r →
      (∃ y ∈ c :: overC, y.identity = r.identity) → ∃ y ∈ c :: overC, y.identity = p.identity := by
    intro r p hr hp hmet
    obtain ⟨y, hy, hsame⟩ := hmet
    obtain ⟨q, hq, hparent⟩ := hagree r hr y hy hsame.symm p hp
    obtain ⟨z, hz, hclosed⟩ := closed_of_supertypes? hoverC hy hq
    exact ⟨z, List.mem_cons_of_mem _ hz, hclosed.trans hparent⟩
  have hboth : x ∈ overB ∧ ∃ y ∈ c :: overC, y.identity = x.identity := by
    have habove := above_of_supertypes? hoverB hx
    clear hx
    induction habove with
    | single hfirst => exact ⟨hfirst.2, hstep b _ List.mem_cons_self hfirst.1 hbc⟩
    | tail _ hlast ih =>
      exact ⟨hlast.2, hstep _ _ (List.mem_cons_of_mem _ ih.1) hlast.1 ih.2⟩
  exact hboth.2

theorem isAssignable_of_agree (hb : (g.supertypes? b).isSome) (hc : (g.supertypes? c).isSome)
    (hagree : g.SearchesAgree b c) (hab : g.isAssignable a b = true)
    (hbc : g.isAssignable b c = true) : g.isAssignable a c = true := by
  rw [isAssignable_iff] at hab
  obtain ⟨x, hx, hsame⟩ := hab
  rcases List.mem_cons.mp hx with rfl | hx
  · rw [isAssignable_iff] at hbc ⊢
    rwa [hsame] at hbc
  · rw [isAssignable_iff, ← hsame]
    exact identity_met_of_agree hb hc hagree hbc hx

end Graph

/-! ## References that agree

The parents of a reference depend on its type and on its arguments, and their identities only on
the identities of the arguments. -/

namespace TypeRef

/-- Two bindings give every parameter references of one identity. -/
def SameBinding (binding other : List (String × TypeRef)) : Prop :=
  ∀ name, (binding.lookup name).map identity = (other.lookup name).map identity

variable {binding other : List (String × TypeRef)}

mutual

theorem identity_substitute (h : SameBinding binding other) :
    ∀ ref : TypeRef, (substitute binding ref).identity = (substitute other ref).identity
  | { name, args, nullable, category, byRef } => by
    cases args with
    | nil =>
      have hname := h name
      rw [substitute, substitute]
      cases hbound : binding.lookup name with
      | none =>
        rw [hbound, Option.map_none, eq_comm, Option.map_eq_none_iff] at hname
        rw [hname]
      | some r =>
        rw [hbound, Option.map_some, eq_comm, Option.map_eq_some_iff] at hname
        obtain ⟨r', hr', hsame⟩ := hname
        rw [hr']
        exact hsame.symm
    | cons arg more =>
      have hhead := identity_substitute h arg
      have htail := identities_substituteAll h more
      simp only [identity] at hhead
      simp only [substitute, identity, sourceName, sourceNames_eq, hhead]
      rw [htail]

theorem identities_substituteAll (h : SameBinding binding other) : ∀ refs : List TypeRef,
    (substituteAll binding refs).map (sourceName false) =
      (substituteAll other refs).map (sourceName false)
  | [] => rfl
  | ref :: rest => by
    simp only [substituteAll, List.map_cons]
    rw [identities_substituteAll h rest]
    exact congrArg (· :: _) (identity_substitute h ref)

end

end TypeRef

/-- What is done to all values of a row of entries is done to the value that is looked up. -/
theorem lookup_map_value {α β : Type} (f : α → β) (entries : List (String × α)) (name : String) :
    (entries.map fun entry => (entry.1, f entry.2)).lookup name
      = (entries.lookup name).map f := by
  induction entries with
  | nil => rfl
  | cons entry rest ih =>
    obtain ⟨key, value⟩ := entry
    rw [List.map_cons, List.lookup_cons, List.lookup_cons]
    by_cases h : name = key
    · subst h
      simp
    · have hkey : (name == key) = false := beq_false_of_ne h
      simp only [hkey, ih]

theorem TypeDecl.map_binding {α : Type} (d : TypeDecl) (f : TypeRef → α) (r : TypeRef) :
    ((d.binding r).map fun entry => (entry.1, f entry.2))
      = (d.genericParameters.zip (r.args.map f)).reverse := by
  rw [binding, List.map_reverse, List.zip_map_right]
  rfl

theorem TypeDecl.sameBinding (d : TypeDecl) {x y : TypeRef}
    (hargs : x.args.map TypeRef.identity = y.args.map TypeRef.identity) :
    TypeRef.SameBinding (d.binding x) (d.binding y) := by
  intro name
  rw [← lookup_map_value, ← lookup_map_value, d.map_binding, d.map_binding, hargs]

/-- References to one type, with arguments of the same identities, have parents of the same
identities. -/
theorem Graph.parentsKept_of_same_type {g : Graph} {x y : TypeRef}
    (htype : g.resolve? x = g.resolve? y)
    (hargs : x.args.map TypeRef.identity = y.args.map TypeRef.identity) : g.ParentsKept x y := by
  intro p hp
  rw [parents, htype] at hp
  rw [parents]
  cases hfound : g.resolve? y with
  | none => simp [hfound] at hp
  | some d =>
    simp only [hfound, List.mem_map] at hp ⊢
    obtain ⟨parent, hparent, rfl⟩ := hp
    have hsame := TypeRef.identity_substitute (d.sameBinding hargs) parent
    exact ⟨_, ⟨parent, hparent, rfl⟩, hsame.symm⟩

/-! ## The most derived entries -/

section

variable {α : Type} {above : α → α → Bool} {kept rest entries : List α}

theorem kept_subset_leavesOnto : kept ⊆ leavesOnto above kept rest := by
  induction rest generalizing kept with
  | nil => exact fun _ h => h
  | cons entry later ih =>
    rw [leavesOnto]
    split
    · exact ih
    · exact fun x hx => ih (List.mem_append_left _ hx)

theorem leavesOnto_subset : leavesOnto above kept rest ⊆ kept ++ rest := by
  induction rest generalizing kept with
  | nil => simp [leavesOnto]
  | cons entry later ih =>
    rw [leavesOnto]
    split
    · intro x hx
      have hmem := ih hx
      simp only [List.mem_append, List.mem_cons] at hmem ⊢
      tauto
    · intro x hx
      simpa using ih hx

/-- Where the order is transitive on the entries, each entry has one above which it stands among
those that are kept. The induction goes over the entries still to come, with those kept so far. -/
theorem exists_above_leavesOnto (refl : ∀ x, above x x = true)
    (trans : ∀ x ∈ entries, ∀ y ∈ entries, ∀ z ∈ entries,
      above x y = true → above y z = true → above x z = true)
    (hall : kept ++ rest ⊆ entries) {x : α} (hx : x ∈ rest) :
    ∃ leaf ∈ leavesOnto above kept rest, above x leaf = true := by
  induction rest generalizing kept x with
  | nil => cases hx
  | cons entry later ih =>
    have hlater : kept ++ later ⊆ entries := by
      intro y hy
      apply hall
      simp only [List.mem_append, List.mem_cons] at hy ⊢
      tauto
    have hentry : entry ∈ entries := hall (by simp)
    rw [leavesOnto]
    split
    · next hdropped =>
      rcases List.mem_cons.mp hx with rfl | hx
      · rcases Bool.or_eq_true_iff.mp hdropped with hkept | hcomes
        · obtain ⟨leaf, hleaf, habove⟩ := List.any_eq_true.mp hkept
          exact ⟨leaf, kept_subset_leavesOnto hleaf, habove⟩
        · -- the entry gives way to a later one, which may give way in turn
          obtain ⟨next, hnext, habove⟩ := List.any_eq_true.mp hcomes
          obtain ⟨leaf, hleaf, hover⟩ := ih hlater hnext
          have hin : leaf ∈ entries := hlater (leavesOnto_subset hleaf)
          have hnextIn : next ∈ entries := hlater (List.mem_append_right _ hnext)
          exact ⟨leaf, hleaf, trans x hentry next hnextIn leaf hin habove hover⟩
      · exact ih hlater hx
    · have hkeeps : (kept ++ [entry]) ++ later ⊆ entries := by simpa using hall
      rcases List.mem_cons.mp hx with rfl | hx
      · exact ⟨x, kept_subset_leavesOnto (by simp), refl x⟩
      · exact ih hkeeps hx

end

/-! ## Headers -/

/-- A header names every interface that is a leaf. -/
theorem Emitter.inheritance_names {e : Emitter} {d : TypeDecl} {leaf : TypeRef}
    (h : leaf ∈ e.graph.leafInterfaces d) :
    ∃ names, e.inheritance d = " : " ++ ", ".intercalate names ∧
      leaf.sourceName e.aliases ∈ names := by
  have hmem : leaf ∈ (namedBase d).toList ++ e.graph.leafInterfaces d :=
    List.mem_append_right _ h
  have hsome : ((namedBase d).toList ++ e.graph.leafInterfaces d).isEmpty = false := by
    rw [List.isEmpty_eq_false_iff]
    exact List.ne_nil_of_mem hmem
  refine ⟨_, ?_, List.mem_map_of_mem hmem⟩
  rw [inheritance, hsome]
  rfl

/-- Where the searches from the public interfaces of a class, struct or interface end and agree,
each of them is above one that the header keeps. -/
theorem Graph.exists_leafInterface {g : Graph} {d : TypeDecl} (hkind : d.kind.isComposite = true)
    (hends : ∀ i ∈ d.interfaces.filter g.isPublic, (g.supertypes? i).isSome)
    (hagree : ∀ i ∈ d.interfaces.filter g.isPublic, ∀ j ∈ d.interfaces.filter g.isPublic,
      g.SearchesAgree i j)
    {i : TypeRef} (hi : i ∈ d.interfaces.filter g.isPublic) :
    ∃ leaf ∈ g.leafInterfaces d, g.isAssignable i leaf = true := by
  have hopen : ¬ (d.kind = .enum ∨ d.kind = .delegate) := by
    rintro (hkind' | hkind') <;> simp [hkind', Kind.isComposite] at hkind
  have htrans : ∀ x ∈ d.interfaces.filter g.isPublic, ∀ y ∈ d.interfaces.filter g.isPublic,
      ∀ z ∈ d.interfaces.filter g.isPublic, g.isAssignable x y = true →
        g.isAssignable y z = true → g.isAssignable x z = true := by
    intro x hx y hy z hz hxy hyz
    exact isAssignable_of_agree (hends y hy) (hends z hz) (hagree y hy z hz) hxy hyz
  rw [leafInterfaces, if_neg hopen]
  exact exists_above_leavesOnto isAssignable_refl htrans (by simp) hi

/-- Assignability is transitive wherever the searches for supertypes end and agree. So, where
those from the public interfaces of a class, struct or interface do, each of these interfaces is
above one that the header of the type names. Enums and delegates keep none. -/
theorem Graph.assignability_transitive_where_searches_agree (g : Graph) :
    (∀ a b c : TypeRef, (g.supertypes? b).isSome → (g.supertypes? c).isSome →
      g.SearchesAgree b c → g.isAssignable a b = true → g.isAssignable b c = true →
      g.isAssignable a c = true) ∧
    (∀ d : TypeDecl, d.kind.isComposite = true →
      (∀ i ∈ d.interfaces.filter g.isPublic, (g.supertypes? i).isSome) →
      (∀ i ∈ d.interfaces.filter g.isPublic, ∀ j ∈ d.interfaces.filter g.isPublic,
        g.SearchesAgree i j) →
      ∀ i ∈ d.interfaces, g.isPublic i = true →
        ∃ leaf ∈ g.leafInterfaces d, g.isAssignable i leaf = true ∧
          ∀ e : Emitter, e.graph = g → ∃ names,
            e.inheritance d = " : " ++ ", ".intercalate names ∧
              leaf.sourceName e.aliases ∈ names) ∧
    ∀ d : TypeDecl, d.kind = .enum ∨ d.kind = .delegate → g.leafInterfaces d = [] := by
  refine ⟨?_, ?_, ?_⟩
  · intro a b c hb hc hagree hab hbc
    exact isAssignable_of_agree hb hc hagree hab hbc
  · intro d hkind hends hagree i hi hpublic
    obtain ⟨leaf, hleaf, habove⟩ :=
      exists_leafInterface hkind hends hagree (List.mem_filter.mpr ⟨hi, hpublic⟩)
    refine ⟨leaf, hleaf, habove, ?_⟩
    rintro e rfl
    exact Emitter.inheritance_names hleaf
  · intro d hkind
    rw [leafInterfaces, if_pos hkind]

/-! ## A shelf and its collections

The interfaces of a shelf, once with arguments throughout and once with a generic name that lacks
them. -/

def interfaceType (id : String) (parameters : List String) (parents : List TypeRef) : TypeDecl :=
  { id, name := id, kind := .interface, genericParameters := parameters, interfaces := parents }

def ofItems (name item : String) : TypeRef := { name, args := [{ name := item }] }

def shelfType (interfaces : List TypeRef) : TypeDecl :=
  { id := "Shelf", name := "Shelf", kind := .cls, interfaces }

def genericCollections : Graph where
  emitted :=
    [interfaceType "IEnumerable\x601" ["T"] [],
     interfaceType "ICollection\x601" ["T"] [ofItems "IEnumerable\x601" "T"],
     interfaceType "IList\x601" ["T"] [ofItems "ICollection\x601" "T"]]
  budget := 10

def enumerableOf (item : String) : TypeRef := ofItems "IEnumerable\x601" item

def collectionOf (item : String) : TypeRef := ofItems "ICollection\x601" item

def listOf (item : String) : TypeRef := ofItems "IList\x601" item

/-- The collections of books, where the books go by two names of one identity. -/
def bookCollections : List TypeRef :=
  [enumerableOf "Shop.Book", enumerableOf "Shop+Book", collectionOf "Shop.Book",
    collectionOf "Shop+Book", listOf "Shop+Book"]

def bookInterfaces : List TypeRef :=
  [enumerableOf "Shop.Book", collectionOf "Shop.Book", listOf "Shop+Book"]

theorem bookCollections_alike : ∀ x ∈ bookCollections, ∀ y ∈ bookCollections,
    x.identity = y.identity → x.element.name = y.element.name ∧
      x.args.map TypeRef.identity = y.args.map TypeRef.identity := by
  decide +kernel

theorem supertypes_of_bookInterfaces : ∀ i ∈ bookInterfaces,
    i :: genericCollections.supertypes i ⊆ bookCollections := by
  have henumerable : genericCollections.supertypes (enumerableOf "Shop.Book") = [] := rfl
  have hcollection : genericCollections.supertypes (collectionOf "Shop.Book") =
      [enumerableOf "Shop.Book"] := rfl
  have hlist : genericCollections.supertypes (listOf "Shop+Book") =
      [collectionOf "Shop+Book", enumerableOf "Shop+Book"] := rfl
  simp [bookInterfaces, bookCollections, henumerable, hcollection, hlist]

theorem bookInterfaces_agree : ∀ i ∈ bookInterfaces, ∀ j ∈ bookInterfaces,
    genericCollections.SearchesAgree i j := by
  intro i hi j hj x hx y hy hsame
  obtain ⟨hname, hargs⟩ := bookCollections_alike x (supertypes_of_bookInterfaces i hi hx) y
    (supertypes_of_bookInterfaces j hj hy) hsame
  exact Graph.parentsKept_of_same_type (congrArg genericCollections.get? hname) hargs

theorem bookInterfaces_end : ∀ i ∈ bookInterfaces, (genericCollections.supertypes? i).isSome := by
  decide +kernel

theorem bookInterfaces_public :
    bookInterfaces.filter genericCollections.isPublic = bookInterfaces := rfl

/-- The list of books stands for the collection and, through it, for what can be enumerated; the
header of the shelf names it alone. -/
theorem listOfBooks_above_enumerable :
    genericCollections.isAssignable (enumerableOf "Shop.Book") (listOf "Shop+Book") = true ∧
      ∃ leaf ∈ genericCollections.leafInterfaces (shelfType bookInterfaces),
        genericCollections.isAssignable (enumerableOf "Shop.Book") leaf = true := by
  obtain ⟨htrans, hleaves, -⟩ :=
    Graph.assignability_transitive_where_searches_agree genericCollections
  constructor
  · refine htrans _ (collectionOf "Shop.Book") _ (bookInterfaces_end _ ?_) (bookInterfaces_end _ ?_)
      (bookInterfaces_agree _ ?_ _ ?_) (by decide +kernel) (by decide +kernel) <;>
      simp [bookInterfaces]
  · have hpublic : (shelfType bookInterfaces).interfaces.filter genericCollections.isPublic =
        bookInterfaces := bookInterfaces_public
    obtain ⟨leaf, hleaf, habove, -⟩ := hleaves (shelfType bookInterfaces) rfl
      (by rw [hpublic]; exact bookInterfaces_end) (by rw [hpublic]; exact bookInterfaces_agree)
      (enumerableOf "Shop.Book") List.mem_cons_self (by decide +kernel)
    exact ⟨leaf, hleaf, habove⟩

def plainRef (name : String) : TypeRef := { name }

/-- A plain collection can be enumerated, and a generic one of the same name cannot. A list is a
generic collection whose argument is not given. -/
def mixedCollections : Graph where
  emitted :=
    [interfaceType "IEnumerable" [] [],
     interfaceType "ICollection" [] [plainRef "IEnumerable"],
     interfaceType "ICollection\x601" ["T"] [],
     interfaceType "IList" [] [plainRef "ICollection\x601"]]

def plainInterfaces : List TypeRef :=
  [plainRef "IEnumerable", plainRef "ICollection", plainRef "IList"]

/-- The type of an enum that lists an interface. -/
def orderType : TypeDecl :=
  { id := "Order", name := "Order", kind := .enum, interfaces := [plainRef "IEnumerable"] }

/-- A list stands for a collection by its identity and a collection for what can be enumerated,
but a list does not, and the header of the shelf loses the latter. An enum has no interfaces in
its header at all. -/
theorem enumerable_lost_among_collections :
    (∀ i ∈ plainInterfaces, (mixedCollections.supertypes? i).isSome ∧
      mixedCollections.isPublic i = true) ∧
    mixedCollections.isAssignable (plainRef "IEnumerable") (plainRef "ICollection") = true ∧
    mixedCollections.isAssignable (plainRef "ICollection") (plainRef "IList") = true ∧
    mixedCollections.isAssignable (plainRef "IEnumerable") (plainRef "IList") = false ∧
    plainRef "IEnumerable" ∈ (shelfType plainInterfaces).interfaces ∧
    (∀ leaf ∈ mixedCollections.leafInterfaces (shelfType plainInterfaces),
      mixedCollections.isAssignable (plainRef "IEnumerable") leaf = false) ∧
    plainRef "IEnumerable" ∈ orderType.interfaces ∧
    mixedCollections.leafInterfaces orderType = [] := by
  refine ⟨by decide +kernel, by decide +kernel, by decide +kernel, by decide +kernel,
    List.mem_cons_self, by decide +kernel, List.mem_cons_self, rfl⟩

end ApiShell
