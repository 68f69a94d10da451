import ApiShell.Proofs.Substitution
import ApiShell.Proofs.Supertypes

/-!
# Composition of substitutions

Putting references for parameters with one binding and then with another is putting them once, with
the composed binding. The search for supertypes goes another way: it binds the arguments of each
reference on a chain of inheritance before it looks at the next type, and so it never puts anything
for a name that the next type uses without binding it. Main statement: both ways meet on every
chain whose references use no such name that is bound further down, and part at the first step
that does.
-/

namespace ApiShell

namespace TypeRef

variable {binding other first second : List (String × TypeRef)} {r : TypeRef} {name : String}

/-- What is bound when references are put with one binding and then with another: what the first
one binds, with the second one put into it, and all else that the second one binds. -/
def compose (first second : List (String × TypeRef)) : List (String × TypeRef) :=
  first.map (fun entry => (entry.1, substitute second entry.2)) ++ second

theorem lookup_compose (first second : List (String × TypeRef)) (name : String) :
    (compose first second).lookup name
      = ((first.lookup name).map (substitute second)).or (second.lookup name) := by
  rw [compose, List.lookup_append, lookup_map_value]

theorem substitute_nil (r : TypeRef) : substitute [] r = r := by
  induction r using induction_on_args with
  | h r ih =>
    by_cases hargs : r.args = []
    · rw [substitute_bare hargs]
      rfl
    · have hsame : r.args.map (substitute []) = r.args :=
        (List.map_congr_left ih).trans (List.map_id' r.args)
      rw [substitute_of_args hargs, hsame]
      cases r
      rfl

theorem substitute_substitute (first second : List (String × TypeRef)) (r : TypeRef) :
    substitute second (substitute first r) = substitute (compose first second) r := by
  induction r using induction_on_args with
  | h r ih =>
    by_cases hargs : r.args = []
    · rw [substitute_bare hargs, substitute_bare hargs, lookup_compose]
      cases first.lookup r.name with
      | none => exact substitute_bare hargs
      | some arg => rfl
    · have hmapped : r.args.map (substitute first) ≠ [] := by simpa using hargs
      rw [substitute_of_args hargs, substitute_of_args hargs, substitute_of_args hmapped]
      dsimp only
      rw [List.map_map]
      exact congrArg (fun args => { r with args }) (List.map_congr_left ih)

/-- Two bindings give the same reference exactly when they give the same for every name without
arguments in it. -/
theorem substitute_eq_iff :
    substitute binding r = substitute other r ↔
      ∀ part : TypeRef, part.StandsIn r → part.args = [] →
        substitute binding part = substitute other part := by
  constructor
  · intro h part hpart
    induction hpart with
    | itself => exact fun _ => h
    | @argument ref arg listed _ ih =>
      have hargs : ref.args ≠ [] := List.ne_nil_of_mem listed
      rw [substitute_of_args hargs, substitute_of_args hargs] at h
      have hmapped := congrArg TypeRef.args h
      exact ih (List.map_inj_left.mp hmapped arg listed)
  · intro h
    induction r using induction_on_args with
    | h r ih =>
      by_cases hargs : r.args = []
      · exact h r .itself hargs
      · have hmapped : r.args.map (substitute binding) = r.args.map (substitute other) :=
          List.map_congr_left fun a ha => ih a ha fun part hpart => h part (.argument ha hpart)
        rw [substitute_of_args hargs, substitute_of_args hargs, hmapped]

/-- The reference is a name without arguments that is bound. -/
def IsParameter (binding : List (String × TypeRef)) (r : TypeRef) : Prop :=
  r.args = [] ∧ (binding.lookup r.name).isSome = true

/-- Names without arguments in a reference that the first binding leaves are left by the second
one too. -/
def InScope (first second : List (String × TypeRef)) (r : TypeRef) : Prop :=
  ∀ part : TypeRef, part.StandsIn r → part.args = [] → first.lookup part.name = none →
    substitute second part = part

/-- Unless the reference is a parameter by itself, its arguments are what is changed in it. -/
theorem args_substitute (h : ¬ IsParameter binding r) :
    (substitute binding r).args = r.args.map (substitute binding) := by
  by_cases hargs : r.args = []
  · have hfree : binding.lookup r.name = none :=
      Option.not_isSome_iff_eq_none.mp fun hsome => h ⟨hargs, hsome⟩
    rw [substitute_bare hargs, hfree, Option.getD_none, hargs, List.map_nil]
  · rw [substitute_of_args hargs]

end TypeRef

/-- The arguments of a reference are bound as those of the reference before the substitution, with
the substitution done in each of them. -/
theorem TypeDecl.lookup_binding_substitute (d : TypeDecl) {binding : List (String × TypeRef)}
    {r : TypeRef} (h : ¬ r.IsParameter binding) (name : String) :
    (d.binding (r.substitute binding)).lookup name
      = ((d.binding r).lookup name).map (TypeRef.substitute binding) := by
  have hsame : d.binding (r.substitute binding)
      = (d.binding r).map fun entry => (entry.1, entry.2.substitute binding) := by
    rw [d.map_binding, ← TypeRef.args_substitute h, TypeDecl.binding]
  rw [hsame, lookup_map_value]

/-! ## Chains of inheritance -/

namespace Graph

variable {g : Graph} {ref p r q : TypeRef} {bound : List (String × TypeRef)} {d : TypeDecl}

/-- A chain of inheritance from a reference upwards: the reference that the last type on it lists,
the same reference with its arguments bound step by step as the search does it, and what the
arguments on the chain bind at once. Each listed reference is in scope: a name without arguments
that the type listing it leaves unbound is not bound further down. A parameter that a type lists by
itself stands for its argument, and the chain goes on from there. -/
inductive ScopedChain (g : Graph) (ref : TypeRef) :
    TypeRef → TypeRef → List (String × TypeRef) → Prop
  | start : ScopedChain g ref ref ref []
  | step {p r q : TypeRef} {bound : List (String × TypeRef)} {d : TypeDecl}
      (below : ScopedChain g ref p r bound) (named : ¬ p.IsParameter bound)
      (resolved : g.resolve? r = some d) (listed : d.base = some q ∨ q ∈ d.interfaces)
      (scope : q.InScope (d.binding p) bound) :
      ScopedChain g ref q (q.substitute (d.binding r)) (TypeRef.compose (d.binding p) bound)
  | argument {p r : TypeRef} {bound : List (String × TypeRef)} (below : ScopedChain g ref p r bound)
      (parameter : p.IsParameter bound) : ScopedChain g ref r r []

/-- One more step binds a listed reference alike both ways exactly when it is in scope. -/
theorem substitute_binding_eq_iff (hnamed : ¬ p.IsParameter bound)
    (hbound : p.substitute bound = r) :
    q.substitute (d.binding r) = q.substitute (TypeRef.compose (d.binding p) bound) ↔
      q.InScope (d.binding p) bound := by
  rw [TypeRef.substitute_eq_iff, TypeRef.InScope]
  refine forall₃_congr fun part _ hargs => ?_
  rw [TypeRef.substitute_bare hargs, TypeRef.substitute_bare hargs, TypeRef.substitute_bare hargs,
    TypeRef.lookup_compose, ← hbound, d.lookup_binding_substitute hnamed]
  cases (d.binding p).lookup part.name with
  | none => simp [eq_comm]
  | some arg => simp

/-- On a chain, binding step by step gives what binding at once gives. -/
theorem ScopedChain.substitute_eq (h : g.ScopedChain ref p r bound) : p.substitute bound = r := by
  induction h with
  | start => exact TypeRef.substitute_nil ref
  | step below named resolved listed scope ih =>
    exact ((substitute_binding_eq_iff named ih).mpr scope).symm
  | argument below parameter ih => exact TypeRef.substitute_nil _

/-- What stands at the end of a chain lies above its start. -/
theorem ScopedChain.above (h : g.ScopedChain ref p r bound) :
    Relation.ReflTransGen g.DirectParent ref r := by
  induction h with
  | start => exact .refl
  | @step p r q bound d below named resolved listed scope ih =>
    exact ih.tail ⟨d, resolved, q, listed, rfl⟩
  | argument below parameter ih => exact ih

/-- Putting references with one binding and then with another is putting them with what the first
binds, the second put into it, and with all else that the second binds. So a reference above another
is the listed one with all arguments of the chain bound at once, as far as the listed references are
in scope, and at the first step out of scope it is not. -/
theorem substitution_composes :
    (∀ (first second : List (String × TypeRef)) (r : TypeRef),
      (r.substitute first).substitute second = r.substitute (TypeRef.compose first second)) ∧
    (∀ (first second : List (String × TypeRef)) (name : String),
      (TypeRef.compose first second).lookup name
        = ((first.lookup name).map (TypeRef.substitute second)).or (second.lookup name)) ∧
    ∀ (g : Graph) (ref p r : TypeRef) (bound : List (String × TypeRef)),
      g.ScopedChain ref p r bound →
        Relation.ReflTransGen g.DirectParent ref r ∧ r = p.substitute bound ∧
        ∀ (d : TypeDecl) (q : TypeRef), ¬ p.IsParameter bound → g.resolve? r = some d →
          d.base = some q ∨ q ∈ d.interfaces →
          (q.substitute (d.binding r) = q.substitute (TypeRef.compose (d.binding p) bound) ↔
            q.InScope (d.binding p) bound) := by
  refine ⟨TypeRef.substitute_substitute, TypeRef.lookup_compose, ?_⟩
  intro g ref p r bound hchain
  have hbound := hchain.substitute_eq
  refine ⟨hchain.above, hbound.symm, ?_⟩
  intro d q hnamed _ _
  exact substitute_binding_eq_iff hnamed hbound

/-! ## Sources and feeds -/

/-- A pair of two items. -/
def pairOf (first second : String) : TypeRef :=
  { name := "IPair\x602", args := [{ name := first }, { name := second }] }

def sourceInterface : TypeDecl :=
  interfaceType "ISource\x601" ["T"] [ofItems "IFeed\x601" "T"]

/-- A feed pairs its items with a class that has the name of the parameter of a source. -/
def feedInterface : TypeDecl :=
  interfaceType "IFeed\x601" ["U"] [ofItems "ILog\x601" "U", pairOf "U" "T"]

def feedGraph : Graph where
  emitted :=
    [sourceInterface, feedInterface, interfaceType "ILog\x601" ["V"] [],
     interfaceType "IPair\x602" ["A", "B"] [], { id := "T", name := "T", kind := .cls }]
  budget := 10

def sourceOfBooks : TypeRef := ofItems "ISource\x601" "Book"

/-- What is bound on the way from a source of books to what a feed lists. -/
def boundInFeed : List (String × TypeRef) :=
  TypeRef.compose (feedInterface.binding (ofItems "IFeed\x601" "T"))
    (TypeRef.compose (sourceInterface.binding sourceOfBooks) [])

theorem feed_chain : feedGraph.ScopedChain sourceOfBooks (ofItems "IFeed\x601" "T")
    (ofItems "IFeed\x601" "Book") (TypeRef.compose (sourceInterface.binding sourceOfBooks) []) := by
  have hnamed : ¬ sourceOfBooks.IsParameter [] := fun h => by cases h.2
  have hscope : (ofItems "IFeed\x601" "T").InScope (sourceInterface.binding sourceOfBooks) [] :=
    fun part _ _ _ => TypeRef.substitute_nil part
  exact .step .start hnamed rfl (.inr List.mem_cons_self) hscope

theorem log_inScope : (ofItems "ILog\x601" "U").InScope
    (feedInterface.binding (ofItems "IFeed\x601" "T"))
    (TypeRef.compose (sourceInterface.binding sourceOfBooks) []) := by
  intro part hpart hargs hfree
  cases hpart with
  | itself => cases hargs
  | argument listed inside =>
    obtain rfl := List.mem_singleton.mp listed
    cases inside with
    | itself => cases hfree
    | argument listed _ => cases listed

/-- The log of a feed is reached with its items bound at once, and the pair is out of scope. -/
theorem feed_chain_composes :
    feedGraph.ScopedChain sourceOfBooks (ofItems "ILog\x601" "U") (ofItems "ILog\x601" "Book")
        boundInFeed ∧
      ofItems "ILog\x601" "Book" = (ofItems "ILog\x601" "U").substitute boundInFeed ∧
      ¬ (pairOf "U" "T").InScope (feedInterface.binding (ofItems "IFeed\x601" "T"))
        (TypeRef.compose (sourceInterface.binding sourceOfBooks) []) := by
  have hnamed : ¬ (ofItems "IFeed\x601" "T").IsParameter
      (TypeRef.compose (sourceInterface.binding sourceOfBooks) []) := fun h => by cases h.1
  have hlog : feedGraph.ScopedChain sourceOfBooks (ofItems "ILog\x601" "U")
      (ofItems "ILog\x601" "Book") boundInFeed :=
    .step feed_chain hnamed rfl (.inr List.mem_cons_self) log_inScope
  refine ⟨hlog, (substitution_composes.2.2 _ _ _ _ _ hlog).2.1, ?_⟩
  have hpair := (substitution_composes.2.2 _ _ _ _ _ feed_chain).2.2 feedInterface (pairOf "U" "T")
    hnamed rfl (.inr (by simp [feedInterface, interfaceType]))
  rw [← hpair]
  intro hsame
  exact absurd (congrArg TypeRef.identity hsame) (by decide)

/-- The search leaves the class with which a feed pairs its items, although a source binds a
parameter of that name. Binding in turn, or at once, puts the item for the class as well. -/
theorem class_not_taken_for_parameter :
    feedGraph.supertypes? sourceOfBooks =
        some [ofItems "IFeed\x601" "Book", ofItems "ILog\x601" "Book", pairOf "Book" "T"] ∧
      ((pairOf "U" "T").substitute (feedInterface.binding (ofItems "IFeed\x601" "T"))).substitute
        (sourceInterface.binding sourceOfBooks) = pairOf "Book" "Book" ∧
      (pairOf "U" "T").substitute
        (TypeRef.compose (feedInterface.binding (ofItems "IFeed\x601" "T"))
          (sourceInterface.binding sourceOfBooks)) = pairOf "Book" "Book" ∧
      pairOf "Book" "Book" ∉
        [ofItems "IFeed\x601" "Book", ofItems "ILog\x601" "Book", pairOf "Book" "T"] := by
  refine ⟨rfl, rfl, rfl, ?_⟩
  simp [pairOf, ofItems]

end Graph

end ApiShell
