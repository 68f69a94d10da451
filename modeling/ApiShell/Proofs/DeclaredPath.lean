import ApiShell.Declaration.Types
import ApiShell.Proofs.Acceptance
import ApiShell.Proofs.MetadataName

/-!
# Declared and referenced names

A type is declared inside the types around it and inside a namespace, and is referenced by its id
with the arguments of all these types in one row. Where ids follow from the names, a name is a
row of parts: a word, and the generic parameters that belong to it. The id spells the parts with
markers and plus signs; the source name of a reference gives every part its own arguments back,
and that is how the parts are declared.
-/

namespace ApiShell

/-! ## Names as rows of parts -/

/-- A step of a name: a word and the arguments that belong to it. -/
structure NamePart where
  word : List Char
  args : List (List Char) := []

namespace NamePart

/-- The part in an id: the marker says how many arguments there are. -/
def marked (p : NamePart) : List Char :=
  p.word ++ MetadataName.marker p.args.length

/-- The part in source text. -/
def shown (p : NamePart) : List Char :=
  p.word ++ Arity.bracketed p.args

/-- The part with a text before its word. -/
def after (p : NamePart) (start : List Char) : NamePart :=
  { p with word := start ++ p.word }

@[simp]
theorem args_after (p : NamePart) (start : List Char) : (p.after start).args = p.args := rfl

@[simp]
theorem marked_after (p : NamePart) (start : List Char) :
    (p.after start).marked = start ++ p.marked := by
  simp [marked, after]

@[simp]
theorem shown_after (p : NamePart) (start : List Char) :
    (p.after start).shown = start ++ p.shown := by
  simp [shown, after]

/-- The characters that structure a name. -/
def signs : List Char := ['+', Arity.mark, '&']

/-- The word has none of the signs that structure a name, and no argument has a plus sign. -/
structure Plain (p : NamePart) : Prop where
  word : ∀ c ∈ signs, c ∉ p.word
  args : ∀ arg ∈ p.args, '+' ∉ arg

variable {p : NamePart} {parts : List NamePart}

theorem Plain.not_mem_marked (h : p.Plain) {c : Char} (hc : c ∈ signs) (hmark : c ≠ Arity.mark)
    (hdigit : c.isDigit = false) : c ∉ p.marked := by
  rw [marked, List.mem_append, not_or]
  exact ⟨h.word c hc, MetadataName.not_mem_marker hdigit hmark _⟩

/-- Segments get back the arguments that were put in one row. -/
theorem attachTo_marked (h : ∀ p ∈ parts, p.Plain) :
    Arity.attachTo (parts.map marked) (parts.flatMap (·.args)) = (parts.map shown, []) := by
  induction parts with
  | nil => rfl
  | cons p rest ih =>
    have hmark : Arity.mark ∉ p.word := (h p (by simp)).word _ (by simp [signs])
    have hrest := ih fun q hq => h q (by simp [hq])
    rw [List.map_cons, marked, MetadataName.attachTo_marker hmark, List.flatMap_cons,
      List.drop_left, List.take_left, hrest]
    rfl

theorem Plain.plus_not_mem_shown (h : p.Plain) : '+' ∉ p.shown := by
  rw [shown, List.mem_append, not_or]
  exact ⟨h.word _ (by simp [signs]), MetadataName.not_mem_bracketed (by decide) h.args⟩

/-- By-reference marks inside arguments stay, since brackets stand around them. -/
theorem Plain.endsApart_shown (h : p.Plain) : Text.EndsApart (· = '&') p.shown := by
  refine (Text.endsApart_of_not_mem (h.word _ (by simp [signs]))).append ?_
  rw [Arity.bracketed]
  split
  · simp [Text.EndsApart]
  · refine ⟨by simp, fun c hc => ?_⟩
    rw [List.getLast?_concat] at hc
    cases hc
    decide

section

variable (h : ∀ p ∈ parts, p.Plain)

include h

theorem not_mem_of_mem_marked {c : Char} (hc : c ∈ signs) (hmark : c ≠ Arity.mark)
    (hdigit : c.isDigit = false) : ∀ piece ∈ parts.map marked, c ∉ piece := by
  intro piece hpiece
  obtain ⟨p, hp, rfl⟩ := List.mem_map.mp hpiece
  exact (h p hp).not_mem_marked hc hmark hdigit

theorem plus_not_mem_path : '+' ∉ Text.joinWith ['.'] (parts.map shown) := by
  refine Text.not_mem_joinWith (by decide) fun piece hpiece => ?_
  obtain ⟨p, hp, rfl⟩ := List.mem_map.mp hpiece
  exact (h p hp).plus_not_mem_shown

theorem dropEnds_path : Text.dropEnds (· = '&') (Text.joinWith ['.'] (parts.map shown)) =
    Text.joinWith ['.'] (parts.map shown) := by
  refine Text.dropEnds_of_endsApart (Text.EndsApart.joinWith ?_ fun piece hpiece => ?_)
  · simp [Text.EndsApart]
  · obtain ⟨p, hp, rfl⟩ := List.mem_map.mp hpiece
    exact (h p hp).endsApart_shown

/-- Without arguments a name is its words, with dots for plus signs. -/
theorem bareName_of_parts {name : String}
    (hname : name.toList = Text.joinWith ['+'] (parts.map marked))
    (hargs : parts.flatMap (·.args) = []) :
    (TypeRef.bareName false name).toList = Text.joinWith ['.'] (parts.map shown) := by
  have hwords : ∀ p ∈ parts, p.marked = p.word ∧ p.shown = p.word := by
    intro p hp
    have hnone : p.args = [] := List.flatMap_eq_nil_iff.mp hargs p hp
    simp [marked, shown, hnone, MetadataName.marker, Arity.bracketed]
  have hsame : parts.map marked = parts.map shown :=
    List.map_congr_left fun p hp => (hwords p hp).1.trans (hwords p hp).2.symm
  have hmark : Arity.mark ∉ name.toList := by
    rw [hname]
    refine Text.not_mem_joinWith (by decide) fun piece hpiece => ?_
    obtain ⟨p, hp, rfl⟩ := List.mem_map.mp hpiece
    rw [(hwords p hp).1]
    exact (h p hp).word _ (by simp [signs])
  have hplus := not_mem_of_mem_marked h (c := '+') (by decide) (by decide) (by decide)
  rw [TypeRef.bareName, if_neg (by decide), String.toList_ofList, TypeRef.dotted,
    MetadataName.stripFrom_of_not_mem hmark, hname, Text.replaceChar_joinWith hplus, hsame,
    dropEnds_path h]

/-- With the arguments of all parts in one row every part gets its own back. -/
theorem boundName_of_parts (hsome : parts ≠ []) {name : String} {args : List String}
    (hname : name.toList = Text.joinWith ['+'] (parts.map marked))
    (hargs : args.map String.toList = parts.flatMap (·.args)) :
    (TypeRef.boundName name args).toList = Text.joinWith ['.'] (parts.map shown) := by
  have hamp : '&' ∉ name.toList := by
    rw [hname]
    exact Text.not_mem_joinWith (by decide)
      (not_mem_of_mem_marked h (by decide) (by decide) (by decide))
  have hattach : Arity.attach name.toList (args.map String.toList) =
      Text.joinWith ['.'] (parts.map shown) := by
    have hplus := not_mem_of_mem_marked h (c := '+') (by decide) (by decide) (by decide)
    rw [Arity.attach, hname, Text.splitOn_joinWith (by simpa using hsome) hplus, hargs,
      attachTo_marked h]
    simp [Arity.bracketed]
  rw [TypeRef.boundName, String.toList_ofList, TypeRef.dotted, Text.dropEnd_of_not_mem hamp,
    hattach, Text.replaceChar_of_not_mem (plus_not_mem_path h), dropEnds_path h]

/-- The source name of a reference whose name the parts spell and whose arguments are those of
all parts. -/
theorem sourceName_of_parts (hsome : parts ≠ []) {ref : TypeRef}
    (hname : ref.name.toList = Text.joinWith ['+'] (parts.map marked))
    (hargs : ref.args.map (fun arg => (arg.sourceName false).toList) = parts.flatMap (·.args))
    (hvoid : ref.isVoid = false) (hnullable : ref.nullable = false) :
    (ref.sourceName false).toList = Text.joinWith ['.'] (parts.map shown) := by
  obtain ⟨name, args, nullable, category, byRef⟩ := ref
  simp only [TypeRef.isVoid] at hname hargs hvoid hnullable
  cases args with
  | nil =>
    simp only [TypeRef.sourceName, hvoid, hnullable, Bool.false_eq_true, if_false]
    exact bareName_of_parts h hname hargs.symm
  | cons arg more =>
    simp only [TypeRef.sourceName, hvoid, hnullable, Bool.false_eq_true, if_false,
      TypeRef.sourceNames_eq]
    refine boundName_of_parts h hsome hname ?_
    rw [← hargs]
    simp

end

/-! ## The parts of a type -/

/-- The part that a type adds to the names of the types inside it. -/
def ofType (d : TypeDecl) : NamePart :=
  { word := Arity.stripFrom false d.name.toList
    args := d.genericParameters.map fun name => (TypeDecl.parameterRef name).identity.toList }

/-- A type is declared as its part is shown. -/
theorem declaredName_eq (d : TypeDecl) :
    (Emitter.declaredName d).toList = (ofType d).shown := by
  have hname : (Arity.strip d.name).toList = (ofType d).word := by
    simp [Arity.strip, ofType]
  rw [Emitter.declaredName, shown, Arity.bracketed, String.toList_append, hname]
  cases hparameters : d.genericParameters with
  | nil => simp [ofType, hparameters]
  | cons name more =>
    simp [ofType, hparameters, Text.joinWith_eq_intercalate, String.toList_intercalate,
      Function.comp_def]

/-- The name of a generic parameter is written with dots for plus signs too. -/
theorem plus_not_mem_identity (name : String) :
    '+' ∉ (TypeDecl.parameterRef name).identity.toList := by
  have hdotted : ∀ chars, '+' ∉ TypeRef.dotted chars := by
    intro chars h
    have hreplaced : '+' ∈ Text.replaceChar '+' '.' chars :=
      Text.mem_of_mem_dropEnds h
    simp only [Text.replaceChar, List.mem_map] at hreplaced
    obtain ⟨c, -, hc⟩ := hreplaced
    split at hc
    · cases hc
    · contradiction
  simp only [TypeDecl.parameterRef, TypeRef.identity, TypeRef.sourceName]
  split
  · decide
  · simpa [TypeRef.bareName] using hdotted _

end NamePart

/-- The characters that have a meaning in names. -/
def nameSigns : List Char := ['.', '+', Arity.mark, '&', '<', '>', ',']

/-- A text without the characters that have a meaning in names. -/
def IsIdentifier (chars : List Char) : Prop :=
  ∀ c ∈ nameSigns, c ∉ chars

instance (chars : List Char) : Decidable (IsIdentifier chars) :=
  List.decidableBAll (fun c => c ∉ chars) nameSigns

theorem mem_nameSigns {c : Char} (h : c ∈ NamePart.signs) : c ∈ nameSigns ∧ c ≠ '.' := by
  simp only [NamePart.signs, List.mem_cons, List.not_mem_nil, or_false] at h
  rcases h with rfl | rfl | rfl <;> decide

/-- The name of a type is an identifier, with a marker exactly when the type has generic
parameters, and its namespace is made of identifiers with dots between them. -/
structure PlainlyNamed (d : TypeDecl) : Prop where
  name : ∃ word, IsIdentifier word ∧
    d.name.toList = word ++ MetadataName.marker d.genericParameters.length
  space : ∀ space, d.space = some space →
    ∀ piece ∈ Text.splitOn '.' space.toList, IsIdentifier piece

/-! ## Chains of enclosing types -/

/-- The types around a type and the type itself, the outermost first. -/
inductive EnclosingChain (types : List TypeDecl) : List TypeDecl → TypeDecl → Prop where
  | outermost {d : TypeDecl} (mem : d ∈ types) (top : d.enclosing = none) :
      EnclosingChain types [d] d
  | inside {chain : List TypeDecl} {p d : TypeDecl} (outer : EnclosingChain types chain p)
      (mem : d ∈ types) (link : d.enclosing = some p.id) :
      EnclosingChain types (chain ++ [d]) d

/-- The start of a name in a namespace. -/
def spaceStart : Option String → String
  | none => ""
  | some space => space ++ "."

/-- The path by which the last type of a chain is declared: the namespace of the outermost type
and the declared names of all. -/
def declaredPath (chain : List TypeDecl) : String :=
  spaceStart (chain.head?.bind (·.space)) ++ ".".intercalate (chain.map Emitter.declaredName)

/-- The parts of the name of the last type of a chain. -/
def NamePart.ofChain : List TypeDecl → List NamePart
  | [] => []
  | d :: rest => (ofType d).after (spaceStart d.space).toList :: rest.map ofType

namespace NamePart

variable {types chain : List TypeDecl} {d : TypeDecl}

theorem marked_ofType (h : PlainlyNamed d) : (ofType d).marked = d.name.toList := by
  obtain ⟨word, hword, hname⟩ := h.name
  have hmark : Arity.mark ∉ word := hword _ (by simp [nameSigns])
  simp only [marked, ofType, List.length_map, hname, MetadataName.stripFrom_marker hmark]

theorem plain_ofType (h : PlainlyNamed d) : (ofType d).Plain := by
  obtain ⟨word, hword, hname⟩ := h.name
  have hmark : Arity.mark ∉ word := hword _ (by simp [nameSigns])
  constructor
  · intro c hc
    rw [ofType, hname, MetadataName.stripFrom_marker hmark]
    exact hword c (mem_nameSigns hc).1
  · intro arg harg
    obtain ⟨name, -, rfl⟩ := List.mem_map.mp harg
    exact plus_not_mem_identity name

/-- The start that a namespace gives to a name has none of the signs that structure it. -/
theorem not_mem_spaceStart (h : PlainlyNamed d) {c : Char} (hc : c ∈ signs) :
    c ∉ (spaceStart d.space).toList := by
  cases hspace : d.space with
  | none => simp [spaceStart]
  | some space =>
    obtain ⟨hsign, hdot⟩ := mem_nameSigns hc
    have hpieces : c ∉ space.toList := by
      rw [← Text.joinWith_splitOn '.' space.toList]
      refine Text.not_mem_joinWith (by simpa using hdot) fun piece hpiece => ?_
      exact h.space space hspace piece hpiece c hsign
    simp [spaceStart, hpieces, hdot]

theorem plain_ofChain (h : ∀ d ∈ chain, PlainlyNamed d) : ∀ p ∈ ofChain chain, p.Plain := by
  intro p hp
  cases chain with
  | nil => cases hp
  | cons d rest =>
    rcases List.mem_cons.mp hp with rfl | hp
    · have hd := plain_ofType (h d (by simp))
      refine ⟨fun c hc => ?_, hd.args⟩
      rw [after, List.mem_append, not_or]
      exact ⟨not_mem_spaceStart (h d (by simp)) hc, hd.word c hc⟩
    · obtain ⟨e, he, rfl⟩ := List.mem_map.mp hp
      exact plain_ofType (h e (by simp [he]))

theorem ofChain_ne_nil (h : chain ≠ []) : ofChain chain ≠ [] := by
  cases chain with
  | nil => exact absurd rfl h
  | cons d rest => simp [ofChain]

theorem ofChain_concat (h : chain ≠ []) (d : TypeDecl) :
    ofChain (chain ++ [d]) = ofChain chain ++ [ofType d] := by
  cases chain with
  | nil => exact absurd rfl h
  | cons e rest => simp [ofChain]

theorem args_ofChain (chain : List TypeDecl) :
    (ofChain chain).flatMap (·.args) =
      (chain.flatMap fun p => p.genericParameters.map TypeDecl.parameterRef).map
        fun arg => (arg.sourceName false).toList := by
  have hargs : ∀ d : TypeDecl, (ofType d).args =
      (d.genericParameters.map TypeDecl.parameterRef).map
        fun arg => (arg.sourceName false).toList := by
    intro d
    simp [ofType, TypeRef.identity]
  cases chain with
  | nil => rfl
  | cons d rest => simp only [ofChain, List.flatMap_cons, List.flatMap_map, List.map_append,
      List.map_flatMap, args_after, hargs]

/-- The declared path shows the parts with dots between them. -/
theorem declaredPath_eq (chain : List TypeDecl) :
    (declaredPath chain).toList = Text.joinWith ['.'] ((ofChain chain).map shown) := by
  cases chain with
  | nil => rfl
  | cons d rest =>
    rw [ofChain, List.map_cons, shown_after, Text.joinWith_append_cons,
      Text.joinWith_eq_intercalate]
    simp [declaredPath, String.toList_intercalate, declaredName_eq, Function.comp_def]

end NamePart

namespace EnclosingChain

variable {types chain : List TypeDecl} {d : TypeDecl}

theorem ne_nil (h : EnclosingChain types chain d) : chain ≠ [] := by
  cases h <;> simp

theorem subset (h : EnclosingChain types chain d) : chain ⊆ types := by
  induction h with
  | outermost mem _ => simpa using mem
  | inside _ mem _ ih => simpa using ⟨ih, mem⟩

/-- An id that follows from the names spells the parts with plus signs between them. -/
theorem id_eq (h : EnclosingChain types chain d)
    (implied : ∀ d ∈ types, d.id = Document.impliedId d)
    (plain : ∀ d ∈ types, PlainlyNamed d) :
    d.id.toList = Text.joinWith ['+'] ((NamePart.ofChain chain).map NamePart.marked) := by
  induction h with
  | @outermost d mem top =>
    have hid : d.id = spaceStart d.space ++ d.name := by
      rw [implied d mem, Document.impliedId, top]
      cases d.space <;> simp [spaceStart]
    simp [NamePart.ofChain, Text.joinWith, hid, NamePart.marked_ofType (plain d mem)]
  | @inside chain p d outer mem link ih =>
    have hid : d.id = p.id ++ "+" ++ d.name := by
      rw [implied d mem, Document.impliedId, link]
    have hsome : (NamePart.ofChain chain).map NamePart.marked ≠ [] := by
      simpa using NamePart.ofChain_ne_nil outer.ne_nil
    rw [NamePart.ofChain_concat outer.ne_nil, List.map_append, List.map_singleton,
      Text.joinWith_concat _ _ hsome, ← ih, NamePart.marked_ofType (plain d mem), hid]
    simp

end EnclosingChain

/-- Every type has a chain of enclosing types where ids follow from the names: the id of a type
is longer than that of the type around it. -/
theorem exists_enclosingChain {types : List TypeDecl}
    (implied : ∀ d ∈ types, d.id = Document.impliedId d)
    (known : ∀ d ∈ types, ∀ outer, d.enclosing = some outer → ∃ p ∈ types, p.id = outer)
    (d : TypeDecl) (hd : d ∈ types) : ∃ chain, EnclosingChain types chain d := by
  induction hlength : d.id.length using Nat.strong_induction_on generalizing d with
  | _ n ih =>
    cases hlink : d.enclosing with
    | none => exact ⟨[d], .outermost hd hlink⟩
    | some outer =>
      obtain ⟨p, hp, rfl⟩ := known d hd outer hlink
      have hshorter : p.id.length < n := by
        rw [← hlength]
        exact Document.enclosing_length_lt (implied d hd) hlink
      obtain ⟨chain, hchain⟩ := ih _ hshorter p hp rfl
      exact ⟨chain ++ [d], .inside hchain hd hlink⟩

/-! ## Accepted documents -/

/-- No type of a document states an id of its own. -/
def Document.StatesNoIds (document : Document.Entries) : Prop :=
  ∀ values, Document.list "types" (Value.get document "types") = .ok values →
    ∀ entries, Value.map entries ∈ values →
      Document.optionalText (Value.get entries "id") = none

theorem Document.implied_of_assemble {fallback : String} {primary : Document.Entries}
    {secondary : List Document.Entries} {loaded : Loaded}
    (accepted : Document.assemble fallback primary secondary = .ok loaded)
    (unstated : Document.StatesNoIds primary) :
    ∀ d ∈ loaded.library.types, d.id = Document.impliedId d := by
  obtain ⟨tables, external, -, hlibrary, -, -⟩ := Document.assemble_eq_ok accepted
  obtain ⟨htypes, -⟩ := Document.library_eq_ok hlibrary
  obtain ⟨values, hvalues, -, hread⟩ := Document.types_eq_ok htypes
  intro d hd
  obtain ⟨value, hvalue, hd⟩ := exists_of_forall₂ hread hd
  obtain ⟨entries, rfl, hid⟩ := Document.id_of_type hd
  exact hid (unstated values hvalues entries hvalue)

/-- In an accepted library of plainly named types without stated ids every type has a chain of
enclosing types, and the reference to it by its id, with the generic parameters of all types on
the chain as arguments, reads as the path by which it is declared. -/
theorem sourceName_eq_declaredPath {fallback : String} {primary : Document.Entries}
    {secondary : List Document.Entries} {loaded : Loaded}
    (accepted : Document.assemble fallback primary secondary = .ok loaded)
    (unstated : Document.StatesNoIds primary)
    (plain : ∀ d ∈ loaded.library.types, PlainlyNamed d)
    (notVoid : ∀ d ∈ loaded.library.types, d.id ≠ TypeRef.voidName) :
    ∀ d ∈ loaded.library.types,
      (∃ chain, EnclosingChain loaded.library.types chain d) ∧
      ∀ chain, EnclosingChain loaded.library.types chain d →
        ∀ category, category ≠ Category.void →
          TypeRef.sourceName false
            { name := d.id
              args := chain.flatMap fun p => p.genericParameters.map TypeDecl.parameterRef
              category } = declaredPath chain := by
  have implied := Document.implied_of_assemble accepted unstated
  intro d hd
  refine ⟨?_, fun chain hchain category hcategory => ?_⟩
  · exact exists_enclosingChain implied (wellNested_of_assemble accepted).known d hd
  · have hplain : ∀ p ∈ NamePart.ofChain chain, p.Plain :=
      NamePart.plain_ofChain fun p hp => plain p (hchain.subset hp)
    refine String.toList_injective ?_
    rw [NamePart.declaredPath_eq]
    refine NamePart.sourceName_of_parts hplain (NamePart.ofChain_ne_nil hchain.ne_nil)
      (hchain.id_eq implied plain) (NamePart.args_ofChain chain).symm ?_ rfl
    simp [TypeRef.isVoid, hcategory, notVoid d hd]

/-! ## A map and its entries -/

/-- A generic class in a namespace, with a generic class inside it. -/
def mapDocument : Document.Entries :=
  [(.text "types", .list
    [.map [(.text "name", .text "Map\x602"), (.text "namespace", .text "Lib.Core"),
       (.text "generic_parameters", .list [.text "K", .text "V"])],
     .map [(.text "name", .text "Entry\x601"), (.text "nested_in", .text "Lib.Core.Map\x602"),
       (.text "generic_parameters", .list [.text "T"])]])]

def mapClass : TypeDecl :=
  { id := "Lib.Core.Map\x602", name := "Map\x602", kind := .cls, space := some "Lib.Core",
    genericParameters := ["K", "V"] }

def entryClass : TypeDecl :=
  { id := "Lib.Core.Map\x602+Entry\x601", name := "Entry\x601", kind := .cls,
    enclosing := some "Lib.Core.Map\x602", genericParameters := ["T"] }

theorem mapDocument_accepted : Document.assemble "map" mapDocument [] =
    .ok { library := { name := "map", types := [mapClass, entryClass] } } := rfl

theorem mapDocument_statesNoIds : Document.StatesNoIds mapDocument := by
  intro values hvalues entries hentries
  cases hvalues
  simp only [List.mem_cons, List.not_mem_nil, or_false, Value.map.injEq] at hentries
  rcases hentries with rfl | rfl <;> rfl

theorem mapTypes_plainlyNamed : ∀ d ∈ [mapClass, entryClass], PlainlyNamed d := by
  intro d hd
  simp only [List.mem_cons, List.not_mem_nil, or_false] at hd
  rcases hd with rfl | rfl
  · refine ⟨⟨"Map".toList, by decide, by decide⟩, fun space hspace piece hpiece => ?_⟩
    cases hspace
    have hpieces : Text.splitOn '.' "Lib.Core".toList = ["Lib".toList, "Core".toList] := by decide
    simp only [hpieces, List.mem_cons, List.not_mem_nil, or_false] at hpiece
    rcases hpiece with rfl | rfl <;> decide
  · refine ⟨⟨"Entry".toList, by decide, by decide⟩, fun space hspace => ?_⟩
    cases hspace

theorem entryClass_chain :
    EnclosingChain [mapClass, entryClass] [mapClass, entryClass] entryClass :=
  .inside (.outermost (by simp) rfl) (by simp) rfl

theorem entryClass_sourceName_eq_declaredPath :
    Document.assemble "map" mapDocument [] =
        .ok { library := { name := "map", types := [mapClass, entryClass] } } ∧
      Document.StatesNoIds mapDocument ∧
      (∀ d ∈ [mapClass, entryClass], PlainlyNamed d) ∧
      EnclosingChain [mapClass, entryClass] [mapClass, entryClass] entryClass ∧
      TypeRef.sourceName false
        { name := "Lib.Core.Map\x602+Entry\x601"
          args := ["K", "V", "T"].map TypeDecl.parameterRef } =
        declaredPath [mapClass, entryClass] :=
  ⟨mapDocument_accepted, mapDocument_statesNoIds, mapTypes_plainlyNamed, entryClass_chain,
    (sourceName_eq_declaredPath mapDocument_accepted mapDocument_statesNoIds
      mapTypes_plainlyNamed (by decide) entryClass (by simp)).2 _ entryClass_chain .reference
      (by decide)⟩

example : declaredPath [mapClass, entryClass] = "Lib.Core.Map<K,V>.Entry<T>" := by
  decide +kernel

end ApiShell
