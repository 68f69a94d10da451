import ApiShell.Proofs.Acceptance
import Mathlib.Tactic.MkIffOfInductiveProp

/-!
# The grammar of documents

Which documents are library documents, said without reading them: the shape of every entry, from
the root down to type references, which nest without bound. Main statement: reading accepts
exactly these documents. What an entry is read with, the kinds of other types and the generic
parameters in scope, does not matter for whether it is accepted, so each reading function is
compared with the shape of its entry alone.
-/

namespace ApiShell

/-! ## Chains of steps that may refuse -/

theorem exists_bind_eq_ok {ε α β : Type} {step : Except ε α} {next : α → Except ε β} :
    (∃ b, (step >>= next) = .ok b) ↔ ∃ a, step = .ok a ∧ ∃ b, next a = .ok b := by
  constructor
  · rintro ⟨b, h⟩
    obtain ⟨a, hstep, hnext⟩ := bind_eq_ok_iff.mp h
    exact ⟨a, hstep, b, hnext⟩
  · rintro ⟨a, hstep, b, hnext⟩
    exact ⟨b, bind_eq_ok_iff.mpr ⟨a, hstep, hnext⟩⟩

theorem exists_pure_eq_ok {ε α : Type} (a : α) : (∃ b, (pure a : Except ε α) = .ok b) ↔ True :=
  iff_true_intro ⟨a, rfl⟩

theorem exists_mapM_eq_ok {ε α β : Type} {step : α → Except ε β} {items : List α} :
    (∃ results, items.mapM step = .ok results) ↔ ∀ item ∈ items, ∃ b, step item = .ok b := by
  induction items with
  | nil => simp [exists_pure_eq_ok]
  | cons item rest ih =>
    simp only [List.mapM_cons, exists_bind_eq_ok, exists_pure_eq_ok, and_true, exists_and_right, ih,
      List.forall_mem_cons]

namespace Document

/-! ## Shapes -/

/-- Null, or a list of which every item has a shape. -/
inductive ListOf (shape : Value → Prop) : Value → Prop where
  | null : ListOf shape .null
  | list {items : List Value} (each : ∀ item ∈ items, shape item) : ListOf shape (.list items)

/-- A mapping whose entries have a shape. -/
inductive MapOf (shape : Entries → Prop) : Value → Prop where
  | map {entries : Entries} (inside : shape entries) : MapOf shape (.map entries)

/-- Null, a text or a list of anything. -/
inductive IsTexts : Value → Prop where
  | null : IsTexts .null
  | text (s : String) : IsTexts (.text s)
  | list (items : List Value) : IsTexts (.list items)

/-- A text that is not empty stands under the key. -/
def HasText (entries : Entries) (key : String) : Prop :=
  ∃ s, Value.get entries key = .text s ∧ s ≠ ""

/-- A value that counts as nothing, or one of the words in whatever case. -/
def IsWord (words : List String) (value : Value) : Prop :=
  value.truthy = false ∨ Text.lower value.display ∈ words

/-- Null, or the word for a category. -/
def IsCategory (value : Value) : Prop :=
  value = .null ∨ value.display ∈
    ["void", "boolean", "char", "native_int", "primitive", "enum", "value_type",
      "generic_parameter", "reference"]

/-- What stands for a type: nothing, a name, or a mapping with a name, a category and arguments
that stand for types again. -/
inductive IsReference : Value → Prop where
  | null : IsReference .null
  | text (s : String) : IsReference (.text s)
  | plain {entries : Entries} (name : HasText entries "name")
      (category : IsCategory (Value.get entries "category"))
      (arguments : Value.get entries "arguments" = .null) : IsReference (.map entries)
  | bound {entries : Entries} {items : List Value} (name : HasText entries "name")
      (category : IsCategory (Value.get entries "category"))
      (arguments : Value.get entries "arguments" = .list items)
      (each : ∀ item ∈ items, IsReference item) : IsReference (.map entries)

/-- A parameter: a direction, a name and a type. -/
@[mk_iff]
structure IsParameter (entries : Entries) : Prop where
  direction : IsWord ["in", "out", "inout", "ref"] (Value.get entries "direction")
  name : HasText entries "name"
  type : IsReference (Value.get entries "type")

/-- A field or an event: a name and a type. -/
@[mk_iff]
structure IsTypedName (entries : Entries) : Prop where
  name : HasText entries "name"
  type : IsReference (Value.get entries "type")

/-- A property: a field that may have index parameters. -/
@[mk_iff]
structure IsProperty (entries : Entries) : Prop extends IsTypedName entries where
  index : ListOf (MapOf IsParameter) (Value.get entries "index_parameters")

/-- The part a method plays: none stated, null, false, or the word for a role in whatever
case. -/
def IsAccessor (entries : Entries) : Prop :=
  ∀ value, Value.find? entries "accessor" = some value → value = .null ∨ value = .bool false ∨
    Text.lower value.display ∈ ["get", "set", "add", "remove"]

/-- A method. -/
@[mk_iff]
structure IsMethod (entries : Entries) : Prop where
  name : HasText entries "name"
  generics : IsTexts (Value.get entries "generic_parameters")
  accessor : IsAccessor entries
  returns : IsReference (Value.get entries "returns")
  parameters : ListOf (MapOf IsParameter) (Value.get entries "parameters")
  base : IsReference (Value.get entries "base_definition")

/-- A constructor. -/
@[mk_iff]
structure IsConstructor (entries : Entries) : Prop where
  parameters : ListOf (MapOf IsParameter) (Value.get entries "parameters")

/-- A type with its members. -/
@[mk_iff]
structure IsType (entries : Entries) : Prop where
  name : HasText entries "name"
  kind : IsWord ["class", "struct", "interface", "enum", "delegate"] (Value.get entries "kind")
  generics : IsTexts (Value.get entries "generic_parameters")
  privateFields : IsTexts (Value.get entries "private_fields")
  properties : ListOf (MapOf IsProperty) (Value.get entries "properties")
  events : ListOf (MapOf IsTypedName) (Value.get entries "events")
  methods : ListOf (MapOf IsMethod) (Value.get entries "methods")
  base : IsReference (Value.get entries "base")
  interfaces : ListOf IsReference (Value.get entries "interfaces")
  constructors : ListOf (MapOf IsConstructor) (Value.get entries "constructors")
  fields : ListOf (MapOf IsTypedName) (Value.get entries "fields")

/-- An argument of an attribute: any constant, or a mapping that may state the type of one. -/
def IsArgument (value : Value) : Prop :=
  ∀ entries, value = .map entries → IsReference (Value.get entries "type")

/-- Null, or a mapping from anything to arguments. -/
def IsNamedArguments (value : Value) : Prop :=
  value = .null ∨ MapOf (fun entries => ∀ entry ∈ entries, IsArgument entry.2) value

/-- An attribute of the library. -/
@[mk_iff]
structure IsAttribute (entries : Entries) : Prop where
  type : HasText entries "type"
  arguments : ListOf IsArgument (Value.get entries "arguments")
  named : IsNamedArguments (Value.get entries "named_arguments")

/-- The id of a type entry with a name. -/
def entryId : Value → String
  | .map entries => identify.derivedId entries (Value.get entries "name").display
  | _ => ""

/-- The id of the type that a type entry is nested in. -/
def entryOuter? : Value → Option String
  | .map entries => optionalText (Value.get entries "nested_in")
  | _ => none

/-- A document: types with distinct ids, each nested in none or in one of them, attributes and
the names of other libraries. -/
structure IsLibrary (document : Entries) : Prop where
  types : ListOf (MapOf IsType) (Value.get document "types")
  distinct : ((itemsOf (Value.get document "types")).map entryId).Nodup
  nested : ∀ item ∈ itemsOf (Value.get document "types"), ∀ outer, entryOuter? item = some outer →
    outer ∈ (itemsOf (Value.get document "types")).map entryId
  attributes : ListOf (MapOf IsAttribute) (Value.get document "attributes")
  references : IsTexts (Value.get document "references")

/-! ## Texts and words -/

theorem requiredText_ok_iff (entries : Entries) (key : String) :
    (∃ s, requiredText entries key = .ok s) ↔ HasText entries key := by
  rw [requiredText, HasText]
  cases Value.get entries key with
  | text s => by_cases h : s = "" <;> simp [h]
  | _ => simp

theorem texts_ok_iff (label : String) (value : Value) :
    (∃ found, texts label value = .ok found) ↔ IsTexts value := by
  constructor
  · rintro ⟨found, h⟩
    cases value with
    | null => exact .null
    | text s => exact .text s
    | list items => exact .list items
    | _ => cases h
  · rintro (_ | s | items)
    · exact ⟨_, rfl⟩
    · exact ⟨_, rfl⟩
    · exact ⟨_, rfl⟩

theorem list_ok_iff {label : String} {value : Value} {shape : Value → Prop} :
    (∃ items, list label value = .ok items ∧ ∀ item ∈ items, shape item) ↔ ListOf shape value := by
  constructor
  · rintro ⟨items, h, heach⟩
    cases value with
    | null => exact .null
    | list items =>
      cases h
      exact .list heach
    | _ => cases h
  · rintro (_ | heach)
    · exact ⟨[], rfl, by simp⟩
    · exact ⟨_, rfl, heach⟩

theorem mapping_ok_iff (label : String) {value : Value} {shape : Entries → Prop} :
    (∃ entries, mapping label value = .ok entries ∧ shape entries) ↔ MapOf shape value := by
  constructor
  · rintro ⟨entries, h, hinside⟩
    cases value with
    | map entries =>
      cases h
      exact .map hinside
    | _ => cases h
  · rintro ⟨hinside⟩
    exact ⟨_, rfl, hinside⟩

/-- A word that a table of words finds is one of its words. -/
theorem exists_find?_iff {α : Type} {all : List α} {word : α → String} {text : String} :
    (∃ a, all.find? (fun a => decide (word a = text)) = some a) ↔ text ∈ all.map word := by
  rw [← Option.isSome_iff_exists, List.find?_isSome, List.mem_map]
  simp

theorem exists_lookup_iff {α : Type} {table : List (String × α)} {text : String} :
    (∃ a, table.lookup text = some a) ↔ text ∈ table.map Prod.fst := by
  induction table with
  | nil => simp
  | cons entry rest ih =>
    obtain ⟨word, a⟩ := entry
    rw [List.lookup_cons, List.map_cons, List.mem_cons, ← ih]
    by_cases h : text = word
    · simp [h]
    · have hword : (text == word) = false := beq_false_of_ne h
      simp [hword, h]

theorem isWord_iff {words : List String} {value : Value} {other : String}
    (hother : Text.lower other ∈ words) :
    Text.lower (textOr value other) ∈ words ↔ IsWord words value := by
  rw [textOr, IsWord]
  by_cases h : value.truthy = true
  · simp [h]
  · simp [h, hother]

/-! ## References -/

theorem bound_ok_iff (scope : Scope) (entries : Entries) (args : List TypeRef) (text : String) :
    (∃ r, scope.bound entries args text = .ok r) ↔ IsCategory (Value.get entries "category") := by
  rw [IsCategory]
  simp only [Scope.bound]
  split
  · next hnull => exact iff_of_true ⟨_, rfl⟩ (.inl hnull)
  · next hstated =>
    have hwords : (∃ c, Category.ofWord? (Value.get entries "category").display = some c) ↔ _ :=
      exists_find?_iff
    refine Iff.trans ?_ (hwords.trans (or_iff_right hstated).symm)
    cases Category.ofWord? (Value.get entries "category").display <;> simp

theorem isReference_map_iff {entries : Entries} : IsReference (.map entries) ↔
    HasText entries "name" ∧ ListOf IsReference (Value.get entries "arguments") ∧
      IsCategory (Value.get entries "category") := by
  constructor
  · rintro (_ | _ | ⟨hname, hcategory, hargs⟩ | ⟨hname, hcategory, hargs, heach⟩)
    · exact ⟨hname, hargs ▸ .null, hcategory⟩
    · exact ⟨hname, hargs ▸ .list heach, hcategory⟩
  · rintro ⟨hname, hargs, hcategory⟩
    generalize hvalue : Value.get entries "arguments" = value at hargs
    cases hargs with
    | null => exact .plain hname hcategory hvalue
    | list heach => exact .bound hname hcategory hvalue heach

-- the four functions call each other over one value, and so do their lemmas
mutual

theorem reference_ok_iff (scope : Scope) : ∀ value : Value,
    (∃ r, reference scope value = .ok r) ↔ IsReference value
  | .null => iff_of_true ⟨_, by rw [reference]⟩ .null
  | .text s => iff_of_true ⟨_, by rw [reference]⟩ (.text s)
  | .map entries => by
    simp only [reference, exists_bind_eq_ok, bound_ok_iff, exists_and_right, requiredText_ok_iff,
      argumentsIn_ok_iff scope entries, isReference_map_iff]
  | .bool _ | .int _ | .float _ | .moment _ | .list _ => by
    refine iff_of_false ?_ (by rintro ⟨⟩)
    simp [reference]

theorem argumentsIn_ok_iff (scope : Scope) : ∀ entries : Entries,
    (∃ refs, argumentsIn scope entries = .ok refs) ↔
      ListOf IsReference (Value.get entries "arguments")
  | [] => iff_of_true ⟨_, by rw [argumentsIn]⟩ .null
  | (key, value) :: rest => by
    have hvalue := argumentList_ok_iff scope value
    have hrest := argumentsIn_ok_iff scope rest
    -- the first entry of the key counts, as it does for `Value.get`
    by_cases hkey : key = .text "arguments"
    · subst hkey
      rw [argumentsIn]
      exact hvalue
    · have hskip : Value.get ((key, value) :: rest) "arguments" = Value.get rest "arguments" := by
        rw [Value.get, Value.find?.eq_def, Value.get]
        cases key with
        | text k =>
          have hother : k ≠ "arguments" := fun h => hkey (h ▸ rfl)
          simp [hother]
        | _ => rfl
      rw [argumentsIn, hskip]
      · exact hrest
      · exact hkey

theorem argumentList_ok_iff (scope : Scope) : ∀ value : Value,
    (∃ refs, argumentList scope value = .ok refs) ↔ ListOf IsReference value
  | .null => iff_of_true ⟨_, by rw [argumentList]⟩ .null
  | .list items => by
    rw [argumentList, references_ok_iff scope items]
    exact ⟨.list, fun | .list heach => heach⟩
  | .text _ | .map _ | .bool _ | .int _ | .float _ | .moment _ => by
    refine iff_of_false ?_ (by rintro ⟨⟩)
    simp [argumentList]

theorem references_ok_iff (scope : Scope) : ∀ items : List Value,
    (∃ refs, references scope items = .ok refs) ↔ ∀ item ∈ items, IsReference item
  | [] => iff_of_true ⟨_, by rw [references]⟩ (by simp)
  | item :: rest => by
    simp only [references, exists_bind_eq_ok, exists_pure_eq_ok, and_true, exists_and_right,
      reference_ok_iff scope item, references_ok_iff scope rest, List.forall_mem_cons]

end

theorem optionalReference_ok_iff (scope : Scope) (value : Value) :
    (∃ r, optionalReference scope value = .ok r) ↔ IsReference value := by
  rw [← reference_ok_iff scope]
  cases value with
  | null => exact iff_of_true ⟨_, rfl⟩ ⟨_, by rw [reference]⟩
  | _ =>
    simp only [optionalReference]
    cases reference scope _ <;> simp [Except.map]

/-! ## Lists of entries

In a chain of steps a list is followed by what does not depend on its items, `rest` below. -/

section

variable {label : String} {value : Value} {rest : Prop}

theorem list_ok_and_iff {shape : Value → Prop} :
    (∃ items, list label value = .ok items ∧ (∀ item ∈ items, shape item) ∧ rest) ↔
      ListOf shape value ∧ rest := by
  simp only [← and_assoc, exists_and_right, list_ok_iff]

theorem mappings_ok_iff {shape : Entries → Prop} :
    (∃ found, mappings label value = .ok found ∧ ∀ entries ∈ found, shape entries) ↔
      ListOf (MapOf shape) value := by
  rw [← list_ok_iff]
  constructor
  · rintro ⟨found, h, heach⟩
    obtain ⟨items, hitems, hfound⟩ := bind_eq_ok_iff.mp h
    refine ⟨items, hitems, fun item hitem => ?_⟩
    obtain ⟨entries, hentries, hread⟩ :=
      exists_of_forall₂ (forall₂_of_mapM hfound).flip hitem
    exact (mapping_ok_iff label).mp ⟨entries, hread, heach entries hentries⟩
  · -- all items are mappings, and what `mapM` found for an item is that mapping
    rintro ⟨items, hitems, heach⟩
    have hread : ∀ item ∈ items, ∃ entries, mapping label item = .ok entries := by
      intro item hitem
      obtain ⟨entries, hentries, -⟩ := (mapping_ok_iff label).mpr (heach item hitem)
      exact ⟨entries, hentries⟩
    obtain ⟨found, hfound⟩ := exists_mapM_eq_ok.mpr hread
    refine ⟨found, bind_eq_ok_iff.mpr ⟨items, hitems, hfound⟩, fun entries hentries => ?_⟩
    obtain ⟨item, hitem, hmapping⟩ := exists_of_forall₂ (forall₂_of_mapM hfound) hentries
    obtain ⟨other, hother, hshape⟩ := (mapping_ok_iff label).mpr (heach item hitem)
    cases hmapping.symm.trans hother
    exact hshape

theorem mappings_ok_and_iff {shape : Entries → Prop} :
    (∃ found, mappings label value = .ok found ∧ (∀ entries ∈ found, shape entries) ∧ rest) ↔
      ListOf (MapOf shape) value ∧ rest := by
  simp only [← and_assoc, exists_and_right, mappings_ok_iff]

end

/-! ## Members -/

theorem parameter_ok_iff (scope : Scope) (entries : Entries) :
    (∃ p, parameter scope entries = .ok p) ↔ IsParameter entries := by
  have hdirection : (∃ direction, directionWords.lookup
      (Text.lower (textOr (Value.get entries "direction") "in")) = some direction) ↔
      IsWord ["in", "out", "inout", "ref"] (Value.get entries "direction") :=
    exists_lookup_iff.trans (isWord_iff (by decide))
  rw [isParameter_iff, ← hdirection, parameter]
  split
  · next hnone => simp [hnone]
  · next direction hsome =>
    simp only [hsome, exists_bind_eq_ok, exists_pure_eq_ok, and_true, exists_and_right,
      requiredText_ok_iff, reference_ok_iff]
    simp

theorem parameters_ok_iff (scope : Scope) (value : Value) :
    (∃ ps, parameters scope value = .ok ps) ↔ ListOf (MapOf IsParameter) value := by
  simp only [parameters, exists_bind_eq_ok, exists_mapM_eq_ok, parameter_ok_iff, mappings_ok_iff]

theorem constructor_ok_iff (scope : Scope) (entries : Entries) :
    (∃ ps, constructor scope entries = .ok ps) ↔ IsConstructor entries := by
  simp only [constructor, parameters_ok_iff, isConstructor_iff]

theorem field_ok_iff (scope : Scope) (entries : Entries) :
    (∃ f, field scope entries = .ok f) ↔ IsTypedName entries := by
  simp only [field, exists_bind_eq_ok, exists_pure_eq_ok, and_true, exists_and_right,
    requiredText_ok_iff, reference_ok_iff, isTypedName_iff]

theorem property_ok_iff (scope : Scope) (value : Value) :
    (∃ p, property scope value = .ok p) ↔ MapOf IsProperty value := by
  simp only [property, exists_bind_eq_ok, exists_pure_eq_ok, and_true, exists_and_right,
    requiredText_ok_iff, reference_ok_iff, parameters_ok_iff, ← mapping_ok_iff "property",
    isProperty_iff, isTypedName_iff, and_assoc]

theorem event_ok_iff (scope : Scope) (privateFields : List String) (value : Value) :
    (∃ ev, event scope privateFields value = .ok ev) ↔ MapOf IsTypedName value := by
  simp only [event, exists_bind_eq_ok, exists_pure_eq_ok, and_true, exists_and_right,
    requiredText_ok_iff, reference_ok_iff, ← mapping_ok_iff "event", isTypedName_iff]

theorem statedRole_ok_iff (value : Value) :
    (∃ role, statedRole value = .ok role) ↔ value = .null ∨ value = .bool false ∨
      Text.lower value.display ∈ ["get", "set", "add", "remove"] := by
  have hwords : (∃ role, AccessorRole.ofWord? (Text.lower value.display) = some role) ↔
      Text.lower value.display ∈ ["get", "set", "add", "remove"] := exists_find?_iff
  rw [← hwords]
  unfold statedRole
  split
  · simp
  · simp
  · next hnull hfalse =>
    rw [or_iff_right hnull, or_iff_right hfalse]
    cases AccessorRole.ofWord? (Text.lower value.display) <;> simp

theorem isAccessor_iff_of_some {entries : Entries} {stated : Value}
    (h : Value.find? entries "accessor" = some stated) :
    IsAccessor entries ↔ ∃ role, statedRole stated = .ok role := by
  rw [statedRole_ok_iff, IsAccessor]
  simp [h]

theorem isAccessor_of_none {entries : Entries} (h : Value.find? entries "accessor" = none) :
    IsAccessor entries := by
  rw [IsAccessor]
  simp [h]

theorem method_ok_iff (scope : Scope) (properties events : List String) (value : Value) :
    (∃ m, method scope properties events value = .ok m) ↔ MapOf IsMethod value := by
  rw [← mapping_ok_iff "method", method, exists_bind_eq_ok]
  refine exists_congr fun entries => and_congr_right fun _ => ?_
  rw [isMethod_iff]
  -- an absent entry and a null one differ here alone, so the chain is followed once for each
  cases haccessor : Value.find? entries "accessor" with
  | none =>
    simp only [exists_bind_eq_ok, exists_pure_eq_ok, and_true, exists_and_right,
      requiredText_ok_iff, texts_ok_iff, reference_ok_iff, parameters_ok_iff,
      optionalReference_ok_iff, isAccessor_of_none haccessor, true_and]
  | some stated =>
    simp only [exists_bind_eq_ok, exists_pure_eq_ok, and_true, exists_and_right,
      requiredText_ok_iff, texts_ok_iff, reference_ok_iff, parameters_ok_iff,
      optionalReference_ok_iff, isAccessor_iff_of_some haccessor]

/-! ## Types -/

theorem identify_ok_iff (value : Value) :
    (∃ found, identify value = .ok found) ↔ MapOf (fun entries => HasText entries "name" ∧
      IsWord ["class", "struct", "interface", "enum", "delegate"] (Value.get entries "kind"))
        value := by
  rw [← mapping_ok_iff "type", identify, exists_bind_eq_ok]
  refine exists_congr fun entries => and_congr_right fun _ => ?_
  have hkind : (∃ kind, Kind.ofWord? (Text.lower (textOr (Value.get entries "kind") "class"))
      = some kind) ↔ IsWord ["class", "struct", "interface", "enum", "delegate"]
        (Value.get entries "kind") := exists_find?_iff.trans (isWord_iff (by decide))
  rw [exists_bind_eq_ok, ← requiredText_ok_iff, ← hkind, ← exists_and_right]
  refine exists_congr fun name => and_congr_right fun _ => ?_
  cases hword : Kind.ofWord? (Text.lower (textOr (Value.get entries "kind") "class")) with
  | none => simp [hword]
  | some kind => simp only [hword, exists_pure_eq_ok, Option.some.injEq, exists_eq']

theorem type_ok_iff (kinds : Kinds) (value : Value) :
    (∃ d, type kinds value = .ok d) ↔ MapOf IsType value := by
  simp only [type, exists_bind_eq_ok, exists_mapM_eq_ok, exists_pure_eq_ok, and_true,
    exists_and_right, requiredText_ok_iff, texts_ok_iff, property_ok_iff, event_ok_iff,
    method_ok_iff, optionalReference_ok_iff, reference_ok_iff, constructor_ok_iff, field_ok_iff,
    list_ok_and_iff, mappings_ok_and_iff, mappings_ok_iff, identify_ok_iff, mapping_ok_iff]
  constructor
  · -- the entry is looked at twice, once to identify it
    rintro ⟨⟨hname, hkind⟩, ⟨-, hgenerics, hprivate, hrest⟩⟩
    obtain ⟨hproperties, hevents, hmethods, hbase, hinterfaces, hconstructors, hfields⟩ := hrest
    exact .map { name := hname, kind := hkind, generics := hgenerics, privateFields := hprivate
                 properties := hproperties, events := hevents, methods := hmethods, base := hbase
                 interfaces := hinterfaces, constructors := hconstructors, fields := hfields }
  · rintro ⟨h⟩
    exact ⟨.map ⟨h.name, h.kind⟩, .map ⟨h.name, h.generics, h.privateFields, h.properties, h.events,
      h.methods, h.base, h.interfaces, h.constructors, h.fields⟩⟩

/-! ## Ids and enclosing types

Which types stand together depends on what is read from their entries: the id and the id of the
type around. -/

theorem requiredText_eq_ok {entries : Entries} {key s : String}
    (h : requiredText entries key = .ok s) : Value.get entries key = .text s := by
  unfold requiredText at h
  split at h
  · next hget =>
    split at h
    · cases h
    · cases h
      exact hget
  · cases h

theorem id_of_identify {value : Value} {id : String} {kind : Kind}
    (h : identify value = .ok (id, kind)) : id = entryId value := by
  simp only [identify, bind_eq_ok_iff] at h
  obtain ⟨entries, hentries, name, hname, h⟩ := h
  split at h
  · cases h
  · cases h
    rw [mapping_eq_ok hentries, entryId, requiredText_eq_ok hname, Value.display]

theorem enclosing_of_type {kinds : Kinds} {value : Value} {d : TypeDecl}
    (h : type kinds value = .ok d) : d.enclosing = entryOuter? value := by
  obtain ⟨entries, rfl, hreads⟩ := readsType_of_type h
  rw [hreads.enclosing, entryOuter?]

theorem entryId_of_type {kinds : Kinds} {value : Value} {d : TypeDecl}
    (h : type kinds value = .ok d) : d.id = entryId value :=
  id_of_identify (identify_of_type h)

/-- Types are read onto others exactly when each is a type and no id comes twice. -/
theorem typesOnto_ok_iff {kinds : Kinds} {values : List Value} {done : List TypeDecl}
    (hdone : DistinctIds done) :
    (∃ types, typesOnto kinds done values = .ok types) ↔ (∀ value ∈ values, MapOf IsType value) ∧
      (done.map (·.id) ++ values.map entryId).Nodup := by
  induction values generalizing done with
  | nil =>
    rw [List.map_nil, List.append_nil]
    exact iff_of_true ⟨done, rfl⟩ ⟨by simp, hdone⟩
  | cons value rest ih =>
    rw [typesOnto, exists_bind_eq_ok, List.forall_mem_cons, ← type_ok_iff kinds, and_assoc,
      ← exists_and_right]
    refine exists_congr fun d => and_congr_right fun hd => ?_
    -- the type that was read takes the place of its entry among the ids
    have hsame : done.map (·.id) ++ (value :: rest).map entryId =
        (done ++ [d]).map (·.id) ++ rest.map entryId := by
      simp [entryId_of_type hd]
    rw [hsame]
    by_cases hknown : done.any (·.id == d.id) = true
    · rw [if_pos hknown]
      refine iff_of_false (by simp) ?_
      rintro ⟨-, hnodup⟩
      have hdistinct : DistinctIds (done ++ [d]) := (List.nodup_append'.mp hnodup).1
      exact (distinctIds_concat_iff hdone d).mp hdistinct hknown
    · rw [if_neg hknown]
      exact ih ((distinctIds_concat_iff hdone d).mpr hknown)

theorem strayNested?_eq_none_iff {types : List TypeDecl} : strayNested? types = none ↔
    ∀ d ∈ types, ∀ outer, d.enclosing = some outer → outer ∈ types.map (·.id) := by
  rw [strayNested?, List.findSome?_eq_none_iff]
  refine forall₂_congr fun d _ => ?_
  cases d.enclosing with
  | none => simp
  | some outer => simp

/-! ## Attributes -/

theorem argument_ok_iff (kinds : Kinds) (value : Value) :
    (∃ a, argument kinds value = .ok a) ↔ IsArgument value := by
  rw [IsArgument]
  cases value with
  | map entries =>
    simp only [argument, Value.map.injEq, forall_eq']
    cases Value.get entries "type" <;>
      simp only [exists_bind_eq_ok, exists_pure_eq_ok, and_true, reference_ok_iff]
    -- a constant without a type gets one
    exact iff_of_true (.text _) .null
  | _ =>
    simp only [argument, exists_bind_eq_ok, exists_pure_eq_ok, and_true, reference_ok_iff]
    exact iff_of_true (.text _) (by simp)

theorem namedArguments_ok_iff (label : String) {value : Value} :
    (∃ entries, optionalMapping label value = .ok entries ∧
      ∀ entry ∈ entries, IsArgument entry.2) ↔ IsNamedArguments value := by
  rw [IsNamedArguments]
  cases value with
  | null => simp [optionalMapping]
  | _ => simp [optionalMapping, mapping_ok_iff]

theorem libraryAttribute_ok_iff (kinds : Kinds) (value : Value) :
    (∃ a, libraryAttribute kinds value = .ok a) ↔ MapOf IsAttribute value := by
  rw [← mapping_ok_iff "attribute", libraryAttribute, exists_bind_eq_ok]
  refine exists_congr fun entries => and_congr_right fun _ => ?_
  simp only [namedArgument, exists_bind_eq_ok, exists_mapM_eq_ok, exists_pure_eq_ok, and_true,
    exists_and_right, requiredText_ok_iff, argument_ok_iff, list_ok_and_iff, isAttribute_iff,
    ← namedArguments_ok_iff "named_arguments"]
  -- named arguments are looked at first and read last
  constructor
  · rintro ⟨named, hnamed, htype, harguments, heach⟩
    exact ⟨htype, harguments, named, hnamed, heach⟩
  · rintro ⟨htype, harguments, named, hnamed, heach⟩
    exact ⟨named, hnamed, htype, harguments, heach⟩

/-! ## Documents -/

theorem types_ok_iff (kinds : Kinds) (document : Entries) :
    (∃ types, Document.types kinds document = .ok types) ↔
      ListOf (MapOf IsType) (Value.get document "types") ∧
        ((itemsOf (Value.get document "types")).map entryId).Nodup := by
  have hnone : DistinctIds [] := List.nodup_nil
  rw [Document.types, exists_bind_eq_ok, ← list_ok_iff, ← exists_and_right]
  refine exists_congr fun items => ?_
  rw [and_assoc]
  refine and_congr_right fun hitems => ?_
  rw [typesOnto_ok_iff hnone, itemsOf_of_list hitems, List.map_nil, List.nil_append]

/-- What is known of the results of a list one by one is known of its items. -/
theorem forall_mem_iff_of_forall₂ {α β : Type} {p : α → Prop} {q : β → Prop} {items : List α}
    {results : List β} (h : List.Forall₂ (fun a b => q b ↔ p a) items results) :
    (∀ b ∈ results, q b) ↔ ∀ a ∈ items, p a := by
  induction h with
  | nil => simp
  | cons hab _ ih => rw [List.forall_mem_cons, List.forall_mem_cons, hab, ih]

theorem ids_of_types {kinds : Kinds} {items : List Value} {types : List TypeDecl}
    (h : List.Forall₂ (fun value d => type kinds value = .ok d) items types) :
    types.map (·.id) = items.map entryId := by
  induction h with
  | nil => rfl
  | cons hd _ ih => rw [List.map_cons, List.map_cons, entryId_of_type hd, ih]

theorem strayNested?_eq_none_iff_of_types {kinds : Kinds} {document : Entries}
    {types : List TypeDecl} (h : Document.types kinds document = .ok types) :
    strayNested? types = none ↔
      ∀ item ∈ itemsOf (Value.get document "types"), ∀ outer, entryOuter? item = some outer →
        outer ∈ (itemsOf (Value.get document "types")).map entryId := by
  obtain ⟨items, hitems, -, hread⟩ := types_eq_ok h
  rw [strayNested?_eq_none_iff, itemsOf_of_list hitems, ids_of_types hread]
  refine forall_mem_iff_of_forall₂ (hread.imp fun value d hd => ?_)
  rw [enclosing_of_type hd]

/-- The parts of a document are read one after the other: the types, which have to stand
together, the attributes and the names of other libraries. -/
theorem library_ok_iff_parts (kinds : Kinds) (fallback : String) (document : Entries) :
    (∃ l, library kinds fallback document = .ok l) ↔
      ∃ types, Document.types kinds document = .ok types ∧ strayNested? types = none ∧
        ListOf (MapOf IsAttribute) (Value.get document "attributes") ∧
          IsTexts (Value.get document "references") := by
  rw [library, exists_bind_eq_ok]
  refine exists_congr fun types => and_congr_right fun _ => ?_
  cases strayNested? types with
  | some error => simp
  | none =>
    simp only [referenceNames, exists_bind_eq_ok, exists_mapM_eq_ok, exists_pure_eq_ok, and_true,
      exists_and_right, libraryAttribute_ok_iff, texts_ok_iff, list_ok_and_iff, true_and]

theorem library_ok_iff (kinds : Kinds) (fallback : String) (document : Entries) :
    (∃ l, library kinds fallback document = .ok l) ↔ IsLibrary document := by
  rw [library_ok_iff_parts]
  constructor
  · rintro ⟨types, htypes, hstray, hattributes, hreferences⟩
    obtain ⟨heach, hdistinct⟩ := (types_ok_iff kinds document).mp ⟨types, htypes⟩
    have hnested := (strayNested?_eq_none_iff_of_types htypes).mp hstray
    exact ⟨heach, hdistinct, hnested, hattributes, hreferences⟩
  · intro h
    obtain ⟨types, htypes⟩ := (types_ok_iff kinds document).mpr ⟨h.types, h.distinct⟩
    have hstray := (strayNested?_eq_none_iff_of_types htypes).mpr h.nested
    exact ⟨types, htypes, hstray, h.attributes, h.references⟩

/-- Reading accepts exactly the documents of the grammar and says what is wrong with all others,
whatever the kinds of other types. -/
theorem library_accepts_exactly_grammar (kinds : Kinds) (fallback : String) (document : Entries) :
    ((∃ l, library kinds fallback document = .ok l) ↔ IsLibrary document) ∧
      ((∃ error, library kinds fallback document = .error error) ↔ ¬ IsLibrary document) := by
  refine ⟨library_ok_iff kinds fallback document, ?_⟩
  rw [← library_ok_iff kinds fallback document]
  cases library kinds fallback document <;> simp

end Document

end ApiShell
