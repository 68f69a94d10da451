import ApiShell.Document.Loading
import ApiShell.Proofs.Enclosing

/-!
# Accepted documents

What is known once a document was read without complaint. Reading is a chain of steps each of
which may refuse, so an accepted document has passed them all; the lemmas here take the chain
apart once. Main statements: the types of an accepted document have distinct ids and the ids and
kinds that were announced for them, and every enclosing link of an accepted library leads to one
of its types.
-/

namespace ApiShell

/-! ## Steps that may refuse -/

theorem bind_eq_ok_iff {ε α β : Type} {step : Except ε α} {next : α → Except ε β} {b : β} :
    (step >>= next) = .ok b ↔ ∃ a, step = .ok a ∧ next a = .ok b := by
  cases step with
  | error e =>
    constructor
    · intro h
      cases h
    · rintro ⟨a, h, -⟩
      cases h
  | ok a =>
    constructor
    · intro h
      exact ⟨a, rfl, h⟩
    · rintro ⟨a', hstep, h⟩
      cases hstep
      exact h

theorem bind_eq_error_iff {ε α β : Type} {step : Except ε α} {next : α → Except ε β} {e : ε} :
    (step >>= next) = .error e ↔ step = .error e ∨ ∃ a, step = .ok a ∧ next a = .error e := by
  cases step with
  | error e' =>
    constructor
    · intro h
      cases h
      exact .inl rfl
    · rintro (h | ⟨a, h, -⟩)
      · cases h
        rfl
      · cases h
  | ok a =>
    constructor
    · intro h
      exact .inr ⟨a, rfl, h⟩
    · rintro (h | ⟨a', hstep, h⟩)
      · cases h
      · cases hstep
        exact h

theorem pure_eq_ok_iff {ε α : Type} {a b : α} : (pure a : Except ε α) = .ok b ↔ a = b :=
  ⟨fun h => Except.ok.inj h, fun h => congrArg Except.ok h⟩

/-- A step that is made for every item of a list gives the results one by one. -/
theorem forall₂_of_mapM {ε α β : Type} {step : α → Except ε β} {items : List α}
    {results : List β} (h : items.mapM step = .ok results) :
    List.Forall₂ (fun a b => step a = .ok b) items results := by
  induction items generalizing results with
  | nil =>
    rw [List.mapM_nil, pure_eq_ok_iff] at h
    subst h
    exact .nil
  | cons item rest ih =>
    simp only [List.mapM_cons, bind_eq_ok_iff, pure_eq_ok_iff] at h
    obtain ⟨result, hitem, more, hrest, rfl⟩ := h
    exact .cons hitem (ih hrest)

theorem exists_of_forall₂ {α β : Type} {related : α → β → Prop} {items : List α}
    {results : List β} (h : List.Forall₂ related items results) {b : β} (hb : b ∈ results) :
    ∃ a ∈ items, related a b := by
  induction h with
  | nil => cases hb
  | @cons a _ _ _ hab _ ih =>
    rcases List.mem_cons.mp hb with rfl | hb
    · exact ⟨a, by simp, hab⟩
    · obtain ⟨other, hother, hrelated⟩ := ih hb
      exact ⟨other, by simp [hother], hrelated⟩

/-- A refusal for a list comes from one of its items. -/
theorem exists_of_mapM_eq_error {ε α β : Type} {step : α → Except ε β} {items : List α} {e : ε}
    (h : items.mapM step = .error e) : ∃ item ∈ items, step item = .error e := by
  induction items with
  | nil => cases h
  | cons item rest ih =>
    rw [List.mapM_cons, bind_eq_error_iff] at h
    rcases h with h | ⟨result, -, h⟩
    · exact ⟨item, List.mem_cons_self, h⟩
    · rw [bind_eq_error_iff] at h
      rcases h with h | ⟨more, -, h⟩
      · obtain ⟨other, hother, hstep⟩ := ih h
        exact ⟨other, List.mem_cons_of_mem _ hother, hstep⟩
      · cases h

namespace Document

variable {kinds : Kinds}

/-! ## Types -/

/-- The items of a value that is a list. -/
def itemsOf : Value → List Value
  | .list items => items
  | _ => []

theorem itemsOf_of_list {label : String} {value : Value} {items : List Value}
    (h : list label value = .ok items) : itemsOf value = items := by
  cases value <;> cases h <;> rfl

theorem mapping_eq_ok {label : String} {value : Value} {entries : Entries}
    (h : mapping label value = .ok entries) : value = .map entries := by
  cases value <;> cases h
  rfl

/-- What is in scope inside a type. -/
def innerScope (kinds : Kinds) (d : TypeDecl) : Scope :=
  { kinds, parameters := d.genericParameters }

/-- Where each part of a type comes from that was read from an entry. -/
structure ReadsType (kinds : Kinds) (entries : Entries) (d : TypeDecl) : Prop where
  identified : identify (.map entries) = .ok (d.id, d.kind)
  name : requiredText entries "name" = .ok d.name
  generics : texts "generic_parameters" (Value.get entries "generic_parameters") =
    .ok d.genericParameters
  properties : (itemsOf (Value.get entries "properties")).mapM (property (innerScope kinds d)) =
    .ok d.properties
  events : ∃ privateFields,
    texts "private_fields" (Value.get entries "private_fields") = .ok privateFields ∧
      (itemsOf (Value.get entries "events")).mapM (event (innerScope kinds d) privateFields) =
        .ok d.events
  methods : (itemsOf (Value.get entries "methods")).mapM
    (method (innerScope kinds d) (d.properties.map (·.name)) (d.events.map (·.name))) =
      .ok d.methods
  base : optionalReference (innerScope kinds d) (Value.get entries "base") = .ok d.base
  interfaces : (itemsOf (Value.get entries "interfaces")).mapM (reference (innerScope kinds d)) =
    .ok d.interfaces
  constructors : ∃ found, mappings "constructors" (Value.get entries "constructors") = .ok found ∧
    found.mapM (constructor (innerScope kinds d)) = .ok d.constructors
  fields : ∃ found, mappings "fields" (Value.get entries "fields") = .ok found ∧
    found.mapM (field (innerScope kinds d)) = .ok d.fields
  space : d.space = optionalText (Value.get entries "namespace")
  enclosing : d.enclosing = optionalText (Value.get entries "nested_in")
  isPublic : d.isPublic = flag entries "public" true
  isAbstract : d.isAbstract = flag entries "abstract" false
  isSealed : d.isSealed = flag entries "sealed" false

/-- A type is read from a mapping, part by part. -/
theorem readsType_of_type {value : Value} {d : TypeDecl} (h : type kinds value = .ok d) :
    ∃ entries, value = .map entries ∧ ReadsType kinds entries d := by
  rw [type, bind_eq_ok_iff] at h
  obtain ⟨⟨id, kind⟩, hid, h⟩ := h
  simp only [bind_eq_ok_iff, pure_eq_ok_iff] at h
  obtain ⟨entries, hentries, name, hname, generics, hgenerics, privateFields, hprivate, h⟩ := h
  obtain ⟨propertyItems, hpropertyItems, properties, hproperties, h⟩ := h
  obtain ⟨eventItems, heventItems, events, hevents, h⟩ := h
  obtain ⟨methodItems, hmethodItems, methods, hmethods, base, hbase, h⟩ := h
  obtain ⟨interfaceItems, hinterfaceItems, interfaces, hinterfaces, h⟩ := h
  obtain ⟨constructorItems, hconstructorItems, constructors, hconstructors, h⟩ := h
  obtain ⟨fieldItems, hfieldItems, fields, hfields, rfl⟩ := h
  cases mapping_eq_ok hentries
  cases itemsOf_of_list hpropertyItems
  cases itemsOf_of_list heventItems
  cases itemsOf_of_list hmethodItems
  cases itemsOf_of_list hinterfaceItems
  exact ⟨entries, rfl, {
    identified := hid, name := hname, generics := hgenerics, properties := hproperties
    events := ⟨privateFields, hprivate, hevents⟩, methods := hmethods, base := hbase
    interfaces := hinterfaces, constructors := ⟨constructorItems, hconstructorItems, hconstructors⟩
    fields := ⟨fieldItems, hfieldItems, hfields⟩, space := rfl, enclosing := rfl
    isPublic := rfl, isAbstract := rfl, isSealed := rfl }⟩

/-- A type that was read has the id and the kind that its entry is identified by. -/
theorem identify_of_type {value : Value} {d : TypeDecl} (h : type kinds value = .ok d) :
    identify value = .ok (d.id, d.kind) := by
  obtain ⟨entries, rfl, hreads⟩ := readsType_of_type h
  exact hreads.identified

/-- The id of a type whose entry states none: the id of the type around it and its name, or its
namespace and its name. -/
def impliedId (d : TypeDecl) : String :=
  match d.enclosing, d.space with
  | some outer, _ => outer ++ "+" ++ d.name
  | none, some space => space ++ "." ++ d.name
  | none, none => d.name

/-- An implied id is longer than that of the type around it. -/
theorem enclosing_length_lt {d : TypeDecl} (implied : d.id = impliedId d) {outer : String}
    (hlink : d.enclosing = some outer) : outer.length < d.id.length := by
  have hid : d.id = outer ++ "+" ++ d.name := by rw [implied, impliedId, hlink]
  have hplus : "+".length = 1 := rfl
  rw [hid, String.length_append, String.length_append]
  omega

/-- A type is read from a mapping, and a type that states no id has the implied one. -/
theorem id_of_type {value : Value} {d : TypeDecl} (h : type kinds value = .ok d) :
    ∃ entries, value = .map entries ∧
      (optionalText (Value.get entries "id") = none → d.id = impliedId d) := by
  obtain ⟨entries, rfl, hreads⟩ := readsType_of_type h
  refine ⟨entries, rfl, fun hunstated => ?_⟩
  have hid := hreads.identified
  simp only [identify, mapping, bind_eq_ok_iff] at hid
  obtain ⟨_, hsame, _, hname, hid⟩ := hid
  cases hsame
  cases hreads.name.symm.trans hname
  split at hid
  · cases hid
  · simp only [pure_eq_ok_iff, Prod.mk.injEq] at hid
    rw [← hid.1, impliedId, hreads.enclosing, hreads.space]
    simp only [identify.derivedId, hunstated]
    cases optionalText (Value.get entries "nested_in") with
    | some outer => rfl
    | none => cases optionalText (Value.get entries "namespace") <;> rfl

theorem distinctIds_concat_iff {done : List TypeDecl} (hdone : DistinctIds done) (d : TypeDecl) :
    DistinctIds (done ++ [d]) ↔ ¬ done.any (·.id == d.id) = true := by
  simp only [DistinctIds, List.map_append, List.nodup_append', List.any_eq_true, beq_iff_eq,
    not_exists, not_and]
  constructor
  · rintro ⟨-, -, hapart⟩ e he hid
    exact hapart (List.mem_map_of_mem he) (by simp [hid])
  · intro hfresh
    refine ⟨hdone, List.nodup_singleton _, ?_⟩
    intro id hid hlast
    obtain ⟨e, he, rfl⟩ := List.mem_map.mp hid
    exact hfresh e he (by simpa using hlast)

/-- Types are read one by one onto those read before, and no id comes twice. -/
theorem typesOnto_eq_ok {values : List Value} {done types : List TypeDecl}
    (h : typesOnto kinds done values = .ok types) (hdone : DistinctIds done) :
    ∃ more, types = done ++ more ∧ DistinctIds types ∧
      List.Forall₂ (fun value d => type kinds value = .ok d) values more := by
  induction values generalizing done with
  | nil =>
    cases h
    exact ⟨[], by simp, hdone, .nil⟩
  | cons value rest ih =>
    rw [typesOnto, bind_eq_ok_iff] at h
    obtain ⟨d, hd, h⟩ := h
    split at h
    · cases h
    · next hfresh =>
      have hnew : DistinctIds (done ++ [d]) := (distinctIds_concat_iff hdone d).mpr hfresh
      obtain ⟨more, rfl, hdistinct, hmore⟩ := ih h hnew
      exact ⟨d :: more, by simp, hdistinct, .cons hd hmore⟩

theorem types_eq_ok {document : Entries} {types : List TypeDecl}
    (h : Document.types kinds document = .ok types) :
    ∃ values, list "types" (Value.get document "types") = .ok values ∧ DistinctIds types ∧
      List.Forall₂ (fun value d => type kinds value = .ok d) values types := by
  rw [Document.types, bind_eq_ok_iff] at h
  obtain ⟨values, hvalues, h⟩ := h
  obtain ⟨more, rfl, hdistinct, hmore⟩ := typesOnto_eq_ok h List.nodup_nil
  exact ⟨values, hvalues, hdistinct, hmore⟩

/-- The kinds that a document announces are those of the types read from it. -/
theorem declaredKinds_of_types {document : Entries} {types : List TypeDecl} {announced : Kinds}
    (h : Document.types kinds document = .ok types)
    (hannounced : declaredKinds document = .ok announced) :
    announced = types.map fun d => (d.id, d.kind) := by
  obtain ⟨values, hvalues, -, hread⟩ := types_eq_ok h
  rw [declaredKinds, bind_eq_ok_iff] at hannounced
  obtain ⟨values', hvalues', hannounced⟩ := hannounced
  rw [hvalues] at hvalues'
  cases hvalues'
  have hidentified := forall₂_of_mapM hannounced
  clear h hvalues hannounced
  induction hread generalizing announced with
  | nil =>
    cases hidentified
    rfl
  | cons hd _ ih =>
    cases hidentified with
    | cons hentry hrest =>
      rw [identify_of_type hd] at hentry
      cases hentry
      rw [ih hrest]
      rfl

/-! ## Libraries -/

theorem strayNested?_eq_none {types : List TypeDecl} (h : strayNested? types = none)
    {d : TypeDecl} (hd : d ∈ types) {outer : String} (hlink : d.enclosing = some outer) :
    ∃ p ∈ types, p.id = outer := by
  rw [strayNested?, List.findSome?_eq_none_iff] at h
  have hknown := h d hd
  rw [hlink, Option.bind_some] at hknown
  split at hknown
  · next hany => simpa using hany
  · cases hknown

theorem library_eq_ok {fallback : String} {document : Entries} {l : Library}
    (h : library kinds fallback document = .ok l) :
    Document.types kinds document = .ok l.types ∧ strayNested? l.types = none := by
  rw [library, bind_eq_ok_iff] at h
  obtain ⟨types, htypes, h⟩ := h
  cases hstray : strayNested? types with
  | some error => simp [hstray] at h
  | none =>
    simp only [hstray, bind_eq_ok_iff, pure_eq_ok_iff] at h
    obtain ⟨_, _, _, _, _, _, rfl⟩ := h
    exact ⟨htypes, hstray⟩

/-- A library and the types around it are read with one table of kinds, that of all documents. -/
theorem assemble_eq_ok {fallback : String} {primary : Entries} {secondary : List Entries}
    {loaded : Loaded} (h : assemble fallback primary secondary = .ok loaded) :
    ∃ tables external, (primary :: secondary).mapM declaredKinds = .ok tables ∧
      library tables.flatten fallback primary = .ok loaded.library ∧
      secondary.mapM (Document.types tables.flatten) = .ok external ∧
      loaded.external = external.flatten := by
  simp only [assemble, bind_eq_ok_iff, pure_eq_ok_iff] at h
  obtain ⟨tables, htables, l, hl, external, hexternal, rfl⟩ := h
  exact ⟨tables, external, htables, hl, hexternal, rfl⟩

theorem lifted_eq_ok {α : Type} {result : Except FormatError α} {a : α}
    (h : lifted result = .ok a) : result = .ok a := by
  cases result with
  | error e => cases h
  | ok b =>
    cases h
    rfl

end Document

open Log

/-- Loading reads the primary document, follows its references without a fault and assembles
what was read. -/
theorem load_eq_ok [Yaml.Reader] {files : View} {searchPaths : List Path} {path : Path}
    {loaded : Loaded} (h : load files searchPaths path = .ok loaded) :
    ∃ primary, Document.read (files.after [readingRecord path] []) path = .ok primary ∧
      (Document.closure (files.after [readingRecord path]) searchPaths path primary).error = none ∧
      Document.assemble path.stem primary
        (Document.closure (files.after [readingRecord path]) searchPaths path primary).documents
          = .ok loaded := by
  rw [load] at h
  split at h
  · cases h
  · cases h
  · rw [bind_eq_ok_iff] at h
    obtain ⟨primary, hread, h⟩ := h
    refine ⟨primary, hread, ?_⟩
    dsimp only at h
    split at h
    · cases h
    · next hnone => exact ⟨hnone, Document.lifted_eq_ok h⟩

/-! ## A document on its own -/

/-- The text of a file that was written as UTF-8. -/
theorem Document.textOf_toUTF8 (text : String) :
    Document.textOf text.toUTF8 = .ok (String.ofList (Text.plainNewlines text.toList)) := by
  have hdecoded : String.fromUTF8? text.toUTF8 = some text := dif_pos text.isValidUTF8
  rw [Document.textOf, hdecoded]

/-- A file that is no JSON file holds the document that its text writes in YAML. -/
theorem Document.read_of_yaml [Yaml.Reader] {t : FileTree} {path : Path} {text : String}
    {entries : Document.Entries} (hcontent : t.read? path = some text.toUTF8)
    (hsuffix : path.suffix ≠ Document.jsonSuffix)
    (hlines : String.ofList (Text.plainNewlines text.toList) = text)
    (hyaml : Yaml.Reader.value text = .ok (.map entries)) (hsome : entries ≠ []) :
    Document.read t path = .ok entries := by
  have htruthy : (Value.map entries).truthy = true := by
    cases entries with
    | nil => exact absurd rfl hsome
    | cons => rfl
  have hvalue : Document.yamlValue path.name text = .ok (.map entries) := by
    simp only [Document.yamlValue, hyaml, if_pos htruthy]
  simp only [Document.read, hcontent, Document.ofContent, Document.textOf_toUTF8, hlines,
    if_neg hsuffix, hvalue]
  rfl

/-- A JSON file holds the document that its text writes. -/
theorem Document.read_of_json [Yaml.Reader] {t : FileTree} {path : Path} {text : String}
    {entries : Document.Entries} (hcontent : t.read? path = some text.toUTF8)
    (hsuffix : path.suffix = Document.jsonSuffix)
    (hlines : String.ofList (Text.plainNewlines text.toList) = text)
    (hsome : Text.allBlank text = false) (hjson : Json.read text = .ok (.map entries)) :
    Document.read t path = .ok entries := by
  have hvalue : Document.jsonValue path.name text = .ok (.map entries) := by
    simp only [Document.jsonValue, hsome, Bool.false_eq_true, if_false, hjson]
  simp only [Document.read, hcontent, Document.ofContent, Document.textOf_toUTF8, hlines,
    if_pos hsuffix, hvalue]
  rfl

/-- A JSON file whose text is made of lines. The characters are taken line by line, because those
of a whole text are slow to compute. -/
theorem Document.read_of_json_lines [Yaml.Reader] {t : FileTree} {path : Path} (lines : List String)
    {entries : Document.Entries} (hcontent : t.read? path = some (String.join lines).toUTF8)
    (hsuffix : path.suffix = Document.jsonSuffix)
    (hlines : Text.plainNewlines (lines.flatMap String.toList) = lines.flatMap String.toList)
    (hsome : (lines.flatMap String.toList).all Text.isBlank = false)
    (hjson : Json.read (String.join lines) = .ok (.map entries)) :
    Document.read t path = .ok entries := by
  refine Document.read_of_json hcontent hsuffix ?_ ?_ hjson
  · rw [String.toList_join, hlines, ← String.toList_join, String.ofList_toList]
  · rw [Text.allBlank, String.toList_join, hsome]

/-- A document without references is loaded as it stands. -/
theorem load_of_single_document [Yaml.Reader] {t : FileTree} {path : Path}
    {primary : Document.Entries} {loaded : Loaded} (hfile : t.isFile path = .ok true)
    (hread : Document.read t path = .ok primary) (halone : Document.referenceNames primary = .ok [])
    (hwhole : Document.assemble path.stem primary [] = .ok loaded) (searchPaths : List Path) :
    load (.still t) searchPaths path = .ok loaded := by
  have hclosure : Document.closure (.still t) searchPaths path primary = {} := by
    rw [Document.closure, Document.outgoing, halone]
    exact Document.closeOver.eq_def ..
  have hstart : (View.still t) [] = t := rfl
  rw [load, hstart, hfile]
  dsimp only
  rw [View.after_still, hstart, hread, bind_eq_ok_iff]
  refine ⟨primary, rfl, ?_⟩
  rw [hclosure, hwhole]
  rfl

/-! ## Nesting in accepted libraries -/

/-- A library whose types have distinct ids and are nested in types of the library. -/
structure Library.WellNested (l : Library) : Prop where
  distinct : DistinctIds l.types
  known : ∀ d ∈ l.types, ∀ outer, d.enclosing = some outer → ∃ p ∈ l.types, p.id = outer

theorem wellNested_of_assemble {fallback : String} {primary : Document.Entries}
    {secondary : List Document.Entries} {loaded : Loaded}
    (h : Document.assemble fallback primary secondary = .ok loaded) :
    loaded.library.WellNested := by
  obtain ⟨tables, external, -, hlibrary, -, -⟩ := Document.assemble_eq_ok h
  obtain ⟨htypes, hstray⟩ := Document.library_eq_ok hlibrary
  obtain ⟨-, -, hdistinct, -⟩ := Document.types_eq_ok htypes
  exact ⟨hdistinct, fun d hd outer hlink => Document.strayNested?_eq_none hstray hd hlink⟩

/-- Every library that is accepted is well nested. -/
theorem wellNested_of_load [Yaml.Reader] {files : View} {searchPaths : List Path} {path : Path}
    {loaded : Loaded} (h : load files searchPaths path = .ok loaded) :
    loaded.library.WellNested := by
  obtain ⟨primary, -, -, hassemble⟩ := load_eq_ok h
  exact wellNested_of_assemble hassemble

end ApiShell
