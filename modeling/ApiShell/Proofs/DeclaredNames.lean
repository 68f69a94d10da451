import ApiShell.Proofs.Accessors
import ApiShell.Proofs.StubBodies

/-!
# Declared names

By which names the members of a type are declared. A name that is a keyword has to be written with
an at sign, and each kind of member is written in a place of its own. Main statement: fields,
properties that are not indexed, methods and parameters are always declared by their escaped names,
but enum members, events and indexed properties by the names as they stand, so that these names,
and no others, can be keywords in the shell. A gate at the end has all three cases.
-/

namespace ApiShell

/-! ## Keywords -/

namespace Identifier

theorem at_keyword_not_mem (name : String) : "@" ++ name ∉ keywords := by
  intro hmem
  have hfirst : ∀ word ∈ keywords, word.toList.head? ≠ some '@' := by decide +kernel
  exact hfirst _ hmem (by simp)

/-- An escaped name is no keyword. -/
theorem escape_not_mem (name : String) : escape name ∉ keywords := by
  rw [escape]
  split
  · exact at_keyword_not_mem name
  · next h => simpa using h

theorem eq_escape_iff {name : String} : name = escape name ↔ name ∉ keywords := by
  constructor
  · intro h
    rw [h]
    exact escape_not_mem name
  · intro h
    rw [escape, if_neg (by simpa using h)]

end Identifier

/-! ## Places for names -/

/-- A text with a gap for a name, by what stands before the gap and behind it. -/
structure Gap where
  before : String
  after : String := ""

/-- The text with a name in the gap. -/
def Gap.fill (gap : Gap) (name : String) : String :=
  gap.before ++ name ++ gap.after

theorem Gap.fill_inj {gap : Gap} {name name' : String} :
    gap.fill name = gap.fill name' ↔ name = name' := by
  simp [fill]

theorem Step.Declares.header_unique {step : Step} {header header' : String}
    (h : step.Declares header) (h' : step.Declares header') : header = header' := by
  cases step with
  | line text => simpa [Declares] using h.symm.trans h'
  | block text body => exact h.symm.trans h'
  | openBlock | closeBlock => cases h

/-- The names that are listed line by line: all lines but the last end in a comma. -/
def listedNames : List Step → List String
  | [] => []
  | [.line text] => [text]
  | .line text :: rest => String.ofList text.toList.dropLast :: listedNames rest
  | _ :: rest => listedNames rest

theorem listedNames_enumLines (names : List String) :
    listedNames (Emitter.enumLines names) = names := by
  induction names with
  | nil => rfl
  | cons name rest ih =>
    cases rest with
    | nil => rfl
    | cons next more =>
      have hlines : ∃ step steps, Emitter.enumLines (next :: more) = step :: steps := by
        cases more <;> exact ⟨_, _, rfl⟩
      obtain ⟨step, steps, hlines⟩ := hlines
      have hcomma : String.ofList (name ++ ",").toList.dropLast = name := by
        simp [String.toList_append]
      rw [Emitter.enumLines, hlines, listedNames, hcomma, ← hlines, ih]
      all_goals simp

/-! ## Members with names -/

/-- Whether a property is declared by its name: an indexed one can also go without. -/
def Property.hasOwnName (p : Property) : Bool :=
  p.indexParameters.isEmpty || p.name != Emitter.indexerName

/-- Whether a method is declared by its name: operators and conversions have spellings. -/
def Method.hasOwnName (m : Method) : Bool :=
  (Emitter.operatorSymbols.lookup m.name).isNone && (Emitter.conversionWords.lookup m.name).isNone

/-- A member, or a parameter of one, that is declared by a name. -/
inductive NamedMember where
  | enumMember (name : String)
  | field (f : Field)
  | property (p : Property)
  | event (ev : Event)
  | method (m : Method)
  | parameter (p : Parameter)

namespace NamedMember

/-- The name of a member in its document. -/
def name : NamedMember → String
  | enumMember name => name
  | field f => f.name
  | property p => p.name
  | event ev => ev.name
  | method m => m.name
  | parameter p => p.name

/-- Whether the name is written as it stands. -/
def isBare : NamedMember → Bool
  | enumMember _ | event _ => true
  | property p => !p.indexParameters.isEmpty
  | field _ | method _ | parameter _ => false

/-- The name by which a member is declared. -/
def shownName (m : NamedMember) : String :=
  if m.isBare then m.name else Identifier.escape m.name

theorem shownName_eq_escape_iff (m : NamedMember) :
    m.shownName = Identifier.escape m.name ↔
      ¬ (m.isBare = true ∧ m.name ∈ Identifier.keywords) := by
  rw [shownName]
  by_cases hbare : m.isBare = true
  · simp [hbare, Identifier.eq_escape_iff]
  · simp [hbare]

theorem shownName_mem_keywords_iff (m : NamedMember) :
    m.shownName ∈ Identifier.keywords ↔ m.isBare = true ∧ m.name ∈ Identifier.keywords := by
  rw [shownName]
  by_cases hbare : m.isBare = true
  · simp [hbare]
  · simp [hbare, Identifier.escape_not_mem]

end NamedMember

namespace TypeDecl

/-- The methods that are declared as such. -/
def ownMethods (d : TypeDecl) : List Method :=
  d.methods.filter (·.accessor.isNone)

/-- The lists of parameters that the members of a type are declared with. -/
def parameterLists (d : TypeDecl) : List (List Parameter) :=
  d.ownConstructors ++
    if d.kind.isComposite then
      (d.properties.filter (!·.indexParameters.isEmpty)).map (·.indexParameters) ++
        d.ownMethods.map (·.parameters)
    else []

/-- The fields of a type, which in an enum are its members. -/
def namedFields (d : TypeDecl) : List NamedMember :=
  match d.kind with
  | .enum => d.memberNames.map .enumMember
  | .interface => []
  | _ => d.fields.map .field

/-- All members of a type that are declared by names, and their parameters. -/
def namedMembers (d : TypeDecl) : List NamedMember :=
  d.namedFields ++ d.parameterLists.flatten.map .parameter ++
    if d.kind.isComposite then
      (d.properties.filter (·.hasOwnName)).map .property ++ d.events.map .event ++
        (d.ownMethods.filter (·.hasOwnName)).map .method
    else []

end TypeDecl

namespace Emitter

/-! ## Where the names stand -/

/-- The declaration of a field around its name. -/
def fieldGap (e : Emitter) (f : Field) : Gap where
  before := "public" ++ (if f.isConst then " const" else if f.isStatic then " static" else "") ++
    (if f.isReadonly && !f.isConst then " readonly" else "") ++ " " ++
    f.type.sourceName e.aliases ++ " "
  after := (if f.isConst then " = " ++ literal e.graph e.aliases f.type f.value else "") ++ ";"

/-- The header of a property around its name. -/
def propertyGap (e : Emitter) (inInterface : Bool) (p : Property) : Gap where
  before := (if inInterface then "" else if p.isStatic then "public static " else "public ") ++
    p.type.sourceName e.aliases ++ " "
  after := if p.indexParameters.isEmpty then "" else "[" ++ e.parameterList p.indexParameters ++ "]"

/-- The header of an event around its name. -/
def eventGap (e : Emitter) (inInterface : Bool) (ev : Event) : Gap where
  before := (if inInterface then "" else if ev.isStatic then "public static " else "public ") ++
    "event " ++ ev.handler.sourceName e.aliases ++ " "

/-- The header of a method around its name. -/
def methodGap (e : Emitter) (d : TypeDecl) (m : Method) : Gap where
  before := (if d.kind = .interface then "" else e.methodModifiers d m) ++
    m.returns.sourceName e.aliases ++ " "
  after := (if m.genericParameters.isEmpty then ""
    else "<" ++ ",".intercalate m.genericParameters ++ ">") ++
    "(" ++ e.parameterList m.parameters ++ ")"

/-- A parameter around its name. -/
def parameterGap (e : Emitter) (p : Parameter) : Gap where
  before := directionWord p.direction ++ p.type.sourceName e.aliases ++ " "

/-- Whether a step is the line before an event, which declares nothing. -/
def isPragma : Step → Bool
  | .line text => text == eventPragma
  | _ => false

/-- A list of parameters stands in the header of one of the steps. -/
def ShowsList (e : Emitter) (steps : List Step) (ps : List Parameter) : Prop :=
  ∃ step ∈ steps, ∃ before after, step.Declares (before ++ e.parameterList ps ++ after)

/-- The declaration of a member, or of a parameter, has the name in the place for its name. -/
inductive Writes (e : Emitter) (d : TypeDecl) : NamedMember → String → Prop where
  | enumMember {listed name : String} (kind : d.kind = .enum)
      (place : (listed, name) ∈ d.memberNames.zip (listedNames (e.fields d))) :
      Writes e d (.enumMember listed) name
  | field {f : Field} {name : String} (kind : d.kind ≠ .enum)
      (place : (f, .line ((e.fieldGap f).fill name)) ∈ d.fields.zip (e.fields d)) :
      Writes e d (.field f) name
  | property {p : Property} {step : Step} {name : String} (named : p.hasOwnName = true)
      (place : (p, step) ∈ d.properties.zip (e.properties d))
      (header : step.Declares ((e.propertyGap (d.kind = .interface) p).fill name)) :
      Writes e d (.property p) name
  | event {ev : Event} {step : Step} {name : String}
      (place : (ev, step) ∈ d.events.zip ((e.events d).filter (!isPragma ·)))
      (header : step.Declares ((e.eventGap (d.kind = .interface) ev).fill name)) :
      Writes e d (.event ev) name
  | method {m : Method} {step : Step} {name : String} (named : m.hasOwnName = true)
      (place : (m, step) ∈ d.ownMethods.zip (e.methods d))
      (header : step.Declares ((e.methodGap d m).fill name)) :
      Writes e d (.method m) name
  | parameter {ps : List Parameter} {p : Parameter} {name : String}
      (listed : ps ∈ d.parameterLists) (mem : p ∈ ps) (shown : e.ShowsList (e.members d) ps)
      (text : e.parameterText p = (e.parameterGap p).fill name) :
      Writes e d (.parameter p) name

/-! ## The names in the places -/

variable {e : Emitter} {d : TypeDecl} {m : NamedMember} {name : String}

theorem mem_zip_self {α : Type} {items : List α} {a b : α} :
    (a, b) ∈ items.zip items ↔ a ∈ items ∧ b = a := by
  simpa using mem_zip_map (f := id)

theorem fields_of_enum (e : Emitter) (kind : d.kind = .enum) :
    listedNames (e.fields d) = d.memberNames := by
  simp only [fields, kind, listedNames_enumLines]

theorem fields_of_other (e : Emitter) (enum : d.kind ≠ .enum) (interface : d.kind ≠ .interface) :
    e.fields d = d.fields.map fun f => .line (e.fieldText f) := by
  unfold fields
  split
  · exact absurd ‹_› enum
  · exact absurd ‹_› interface
  · rfl

theorem fieldText_eq (e : Emitter) (f : Field) :
    e.fieldText f = (e.fieldGap f).fill (Identifier.escape f.name) := by
  -- the equation of the text would split on all modifiers, so the text is opened as it stands
  delta fieldText
  simp only [fieldGap, Gap.fill, String.append_assoc]

theorem propertyHeader_eq (e : Emitter) (inInterface : Bool) {p : Property}
    (named : p.hasOwnName = true) :
    e.propertyHeader p inInterface =
      (e.propertyGap inInterface p).fill (NamedMember.property p).shownName := by
  rw [Property.hasOwnName] at named
  by_cases hplain : p.indexParameters.isEmpty = true
  · simp [propertyHeader, propertyGap, Gap.fill, propertyDeclarator, NamedMember.shownName,
      NamedMember.isBare, NamedMember.name, hplain, String.append_assoc]
  · have hname : p.name ≠ indexerName := by simpa [hplain] using named
    simp [propertyHeader, propertyGap, Gap.fill, propertyDeclarator, NamedMember.shownName,
      NamedMember.isBare, NamedMember.name, hplain, hname, String.append_assoc]

/-- The step that declares an event. -/
def eventStep (e : Emitter) (inInterface : Bool) (ev : Event) : Step :=
  if inInterface || ev.isExplicit then .line (e.eventHeader ev inInterface ++ ";")
  else .block (e.eventHeader ev inInterface) [.line "add \x7b \x7d", .line "remove \x7b \x7d"]

theorem eventStep_declares (e : Emitter) (inInterface : Bool) (ev : Event) :
    (e.eventStep inInterface ev).Declares
      ((e.eventGap inInterface ev).fill (NamedMember.event ev).shownName) := by
  have hheader : e.eventHeader ev inInterface =
      (e.eventGap inInterface ev).fill (NamedMember.event ev).shownName := by
    simp [eventHeader, eventGap, Gap.fill, NamedMember.shownName, NamedMember.isBare,
      NamedMember.name, String.append_assoc]
  rw [eventStep, ← hheader]
  split
  all_goals rfl

theorem isPragma_eventStep (e : Emitter) (inInterface : Bool) (ev : Event) :
    isPragma (e.eventStep inInterface ev) = false := by
  -- a declaration on one line ends in a semicolon, and the pragma in a digit
  have hend : ∀ header : String, header ++ ";" ≠ eventPragma := by
    intro header h
    have hlast := congrArg (fun text => text.toList.getLast?) h
    simp [String.toList_append, eventPragma] at hlast
  rw [eventStep]
  split
  · simp [isPragma, hend]
  · rfl

theorem eventSteps_filter (e : Emitter) (inInterface : Bool) (ev : Event) :
    (e.eventSteps inInterface ev).filter (!isPragma ·) = [e.eventStep inInterface ev] := by
  have hkept := e.isPragma_eventStep inInterface ev
  cases inInterface with
  | true =>
    have hsteps : e.eventSteps true ev = [e.eventStep true ev] := by
      simp [eventSteps, eventStep, eventHeader]
    simp [hsteps, hkept]
  | false =>
    have hsteps : e.eventSteps false ev = [.line eventPragma, e.eventStep false ev] := by
      simp [eventSteps, eventStep, eventHeader]
    have hpragma : isPragma (.line eventPragma) = true := by
      simp [isPragma]
    simp [hsteps, hkept, hpragma]

theorem events_filter (e : Emitter) (composite : d.kind.isComposite = true) :
    (e.events d).filter (!isPragma ·) = d.events.map (e.eventStep (d.kind = .interface)) := by
  rw [events, if_pos composite, List.filter_flatMap]
  simp only [eventSteps_filter]
  exact List.map_eq_flatMap.symm

theorem methodHeader_eq (e : Emitter) (d : TypeDecl) {m : Method} (named : m.hasOwnName = true) :
    e.methodHeader d m = (e.methodGap d m).fill (Identifier.escape m.name) := by
  simp only [Method.hasOwnName, Bool.and_eq_true, Option.isNone_iff_eq_none] at named
  simp [methodHeader, methodGap, methodName, Gap.fill, named.1, named.2, String.append_assoc]

theorem methodSteps_declares (e : Emitter) (d : TypeDecl) (m : Method) :
    (e.methodSteps d m).Declares (e.methodHeader d m) := by
  rw [methodSteps]
  split
  all_goals rfl

theorem parameterText_eq (e : Emitter) (p : Parameter) :
    e.parameterText p = (e.parameterGap p).fill (Identifier.escape p.name) := by
  simp [parameterText, parameterGap, Gap.fill]

/-! ## Whole types -/

theorem mem_zip_properties_iff {p : Property} {step : Step} :
    (p, step) ∈ d.properties.zip (e.properties d) ↔ d.kind.isComposite = true ∧
      p ∈ d.properties ∧ step = e.propertySteps (d.kind = .interface) p := by
  by_cases composite : d.kind.isComposite = true
  · rw [properties, if_pos composite, mem_zip_map]
    simp [composite]
  · simp [properties, composite]

theorem mem_zip_events_iff {ev : Event} {step : Step} :
    (ev, step) ∈ d.events.zip ((e.events d).filter (!isPragma ·)) ↔ d.kind.isComposite = true ∧
      ev ∈ d.events ∧ step = e.eventStep (d.kind = .interface) ev := by
  by_cases composite : d.kind.isComposite = true
  · rw [events_filter e composite, mem_zip_map]
    simp [composite]
  · simp [events, composite]

theorem mem_zip_methods_iff {method : Method} {step : Step} :
    (method, step) ∈ d.ownMethods.zip (e.methods d) ↔ d.kind.isComposite = true ∧
      method ∈ d.ownMethods ∧ step = e.methodSteps d method := by
  by_cases composite : d.kind.isComposite = true
  · rw [methods, if_pos composite]
    simp only [composite, true_and]
    exact mem_zip_map
  · simp [methods, composite]

/-- Each place for a name has one name in it. -/
theorem Writes.name_eq (h : e.Writes d m name) : name = m.shownName := by
  -- the step in each place is known, and its text leaves room for one name only
  cases h with
  | enumMember kind place =>
    rw [fields_of_enum e kind, mem_zip_self] at place
    exact place.2
  | field kind place =>
    by_cases interface : d.kind = .interface
    · simp [fields, interface] at place
    · rw [fields_of_other e kind interface, mem_zip_map, fieldText_eq] at place
      exact Gap.fill_inj.mp (Step.line.inj place.2)
  | @property p _ _ named place header =>
    obtain ⟨-, -, rfl⟩ := mem_zip_properties_iff.mp place
    have hwritten := e.propertySteps_declares (d.kind = .interface) p
    rw [propertyHeader_eq e _ named] at hwritten
    exact Gap.fill_inj.mp (header.header_unique hwritten)
  | event place header =>
    obtain ⟨-, -, rfl⟩ := mem_zip_events_iff.mp place
    exact Gap.fill_inj.mp (header.header_unique (e.eventStep_declares _ _))
  | @method method _ _ named place header =>
    obtain ⟨-, -, rfl⟩ := mem_zip_methods_iff.mp place
    have hwritten := e.methodSteps_declares d method
    rw [methodHeader_eq e d named] at hwritten
    exact Gap.fill_inj.mp (header.header_unique hwritten)
  | parameter _ _ _ text =>
    rw [parameterText_eq] at text
    exact (Gap.fill_inj.mp text).symm

theorem constructors_showList (e : Emitter) {ps : List Parameter}
    (own : ps ∈ d.ownConstructors) : e.ShowsList (e.constructors d) ps := by
  have hstubs : List.Forall₂ (fun step ps => e.StubsConstructor ps step)
      (e.constructors d) d.ownConstructors := (e.constructors_stubs d).flip
  obtain ⟨_, hstep, before, after, body, rfl, -⟩ := exists_of_forall₂ hstubs own
  refine ⟨_, hstep, before ++ "(", ")" ++ after, ?_⟩
  simp [Step.Declares, String.append_assoc]

theorem properties_showList (e : Emitter) (composite : d.kind.isComposite = true)
    {p : Property} (mem : p ∈ d.properties) (indexed : p.indexParameters.isEmpty = false) :
    e.ShowsList (e.properties d) p.indexParameters := by
  have hheader : ∃ before, e.propertyHeader p (d.kind = .interface) =
      before ++ e.parameterList p.indexParameters ++ "]" := by
    rw [propertyHeader, propertyDeclarator, indexed]
    simp only [Bool.false_eq_true, if_false, ← String.append_assoc]
    exact ⟨_, rfl⟩
  obtain ⟨before, hheader⟩ := hheader
  have hdeclares := e.propertySteps_declares (d.kind = .interface) p
  rw [hheader] at hdeclares
  refine ⟨e.propertySteps (d.kind = .interface) p, ?_, before, "]", hdeclares⟩
  rw [properties, if_pos composite]
  exact List.mem_map_of_mem mem

theorem methods_showList (e : Emitter) (composite : d.kind.isComposite = true)
    {method : Method} (own : method ∈ d.ownMethods) :
    e.ShowsList (e.methods d) method.parameters := by
  obtain ⟨before, name, hheader⟩ := e.methodHeader_announces d method
  have hdeclares := e.methodSteps_declares d method
  rw [hheader] at hdeclares
  refine ⟨e.methodSteps d method, ?_, _, ")", hdeclares⟩
  rw [methods, if_pos composite]
  exact List.mem_map_of_mem own

/-- Each list of parameters stands in the header of a member. -/
theorem members_showList (e : Emitter) {ps : List Parameter} (listed : ps ∈ d.parameterLists) :
    e.ShowsList (e.members d) ps := by
  have hmore : ∀ {steps : List Step}, e.ShowsList steps ps →
      (∀ step ∈ steps, step ∈ e.members d) → e.ShowsList (e.members d) ps := by
    rintro steps ⟨step, hstep, hdeclares⟩ hsub
    exact ⟨step, hsub step hstep, hdeclares⟩
  rw [TypeDecl.parameterLists, List.mem_append] at listed
  rcases listed with hconstructor | hmember
  · refine hmore (e.constructors_showList hconstructor) fun step hstep => ?_
    simp [members, hstep]
  · by_cases composite : d.kind.isComposite = true
    · rw [if_pos composite, List.mem_append, List.mem_map, List.mem_map] at hmember
      rcases hmember with ⟨p, hp, rfl⟩ | ⟨method, hmethod, rfl⟩
      · obtain ⟨hmem, hindexed⟩ := List.mem_filter.mp hp
        have hshown := e.properties_showList composite hmem (by simpa using hindexed)
        refine hmore hshown fun step hstep => ?_
        simp [members, hstep]
      · refine hmore (e.methods_showList composite hmethod) fun step hstep => ?_
        simp [members, hstep]
    · simp [composite] at hmember

theorem writes_namedField (e : Emitter) (mem : m ∈ d.namedFields) :
    e.Writes d m m.shownName := by
  by_cases enum : d.kind = .enum
  · simp only [TypeDecl.namedFields, enum, List.mem_map] at mem
    obtain ⟨listed, hlisted, rfl⟩ := mem
    refine .enumMember enum ?_
    rw [fields_of_enum e enum, mem_zip_self]
    exact ⟨hlisted, rfl⟩
  · by_cases interface : d.kind = .interface
    · simp [TypeDecl.namedFields, interface] at mem
    · have hfields : d.namedFields = d.fields.map .field := by
        unfold TypeDecl.namedFields
        split
        · exact absurd ‹_› enum
        · exact absurd ‹_› interface
        · rfl
      rw [hfields, List.mem_map] at mem
      obtain ⟨f, hf, rfl⟩ := mem
      refine .field enum ?_
      rw [fields_of_other e enum interface, mem_zip_map]
      exact ⟨hf, congrArg Step.line (e.fieldText_eq f).symm⟩

/-- Each member is declared, by the name for it. -/
theorem writes_shownName (e : Emitter) (mem : m ∈ d.namedMembers) :
    e.Writes d m m.shownName := by
  simp only [TypeDecl.namedMembers, List.mem_append] at mem
  rcases mem with (hfield | hparameter) | hmember
  · exact e.writes_namedField hfield
  · obtain ⟨p, hp, rfl⟩ := List.mem_map.mp hparameter
    obtain ⟨ps, hlisted, hp⟩ := List.mem_flatten.mp hp
    exact .parameter hlisted hp (e.members_showList hlisted) (e.parameterText_eq p)
  · by_cases composite : d.kind.isComposite = true
    · simp only [if_pos composite, List.mem_append, List.mem_map, List.mem_filter] at hmember
      rcases hmember with (⟨p, ⟨hp, named⟩, rfl⟩ | ⟨ev, hev, rfl⟩) | ⟨method, ⟨hown, named⟩, rfl⟩
      · refine .property named (mem_zip_properties_iff.mpr ⟨composite, hp, rfl⟩) ?_
        rw [← propertyHeader_eq e _ named]
        exact e.propertySteps_declares _ p
      · exact .event (mem_zip_events_iff.mpr ⟨composite, hev, rfl⟩) (e.eventStep_declares _ ev)
      · refine .method named (mem_zip_methods_iff.mpr ⟨composite, hown, rfl⟩) ?_
        have hdeclares := e.methodSteps_declares d method
        rwa [methodHeader_eq e d named] at hdeclares
    · simp [composite] at hmember

/-- Every member that is declared by a name has its place, and the name there is the escaped one
unless an enum member, an event or an indexed property is called by a keyword. These, and no
others, are declared by keywords. -/
theorem declared_by_escaped_name_iff (e : Emitter) (d : TypeDecl) :
    (∀ m ∈ d.namedMembers, ∃ name, e.Writes d m name) ∧
      ∀ m name, e.Writes d m name →
        (name = Identifier.escape m.name ↔
          ¬ (m.isBare = true ∧ m.name ∈ Identifier.keywords)) ∧
        (name ∈ Identifier.keywords ↔ m.isBare = true ∧ m.name ∈ Identifier.keywords) := by
  constructor
  · intro m hm
    exact ⟨m.shownName, e.writes_shownName hm⟩
  · intro m name hwrites
    rw [hwrites.name_eq]
    exact ⟨m.shownName_eq_escape_iff, m.shownName_mem_keywords_iff⟩

end Emitter

/-! ## A gate

The names of its members are keywords, and so is that of a right of access. -/

def switchMethod : Method where
  name := "switch"
  parameters := [{ name := "in", type := intRefOf false }]

def lockEvent : Event where
  name := "lock"
  handler := { name := "System.Action" }

def paramsProperty : Property where
  name := "params"
  type := intRefOf false
  indexParameters := [{ name := "index", type := intRefOf false }]

def gate : TypeDecl where
  id := "Gate"
  name := "Gate"
  kind := .cls
  properties := [paramsProperty]
  events := [lockEvent]
  methods := [switchMethod]

def access : TypeDecl where
  id := "Access"
  name := "Access"
  kind := .enum
  fields := ["public", "Other"].map fun name => { name, type := { name := "Access" } }

def gateEmitter : Emitter where
  graph := { emitted := [gate, access] }

theorem gate_switch_escaped :
    (∃ name, gateEmitter.Writes gate (.method switchMethod) name) ∧
      ∀ name, gateEmitter.Writes gate (.method switchMethod) name →
        name = "@switch" ∧ name ∉ Identifier.keywords := by
  obtain ⟨hplaces, hnames⟩ := gateEmitter.declared_by_escaped_name_iff gate
  have hescape : Identifier.escape "switch" = "@switch" := by decide +kernel
  refine ⟨hplaces _ ?_, fun name hwrites => ?_⟩
  · exact List.mem_append_right _ (List.mem_of_mem_getLast? rfl)
  · obtain ⟨hescaped, hkeyword⟩ := hnames _ _ hwrites
    refine ⟨?_, ?_⟩
    · rw [← hescape]
      exact hescaped.mpr (by simp [NamedMember.isBare])
    · rw [hkeyword]
      simp [NamedMember.isBare]

/-- The event, the indexed property and the enum member are declared by keywords. -/
theorem gate_members_are_keywords :
    gateEmitter.events gate =
        [.line Emitter.eventPragma,
         .block "public event System.Action lock"
           [.line "add \x7b \x7d", .line "remove \x7b \x7d"]] ∧
      gateEmitter.properties gate =
        [.block "public int params[int index]" [.line "get \x7b return 0; \x7d"]] ∧
      gateEmitter.fields access = [.line "public,", .line "Other"] ∧
      gateEmitter.Writes gate (.event lockEvent) "lock" ∧
      gateEmitter.Writes gate (.property paramsProperty) "params" ∧
      gateEmitter.Writes access (.enumMember "public") "public" ∧
      ∀ name ∈ ["lock", "params", "public"],
        name ≠ Identifier.escape name ∧ name ∈ Identifier.keywords := by
  refine ⟨rfl, rfl, rfl, ?_, ?_, ?_, by decide +kernel⟩
  · exact .event (.head _) rfl
  · exact .property rfl (.head _) rfl
  · exact .enumMember rfl (.head _)

end ApiShell
