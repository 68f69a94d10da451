import ApiShell.Declaration.Members
import ApiShell.Proofs.Acceptance
import ApiShell.Proofs.Text

/-!
# Accessors

A method that is named like an accessor of one of its type's own properties or events is not
declared as a method. Main statement: the property or event it is named after is declared in its
place, and the declaration of the property has the accessor exactly where the property's own flag
for reading or writing says so. The flags are read from the property alone, so a method can be
taken for an accessor that its property does not have; a gauge with two such properties stands at
the end.
-/

namespace ApiShell

/-! ## Roles by name -/

/-- The names of the members that methods of a role belong to. -/
def AccessorRole.owners (role : AccessorRole) (properties events : List String) : List String :=
  match role with
  | .get | .set => properties
  | .add | .remove => events

namespace Document

theorem start_eq_of_mem_accessorStarts : ∀ entry ∈ accessorStarts,
    entry.1 = entry.2.word ++ "_" := by
  decide

/-- A method with a role by its name is named after a member of the type. -/
theorem accessorRole?_eq_some {name : String} {properties events : List String}
    {role : AccessorRole} (h : accessorRole? name properties events = some role) :
    ∃ member ∈ role.owners properties events, name = role.word ++ "_" ++ member := by
  -- the first start that fits and names a member decides; that it is the first does not matter
  obtain ⟨⟨start, r⟩, hentry, hfound⟩ := List.exists_of_findSome?_eq_some h
  have hstart : start = r.word ++ "_" := start_eq_of_mem_accessorStarts _ hentry
  dsimp only at hfound
  cases hafter : Text.afterStart? start.toList name.toList with
  | none => simp [hafter] at hfound
  | some member =>
    rw [hafter] at hfound
    obtain ⟨howner, hrole⟩ := Option.ite_none_right_eq_some.mp hfound
    cases hrole
    refine ⟨String.ofList member, ?_, ?_⟩
    · cases role <;> simpa [AccessorRole.owners] using howner
    · rw [← hstart, ← String.toList_inj, Text.afterStart?_eq_some_iff.mp hafter]
      simp

/-! ## Methods of a type entry -/

/-- A method whose entry states no role has the one by its name. -/
theorem accessor_of_method {scope : Scope} {properties events : List String} {raw : Entries}
    {m : Method} (h : method scope properties events (.map raw) = .ok m)
    (hunstated : Value.find? raw "accessor" = none) :
    m.accessor = accessorRole? m.name properties events := by
  simp only [method, mapping, bind_eq_ok_iff, Except.ok.injEq] at h
  obtain ⟨_, rfl, h⟩ := h
  simp only [hunstated, bind_eq_ok_iff, pure_eq_ok_iff] at h
  obtain ⟨name, -, _, -, _, rfl, _, -, _, -, _, -, rfl⟩ := h
  rfl

end Document

/-! ## Declared members -/

/-- A step that declares what a header announces, alone on a line or with a body. -/
def Step.Declares (header : String) : Step → Prop
  | .line text => text = header ++ ";"
  | .block text _ => text = header
  | _ => False

/-- A step with a body in which a line starts with the word for a role. -/
def Step.HasAccessor (role : AccessorRole) : Step → Prop
  | .block _ body => ∃ text, Step.line text ∈ body ∧ Text.startsWith role.word text = true
  | _ => False

/-- Whether a property may be used through a role, by its own flags. -/
def Property.allows (p : Property) : AccessorRole → Bool
  | .get => p.canRead
  | .set => p.canWrite
  | .add | .remove => false

namespace Emitter

/-- The step in the place of a property among those of its type, which declares it. -/
structure DeclaresProperty (e : Emitter) (d : TypeDecl) (p : Property) (step : Step) : Prop where
  place : (p, step) ∈ d.properties.zip (e.properties d)
  header : step.Declares (e.propertyHeader p (d.kind = .interface))

/-- A property of some name is declared with the accessor for a role. -/
def ShowsAccessor (e : Emitter) (d : TypeDecl) (member : String) (role : AccessorRole) : Prop :=
  ∃ p step, e.DeclaresProperty d p step ∧ p.name = member ∧ step.HasAccessor role

/-- The header of an event. -/
def eventHeader (e : Emitter) (ev : Event) (inInterface : Bool) : String :=
  (if inInterface then "" else if ev.isStatic then "public static " else "public ") ++
    ("event " ++ ev.handler.sourceName e.aliases ++ " " ++ ev.name)

theorem propertySteps_declares (e : Emitter) (inInterface : Bool) (p : Property) :
    (e.propertySteps inInterface p).Declares (e.propertyHeader p inInterface) := by
  rw [propertySteps]
  split
  · rfl
  · rfl

theorem eventSteps_declares (e : Emitter) (inInterface : Bool) (ev : Event) :
    ∃ step ∈ e.eventSteps inInterface ev, step.Declares (e.eventHeader ev inInterface) := by
  rw [eventSteps, eventHeader]
  cases inInterface with
  | true => exact ⟨_, List.mem_cons_self, by simp [Step.Declares]⟩
  | false =>
    refine ⟨_, List.mem_cons_of_mem _ List.mem_cons_self, ?_⟩
    by_cases hexplicit : ev.isExplicit = true
    · rw [if_pos hexplicit]
      rfl
    · rw [if_neg hexplicit]
      rfl

/-- The line by which a property is read. -/
def readLine (e : Emitter) (p : Property) (inInterface : Bool) : String :=
  if inInterface then "get;"
  else "get \x7b " ++ returnStatement e.graph e.aliases p.type ++ " \x7d"

/-- The line by which a property is written. -/
def writeLine (inInterface : Bool) : String :=
  if inInterface then "set;" else "set \x7b \x7d"

theorem startsWith_readLine (e : Emitter) (p : Property) (inInterface : Bool)
    (role : AccessorRole) :
    Text.startsWith role.word (e.readLine p inInterface) = true ↔ role = .get := by
  cases inInterface with
  | true => cases role <;> simp [readLine] <;> decide
  | false =>
    cases role <;>
      simp [readLine, Text.startsWith, AccessorRole.word, String.toList_append, Text.afterStart?]

theorem startsWith_writeLine (inInterface : Bool) (role : AccessorRole) :
    Text.startsWith role.word (writeLine inInterface) = true ↔ role = .set := by
  cases inInterface <;> cases role <;> decide

theorem mem_propertyBody_iff (e : Emitter) (p : Property) (inInterface : Bool) (text : String) :
    Step.line text ∈ e.propertyBody p inInterface ↔
      (p.canRead = true ∧ text = e.readLine p inInterface) ∨
        (p.canWrite = true ∧ text = writeLine inInterface) := by
  rw [propertyBody, List.mem_append]
  show _ ∈ (if p.canRead then [Step.line (e.readLine p inInterface)] else []) ∨
    _ ∈ (if p.canWrite then [Step.line (writeLine inInterface)] else []) ↔ _
  cases p.canRead <;> cases p.canWrite <;> simp

theorem propertyBody_shows_iff (e : Emitter) (inInterface : Bool) (p : Property)
    (role : AccessorRole) :
    (∃ text, Step.line text ∈ e.propertyBody p inInterface ∧
      Text.startsWith role.word text = true) ↔ p.allows role = true := by
  simp only [mem_propertyBody_iff, or_and_right, exists_or, and_assoc, exists_and_left,
    exists_eq_left, startsWith_readLine, startsWith_writeLine]
  cases role <;> simp [Property.allows]

/-- A property is declared with the accessors it allows. -/
theorem propertySteps_hasAccessor_iff (e : Emitter) (inInterface : Bool) (p : Property)
    (role : AccessorRole) :
    (e.propertySteps inInterface p).HasAccessor role ↔ p.allows role = true := by
  rw [propertySteps]
  by_cases hbody : (p.canRead || p.canWrite) = true
  · rw [if_pos hbody]
    exact e.propertyBody_shows_iff inInterface p role
  · -- without a body there is no accessor, and neither flag is set
    rw [if_neg hbody]
    simp only [Bool.not_eq_true, Bool.or_eq_false_iff] at hbody
    cases role <;> simp [Step.HasAccessor, Property.allows, hbody]

theorem mem_zip_map {α β : Type} {f : α → β} {items : List α} {a : α} {b : β} :
    (a, b) ∈ items.zip (items.map f) ↔ a ∈ items ∧ b = f a := by
  rw [← List.map_prod_left_eq_zip]
  simp [eq_comm]

theorem declaresProperty_iff {e : Emitter} {d : TypeDecl} (hkind : d.kind.isComposite = true)
    {p : Property} {step : Step} : e.DeclaresProperty d p step ↔
      p ∈ d.properties ∧ step = e.propertySteps (d.kind = .interface) p := by
  have hplace : (p, step) ∈ d.properties.zip (e.properties d) ↔
      p ∈ d.properties ∧ step = e.propertySteps (d.kind = .interface) p := by
    rw [properties, if_pos hkind, mem_zip_map]
  constructor
  · intro h
    exact hplace.mp h.place
  · rintro ⟨hp, rfl⟩
    exact ⟨hplace.mpr ⟨hp, rfl⟩, e.propertySteps_declares _ p⟩

/-- Properties of a name show an accessor exactly when one of them allows it. -/
theorem showsAccessor_iff {e : Emitter} {d : TypeDecl} (hkind : d.kind.isComposite = true)
    {member : String} {role : AccessorRole} : e.ShowsAccessor d member role ↔
      ∃ p ∈ d.properties, p.name = member ∧ p.allows role = true := by
  simp only [ShowsAccessor, declaresProperty_iff hkind]
  constructor
  · rintro ⟨p, step, ⟨hp, rfl⟩, hname, haccessor⟩
    exact ⟨p, hp, hname, (e.propertySteps_hasAccessor_iff _ p role).mp haccessor⟩
  · rintro ⟨p, hp, hname, hallows⟩
    exact ⟨p, _, ⟨hp, rfl⟩, hname, (e.propertySteps_hasAccessor_iff _ p role).mpr hallows⟩

theorem exists_event_declared {e : Emitter} {d : TypeDecl} (hkind : d.kind.isComposite = true)
    {ev : Event} (hev : ev ∈ d.events) :
    ∃ step ∈ e.events d, step.Declares (e.eventHeader ev (d.kind = .interface)) := by
  obtain ⟨step, hstep, hdeclares⟩ := e.eventSteps_declares (d.kind = .interface) ev
  refine ⟨step, ?_, hdeclares⟩
  rw [events, if_pos hkind]
  exact List.mem_flatMap.mpr ⟨ev, hev, hstep⟩

/-! ## What stands in the place of an accessor -/

/-- A member that methods of a role are named after is declared. A property shows the accessor
exactly when one of that name allows it. -/
def DeclaresFor (e : Emitter) (d : TypeDecl) (member : String) : AccessorRole → Prop
  | .get => (∃ p step, e.DeclaresProperty d p step ∧ p.name = member) ∧
      (e.ShowsAccessor d member .get ↔ ∃ p ∈ d.properties, p.name = member ∧ p.canRead = true)
  | .set => (∃ p step, e.DeclaresProperty d p step ∧ p.name = member) ∧
      (e.ShowsAccessor d member .set ↔ ∃ p ∈ d.properties, p.name = member ∧ p.canWrite = true)
  | .add | .remove => ∃ ev ∈ d.events, ev.name = member ∧
      ∃ step ∈ e.events d, step.Declares (e.eventHeader ev (d.kind = .interface))

theorem declaresFor_of_owner (e : Emitter) {d : TypeDecl} (hkind : d.kind.isComposite = true)
    {role : AccessorRole} {member : String}
    (h : member ∈ role.owners (d.properties.map (·.name)) (d.events.map (·.name))) :
    e.DeclaresFor d member role := by
  have hproperty : member ∈ d.properties.map (·.name) →
      ∃ p step, e.DeclaresProperty d p step ∧ p.name = member := by
    intro hmember
    obtain ⟨p, hp, hname⟩ := List.mem_map.mp hmember
    exact ⟨p, _, (declaresProperty_iff hkind).mpr ⟨hp, rfl⟩, hname⟩
  have hevent : member ∈ d.events.map (·.name) → ∃ ev ∈ d.events, ev.name = member ∧
      ∃ step ∈ e.events d, step.Declares (e.eventHeader ev (d.kind = .interface)) := by
    intro hmember
    obtain ⟨ev, hev, hname⟩ := List.mem_map.mp hmember
    exact ⟨ev, hev, hname, exists_event_declared hkind hev⟩
  cases role with
  | get => exact ⟨hproperty h, showsAccessor_iff hkind⟩
  | set => exact ⟨hproperty h, showsAccessor_iff hkind⟩
  | add => exact hevent h
  | remove => exact hevent h

/-- A method of an accepted type that is left out for the role its name gives it is named after
a property or an event that is declared in its place. -/
theorem accessor_declared_with_owner (e : Emitter) {kinds : Document.Kinds}
    {entries raw : Document.Entries} {d : TypeDecl} {m : Method} {role : AccessorRole}
    (hread : Document.type kinds (.map entries) = .ok d) (hkind : d.kind.isComposite = true)
    (hm : (.map raw, m) ∈ (Document.itemsOf (Value.get entries "methods")).zip d.methods)
    (hunstated : Value.find? raw "accessor" = none) (hrole : m.accessor = some role) :
    ∃ member, m.name = role.word ++ "_" ++ member ∧ e.DeclaresFor d member role := by
  obtain ⟨_, hentries, hreads⟩ := Document.readsType_of_type hread
  cases hentries
  have hmethod := List.forall₂_zip (forall₂_of_mapM hreads.methods) hm
  rw [Document.accessor_of_method hmethod hunstated] at hrole
  obtain ⟨member, howner, hname⟩ := Document.accessorRole?_eq_some hrole
  exact ⟨member, hname, e.declaresFor_of_owner hkind howner⟩

end Emitter

/-! ## A gauge

Its level can only be read and its limit only be written, and it has methods for both. -/

def namedEntry (name : String) (more : Document.Entries) : Document.Entries :=
  (.text "name", .text name) :: more

def gaugeEntries : Document.Entries :=
  namedEntry "Gauge"
    [(.text "properties", .list
       [.map (namedEntry "Level" [(.text "type", .text "System.Int32")]),
        .map (namedEntry "Limit" [(.text "type", .text "System.Int32"),
          (.text "read", .bool false), (.text "write", .bool true)])]),
     (.text "methods", .list
       (["get_Level", "set_Level", "get_Limit", "set_Limit"].map fun name =>
         .map (namedEntry name [])))]

def gauge : TypeDecl where
  id := "Gauge"
  name := "Gauge"
  kind := .cls
  properties :=
    [{ name := "Level", type := { name := "System.Int32", category := .primitive } },
     { name := "Limit", type := { name := "System.Int32", category := .primitive }
       canRead := false, canWrite := true }]
  methods :=
    [{ name := "get_Level", accessor := some .get }, { name := "set_Level", accessor := some .set },
     { name := "get_Limit", accessor := some .get }, { name := "set_Limit", accessor := some .set }]

def gaugeEmitter : Emitter where
  graph := { emitted := [gauge], external := [] }

theorem gauge_accepted : Document.type [] (.map gaugeEntries) = .ok gauge := rfl

/-- The method that reads the level is left out, and the level is declared with its accessor. -/
theorem gauge_declares_level :
    (Value.map (namedEntry "get_Level" []), { name := "get_Level", accessor := some .get }) ∈
        (Document.itemsOf (Value.get gaugeEntries "methods")).zip gauge.methods ∧
      ∃ member, "get_Level" = AccessorRole.get.word ++ "_" ++ member ∧
        gaugeEmitter.DeclaresFor gauge member .get :=
  ⟨.head _, gaugeEmitter.accessor_declared_with_owner gauge_accepted rfl (.head _) rfl rfl⟩

/-- The methods that write the level and read the limit are left out as well, and neither
property has the accessor. -/
theorem gauge_lacks_two_accessors :
    Document.type [] (.map gaugeEntries) = .ok gauge ∧ gauge.kind.isComposite = true ∧
      (Value.map (namedEntry "set_Level" []), { name := "set_Level", accessor := some .set }) ∈
        (Document.itemsOf (Value.get gaugeEntries "methods")).zip gauge.methods ∧
      Value.find? (namedEntry "set_Level" []) "accessor" = none ∧
      ¬ gaugeEmitter.ShowsAccessor gauge "Level" .set ∧
      (Value.map (namedEntry "get_Limit" []), { name := "get_Limit", accessor := some .get }) ∈
        (Document.itemsOf (Value.get gaugeEntries "methods")).zip gauge.methods ∧
      Value.find? (namedEntry "get_Limit" []) "accessor" = none ∧
      ¬ gaugeEmitter.ShowsAccessor gauge "Limit" .get := by
  refine ⟨gauge_accepted, rfl, .tail _ (.head _), rfl, ?_, .tail _ (.tail _ (.head _)), rfl, ?_⟩
  · rw [Emitter.showsAccessor_iff rfl]
    simp [gauge, Property.allows]
  · rw [Emitter.showsAccessor_iff rfl]
    simp [gauge, Property.allows]

end ApiShell
