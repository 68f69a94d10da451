import ApiShell.Declaration.Attributes
import ApiShell.Document.Library
import ApiShell.Proofs.MetadataName

/-!
# Excluded attributes

Which attributes the shell shows. The choice looks at metadata names, and what is shown are source
names, in which plus signs, arity markers and by-reference marks are gone. Main statement: the
lines name carried attributes only exactly when no name of a carried attribute turns into an
excluded one on the way, and a name without such marks never does. A library with a key file whose
name has a plus sign stands at the end.
-/

namespace ApiShell

namespace Attribute

/-- Where the name on an attribute line is over: its arguments or the closing bracket follow. -/
def endsName (c : Char) : Bool :=
  c == '(' || c == ']'

/-- The name on an attribute line, between the start of the line and what follows the name. -/
def nameOn? (line : String) : Option String :=
  (Text.afterStart? "[assembly: ".toList line.toList).map fun rest =>
    String.ofList (rest.takeWhile (!endsName ·))

/-- The name under which an attribute is shown. -/
def shownName (typeName : String) : String :=
  String.ofList
    (({ name := typeName } : TypeRef).identity.toList.takeWhile (!endsName ·))

/-- No character of the name is dropped or replaced in the source name, or could be taken for
the end of the name. -/
def IsPlainName (typeName : String) : Prop :=
  ∀ c ∈ typeName.toList, c ≠ '+' ∧ c ≠ '&' ∧ c ≠ Arity.mark ∧ endsName c = false

/-! ## Names on lines -/

theorem nameOn?_lineText (typeName : String) (arguments : List String) :
    nameOn? (lineText typeName arguments) = some (shownName typeName) := by
  obtain ⟨rest, hrest, hends⟩ : ∃ rest : List Char,
      (lineText typeName arguments).toList = "[assembly: ".toList ++
        (({ name := typeName } : TypeRef).identity.toList ++ rest) ∧
      ∀ c ∈ rest.head?, (!endsName c) = false := by
    rw [lineText]
    split
    · exact ⟨[']'], by simp [String.toList_append], by simp [endsName]⟩
    · exact ⟨'(' :: (", ".intercalate arguments).toList ++ [')', ']'],
        by simp [String.toList_append], by simp [endsName]⟩
  rw [nameOn?, Text.afterStart?_eq_some_iff.mpr hrest, Option.map_some, shownName,
    Text.takeWhile_append_of_head _ hends]

theorem shownName_description : shownName descriptionAttribute = descriptionAttribute := by
  decide +kernel

end Attribute

/-- The lines behind the first two name the carried attributes, and the description where there
is none among them. -/
theorem Library.names_on_attributeLines (l : Library) (g : Graph) (aliases : Bool)
    (copyright : String) :
    ((l.attributeLines g aliases copyright).drop 2).map Attribute.nameOn? =
      ((l.attributes.filter (isCarried ·.typeName)).map
        fun a => some (Attribute.shownName a.typeName)) ++
      if (l.attributes.filter (isCarried ·.typeName)).any (·.typeName == descriptionAttribute)
      then [] else [some descriptionAttribute] := by
  simp only [attributeLines, List.cons_append, List.nil_append, List.drop_succ_cons,
    List.drop_zero, List.map_append, List.map_map]
  congr 1
  · refine List.map_congr_left fun a _ => ?_
    exact Attribute.nameOn?_lineText a.typeName _
  · split
    · rfl
    · rw [List.map_singleton, Attribute.noticeLine, Attribute.nameOn?_lineText,
        Attribute.shownName_description]

namespace Attribute

/-! ## Plain names -/

theorem shownName_of_plain {typeName : String} (h : IsPlainName typeName)
    (hvoid : typeName ≠ TypeRef.voidName) : shownName typeName = typeName := by
  have hidentity : ({ name := typeName } : TypeRef).identity = TypeRef.bareName false typeName := by
    rw [TypeRef.identity, TypeRef.sourceName.eq_def]
    simp [hvoid]
  have hmark : Arity.mark ∉ typeName.toList := fun hc => (h _ hc).2.2.1 rfl
  have hplus : '+' ∉ typeName.toList := fun hc => (h _ hc).1 rfl
  have hamp : '&' ∉ typeName.toList := fun hc => (h _ hc).2.1 rfl
  have hbare : (TypeRef.bareName false typeName).toList = typeName.toList := by
    rw [TypeRef.bareName, if_neg Bool.false_ne_true, String.toList_ofList, TypeRef.dotted,
      MetadataName.stripFrom_of_not_mem hmark, Text.replaceChar_of_not_mem hplus,
      Text.dropEnds_of_not_mem hamp]
  have hwhole : typeName.toList.takeWhile (!endsName ·) = typeName.toList :=
    List.takeWhile_eq_self_iff.mpr fun c hc => by simp [(h c hc).2.2.2]
  rw [shownName, hidentity, hbare, hwhole, String.ofList_toList]

/-- A carried attribute with a plain name is shown under a name that is carried as well. -/
theorem isCarried_shownName_of_plain {typeName : String} (h : IsPlainName typeName)
    (hcarried : isCarried typeName = true) : isCarried (shownName typeName) = true := by
  by_cases hvoid : typeName = TypeRef.voidName
  · subst hvoid
    decide +kernel
  · rwa [shownName_of_plain h hvoid]

end Attribute

/-! ## What is shown -/

/-- Behind the first two lines no excluded attribute is named exactly when none of the carried
ones is shown under an excluded name; a carried one with a plain name is not. -/
theorem Library.shown_attributes_carried_iff (l : Library) (g : Graph) (aliases : Bool)
    (copyright : String) :
    ((∀ line ∈ (l.attributeLines g aliases copyright).drop 2,
        ∃ name, Attribute.nameOn? line = some name ∧ isCarried name = true) ↔
      ∀ a ∈ l.attributes, isCarried a.typeName = true →
        isCarried (Attribute.shownName a.typeName) = true) ∧
      ∀ a ∈ l.attributes, isCarried a.typeName = true → Attribute.IsPlainName a.typeName →
        isCarried (Attribute.shownName a.typeName) = true := by
  have hnames := l.names_on_attributeLines g aliases copyright
  refine ⟨⟨?_, ?_⟩, fun a _ hcarried hplain =>
    Attribute.isCarried_shownName_of_plain hplain hcarried⟩
  · intro h a ha hcarried
    have hmem : some (Attribute.shownName a.typeName) ∈
        ((l.attributeLines g aliases copyright).drop 2).map Attribute.nameOn? := by
      rw [hnames]
      exact List.mem_append_left _ (List.mem_map.mpr ⟨a, List.mem_filter.mpr ⟨ha, hcarried⟩, rfl⟩)
    obtain ⟨line, hline, hname⟩ := List.mem_map.mp hmem
    obtain ⟨name, hsame, hok⟩ := h line hline
    rw [hname] at hsame
    cases hsame
    exact hok
  · intro h line hline
    have hmem := List.mem_map_of_mem (f := Attribute.nameOn?) hline
    rw [hnames, List.mem_append] at hmem
    rcases hmem with hmem | hmem
    · obtain ⟨a, ha, hname⟩ := List.mem_map.mp hmem
      obtain ⟨ha, hcarried⟩ := List.mem_filter.mp ha
      exact ⟨_, hname.symm, h a ha hcarried⟩
    · split at hmem
      · cases hmem
      · exact ⟨_, List.mem_singleton.mp hmem, by decide +kernel⟩

/-! ## A key file -/

/-- A document with a key file whose name has a plus sign for the last dot. -/
def keyDocument : Document.Entries :=
  [(.text "attributes", .list
    [.map [(.text "type", .text "System.Reflection+AssemblyKeyFileAttribute"),
      (.text "arguments", .list [.text "key.snk"])]])]

def keyLibrary : Library where
  name := "Key"
  attributes :=
    [{ typeName := "System.Reflection+AssemblyKeyFileAttribute"
       arguments := [{ value := .text "key.snk", type := Attribute.stringRef }] }]

/-- The key file is shown under its excluded name. -/
theorem keyFile_shown :
    Document.library [] "Key" keyDocument = .ok keyLibrary ∧
      "[assembly: System.Reflection.AssemblyKeyFileAttribute(\"key.snk\")]" ∈
        (keyLibrary.attributeLines {} true "").drop 2 ∧
      Attribute.nameOn? "[assembly: System.Reflection.AssemblyKeyFileAttribute(\"key.snk\")]" =
        some "System.Reflection.AssemblyKeyFileAttribute" ∧
      isCarried "System.Reflection.AssemblyKeyFileAttribute" = false := by
  refine ⟨rfl, ?_, by decide +kernel, by decide +kernel⟩
  decide +kernel

end ApiShell
