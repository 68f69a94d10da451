import ApiShell.Proofs.DeclaredNames
import ApiShell.Proofs.Overrides
import Mathlib

/-!
# Enum constants

The body of an enum lists its members without their numbers, so a member counts for its place in
the list. An expression for a number names the member at that place, or else it is the default of
the type or a conversion of the number. Main statement: read in this way, the expression for a
number stands for that number and for no other, and the default value stands for zero. The places
are those of the printed list, from which the backing field is left out wherever it is declared.
-/

namespace ApiShell

/-! ## What an expression stands for -/

/-- The text is an expression for the number as a value of a type, by the source name of the type
and the members that are listed for it: a member stands for its place in the list, the default
for zero, and a conversion for the number that is converted. -/
inductive StandsFor (type : String) (members : List String) : String → Int → Prop where
  | member {place : Nat} {name : String} (listed : members[place]? = some name) :
      StandsFor type members (type ++ "." ++ name) place
  | zero : StandsFor type members ("default(" ++ type ++ ")") 0
  | conversion (n : Int) : StandsFor type members ("(" ++ type ++ ")" ++ toString n) n

/-- A text that is continued by a sign, and also shifted behind some start, has the sign in that
start: the text repeats the start over and over. -/
theorem mem_of_shifted {c : Char} {start : List Char} (hstart : start ≠ [])
    (text rest more : List Char) (h : text ++ c :: rest = start ++ (text ++ more)) :
    c ∈ start := by
  induction hlength : text.length using Nat.strong_induction_on generalizing text with
  | _ n ih =>
    rcases List.append_eq_append_iff.mp h with ⟨tail, rfl, htail⟩ | ⟨tail, rfl, htail⟩
    · -- the start is at least as long as the text
      cases tail with
      | nil =>
        cases text with
        | nil => exact absurd rfl hstart
        | cons first _ =>
          obtain ⟨rfl, -⟩ := List.cons_eq_cons.mp htail
          simp
      | cons first _ =>
        obtain ⟨rfl, -⟩ := List.cons_eq_cons.mp htail
        simp
    · have hshorter : tail.length < n := by
        have := List.length_pos_iff.mpr hstart
        rw [← hlength, List.length_append]
        omega
      refine ih tail.length hshorter tail ?_ rfl
      rw [← htail, List.append_assoc]

theorem member_ne_shifted (start : String) (hstart : start ≠ "") (hdot : '.' ∉ start.toList)
    (type name more : String) : type ++ "." ++ name ≠ start ++ (type ++ more) := by
  intro h
  refine hdot (mem_of_shifted (by simpa using hstart) type.toList name.toList more.toList ?_)
  simpa using congrArg String.toList h

theorem member_ne_default (type name : String) :
    type ++ "." ++ name ≠ "default(" ++ type ++ ")" := by
  have h := member_ne_shifted "default(" (by simp) (by decide) type name ")"
  simpa only [String.append_assoc] using h

theorem member_ne_conversion (type name numeral : String) :
    type ++ "." ++ name ≠ "(" ++ type ++ ")" ++ numeral := by
  have h := member_ne_shifted "(" (by simp) (by decide) type name (")" ++ numeral)
  simpa only [String.append_assoc] using h

theorem default_ne_conversion (type numeral : String) :
    "default(" ++ type ++ ")" ≠ "(" ++ type ++ ")" ++ numeral := by
  intro h
  have hfirst := congrArg (fun text => text.toList.head?) h
  simp at hfirst

namespace StandsFor

variable {type text name : String} {members : List String} {v w : Int}

theorem of_member (h : StandsFor type members (type ++ "." ++ name) w) :
    ∃ place : Nat, members[place]? = some name ∧ w = place := by
  generalize htext : type ++ "." ++ name = text at h
  cases h with
  | @member place name' listed =>
    have hname : name = name' := by simpa [String.append_assoc] using htext
    exact ⟨place, hname ▸ listed, rfl⟩
  | zero => exact absurd htext (member_ne_default type name)
  | conversion => exact absurd htext (member_ne_conversion type name _)

theorem of_default (h : StandsFor type members ("default(" ++ type ++ ")") w) : w = 0 := by
  generalize htext : "default(" ++ type ++ ")" = text at h
  cases h with
  | member => exact absurd htext.symm (member_ne_default type _)
  | zero => rfl
  | conversion => exact absurd htext (default_ne_conversion type _)

theorem of_conversion (h : StandsFor type members ("(" ++ type ++ ")" ++ toString v) w) :
    w = v := by
  generalize htext : "(" ++ type ++ ")" ++ toString v = text at h
  cases h with
  | member => exact absurd htext.symm (member_ne_conversion type _ _)
  | zero => exact absurd htext.symm (default_ne_conversion type _)
  | conversion =>
    have hnumeral : toString v = toString w := by simpa [String.append_assoc] using htext
    exact (Int.repr_injective hnumeral).symm

/-- An expression stands for one number where no member is listed twice. -/
theorem unique (distinct : members.Nodup) (hv : StandsFor type members text v)
    (hw : StandsFor type members text w) : w = v := by
  cases hv with
  | @member place name listed =>
    obtain ⟨place', listed', rfl⟩ := of_member hw
    obtain ⟨hbound, -⟩ := List.getElem?_eq_some_iff.mp listed'
    exact congrArg Nat.cast ((List.getElem?_inj hbound distinct).mp (listed'.trans listed.symm))
  | zero => exact of_default hw
  | conversion => exact of_conversion hw

end StandsFor

/-! ## The printed list -/

/-- The members that the shell lists for the type of a reference, where the graph knows it. -/
def Emitter.listedMembers (e : Emitter) (g : Graph) (ref : TypeRef) : List String :=
  match g.resolve? ref with
  | some d => listedNames (e.fields d)
  | none => []

variable {g : Graph} {ref : TypeRef}

/-- The printed list has the members that the graph counts. -/
theorem Emitter.listedMembers_eq (e : Emitter)
    (henum : ∀ d, g.resolve? ref = some d → d.kind = .enum) :
    e.listedMembers g ref = g.enumMembers ref := by
  rw [listedMembers, Graph.enumMembers]
  cases hfound : g.resolve? ref with
  | none => rfl
  | some d =>
    have hkind := henum d hfound
    simp [fields_of_enum e hkind, hkind]

theorem enumMembers_nodup
    (hdistinct : ∀ d, g.resolve? ref = some d → d.memberNames.Nodup) :
    (g.enumMembers ref).Nodup := by
  rw [Graph.enumMembers]
  split
  · next d hfound =>
    split
    · exact hdistinct d hfound
    · exact List.nodup_nil
  · exact List.nodup_nil

/-! ## Expressions for numbers -/

/-- The expression for a number names the member in that place, or else stands for the number in
one of the other two ways. -/
theorem enumMember_standsFor (g : Graph) (aliases : Bool) (ref : TypeRef) (v : Int) :
    StandsFor (ref.sourceName aliases) (g.enumMembers ref) (enumMember g aliases ref v) v := by
  have hother : StandsFor (ref.sourceName aliases) (g.enumMembers ref)
      (if v = 0 then "default(" ++ ref.sourceName aliases ++ ")"
        else "(" ++ ref.sourceName aliases ++ ")" ++ toString v) v := by
    by_cases hzero : v = 0
    · rw [if_pos hzero, hzero]
      exact .zero
    · rw [if_neg hzero]
      exact .conversion v
  rw [enumMember]
  by_cases hnegative : v < 0
  · simp only [if_pos hnegative]
    exact hother
  · simp only [if_neg hnegative]
    cases hplace : (g.enumMembers ref)[v.toNat]? with
    | none => exact hother
    | some name =>
      have hmember : StandsFor (ref.sourceName aliases) (g.enumMembers ref)
          (ref.sourceName aliases ++ "." ++ name) v.toNat := .member hplace
      rwa [Int.toNat_of_nonneg (Int.not_lt.mp hnegative)] at hmember

/-- Passing by reference does not change what an enum value is called. -/
theorem enumMember_element (g : Graph) (aliases : Bool) {ref : TypeRef}
    (hunmarked : Text.endsWith '&' ref.name = false) (v : Int) :
    enumMember g aliases ref.element v = enumMember g aliases ref v := by
  have hname : TypeRef.elementName ref.name = ref.name :=
    TypeRef.elementName_of_unmarked (by simp [hunmarked])
  have helement : ref.element = { ref with byRef := false } := by
    rw [TypeRef.element]
    split
    · rw [hname]
    · next h =>
      obtain ⟨name, args, nullable, category, byRef⟩ := ref
      cases byRef with
      | true => simp at h
      | false => rfl
  have hresolve : g.resolve? ref.element = g.resolve? ref := by
    rw [Graph.resolve?, Graph.resolve?, TypeRef.element_name_eq, TypeRef.element_name_eq,
      TypeRef.elementName_elementName]
  have hsource : ref.element.sourceName aliases = ref.sourceName aliases := by
    rw [helement]
    obtain ⟨name, args, nullable, category, byRef⟩ := ref
    cases args <;> rfl
  rw [enumMember, enumMember, Graph.enumMembers, Graph.enumMembers, hresolve, hsource]

/-- For every reference to an enum with distinct members, or to an enum that the graph does not
know, the expression for a number stands for that number alone, also as a constant, and the
default value stands for zero. -/
theorem enum_constants_keep_numbers (e : Emitter) (g : Graph) (aliases : Bool) (ref : TypeRef)
    (hcategory : ref.category = .enum) (hvalued : ref.isVoid = false)
    (hunmarked : Text.endsWith '&' ref.name = false)
    (henum : ∀ d, g.resolve? ref = some d → d.kind = .enum ∧ d.memberNames.Nodup) :
    (∀ v w, StandsFor (ref.sourceName aliases) (e.listedMembers g ref)
      (enumMember g aliases ref v) w ↔ w = v) ∧
    (∀ v w, StandsFor (ref.sourceName aliases) (e.listedMembers g ref)
      (literal g aliases ref (.int v)) w ↔ w = v) ∧
    ∀ w, StandsFor (ref.sourceName aliases) (e.listedMembers g ref)
      (defaultValue g aliases ref) w ↔ w = 0 := by
  rw [e.listedMembers_eq fun d hd => (henum d hd).1]
  have hdistinct := enumMembers_nodup fun d hd => (henum d hd).2
  have hnumber : ∀ v w, StandsFor (ref.sourceName aliases) (g.enumMembers ref)
      (enumMember g aliases ref v) w ↔ w = v := by
    intro v w
    constructor
    · exact (enumMember_standsFor g aliases ref v).unique hdistinct
    · rintro rfl
      exact enumMember_standsFor g aliases ref w
  have hliteral : ∀ v, literal g aliases ref (.int v) = enumMember g aliases ref v := by
    intro v
    simp only [literal, hcategory]
  have hdefault : defaultValue g aliases ref = enumMember g aliases ref 0 := by
    have helement : ref.element.category = .enum := by
      rw [TypeRef.element]
      split <;> exact hcategory
    simp only [defaultValue, hvalued, Bool.false_eq_true, if_false, helement]
    exact enumMember_element g aliases hunmarked 0
  refine ⟨hnumber, fun v => ?_, ?_⟩
  · rw [hliteral]
    exact hnumber v
  · rw [hdefault]
    exact hnumber 0

/-! ## Colors -/

/-- An enum whose backing field is declared among its members. -/
def colorEnum : TypeDecl where
  id := "Acme.Color"
  name := "Color"
  kind := .enum
  space := some "Acme"
  fields := ["Red", "value__", "Green", "Blue"].map fun name =>
    { name, type := { name := "System.Int32", category := .primitive } }

def colorEmitter : Emitter where
  graph := { emitted := [colorEnum] }

/-- A color that is passed by reference. -/
def colorRef : TypeRef := { name := "Acme.Color", category := .enum, byRef := true }

theorem colorRef_distinct : ∀ d, colorEmitter.graph.resolve? colorRef = some d →
    d.kind = .enum ∧ d.memberNames.Nodup := by
  intro d hd
  have hcolor : colorEmitter.graph.resolve? colorRef = some colorEnum := rfl
  rw [hcolor] at hd
  cases hd
  decide

/-- One is the green in the second line, though its field is the third; three is past the last
color. -/
theorem color_constants_keep_numbers :
    colorEmitter.listedMembers colorEmitter.graph colorRef = ["Red", "Green", "Blue"] ∧
      enumMember colorEmitter.graph true colorRef 1 = "Acme.Color.Green" ∧
      (∀ w, StandsFor (colorRef.sourceName true)
        (colorEmitter.listedMembers colorEmitter.graph colorRef)
        (enumMember colorEmitter.graph true colorRef 1) w ↔ w = 1) ∧
      literal colorEmitter.graph true colorRef (.int 3) = "(Acme.Color)3" ∧
      (∀ w, StandsFor (colorRef.sourceName true)
        (colorEmitter.listedMembers colorEmitter.graph colorRef)
        (literal colorEmitter.graph true colorRef (.int 3)) w ↔ w = 3) := by
  obtain ⟨hnumber, hliteral, -⟩ := enum_constants_keep_numbers colorEmitter colorEmitter.graph true
    colorRef rfl rfl (by decide) colorRef_distinct
  exact ⟨by decide +kernel, by decide +kernel, hnumber 1, by decide +kernel, hliteral 3⟩

end ApiShell
