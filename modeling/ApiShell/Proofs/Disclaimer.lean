import ApiShell.Document.Library
import ApiShell.Proofs.QuotedText

/-!
# Disclaimer

When the attributes of a shell say what it is. The disclaimer is put before the texts of a
description, and a description of its own is added only where the library has none. Main statement:
a line for the description has a string literal that starts with the disclaimer exactly when the
library has no description, or one with a text between double quotes, or one that says it by itself
where the shell does not put it. A library with a bare description stands at the end.
-/

namespace ApiShell

namespace Attribute

/-! ## What lines show -/

/-- What a line shows: the type of an attribute and its values, each behind its name if it has
one. -/
structure Note where
  typeName : String
  values : List (Option String × String)

/-- The line that shows a note. -/
def Note.line (n : Note) : String :=
  lineText n.typeName (n.values.map fun (name, shown) => (name.map (· ++ " = ")).getD "" ++ shown)

/-- A note with a single text. -/
def notice (typeName text : String) : Note where
  typeName := typeName
  values := [(none, literal {} true stringRef (.text text))]

/-- What the line of a carried attribute shows. -/
def note (g : Graph) (aliases : Bool) (a : Attribute) : Note where
  typeName := a.typeName
  values :=
    a.arguments.map (fun x => (none, argumentText g aliases (a.typeName == descriptionAttribute) x))
      ++ a.named.map fun (name, x) => (some name, argumentText g aliases false x)

end Attribute

/-- What the attribute lines of a library show. -/
def Library.notes (l : Library) (g : Graph) (aliases : Bool) (copyright : String) :
    List Attribute.Note :=
  let carried := l.attributes.filter (isCarried ·.typeName)
  [Attribute.notice copyrightAttribute copyright, Attribute.notice versionAttribute l.version] ++
  carried.map (Attribute.note g aliases) ++
  (if carried.any (·.typeName == descriptionAttribute) then []
   else [Attribute.notice descriptionAttribute disclaimer])

namespace Attribute

/-- The text that a string literal says; what is not in double quotes is none. -/
def stringLiteral? (shown : String) : Option (List Char) :=
  if shown.toList.head? = some '"' then
    (Literal.read? shown.toList).bind fun (text, after) => if after = [] then some text else none
  else none

/-- A value is shown as a string literal whose text starts with the disclaimer. -/
def SaysDisclaimer (shown : String) : Prop :=
  ∃ rest, stringLiteral? shown = some (disclaimer.toList ++ rest)

/-- An argument is a text that is shown between double quotes. -/
def IsString (x : Argument) : Prop :=
  (∃ s, x.value = .text s) ∧ x.type.category ≠ .enum ∧ Literal.quoteOf x.type = '"'

/-- The arguments that the disclaimer is not put before, although their texts come from the
library: members of enums, and named ones. -/
def unprefixed (a : Attribute) : List Argument :=
  a.arguments.filter (·.type.category == .enum) ++ a.named.map (·.2)

/-! ## Lines and notes -/

theorem line_eq_note (g : Graph) (aliases : Bool) (a : Attribute) :
    line g aliases a = (note g aliases a).line := by
  simp [line, Note.line, note, argumentTexts, Function.comp_def]

theorem noticeLine_eq_notice (typeName text : String) :
    noticeLine typeName text = (notice typeName text).line := by
  simp [noticeLine, Note.line, notice]

end Attribute

theorem Library.attributeLines_eq_notes (l : Library) (g : Graph) (aliases : Bool)
    (copyright : String) :
    l.attributeLines g aliases copyright =
      (l.notes g aliases copyright).map Attribute.Note.line := by
  simp only [attributeLines, notes, List.map_append, List.map_cons, List.map_nil, List.map_map,
    Attribute.noticeLine_eq_notice]
  congr 1
  · congr 1
    refine List.map_congr_left fun a _ => ?_
    exact Attribute.line_eq_note g aliases a
  · split <;> rfl

/-! ## Values that are no texts -/

/-- The characters of numbers and moments apart from digits. -/
def numberSigns : List Char := ['.', 'e', '+', '-', 'n', 'a', 'i', 'f']

/-- A character of a number. -/
def IsNumberChar (c : Char) : Prop :=
  c.isDigit = true ∨ c ∈ numberSigns

theorem IsNumberChar.apart {c : Char} (h : IsNumberChar c) : c ≠ '"' ∧ c ≠ 'T' := by
  constructor
  all_goals
    rintro rfl
    rcases h with h | h <;> revert h <;> decide

theorem isNumberChar_of_mem_toDigits {c : Char} {n : Nat} (h : c ∈ Nat.toDigits 10 n) :
    IsNumberChar c :=
  .inl (Nat.isDigit_of_mem_toDigits (by decide) (by decide) h)

theorem isNumberChar_of_mem_zeros {c : Char} {n : Nat} (h : c ∈ List.replicate n '0') :
    IsNumberChar c := by
  rw [(List.mem_replicate.mp h).2]
  exact .inl (by decide)

theorem Binary64.isNumberChar_of_mem_significant {c : Char} {n : Nat}
    (h : c ∈ significant n) : IsNumberChar c := by
  unfold significant at h
  simp only at h
  split at h
  · rw [List.mem_singleton.mp h]
    exact .inl (by decide)
  · have hmem : c ∈ (Nat.toDigits 10 n).reverse :=
      (List.dropWhile_sublist _).subset (List.mem_reverse.mp h)
    exact isNumberChar_of_mem_toDigits (List.mem_reverse.mp hmem)

theorem Binary64.isNumberChar_of_mem_arrange {l : Layout} {digits : List Char} {point : Int}
    (hdigits : ∀ d ∈ digits, IsNumberChar d) :
    ∀ c ∈ l.arrange digits point, IsNumberChar c := by
  have hdot : IsNumberChar '.' := .inr (by decide)
  have hzero : IsNumberChar '0' := .inl (by decide)
  have hzeros : ∀ (n : Nat), ∀ c ∈ List.replicate n '0', IsNumberChar c :=
    fun n c hc => isNumberChar_of_mem_zeros hc
  unfold Layout.arrange
  simp only
  split
  · have hhead : ∀ d e : Char, ∀ rest : List Char, digits = d :: e :: rest →
        ∀ c ∈ d :: '.' :: e :: rest, IsNumberChar c := by
      rintro d e rest rfl
      rw [List.forall_mem_cons] at hdigits
      exact List.forall_mem_cons.mpr ⟨hdigits.1, List.forall_mem_cons.mpr ⟨hdot, hdigits.2⟩⟩
    have hsign : IsNumberChar (if point - 1 < 0 then '-' else '+') := by
      split
      · exact .inr (by decide)
      · exact .inr (by decide)
    simp only [List.forall_mem_append, List.forall_mem_cons]
    refine ⟨⟨?_, .inr (by decide), hsign, hzeros _⟩,
      fun c hc => isNumberChar_of_mem_toDigits hc⟩
    split
    · exact hhead _ _ _ rfl
    · exact hdigits
  · split
    · simp only [List.forall_mem_append, List.forall_mem_cons]
      exact ⟨⟨hzero, hdot, hzeros _⟩, hdigits⟩
    · split
      · simp only [List.forall_mem_append, List.forall_mem_cons]
        exact ⟨⟨hdigits, hzeros _⟩, hdot, hzero, by simp⟩
      · simp only [List.forall_mem_append, List.forall_mem_cons]
        exact ⟨fun c hc => hdigits c (List.mem_of_mem_take hc), hdot,
          fun c hc => hdigits c (List.mem_of_mem_drop hc)⟩

theorem Binary64.isNumberChar_of_mem_text (x : Binary64) :
    ∀ c ∈ x.text.toList, IsNumberChar c := by
  have hminus : IsNumberChar '-' := .inr (by decide)
  unfold text
  split
  · intro c hc
    exact .inr ((by decide +kernel : "nan".toList ⊆ numberSigns) hc)
  · split
    · intro c hc
      exact .inr ((by decide +kernel : "-inf".toList ⊆ numberSigns) hc)
    · intro c hc
      exact .inr ((by decide +kernel : "inf".toList ⊆ numberSigns) hc)
  · next negative mantissa exponent =>
    have hbody : ∀ c ∈ (if mantissa = 0 then ['0', '.', '0'] else
        Layout.plain.arrange (significant (shortest mantissa exponent).digits)
          (shortest mantissa exponent).point), IsNumberChar c := by
      split
      · simp only [List.forall_mem_cons]
        exact ⟨.inl (by decide), .inr (by decide), .inl (by decide), by simp⟩
      · exact isNumberChar_of_mem_arrange fun d hd => isNumberChar_of_mem_significant hd
    simp only [String.toList_ofList]
    split
    · exact List.forall_mem_cons.mpr ⟨hminus, hbody⟩
    · exact hbody

theorem isNumberChar_of_mem_toString (i : Int) : ∀ c ∈ (toString i).toList, IsNumberChar c := by
  have hnatural : ∀ n : Nat, ∀ c ∈ (toString n).toList, IsNumberChar c := by
    intro n c hc
    rw [Nat.toString_eq_ofList_toDigits, String.toList_ofList] at hc
    exact isNumberChar_of_mem_toDigits hc
  cases i with
  | ofNat n => exact hnatural n
  | negSucc n =>
    have hshown : toString (Int.negSucc n) = "-" ++ toString (n + 1) := rfl
    rw [hshown, String.toList_append]
    exact List.forall_mem_append.mpr ⟨by simp [IsNumberChar, numberSigns], hnatural (n + 1)⟩

theorem Moment.head_text (m : Moment) : ∀ c ∈ m.text.toList.head?, IsNumberChar c := by
  have hyear : ∀ (width n : Nat) (rest : List Char),
      ∀ c ∈ ((Text.padded width n).toList ++ rest).head?, IsNumberChar c := by
    intro width n rest c hc
    have hsome : List.replicate (width - (Nat.toDigits 10 n).length) '0' ++
        Nat.toDigits 10 n ≠ [] := by simp
    rw [Text.padded, String.toList_ofList, List.head?_append_of_ne_nil _ hsome] at hc
    have hmem := List.mem_of_mem_head? hc
    rcases List.mem_append.mp hmem with hmem | hmem
    · exact isNumberChar_of_mem_zeros hmem
    · exact isNumberChar_of_mem_toDigits hmem
  cases m with
  | date year month day =>
    simp only [text, dayText, String.toList_append, List.append_assoc]
    exact hyear 4 year _
  | time year month day hour minute second micro offset =>
    simp only [text, dayText, String.toList_append, List.append_assoc]
    exact hyear 4 year _

/-- What is shown of a value that is neither a text nor written as a word starts with no quote, and
not as the disclaimer does. -/
theorem Value.head_display {v : Value} (htext : ∀ s, v ≠ .text s) (hnull : v ≠ .null)
    (hbool : ∀ b, v ≠ .bool b) : ∀ c ∈ v.display.toList.head?, c ≠ '"' ∧ c ≠ 'T' := by
  intro c hc
  cases v with
  | null => exact absurd rfl hnull
  | bool b => exact absurd rfl (hbool b)
  | text s => exact absurd rfl (htext s)
  | int i => exact (isNumberChar_of_mem_toString i c (List.mem_of_mem_head? hc)).apart
  | float x => exact (x.isNumberChar_of_mem_text c (List.mem_of_mem_head? hc)).apart
  | moment m => exact (m.head_text c hc).apart
  | list items =>
    have hbracket : '[' = c := by simpa [display, inspect] using hc
    exact hbracket ▸ by decide
  | map entries =>
    have hbrace : '\x7b' = c := by simpa [display, inspect] using hc
    exact hbrace ▸ by decide

namespace Attribute

/-! ## String literals -/

theorem eq_of_cutAtQuote? {quote : Char} {chars body after : List Char}
    (h : Literal.cutAtQuote? quote chars = some (body, after)) :
    chars = body ++ quote :: after := by
  fun_induction Literal.cutAtQuote? quote chars generalizing body with
  | case1 => cases h
  | case2 c rest ih =>
    obtain ⟨⟨inside, behind⟩, hcut, hpair⟩ := Option.map_eq_some_iff.mp h
    cases hpair
    rw [ih hcut]
    rfl
  | case3 rest =>
    cases h
    rfl
  | case4 c rest _ _ ih =>
    obtain ⟨⟨inside, behind⟩, hcut, hpair⟩ := Option.map_eq_some_iff.mp h
    cases hpair
    rw [ih hcut]
    rfl

/-- A string literal starts and ends with a double quote. -/
theorem quotes_of_stringLiteral? {shown : String} {text : List Char}
    (h : stringLiteral? shown = some text) :
    shown.toList.head? = some '"' ∧ shown.toList.getLast? = some '"' := by
  rw [stringLiteral?] at h
  split at h
  · next hfirst =>
    refine ⟨hfirst, ?_⟩
    obtain ⟨rest, hchars⟩ := List.head?_eq_some_iff.mp hfirst
    obtain ⟨⟨said, after⟩, hread, hend⟩ := Option.bind_eq_some_iff.mp h
    rw [hchars, Literal.read?, if_pos (by decide)] at hread
    obtain ⟨⟨body, behind⟩, hcut, hdecode⟩ := Option.bind_eq_some_iff.mp hread
    obtain ⟨decoded, -, hpair⟩ := Option.bind_eq_some_iff.mp hdecode
    cases hpair
    dsimp only at hend
    split at hend
    · next hnil =>
      rw [hchars, eq_of_cutAtQuote? hcut, hnil, ← List.cons_append, List.getLast?_append]
      rfl
    · cases hend
  · cases h

theorem stringLiteral?_quoted (text : String) :
    stringLiteral? (Literal.quoted '"' text) = some text.toList := by
  have hquote : '"' ∈ Literal.quotes := by decide
  have hread := Literal.read?_quoted hquote text []
  have hfirst : (Literal.quoted '"' text).toList.head? = some '"' := by simp [Literal.quoted]
  rw [List.append_nil] at hread
  rw [stringLiteral?, if_pos hfirst, hread]
  rfl

theorem stringLiteral?_of_charQuoted (text : String) :
    stringLiteral? (Literal.quoted '\'' text) = none := by
  have hfirst : (Literal.quoted '\'' text).toList.head? = some '\'' := by simp [Literal.quoted]
  rw [stringLiteral?, hfirst, if_neg (by decide)]

theorem saysDisclaimer_quoted (text : String) :
    SaysDisclaimer (Literal.quoted '"' text) ↔ disclaimer.toList <+: text.toList := by
  rw [SaysDisclaimer, stringLiteral?_quoted]
  constructor
  · rintro ⟨rest, hrest⟩
    exact ⟨rest, (Option.some.inj hrest).symm⟩
  · rintro ⟨rest, hrest⟩
    exact ⟨rest, congrArg some hrest.symm⟩

theorem not_saysDisclaimer_of_head {shown : String} (h : shown.toList.head? ≠ some '"') :
    ¬ SaysDisclaimer shown :=
  fun ⟨_, hsays⟩ => h (quotes_of_stringLiteral? hsays).1

theorem not_saysDisclaimer_of_last {shown : String} (h : shown.toList.getLast? ≠ some '"') :
    ¬ SaysDisclaimer shown :=
  fun ⟨_, hsays⟩ => h (quotes_of_stringLiteral? hsays).2

/-! ## Arguments -/

theorem head_disclaimer : disclaimer.toList.head? = some 'T' := by
  decide +kernel

/-- No suffix of a number starts with a quote. -/
theorem head_suffix (identity : String) :
    ((literalSuffixes.lookup identity).getD "").toList.head? ≠ some '"' := by
  simp only [literalSuffixes, List.lookup_cons, List.lookup_nil]
  split
  · decide
  · split <;> decide

/-- A constant that is no text is not shown as the disclaimer. Where it is not in quotes, one end
of what is shown tells: its first character, or the last one of the name of a special number. -/
theorem not_saysDisclaimer_plainLiteral (type : TypeRef) {v : Value} (htext : ∀ s, v ≠ .text s) :
    ¬ SaysDisclaimer (plainLiteral type v) := by
  unfold plainLiteral
  split
  · exact not_saysDisclaimer_of_head (by decide)
  · next b => cases b <;> exact not_saysDisclaimer_of_head (by decide)
  · next hnull hbool =>
    have hhead := Value.head_display htext hnull hbool
    dsimp only
    split
    · rintro ⟨rest, hsays⟩
      rw [stringLiteral?_of_charQuoted] at hsays
      cases hsays
    · split
      · rw [saysDisclaimer_quoted]
        rintro ⟨rest, hrest⟩
        have hfirst : 'T' ∈ v.display.toList.head? := by
          rw [← hrest, List.head?_append, head_disclaimer]
          rfl
        exact (hhead 'T' hfirst).2 rfl
      · split
        · exact absurd rfl (htext _)
        · exact not_saysDisclaimer_of_last (by simp)
        · next negative => cases negative <;> exact not_saysDisclaimer_of_last (by simp)
        · refine not_saysDisclaimer_of_head ?_
          rw [String.toList_append, List.head?_append]
          cases hfirst : v.display.toList.head? with
          | none => exact head_suffix _
          | some c =>
            intro hquote
            exact (hhead c hfirst).1 (Option.some.inj hquote)

theorem literal_of_ne_enum (g : Graph) (aliases : Bool) {type : TypeRef}
    (h : type.category ≠ .enum) (v : Value) : literal g aliases type v = plainLiteral type v := by
  unfold literal
  split
  · contradiction
  · contradiction
  · rfl

theorem argumentText_of_ne_enum (g : Graph) (aliases isDescription : Bool) {x : Argument}
    (h : x.type.category ≠ .enum) :
    argumentText g aliases isDescription x = plainLiteral x.type (shownValue isDescription x) := by
  unfold argumentText
  split
  · contradiction
  · exact literal_of_ne_enum g aliases h _

/-- A member of an enum is shown alike in a description and elsewhere. -/
theorem argumentText_of_enum (g : Graph) (aliases : Bool) {x : Argument}
    (h : x.type.category = .enum) :
    argumentText g aliases true x = argumentText g aliases false x := by
  have hshown : shownValue true x = shownValue false x := by
    unfold shownValue
    split
    · simp [h]
    · rfl
  simp only [argumentText, hshown]

/-- In a description, an argument of another type than an enum says the disclaimer exactly when
it is a text between double quotes. -/
theorem saysDisclaimer_argumentText_iff (g : Graph) (aliases : Bool) {x : Argument}
    (h : x.type.category ≠ .enum) :
    SaysDisclaimer (argumentText g aliases true x) ↔ IsString x := by
  rw [argumentText_of_ne_enum g aliases true h]
  by_cases htext : ∃ s, x.value = .text s
  · obtain ⟨s, hs⟩ := htext
    have hshown : shownValue true x = .text (disclaimer ++ s) := by
      rw [shownValue, hs]
      simp [h]
    rw [hshown, ← literal_of_ne_enum g aliases h, literal_text g aliases h]
    have hquote := Literal.quoteOf_mem x.type
    simp only [Literal.quotes, List.mem_cons, List.not_mem_nil, or_false] at hquote
    rcases hquote with hquote | hquote
    · rw [hquote, saysDisclaimer_quoted, String.toList_append]
      exact iff_of_true (List.prefix_append ..) ⟨⟨s, hs⟩, h, hquote⟩
    · rw [hquote, SaysDisclaimer, stringLiteral?_of_charQuoted]
      refine iff_of_false ?_ ?_
      · rintro ⟨rest, hsays⟩
        cases hsays
      · intro hstring
        exact absurd (hquote.symm.trans hstring.2.2) (by decide)
  · have hother : ∀ s, x.value ≠ .text s := fun s hs => htext ⟨s, hs⟩
    have hshown : shownValue true x = x.value := by
      unfold shownValue
      split
      · next s hs => exact absurd hs (hother s)
      · rfl
    rw [hshown]
    exact iff_of_false (not_saysDisclaimer_plainLiteral x.type hother) fun hstring =>
      htext hstring.1

/-- When the line of a description says the disclaimer. -/
theorem note_saysDisclaimer_iff (g : Graph) (aliases : Bool) {a : Attribute}
    (h : a.typeName = descriptionAttribute) :
    (∃ value ∈ (note g aliases a).values, SaysDisclaimer value.2) ↔
      (∃ x ∈ a.arguments, IsString x) ∨
        ∃ x ∈ a.unprefixed, SaysDisclaimer (argumentText g aliases false x) := by
  have hdescription : (a.typeName == descriptionAttribute) = true := beq_iff_eq.mpr h
  simp only [note, hdescription, unprefixed, List.mem_append, List.mem_map, List.mem_filter,
    beq_iff_eq]
  constructor
  · rintro ⟨value, ⟨x, hx, rfl⟩ | ⟨⟨name, x⟩, hx, rfl⟩, hsays⟩
    · by_cases hkind : x.type.category = .enum
      · rw [argumentText_of_enum g aliases hkind] at hsays
        exact .inr ⟨x, .inl ⟨hx, hkind⟩, hsays⟩
      · exact .inl ⟨x, hx, (saysDisclaimer_argumentText_iff g aliases hkind).mp hsays⟩
    · exact .inr ⟨x, .inr ⟨(name, x), hx, rfl⟩, hsays⟩
  · rintro (⟨x, hx, hstring⟩ | ⟨x, ⟨hx, hkind⟩ | ⟨⟨name, x⟩, hx, rfl⟩, hsays⟩)
    · exact ⟨_, .inl ⟨x, hx, rfl⟩,
        (saysDisclaimer_argumentText_iff g aliases hstring.2.1).mpr hstring⟩
    · refine ⟨_, .inl ⟨x, hx, rfl⟩, ?_⟩
      rwa [argumentText_of_enum g aliases hkind]
    · exact ⟨_, .inr ⟨(name, x), hx, rfl⟩, hsays⟩

theorem notice_saysDisclaimer :
    ∃ value ∈ (notice descriptionAttribute disclaimer).values, SaysDisclaimer value.2 := by
  have hsays : SaysDisclaimer (Literal.quoted '"' disclaimer) :=
    (saysDisclaimer_quoted disclaimer).mpr (List.prefix_refl _)
  refine ⟨_, List.mem_singleton_self _, ?_⟩
  rw [literal_text {} true (by decide), show Literal.quoteOf stringRef = '"' by decide +kernel]
  exact hsays

end Attribute

/-! ## The lines of a library -/

theorem isCarried_description : isCarried descriptionAttribute = true := by
  decide +kernel

theorem copyright_ne_description : copyrightAttribute ≠ descriptionAttribute := by
  decide +kernel

theorem version_ne_description : versionAttribute ≠ descriptionAttribute := by
  decide +kernel

/-- The lines are those of the notes, and a line for the description has a string literal that
starts with the disclaimer exactly when the library has no description; or one of its descriptions
has a text between double quotes; or one shows the disclaimer by itself, as the member of an enum or
under a name. -/
theorem Library.disclaimer_shown_iff (l : Library) (g : Graph) (aliases : Bool)
    (copyright : String) :
    l.attributeLines g aliases copyright =
        (l.notes g aliases copyright).map Attribute.Note.line ∧
      ((∃ note ∈ l.notes g aliases copyright, note.typeName = descriptionAttribute ∧
          ∃ value ∈ note.values, Attribute.SaysDisclaimer value.2) ↔
        (∀ a ∈ l.attributes, a.typeName ≠ descriptionAttribute) ∨
          ∃ a ∈ l.attributes, a.typeName = descriptionAttribute ∧
            ((∃ x ∈ a.arguments, Attribute.IsString x) ∨
              ∃ x ∈ a.unprefixed,
                Attribute.SaysDisclaimer (Attribute.argumentText g aliases false x))) := by
  refine ⟨l.attributeLines_eq_notes g aliases copyright, ?_⟩
  have hany : ((l.attributes.filter (isCarried ·.typeName)).any
      (·.typeName == descriptionAttribute)) = true ↔
        ∃ a ∈ l.attributes, a.typeName = descriptionAttribute := by
    simp only [List.any_eq_true, List.mem_filter, beq_iff_eq]
    constructor
    · rintro ⟨a, ⟨ha, -⟩, hname⟩
      exact ⟨a, ha, hname⟩
    · rintro ⟨a, ha, hname⟩
      exact ⟨a, ⟨ha, by rw [hname, isCarried_description]⟩, hname⟩
  constructor
  · rintro ⟨note, hnote, hname, hsays⟩
    simp only [notes, List.mem_append, List.mem_cons, List.mem_map, List.mem_filter,
      List.not_mem_nil, or_false] at hnote
    rcases hnote with ((rfl | rfl) | ⟨a, ⟨ha, -⟩, rfl⟩) | hnote
    · exact absurd hname copyright_ne_description
    · exact absurd hname version_ne_description
    · exact .inr ⟨a, ha, hname, (Attribute.note_saysDisclaimer_iff g aliases hname).mp hsays⟩
    · split at hnote
      · cases hnote
      · next hnone =>
        refine .inl fun a ha hdescription => hnone ?_
        exact hany.mpr ⟨a, ha, hdescription⟩
  · rintro (hnone | ⟨a, ha, hname, hshown⟩)
    · have hlast : ¬ ((l.attributes.filter (isCarried ·.typeName)).any
          (·.typeName == descriptionAttribute)) = true := by
        rw [hany]
        rintro ⟨a, ha, hname⟩
        exact hnone a ha hname
      refine ⟨Attribute.notice descriptionAttribute disclaimer, ?_, rfl,
        Attribute.notice_saysDisclaimer⟩
      simp only [notes, if_neg hlast]
      exact List.mem_append_right _ (List.mem_singleton_self _)
    · refine ⟨Attribute.note g aliases a, ?_, hname,
        (Attribute.note_saysDisclaimer_iff g aliases hname).mpr hshown⟩
      have hcarried : isCarried a.typeName = true := by rw [hname, isCarried_description]
      exact List.mem_append_left _ (List.mem_append_right _
        (List.mem_map_of_mem (List.mem_filter.mpr ⟨ha, hcarried⟩)))

/-! ## A bare description -/

/-- A document whose description has no arguments. -/
def bareDocument : Document.Entries :=
  [(.text "attributes", .list [.map [(.text "type", .text descriptionAttribute)]])]

def bareLibrary : Library where
  name := "Bare"
  attributes := [{ typeName := descriptionAttribute }]

/-- The disclaimer is on no line. -/
theorem bareDescription_lacks_disclaimer :
    Document.library [] "Bare" bareDocument = .ok bareLibrary ∧
      bareLibrary.attributeLines {} true "" =
        ["[assembly: System.Reflection.AssemblyCopyrightAttribute(\"\")]",
         "[assembly: System.Reflection.AssemblyVersionAttribute(\"0.0.0.0\")]",
         "[assembly: System.Reflection.AssemblyDescriptionAttribute]"] ∧
      (∀ line ∈ bareLibrary.attributeLines {} true "", ¬ disclaimer.toList <:+: line.toList) ∧
      ¬ ∃ note ∈ bareLibrary.notes {} true "", note.typeName = descriptionAttribute ∧
          ∃ value ∈ note.values, Attribute.SaysDisclaimer value.2 := by
  have hlines : bareLibrary.attributeLines {} true "" =
      ["[assembly: System.Reflection.AssemblyCopyrightAttribute(\"\")]",
       "[assembly: System.Reflection.AssemblyVersionAttribute(\"0.0.0.0\")]",
       "[assembly: System.Reflection.AssemblyDescriptionAttribute]"] := by
    decide +kernel
  refine ⟨rfl, hlines, ?_, ?_⟩
  · rw [hlines]
    decide +kernel
  · rintro ⟨note, hnote, hname, value, hvalue, -⟩
    have hnotes : bareLibrary.notes {} true "" =
        [Attribute.notice copyrightAttribute "", Attribute.notice versionAttribute "0.0.0.0",
         { typeName := descriptionAttribute, values := [] }] := rfl
    rw [hnotes] at hnote
    simp only [List.mem_cons, List.not_mem_nil, or_false] at hnote
    rcases hnote with rfl | rfl | rfl
    · exact absurd hname copyright_ne_description
    · exact absurd hname version_ne_description
    · cases hvalue

end ApiShell
