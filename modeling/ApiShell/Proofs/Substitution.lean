import ApiShell.Graph.Supertypes
import ApiShell.Proofs.ArgumentPlaces
import ApiShell.Proofs.LoadedLibrary

/-!
# Substitution and identities

Putting references for generic parameters goes by names: a reference without arguments is a
parameter when its name is one. Main statement: the identity after a substitution is the old one
with the identities of the arguments put for the parameters, as words, exactly where the
substitution reaches every parameter that the identity shows. It misses a parameter with an array
or pointer suffix, and it takes the question mark off a nullable one.
-/

namespace ApiShell.TypeRef

open Text (Below IsWord KnowsWords put replaceWords words)

variable {binding : List (String × TypeRef)} {r arg : TypeRef} {args more : List TypeRef}

/-- A property of references holds of all of them when each one has it that has it in all its
arguments. -/
theorem induction_on_args {P : TypeRef → Prop} (h : ∀ r : TypeRef, (∀ a ∈ r.args, P a) → P r)
    (r : TypeRef) : P r :=
  h r fun a _ => induction_on_args h a
termination_by sizeOf r
decreasing_by
  rename_i hmem
  obtain ⟨name, args, nullable, category, byRef⟩ := r
  have hlt : sizeOf a < sizeOf args := List.sizeOf_lt_of_mem hmem
  simp only [mk.sizeOf_spec]
  omega

/-! ## Identities by the shape of a reference -/

theorem identityText_of_isVoid (h : r.isVoid = true) : r.identityText = voidText := by
  obtain ⟨name, args, nullable, category, byRef⟩ := r
  rw [isVoid] at h
  cases args with
  | nil =>
    rw [identityText, identity, sourceName, if_pos h]
    rfl
  | cons arg more =>
    rw [identityText, identity, sourceName, if_pos h]
    rfl

theorem identityText_bare (hvoid : r.isVoid = false) (hargs : r.args = []) :
    r.identityText
      = (bareName false r.name).toList ++ if r.nullable then ['?'] else [] := by
  obtain ⟨name, args, nullable, category, byRef⟩ := r
  subst hargs
  rw [identityText, identity, sourceName, if_neg (by simpa [isVoid] using hvoid)]
  cases nullable <;> simp

theorem identityText_wrapper (hvoid : r.isVoid = false) (hnullable : r.nullable = true)
    (hargs : r.args = arg :: more) : r.identityText = arg.identityText ++ ['?'] := by
  obtain ⟨name, args, nullable, category, byRef⟩ := r
  subst hargs hnullable
  rw [identityText, identity, sourceName, if_neg (by simpa [isVoid] using hvoid), if_pos rfl]
  simp [identityText, identity]

theorem identityText_bound (hvoid : r.isVoid = false) (hnullable : r.nullable = false)
    (hargs : r.args ≠ []) :
    r.identityText = (boundName r.name (r.args.map identity)).toList := by
  obtain ⟨name, args, nullable, category, byRef⟩ := r
  subst hnullable
  cases args with
  | nil => exact absurd rfl hargs
  | cons arg more =>
    rw [identityText, identity, sourceName, if_neg (by simpa [isVoid] using hvoid),
      if_neg Bool.false_ne_true, sourceNames_eq]
    rfl

/-- Dots stand for all plus signs. -/
theorem plus_not_mem_dotted (chars : List Char) : '+' ∉ dotted chars := by
  intro h
  have hinner := Text.mem_of_mem_dropEnds h
  rw [Text.replaceChar, List.mem_map] at hinner
  obtain ⟨c, -, hc⟩ := hinner
  split at hc
  · cases hc
  · next hne => exact hne hc

theorem plus_not_mem_identityText (r : TypeRef) : '+' ∉ r.identityText := by
  induction r using induction_on_args with
  | h r ih =>
    by_cases hvoid : r.isVoid = true
    · rw [identityText_of_isVoid hvoid]
      decide
    have hvoid : r.isVoid = false := by simpa using hvoid
    cases hargs : r.args with
    | nil =>
      rw [identityText_bare hvoid hargs, bareName, if_neg Bool.false_ne_true,
        String.toList_ofList, List.mem_append, not_or]
      refine ⟨plus_not_mem_dotted _, ?_⟩
      split <;> decide
    | cons arg more =>
      by_cases hnullable : r.nullable = true
      · rw [identityText_wrapper hvoid hnullable hargs, List.mem_append, not_or]
        exact ⟨ih arg (by simp [hargs]), by decide⟩
      · rw [identityText_bound hvoid (by simpa using hnullable) (by simp [hargs]), boundName,
          String.toList_ofList]
        exact plus_not_mem_dotted _

/-! ## Substitution by the shape of a reference -/

theorem substitute_bare (hargs : r.args = []) :
    substitute binding r = (binding.lookup r.name).getD r := by
  obtain ⟨name, args, nullable, category, byRef⟩ := r
  subst hargs
  rw [substitute]

theorem substitute_of_args (hargs : r.args ≠ []) :
    substitute binding r = { r with args := r.args.map (substitute binding) } := by
  obtain ⟨name, args, nullable, category, byRef⟩ := r
  cases args with
  | nil => exact absurd rfl hargs
  | cons arg more =>
    rw [substitute, substituteAll_eq]
    rfl

/-! ## Parameters as words -/

/-- The names of the parameters are words. -/
def NamesWords (binding : List (String × TypeRef)) : Prop :=
  ∀ entry ∈ binding, IsWord entry.1.toList

/-- The identity of the argument, for a word that is a parameter. -/
def meaning (binding : List (String × TypeRef)) (word : List Char) : Option (List Char) :=
  (binding.lookup (String.ofList word)).map identityText

/-- No word of the text is a parameter, unless the identity of its argument is the same word. -/
def Untouched (binding : List (String × TypeRef)) (text : List Char) : Prop :=
  ∀ word ∈ words text, ∀ arg, binding.lookup (String.ofList word) = some arg →
    arg.identityText = word

theorem isWord_of_lookup (hnames : NamesWords binding) {name : String}
    (h : binding.lookup name = some arg) : IsWord name.toList := by
  obtain ⟨before, after, hsplit, -⟩ := List.lookup_eq_some_iff.mp h
  exact hnames (name, arg) (by simp [hsplit])

theorem NamesWords.knowsWords (hnames : NamesWords binding) : KnowsWords (meaning binding) := by
  intro word text h
  obtain ⟨arg, hlookup, -⟩ := Option.map_eq_some_iff.mp h
  simpa using isWord_of_lookup hnames hlookup

/-- A text is untouched exactly when putting arguments for words leaves it as it is. -/
theorem untouched_iff (hnames : NamesWords binding) {text : List Char} :
    Untouched binding text ↔ replaceWords (meaning binding) text = text := by
  rw [Text.replaceWords_eq_self_iff hnames.knowsWords]
  refine forall₂_congr fun word _ => ?_
  cases hlookup : binding.lookup (String.ofList word) <;> simp [put, meaning, hlookup]

/-- The identity of a bare parameter is its name. -/
theorem bareName_of_isWord {name : String} (h : IsWord name.toList) :
    (bareName false name).toList = name.toList := by
  have habsent : ∀ c, MetadataName.isNameChar c = false → c ∉ name.toList := by
    intro c hc hmem
    rw [h.2 c hmem] at hc
    cases hc
  rw [bareName, if_neg Bool.false_ne_true, String.toList_ofList, dotted,
    MetadataName.stripFrom_of_not_mem (habsent _ (by decide)),
    Text.replaceChar_of_not_mem (habsent _ (by decide)),
    Text.dropEnds_of_not_mem (habsent _ (by decide))]

/-! ## References that a substitution reaches -/

/-- Every parameter that the identity of a reference shows is a reference of its own, neither
nullable nor without a value: the words of all other names in it are no parameters. -/
inductive Reached (binding : List (String × TypeRef)) : TypeRef → Prop
  | void {r : TypeRef} (isVoid : r.isVoid = true)
      (known : r.args = [] → binding.lookup r.name = none)
      (untouched : Untouched binding r.identityText) : Reached binding r
  | parameter {r arg : TypeRef} (notVoid : r.isVoid = false) (notNullable : r.nullable = false)
      (args : r.args = []) (bound : binding.lookup r.name = some arg) : Reached binding r
  | plain {r : TypeRef} (notVoid : r.isVoid = false) (args : r.args = [])
      (free : binding.lookup r.name = none) (untouched : Untouched binding r.identityText) :
      Reached binding r
  | optional {r arg : TypeRef} {more : List TypeRef} (notVoid : r.isVoid = false)
      (nullable : r.nullable = true) (args : r.args = arg :: more) (inner : Reached binding arg) :
      Reached binding r
  | bound {r : TypeRef} (notVoid : r.isVoid = false) (notNullable : r.nullable = false)
      (args : r.args ≠ [])
      (untouched : Untouched binding (boundName r.name (r.args.map fun _ => "")).toList)
      (inner : ∀ arg ∈ r.args, Reached binding arg) : Reached binding r

/-- No reference without a value has the name of a parameter. -/
def VoidIsFree (binding : List (String × TypeRef)) (r : TypeRef) : Prop :=
  ∀ part : TypeRef, part.StandsIn r → part.isVoid = true → part.args = [] →
    binding.lookup part.name = none

theorem VoidIsFree.of_arg (h : VoidIsFree binding r) (harg : arg ∈ r.args) :
    VoidIsFree binding arg :=
  fun part hpart => h part (.argument harg hpart)

theorem voidIsFree_of_args (hvoid : r.isVoid = false) (hargs : ∀ a ∈ r.args, VoidIsFree binding a) :
    VoidIsFree binding r := by
  intro part hpart hisVoid
  cases hpart with
  | itself =>
    rw [hvoid] at hisVoid
    cases hisVoid
  | argument listed inside => exact hargs _ listed part inside hisVoid

/-- The identity after the substitution is the old one with its words replaced. -/
def Commutes (binding : List (String × TypeRef)) (r : TypeRef) : Prop :=
  (substitute binding r).identityText = replaceWords (meaning binding) r.identityText

/-! ### Names with arguments -/

theorem identityText_bound_substitute (hvoid : r.isVoid = false) (hnullable : r.nullable = false)
    (hargs : r.args ≠ []) :
    (substitute binding r).identityText
      = (boundName r.name ((r.args.map (substitute binding)).map identity)).toList := by
  rw [substitute_of_args hargs]
  exact identityText_bound hvoid hnullable (by simpa using hargs)

/-- The name of a reference with arguments has a frame for them, which the substitution keeps. -/
theorem exists_frame (hvoid : r.isVoid = false) (hnullable : r.nullable = false)
    (hargs : r.args ≠ []) (binding : List (String × TypeRef)) :
    ∃ f : Frame, f.Sound ∧ f.places = r.args.length ∧
      r.identityText = f.weave (r.args.map identityText) ∧
      (substitute binding r).identityText
        = f.weave ((r.args.map (substitute binding)).map identityText) ∧
      (boundName r.name (r.args.map fun _ => "")).toList = f.weave (r.args.map fun _ => []) := by
  obtain ⟨f, hsound, hplaces, hf⟩ :=
    Frame.exists_of_name r.name (List.length_pos_iff.mpr hargs)
  have htexts : ∀ refs : List TypeRef, refs.length = r.args.length →
      (boundName r.name (refs.map identity)).toList = f.weave (refs.map identityText) := by
    intro refs hlength
    have hfilled := hf (refs.map identity) (by rw [List.length_map, hlength]) fun text htext => by
      obtain ⟨ref, -, rfl⟩ := List.mem_map.mp htext
      exact plus_not_mem_identityText ref
    rw [hfilled, List.map_map]
    rfl
  refine ⟨f, hsound, hplaces, ?_, ?_, ?_⟩
  · rw [identityText_bound hvoid hnullable hargs, htexts r.args rfl]
  · rw [identityText_bound_substitute hvoid hnullable hargs,
      htexts (r.args.map (substitute binding)) (List.length_map _)]
  · have hfilled := hf (r.args.map fun _ => "") (List.length_map _) fun text htext => by
      obtain ⟨ref, -, rfl⟩ := List.mem_map.mp htext
      decide
    rw [hfilled, List.map_map]
    rfl

/-- The other words of a name with arguments are untouched exactly when its frame stays. -/
theorem untouched_frame_iff (hnames : NamesWords binding) {f : Frame} (hsound : f.Sound)
    (hplaces : f.places = args.length) :
    Untouched binding (f.weave (args.map fun _ => [])) ↔
      f.map (replaceWords (meaning binding)) = f := by
  have hempty : (args.map fun _ => []).map (replaceWords (meaning binding))
      = args.map fun _ => [] := by
    rw [List.map_map]
    rfl
  have hbelow : List.Forall₂ Below (args.map fun _ => [])
      ((args.map fun _ => []).map (replaceWords (meaning binding))) := by
    rw [hempty, List.forall₂_same]
    exact fun text _ => Below.refl text
  rw [untouched_iff hnames, eq_comm, hsound.weave_eq_iff hnames.knowsWords
    (by rw [List.length_map, hplaces]) hbelow, hempty]
  exact and_iff_left rfl

/-! ### From reached references to identities -/

/-- A reference without a value stays one. -/
theorem identityText_substitute_void (h : r.isVoid = true)
    (hfree : r.args = [] → binding.lookup r.name = none) :
    (substitute binding r).identityText = r.identityText := by
  by_cases hargs : r.args = []
  · rw [substitute_bare hargs, hfree hargs, Option.getD_none]
  · rw [substitute_of_args hargs, identityText_of_isVoid h]
    exact identityText_of_isVoid h

theorem replaceWords_parameter (hnames : NamesWords binding) {name : String}
    (h : binding.lookup name = some arg) :
    replaceWords (meaning binding) name.toList = arg.identityText := by
  rw [Text.replaceWords_of_isWord (isWord_of_lookup hnames h), put, meaning, String.ofList_toList,
    h]
  rfl

theorem replaceWords_mark (hnames : NamesWords binding) (text : List Char) :
    replaceWords (meaning binding) (text ++ ['?'])
      = replaceWords (meaning binding) text ++ ['?'] := by
  have hmark : MetadataName.isNameChar '?' = false := by decide
  rw [Text.replaceWords_append (.inr ⟨'?', [], rfl, hmark⟩),
    Text.replaceWords_single hnames.knowsWords hmark]

/-- What a parameter is replaced by, with the mark that a nullable one has. -/
theorem replaceWords_bare (hnames : NamesWords binding) (hvoid : r.isVoid = false)
    (hargs : r.args = []) (hbound : binding.lookup r.name = some arg) :
    replaceWords (meaning binding) r.identityText
      = arg.identityText ++ if r.nullable then ['?'] else [] := by
  rw [identityText_bare hvoid hargs, bareName_of_isWord (isWord_of_lookup hnames hbound)]
  cases r.nullable with
  | true => rw [if_pos rfl, replaceWords_mark hnames, replaceWords_parameter hnames hbound]
  | false => rw [if_neg Bool.false_ne_true, List.append_nil, List.append_nil,
      replaceWords_parameter hnames hbound]

theorem identityText_substitute_wrapper (hvoid : r.isVoid = false) (hnullable : r.nullable = true)
    (hargs : r.args = arg :: more) :
    (substitute binding r).identityText = (substitute binding arg).identityText ++ ['?'] := by
  rw [substitute_of_args (by simp [hargs])]
  exact identityText_wrapper hvoid hnullable (by rw [hargs, List.map_cons])

/-- A wrapper commutes exactly when what it wraps does. -/
theorem commutes_optional_iff (hnames : NamesWords binding) (hvoid : r.isVoid = false)
    (hnullable : r.nullable = true) (hargs : r.args = arg :: more) :
    Commutes binding r ↔ Commutes binding arg := by
  rw [Commutes, Commutes, identityText_substitute_wrapper hvoid hnullable hargs,
    identityText_wrapper hvoid hnullable hargs, replaceWords_mark hnames, List.append_left_inj]

theorem Reached.commutes (hnames : NamesWords binding) (h : Reached binding r) :
    Commutes binding r := by
  induction h with
  | void isVoid known untouched =>
    rw [Commutes, identityText_substitute_void isVoid known, (untouched_iff hnames).mp untouched]
  | parameter notVoid notNullable args bound =>
    rw [Commutes, substitute_bare args, bound, Option.getD_some,
      replaceWords_bare hnames notVoid args bound, notNullable, if_neg Bool.false_ne_true,
      List.append_nil]
  | plain notVoid args free untouched =>
    rw [Commutes, substitute_bare args, free, Option.getD_none, (untouched_iff hnames).mp untouched]
  | optional notVoid nullable args _ ih =>
    exact (commutes_optional_iff hnames notVoid nullable args).mpr ih
  | @bound r notVoid notNullable args untouched _ ih =>
    obtain ⟨f, hsound, hplaces, hbefore, hafter, hown⟩ :=
      exists_frame notVoid notNullable args binding
    rw [hown, untouched_frame_iff hnames hsound hplaces] at untouched
    have hargs : (r.args.map (substitute binding)).map identityText
        = (r.args.map identityText).map (replaceWords (meaning binding)) := by
      rw [List.map_map, List.map_map]
      exact List.map_congr_left ih
    rw [Commutes, hbefore, hafter, hargs, hsound.replaceWords_weave hnames.knowsWords
      (by rw [List.length_map, hplaces]), untouched]

/-! ### From identities to reached references -/

/-- Replacing words in an old identity gives at least the signs of the new one. -/
def Covers (binding : List (String × TypeRef)) (r : TypeRef) : Prop :=
  Below (substitute binding r).identityText (replaceWords (meaning binding) r.identityText)

theorem covers_of_same (hnames : NamesWords binding)
    (h : (substitute binding r).identityText = r.identityText) : Covers binding r := by
  rw [Covers, h]
  exact Text.below_replaceWords hnames.knowsWords _

theorem untouched_of_same (hnames : NamesWords binding)
    (h : (substitute binding r).identityText = r.identityText) (hcommutes : Commutes binding r) :
    Untouched binding r.identityText := by
  rw [Commutes, h] at hcommutes
  exact (untouched_iff hnames).mpr hcommutes.symm

/-- The signs are covered, and an identity with its words replaced tells that all parameters were
reached. The bound on the signs is what tells the arguments of a name apart. -/
def Settled (binding : List (String × TypeRef)) (r : TypeRef) : Prop :=
  Covers binding r ∧ (Commutes binding r → Reached binding r)

theorem settled_void (hnames : NamesWords binding) (hvoid : r.isVoid = true)
    (hfree : VoidIsFree binding r) : Settled binding r := by
  have hknown := hfree r .itself hvoid
  have hsame := identityText_substitute_void hvoid hknown
  exact ⟨covers_of_same hnames hsame, fun hcommutes =>
    .void hvoid hknown (untouched_of_same hnames hsame hcommutes)⟩

theorem settled_bare (hnames : NamesWords binding) (hvoid : r.isVoid = false)
    (hargs : r.args = []) : Settled binding r := by
  cases hlookup : binding.lookup r.name with
  | none =>
    have hsame : (substitute binding r).identityText = r.identityText := by
      rw [substitute_bare hargs, hlookup, Option.getD_none]
    exact ⟨covers_of_same hnames hsame, fun hcommutes =>
      .plain hvoid hargs hlookup (untouched_of_same hnames hsame hcommutes)⟩
  | some arg =>
    have hnew : (substitute binding r).identityText = arg.identityText := by
      rw [substitute_bare hargs, hlookup, Option.getD_some]
    have hold := replaceWords_bare hnames hvoid hargs hlookup
    constructor
    · rw [Covers, hnew, hold]
      intro c _
      rw [List.count_append]
      exact Nat.le_add_right _ _
    · intro hcommutes
      rw [Commutes, hnew, hold] at hcommutes
      cases hnullable : r.nullable with
      | false => exact .parameter hvoid hnullable hargs hlookup
      | true => simp [hnullable] at hcommutes

theorem settled_optional (hnames : NamesWords binding) (hvoid : r.isVoid = false)
    (hnullable : r.nullable = true) (hargs : r.args = arg :: more) (h : Settled binding arg) :
    Settled binding r := by
  constructor
  · rw [Covers, identityText_substitute_wrapper hvoid hnullable hargs,
      identityText_wrapper hvoid hnullable hargs, replaceWords_mark hnames]
    exact h.1.append (Below.refl ['?'])
  · intro hcommutes
    rw [commutes_optional_iff hnames hvoid hnullable hargs] at hcommutes
    exact .optional hvoid hnullable hargs (h.2 hcommutes)

theorem settled_bound (hnames : NamesWords binding) (hvoid : r.isVoid = false)
    (hnullable : r.nullable = false) (hargs : r.args ≠ []) (h : ∀ a ∈ r.args, Settled binding a) :
    Settled binding r := by
  obtain ⟨f, hsound, hplaces, hbefore, hafter, hown⟩ := exists_frame hvoid hnullable hargs binding
  have hlength : (r.args.map identityText).length = f.places := by
    rw [List.length_map, hplaces]
  have hbelow : List.Forall₂ Below ((r.args.map (substitute binding)).map identityText)
      ((r.args.map identityText).map (replaceWords (meaning binding))) := by
    rw [List.map_map, List.map_map, List.forall₂_map_left_iff, List.forall₂_map_right_iff,
      List.forall₂_same]
    exact fun a ha => (h a ha).1
  constructor
  · rw [Covers, hbefore, hafter]
    exact hsound.below_weave hnames.knowsWords hlength hbelow
  · intro hcommutes
    rw [Commutes, hbefore, hafter, hsound.weave_eq_iff hnames.knowsWords hlength hbelow]
      at hcommutes
    obtain ⟨hparts, heach⟩ := hcommutes
    rw [List.map_map, List.map_map, List.map_inj_left] at heach
    refine .bound hvoid hnullable hargs ?_ fun a ha => (h a ha).2 (heach a ha)
    rw [hown, untouched_frame_iff hnames hsound hplaces]
    exact hparts

theorem settled_of_voidIsFree (hnames : NamesWords binding) (r : TypeRef)
    (hfree : VoidIsFree binding r) : Settled binding r := by
  induction r using induction_on_args with
  | h r ih =>
    have hinner : ∀ a ∈ r.args, Settled binding a := fun a ha => ih a ha (hfree.of_arg ha)
    by_cases hvoid : r.isVoid = true
    · exact settled_void hnames hvoid hfree
    have hvoid : r.isVoid = false := by simpa using hvoid
    cases hargs : r.args with
    | nil => exact settled_bare hnames hvoid hargs
    | cons arg more =>
      by_cases hnullable : r.nullable = true
      · exact settled_optional hnames hvoid hnullable hargs (hinner arg (by simp [hargs]))
      · exact settled_bound hnames hvoid (by simpa using hnullable) (by simp [hargs]) hinner

/-- The identity after a substitution is the old one with its words replaced where the
substitution reaches all parameters, and only there, as far as no reference without a value has
the name of a parameter. -/
theorem identity_of_substitution_iff_reached (hnames : NamesWords binding) (r : TypeRef) :
    (Reached binding r →
        (substitute binding r).identityText = replaceWords (meaning binding) r.identityText) ∧
      (VoidIsFree binding r →
        ((substitute binding r).identityText = replaceWords (meaning binding) r.identityText ↔
          Reached binding r)) :=
  ⟨fun h => h.commutes hnames,
    fun hfree => ⟨(settled_of_voidIsFree hnames r hfree).2, fun h => h.commutes hnames⟩⟩

/-! ## Rows of items -/

/-- Two parameters, one of them bound to a reference with arguments. -/
def itemBinding : List (String × TypeRef) :=
  [("T", { name := "System.String" }),
    ("U", { name := "Pair\x602", args := [{ name := "Code" }, { name := "Page" }] })]

theorem itemBinding_namesWords : NamesWords itemBinding := by
  intro entry hentry
  have hletters : itemBinding.all (fun entry => entry.1.toList.all MetadataName.isNameChar)
      = true := by
    decide
  have hsome : itemBinding.all (fun entry => !entry.1.toList.isEmpty) = true := by
    decide
  refine ⟨?_, List.all_eq_true.mp (List.all_eq_true.mp hletters entry hentry)⟩
  simpa using List.all_eq_true.mp hsome entry hentry

/-- A reference that holds one parameter alone and the other under a nullable wrapper. -/
def entryOfItems : TypeRef :=
  { name := "Map\x602+Entry",
    args := [{ name := "T" },
      { name := Document.nullableName, nullable := true,
        args := [{ name := "Seq\x601", args := [{ name := "U" }] }] }] }

theorem entryOfItems_voidIsFree : VoidIsFree itemBinding entryOfItems := by
  have hparameter : ∀ name, TypeRef.isVoid { name } = false →
      VoidIsFree itemBinding { name } := fun name hname =>
    voidIsFree_of_args hname (List.forall_mem_nil _)
  have hseq : VoidIsFree itemBinding { name := "Seq\x601", args := [{ name := "U" }] } :=
    voidIsFree_of_args (by decide) (List.forall_mem_singleton.mpr (hparameter "U" (by decide)))
  refine voidIsFree_of_args (by decide) (List.forall_mem_cons.mpr ⟨hparameter "T" (by decide), ?_⟩)
  rw [List.forall_mem_singleton]
  exact voidIsFree_of_args (by decide) (List.forall_mem_singleton.mpr hseq)

/-- All parameters are reached, also the one at the bottom. -/
theorem entryOfItems_reached :
    NamesWords itemBinding ∧ VoidIsFree itemBinding entryOfItems ∧
      Reached itemBinding entryOfItems ∧
      (substitute itemBinding entryOfItems).identity
        = "Map<System.String,Seq<Pair<Code,Page>>?>.Entry" := by
  have hnew : (substitute itemBinding entryOfItems).identity
      = "Map<System.String,Seq<Pair<Code,Page>>?>.Entry" := by
    decide
  have hold : replaceWords (meaning itemBinding) entryOfItems.identityText
      = "Map<System.String,Seq<Pair<Code,Page>>?>.Entry".toList := by
    decide +kernel
  refine ⟨itemBinding_namesWords, entryOfItems_voidIsFree, ?_, hnew⟩
  have hexact := (identity_of_substitution_iff_reached itemBinding_namesWords entryOfItems).2
    entryOfItems_voidIsFree
  refine hexact.mp ?_
  rw [hold, identityText, hnew]

/-- At any depth, a name without arguments is a parameter, perhaps with array or pointer suffixes,
or no word of the name is a parameter. -/
def Spelled (binding : List (String × TypeRef)) (r : TypeRef) : Prop :=
  ∀ part : TypeRef, part.StandsIn r →
    (part.args = [] ∧ ∃ name shape, (binding.lookup name).isSome = true ∧
      part.name.toList = name.toList ++ shape ∧ ∀ c ∈ shape, isShapeChar c = true) ∨
    ∀ word ∈ words part.name.toList, binding.lookup (String.ofList word) = none

/-- A sequence of one kind of items. -/
def seqOf (item : TypeRef) : TypeRef :=
  { name := "Seq\x601", args := [item] }

theorem seqOf_spelled {item : TypeRef} (shape : List Char) (hargs : item.args = [])
    (hname : item.name.toList = "T".toList ++ shape) (hshape : shape.all isShapeChar = true) :
    Spelled itemBinding (seqOf item) := by
  have hseq : ∀ word ∈ words "Seq\x601".toList,
      itemBinding.lookup (String.ofList word) = none := by
    decide
  intro part hpart
  cases hpart with
  | itself => exact .inr hseq
  | argument listed inside =>
    rw [seqOf, List.mem_singleton] at listed
    subst listed
    cases inside with
    | itself => exact .inl ⟨hargs, "T", shape, by decide, hname, List.all_eq_true.mp hshape⟩
    | argument listed _ =>
      rw [hargs] at listed
      cases listed

/-- An array of a parameter keeps the parameter, and a nullable parameter loses its mark. -/
theorem suffix_and_mark_missed :
    NamesWords itemBinding ∧ Spelled itemBinding (seqOf { name := "T[]" }) ∧
      Spelled itemBinding (seqOf { name := "T", nullable := true }) ∧
      (substitute itemBinding (seqOf { name := "T[]" })).identity = "Seq<T[]>" ∧
      replaceWords (meaning itemBinding) (seqOf { name := "T[]" }).identityText
        = "Seq<System.String[]>".toList ∧
      (substitute itemBinding (seqOf { name := "T", nullable := true })).identity
        = "Seq<System.String>" ∧
      replaceWords (meaning itemBinding) (seqOf { name := "T", nullable := true }).identityText
        = "Seq<System.String?>".toList := by
  have harray : Spelled itemBinding (seqOf { name := "T[]" }) :=
    seqOf_spelled "[]".toList rfl rfl (by decide)
  have hnullable : Spelled itemBinding (seqOf { name := "T", nullable := true }) :=
    seqOf_spelled [] rfl rfl (by decide)
  exact ⟨itemBinding_namesWords, harray, hnullable, by decide, by decide, by decide, by decide⟩

end ApiShell.TypeRef
