import ApiShell.Document.Reference
import ApiShell.Proofs.MetadataName
import Mathlib.Data.List.Forall2

/-!
# Identities of references

References are compared by their source name without aliases. Main statement: on well-formed
references that name is a faithful key, since it can be read back in one way only. A name ends
where its row of pieces does, arguments end at a comma or a closing bracket, and the question
marks behind a name count the nullable wrappers around it.
-/

namespace ApiShell.TypeRef

open MetadataName

/-! ## Well-formed references -/

/-- A wrapper around a nullable value. -/
structure IsOptional (r inner : TypeRef) : Prop where
  nullable : r.nullable = true
  notVoid : r.isVoid = false
  name : r.name = Document.nullableName
  args : r.args = [inner]

/-- A reference by a name that is made of segments and claims all arguments. -/
structure IsPlain (segments : List Segment) (r : TypeRef) : Prop where
  segments_ne_nil : segments ≠ []
  notNullable : r.nullable = false
  notVoid : r.isVoid = false
  name_ne : r.name ≠ "void"
  name : r.name.toList = spelling segments
  claims : (segments.map Segment.arity).sum = r.args.length

/-- References that follow the syntax of names at every depth. -/
inductive WellFormed : TypeRef → Prop
  | void : WellFormed .void
  | optional {r inner : TypeRef} (h : IsOptional r inner) (hinner : WellFormed inner) : WellFormed r
  | plain {segments : List Segment} {r : TypeRef} (h : IsPlain segments r)
      (hargs : ∀ a ∈ r.args, WellFormed a) : WellFormed r

/-- The three shapes of well-formed references. -/
inductive Form where
  | void
  | optional
  | plain
  deriving DecidableEq

def form (r : TypeRef) : Form :=
  if r.isVoid then .void else if r.nullable then .optional else .plain

/-- The characters of a name with dots for plus signs. -/
def dottedName (r : TypeRef) : List Char :=
  Text.replaceChar '+' '.' r.name.toList

/-- References of one form whose names agree once dots stand for plus signs, and whose arguments
agree in the same sense. -/
inductive SameReading : TypeRef → TypeRef → Prop
  | intro {r other : TypeRef} (form : r.form = other.form)
      (name : r.dottedName = other.dottedName) (args : List.Forall₂ SameReading r.args other.args) :
      SameReading r other

/-! ## The text of an identity -/

/-- The characters of the identity. -/
def identityText (r : TypeRef) : List Char :=
  r.identity.toList

/-- The identity of the reference without values. -/
def voidText : List Char := ['v', 'o', 'i', 'd']

theorem isNameChar_of_mem_voidText {c : Char} (h : c ∈ voidText) : isNameChar c = true := by
  have hletters : voidText.all isNameChar = true := by decide
  exact List.all_eq_true.mp hletters c h

theorem identityText_void : identityText .void = voidText := by
  decide

theorem identityText_optional {r inner : TypeRef} (h : IsOptional r inner) :
    r.identityText = inner.identityText ++ ['?'] := by
  obtain ⟨name, args, nullable, category, byRef⟩ := r
  obtain ⟨rfl, hvoid, -, rfl⟩ := h
  rw [isVoid] at hvoid
  rw [identityText, identity, sourceName, if_neg (by simpa using hvoid), if_pos rfl]
  simp [identityText, identity]

/-- The arguments must hold neither plus signs nor ampersands, which are edited afterwards. -/
theorem identityText_plain {segments : List Segment} {r : TypeRef} (h : IsPlain segments r)
    (hplus : ∀ a ∈ r.args, '+' ∉ a.identityText) (hamp : ∀ a ∈ r.args, '&' ∉ a.identityText) :
    r.identityText = fill (pieces segments) (r.args.map identityText) := by
  obtain ⟨name, args, nullable, category, byRef⟩ := r
  obtain ⟨hsome, rfl, hvoid, -, hname, hclaims⟩ := h
  rw [isVoid] at hvoid
  -- a name without arguments has its markers stripped, one with arguments has them filled
  cases args with
  | nil =>
    rw [identityText, identity, sourceName, if_neg (by simpa using hvoid),
      if_neg Bool.false_ne_true]
    exact bareName_eq hname hclaims
  | cons first more =>
    have hnames : sourceName false first :: sourceNames false more
        = (first :: more).map identity := by
      rw [sourceNames_eq]
      rfl
    have hlength : (segments.map Segment.arity).sum = ((first :: more).map identity).length := by
      rw [List.length_map]
      exact hclaims
    have htexts : ((first :: more).map identity).map String.toList
        = (first :: more).map identityText := List.map_map
    rw [identityText, identity, sourceName, if_neg (by simpa using hvoid),
      if_neg Bool.false_ne_true, hnames, boundName_eq hname hsome hlength, htexts]
    · intro arg harg
      obtain ⟨a, ha, rfl⟩ := List.mem_map.mp harg
      exact hplus a ha
    · intro arg harg
      obtain ⟨a, ha, rfl⟩ := List.mem_map.mp harg
      exact hamp a ha

/-- Well-formed references keep to the characters of names and the signs of arguments and of
wrappers. -/
theorem WellFormed.not_mem_identityText {r : TypeRef} (h : WellFormed r) {c : Char}
    (hname : isNameChar c = false) (hsign : c ∉ argumentSigns) (hmark : c ≠ '?') :
    c ∉ r.identityText := by
  induction h generalizing c with
  | void =>
    rw [identityText_void]
    intro hc
    exact ne_of_isNameChar (isNameChar_of_mem_voidText hc) hname rfl
  | optional h _ ih =>
    rw [identityText_optional h, List.mem_append, List.mem_singleton, not_or]
    exact ⟨ih hname hsign hmark, hmark⟩
  | plain h _ ih =>
    -- plus signs and ampersands first: without them the text of the name is known
    rw [identityText_plain h (fun a ha => ih a ha (by decide) (by decide) (by decide))
      (fun a ha => ih a ha (by decide) (by decide) (by decide))]
    refine not_mem_fill hname hsign (fun p => pieces_valid) fun arg harg => ?_
    obtain ⟨a, ha, rfl⟩ := List.mem_map.mp harg
    exact ih a ha hname hsign hmark

theorem WellFormed.identityText_plain {segments : List Segment} {r : TypeRef}
    (h : IsPlain segments r) (hargs : ∀ a ∈ r.args, WellFormed a) :
    r.identityText = fill (pieces segments) (r.args.map identityText) :=
  TypeRef.identityText_plain h
    (fun a ha => (hargs a ha).not_mem_identityText (by decide) (by decide) (by decide))
    (fun a ha => (hargs a ha).not_mem_identityText (by decide) (by decide) (by decide))

/-! ## Layouts

The identity of a well-formed reference is a row of pieces, filled with arguments, and behind it
a question mark for each wrapper. The reference without values is laid out as if its name were
its keyword. -/

/-- The pieces of the keyword for no value. -/
def voidRow : List Piece :=
  voidText.map .char

/-- How many wrappers stand around a row of pieces with its arguments. -/
inductive Layout : Nat → List Piece → List TypeRef → TypeRef → Prop
  | void : Layout 0 voidRow [] .void
  | plain {segments : List Segment} {r : TypeRef} (h : IsPlain segments r)
      (hargs : ∀ a ∈ r.args, WellFormed a) : Layout 0 (pieces segments) r.args r
  | optional {wraps : Nat} {row : List Piece} {args : List TypeRef} {r inner : TypeRef}
      (h : IsOptional r inner) (hinner : Layout wraps row args inner) :
      Layout (wraps + 1) row args r

namespace Layout

variable {wraps : Nat} {row : List Piece} {args : List TypeRef} {r : TypeRef}

theorem identityText_eq (h : Layout wraps row args r) :
    r.identityText = fill row (args.map identityText) ++ List.replicate wraps '?' := by
  induction h with
  | void => exact identityText_void
  | plain h hargs => rw [WellFormed.identityText_plain h hargs, List.replicate_zero, List.append_nil]
  | optional h _ ih =>
    rw [identityText_optional h, ih, List.replicate_succ', List.append_assoc]

theorem valid (h : Layout wraps row args r) : ∀ p ∈ row, p.Valid := by
  induction h with
  | void =>
    intro p hp
    obtain ⟨c, hc, rfl⟩ := List.mem_map.mp hp
    exact isNameChar_of_mem_voidText hc
  | plain => exact fun p => pieces_valid
  | optional _ _ ih => exact ih

theorem claims (h : Layout wraps row args r) : (row.map Piece.claim).sum = args.length := by
  induction h with
  | void => rfl
  | plain h _ => rw [claims_pieces, h.claims]
  | optional _ _ ih => exact ih

theorem args_wellFormed (h : Layout wraps row args r) : ∀ a ∈ args, WellFormed a := by
  induction h with
  | void => exact fun a ha => absurd ha List.not_mem_nil
  | plain _ hargs => exact hargs
  | optional _ _ ih => exact ih

end Layout

theorem form_void : form .void = .void := rfl

theorem IsOptional.form_eq {r inner : TypeRef} (h : IsOptional r inner) : r.form = .optional := by
  rw [form, h.notVoid, h.nullable]
  rfl

theorem IsPlain.form_eq {segments : List Segment} {r : TypeRef} (h : IsPlain segments r) :
    r.form = .plain := by
  rw [form, h.notVoid, h.notNullable]
  rfl

theorem IsPlain.dottedName_eq {segments : List Segment} {r : TypeRef} (h : IsPlain segments r) :
    r.dottedName = (pieces segments).flatMap Piece.spelling := by
  rw [dottedName, h.name, spelling_pieces]

/-- The keyword for no value is no row of a plain reference. -/
theorem IsPlain.pieces_ne_voidRow {segments : List Segment} {r : TypeRef}
    (h : IsPlain segments r) : pieces segments ≠ voidRow := by
  intro hrow
  have hdotted : Text.replaceChar '+' '.' r.name.toList = voidText := by
    have hname := h.dottedName_eq
    rw [hrow] at hname
    exact hname
  have hname := Text.eq_of_replaceChar_eq hdotted (by decide)
  exact h.name_ne (String.toList_inj.mp hname)

/-- References that are laid out alike are read alike when their arguments are. -/
theorem Layout.sameReading {wraps : Nat} {row : List Piece} {args others : List TypeRef}
    {r other : TypeRef} (h : Layout wraps row args r) (hother : Layout wraps row others other)
    (hsame : List.Forall₂ SameReading args others) : SameReading r other := by
  induction h generalizing other with
  | void =>
    -- the row is no variable, so it gives way to an equation before the cases
    generalize hrow : voidRow = row at hother
    cases hother with
    | void => exact .intro rfl rfl .nil
    | plain hplain _ => exact absurd hrow.symm hplain.pieces_ne_voidRow
  | @plain segments r h hargs =>
    generalize hrow : pieces segments = row at hother
    cases hother with
    | void => exact absurd hrow h.pieces_ne_voidRow
    | plain hplain _ =>
      refine .intro (by rw [h.form_eq, hplain.form_eq]) ?_ hsame
      rw [h.dottedName_eq, hplain.dottedName_eq, hrow]
  | optional h _ ih =>
    cases hother with
    | optional hopt hinner =>
      refine .intro (by rw [h.form_eq, hopt.form_eq]) ?_ ?_
      · rw [dottedName, dottedName, h.name, hopt.name]
      · rw [h.args, hopt.args]
        exact .cons (ih hinner hsame) .nil

/-! ## Reading identities back -/

/-- Nothing follows, or something that ends an argument. -/
def Closes (rest : List Char) : Prop :=
  ∀ c ∈ rest.head?, c = ',' ∨ c = '>'

/-- Nothing follows, or something that ends a row of pieces. -/
def Stops (rest : List Char) : Prop :=
  ∀ c ∈ rest.head?, c = ',' ∨ c = '>' ∨ c = '?'

/-- The identity of the reference is read off the start of a text in one way. -/
def Readable (r : TypeRef) : Prop :=
  ∀ ⦃other : TypeRef⦄ ⦃rest more : List Char⦄, WellFormed other → Closes rest → Closes more →
    r.identityText ++ rest = other.identityText ++ more → SameReading r other ∧ rest = more

/-- The arguments behind the first, the closing bracket and what follows it. -/
def closing : List (List Char) → List Char → List Char
  | [], rest => '>' :: rest
  | arg :: args, rest => ',' :: arg ++ closing args rest

theorem closing_closes (args : List (List Char)) (rest : List Char) :
    Closes (closing args rest) := by
  intro c hc
  cases args with
  | nil =>
    cases hc
    exact .inr rfl
  | cons arg more =>
    cases hc
    exact .inl rfl

theorem bracketed_append (arg : List Char) (args : List (List Char)) (rest : List Char) :
    Arity.bracketed (arg :: args) ++ rest = '<' :: (arg ++ closing args rest) := by
  have hjoin : ∀ (args : List (List Char)) (arg : List Char),
      Text.joinWith [','] (arg :: args) ++ '>' :: rest = arg ++ closing args rest := by
    intro args
    induction args with
    | nil =>
      intro arg
      rfl
    | cons next more ih =>
      intro arg
      rw [Text.joinWith_cons_of_ne_nil _ _ (List.cons_ne_nil next more), List.append_assoc, ih,
        List.append_assoc, List.singleton_append, closing, List.cons_append]
  rw [← hjoin args arg]
  simp [Arity.bracketed]

/-- Arguments are read one by one up to the closing bracket. -/
theorem closing_inj {args others : List TypeRef} {rest more : List Char}
    (hargs : ∀ a ∈ args, Readable a) (hothers : ∀ a ∈ others, WellFormed a)
    (h : closing (args.map identityText) rest = closing (others.map identityText) more) :
    List.Forall₂ SameReading args others ∧ rest = more := by
  induction args generalizing others with
  | nil =>
    cases others with
    | nil => exact ⟨.nil, (List.cons.inj h).2⟩
    | cons b others => exact absurd (List.cons.inj h).1 (by decide)
  | cons a args ih =>
    cases others with
    | nil => exact absurd (List.cons.inj h).1 (by decide)
    | cons b others =>
      obtain ⟨hsame, htail⟩ := hargs a List.mem_cons_self (hothers b List.mem_cons_self)
        (closing_closes _ _) (closing_closes _ _) (List.cons.inj h).2
      obtain ⟨hrest, hend⟩ := ih (fun x hx => hargs x (List.mem_cons_of_mem _ hx))
        (fun x hx => hothers x (List.mem_cons_of_mem _ hx)) htail
      exact ⟨.cons hsame hrest, hend⟩

/-- The first piece takes what it claims and leaves what the others claim. -/
theorem claims_cons {p : Piece} {row : List Piece} {args : List TypeRef}
    (h : ((p :: row).map Piece.claim).sum = args.length) :
    p.claim ≤ args.length ∧ (row.map Piece.claim).sum = (args.drop p.claim).length := by
  rw [List.map_cons, List.sum_cons] at h
  rw [List.length_drop]
  omega

/-- A marker puts the first argument that it claims behind a bracket. -/
theorem fill_marker_append {n : Nat} {args : List TypeRef} (hpos : 0 < n)
    (hlength : n ≤ args.length) (row : List Piece) (rest : List Char) :
    ∃ first others, args.take n = first :: others ∧
      fill (.marker n :: row) (args.map identityText) ++ rest
        = '<' :: (first.identityText ++ closing (others.map identityText)
          (fill row ((args.drop n).map identityText) ++ rest)) := by
  cases htake : args.take n with
  | nil =>
    have hzero := congrArg List.length htake
    rw [List.length_take, List.length_nil] at hzero
    omega
  | cons first others =>
    refine ⟨first, others, rfl, ?_⟩
    rw [fill, ← List.map_take, ← List.map_drop, htake, List.append_assoc, List.map_cons,
      bracketed_append]

/-- The character that a filled piece starts with. -/
def lead : Piece → Char
  | .char c => c
  | .marker _ => '<'

theorem fill_cons_append {p : Piece} {row : List Piece} {args : List TypeRef} (hvalid : p.Valid)
    (hclaims : ((p :: row).map Piece.claim).sum = args.length) (rest : List Char) :
    ∃ tail, fill (p :: row) (args.map identityText) ++ rest = lead p :: tail := by
  cases p with
  | char c => exact ⟨_, rfl⟩
  | marker n =>
    obtain ⟨first, others, -, htext⟩ := fill_marker_append hvalid (claims_cons hclaims).1 row rest
    exact ⟨_, htext⟩

/-- Nothing that starts a piece ends a row. -/
theorem not_stops_lead {p : Piece} (hvalid : p.Valid) (tail : List Char) :
    ¬ Stops (lead p :: tail) := by
  intro h
  have hstop : ∀ c, c = ',' ∨ c = '>' ∨ c = '?' → isNameChar c = false ∧ c ≠ '<' := by
    rintro c (rfl | rfl | rfl) <;> decide
  obtain ⟨hname, hbracket⟩ := hstop _ (h (lead p) rfl)
  cases p with
  | char c => exact ne_of_isNameChar hvalid hname rfl
  | marker n => exact hbracket rfl

/-- Markers that are followed by the same text claim the same arguments. -/
theorem fill_marker_inj {m n : Nat} {row row' : List Piece} {args others : List TypeRef}
    {rest more : List Char} (hm : 0 < m) (hn : 0 < n) (hlength : m ≤ args.length)
    (hlength' : n ≤ others.length) (hargs : ∀ a ∈ args, Readable a)
    (hothers : ∀ a ∈ others, WellFormed a)
    (h : fill (.marker m :: row) (args.map identityText) ++ rest
      = fill (.marker n :: row') (others.map identityText) ++ more) :
    m = n ∧ List.Forall₂ SameReading (args.take m) (others.take n) ∧
      fill row ((args.drop m).map identityText) ++ rest
        = fill row' ((others.drop n).map identityText) ++ more := by
  obtain ⟨a, as, htake, htext⟩ := fill_marker_append hm hlength row rest
  obtain ⟨b, bs, htake', htext'⟩ := fill_marker_append hn hlength' row' more
  rw [htext, htext'] at h
  have hread : ∀ x ∈ a :: as, Readable x := fun x hx =>
    hargs x (List.mem_of_mem_take (htake ▸ hx))
  have hformed : ∀ x ∈ b :: bs, WellFormed x := fun x hx =>
    hothers x (List.mem_of_mem_take (htake' ▸ hx))
  -- the opening bracket and the first argument, then the arguments behind it
  obtain ⟨hfirst, hclosing⟩ := hread a List.mem_cons_self (hformed b List.mem_cons_self)
    (closing_closes _ _) (closing_closes _ _) (List.cons.inj h).2
  obtain ⟨hmore, htail⟩ := closing_inj (fun x hx => hread x (List.mem_cons_of_mem _ hx))
    (fun x hx => hformed x (List.mem_cons_of_mem _ hx)) hclosing
  have hsame : List.Forall₂ SameReading (args.take m) (others.take n) := by
    rw [htake, htake']
    exact .cons hfirst hmore
  have hcount := hsame.length_eq
  rw [List.length_take, List.length_take] at hcount
  exact ⟨by omega, hsame, htail⟩

/-- A row and the arguments that fill it are read off the start of a text in one way. -/
theorem fill_inj {row row' : List Piece} {args others : List TypeRef} {rest more : List Char}
    (hvalid : ∀ p ∈ row, p.Valid) (hvalid' : ∀ p ∈ row', p.Valid)
    (hclaims : (row.map Piece.claim).sum = args.length)
    (hclaims' : (row'.map Piece.claim).sum = others.length)
    (hargs : ∀ a ∈ args, Readable a) (hothers : ∀ a ∈ others, WellFormed a)
    (hrest : Stops rest) (hmore : Stops more)
    (h : fill row (args.map identityText) ++ rest = fill row' (others.map identityText) ++ more) :
    row = row' ∧ List.Forall₂ SameReading args others ∧ rest = more := by
  -- along the first row; references are not taken apart, since `hargs` speaks for them
  induction row generalizing row' args others with
  | nil =>
    cases row' with
    | nil =>
      have hnone : args = [] := List.eq_nil_of_length_eq_zero hclaims.symm
      have hnone' : others = [] := List.eq_nil_of_length_eq_zero hclaims'.symm
      subst hnone hnone'
      exact ⟨rfl, .nil, h⟩
    | cons q row' =>
      have hq := hvalid' q List.mem_cons_self
      obtain ⟨tail, htail⟩ := fill_cons_append hq hclaims' more
      rw [fill, List.nil_append, htail] at h
      exact absurd (h ▸ hrest) (not_stops_lead hq tail)
  | cons p row ih =>
    have hp := hvalid p List.mem_cons_self
    cases row' with
    | nil =>
      obtain ⟨tail, htail⟩ := fill_cons_append hp hclaims rest
      rw [htail, fill, List.nil_append] at h
      exact absurd (h ▸ hmore) (not_stops_lead hp tail)
    | cons q row' =>
      have hq := hvalid' q List.mem_cons_self
      have hrow : ∀ x ∈ row, x.Valid := fun x hx => hvalid x (List.mem_cons_of_mem _ hx)
      have hrow' : ∀ x ∈ row', x.Valid := fun x hx => hvalid' x (List.mem_cons_of_mem _ hx)
      obtain ⟨hlength, hleft⟩ := claims_cons hclaims
      obtain ⟨hlength', hleft'⟩ := claims_cons hclaims'
      cases p with
      | char c =>
        cases q with
        | char d =>
          obtain ⟨rfl, htail⟩ := List.cons.inj h
          obtain ⟨rfl, hsame, hend⟩ := ih hrow hrow' hleft hleft' hargs hothers htail
          exact ⟨rfl, hsame, hend⟩
        | marker n =>
          obtain ⟨tail, htail⟩ := fill_cons_append hq hclaims' more
          rw [htail, lead] at h
          exact absurd (List.cons.inj h).1 (ne_of_isNameChar hp (by decide))
      | marker m =>
        cases q with
        | char d =>
          obtain ⟨tail, htail⟩ := fill_cons_append hp hclaims rest
          rw [htail, lead] at h
          exact absurd (List.cons.inj h).1.symm (ne_of_isNameChar hq (by decide))
        | marker n =>
          obtain ⟨rfl, htaken, htail⟩ :=
            fill_marker_inj hp hq hlength hlength' hargs hothers h
          obtain ⟨rfl, hdropped, hend⟩ := ih hrow hrow' hleft hleft'
            (fun x hx => hargs x (List.mem_of_mem_drop hx))
            (fun x hx => hothers x (List.mem_of_mem_drop hx)) htail
          refine ⟨rfl, ?_, hend⟩
          rw [← List.take_append_drop m args, ← List.take_append_drop m others]
          exact List.rel_append htaken hdropped

theorem stops_wraps (wraps : Nat) {rest : List Char} (h : Closes rest) :
    Stops (List.replicate wraps '?' ++ rest) := by
  intro c hc
  cases wraps with
  | zero =>
    rcases h c hc with hcomma | hbracket
    · exact .inl hcomma
    · exact .inr (.inl hbracket)
  | succ n =>
    cases hc
    exact .inr (.inr rfl)

/-- The question marks behind a row can be counted. -/
theorem wraps_inj {wraps wraps' : Nat} {rest more : List Char} (hrest : Closes rest)
    (hmore : Closes more)
    (h : List.replicate wraps '?' ++ rest = List.replicate wraps' '?' ++ more) :
    wraps = wraps' ∧ rest = more := by
  have hend : ∀ {text tail : List Char}, Closes text → text ≠ '?' :: tail := by
    rintro text tail htext rfl
    exact absurd (htext '?' rfl) (by decide)
  induction wraps generalizing wraps' with
  | zero =>
    cases wraps' with
    | zero => exact ⟨rfl, h⟩
    | succ n => exact absurd h (hend hrest)
  | succ n ih =>
    cases wraps' with
    | zero => exact absurd h.symm (hend hmore)
    | succ m =>
      obtain ⟨rfl, hsame⟩ := ih (List.cons.inj h).2
      exact ⟨rfl, hsame⟩

/-- Every well-formed reference has a layout. -/
theorem WellFormed.exists_layout {r : TypeRef} (h : WellFormed r) :
    ∃ wraps row args, Layout wraps row args r := by
  induction h with
  | void => exact ⟨_, _, _, .void⟩
  | optional h _ ih =>
    obtain ⟨wraps, row, args, hinner⟩ := ih
    exact ⟨_, _, _, .optional h hinner⟩
  | plain h hargs => exact ⟨_, _, _, .plain h hargs⟩

/-- A reference is readable when the arguments of its layout are. -/
theorem Layout.readable {wraps : Nat} {row : List Piece} {args : List TypeRef} {r : TypeRef}
    (h : Layout wraps row args r) (hargs : ∀ a ∈ args, Readable a) : Readable r := by
  intro other rest more hother hrest hmore heq
  obtain ⟨wraps', row', others, hlayout⟩ := hother.exists_layout
  rw [h.identityText_eq, hlayout.identityText_eq, List.append_assoc, List.append_assoc] at heq
  obtain ⟨rfl, hsame, hwraps⟩ := fill_inj h.valid hlayout.valid h.claims hlayout.claims hargs
    hlayout.args_wellFormed (stops_wraps wraps hrest) (stops_wraps wraps' hmore) heq
  obtain ⟨rfl, hend⟩ := wraps_inj hrest hmore hwraps
  exact ⟨h.sameReading hlayout hsame, hend⟩

theorem WellFormed.readable {r : TypeRef} (h : WellFormed r) : Readable r := by
  -- the layout is carried along, since a wrapper hands on the arguments of what it wraps
  have hlayout : ∃ wraps row args, Layout wraps row args r ∧ ∀ a ∈ args, Readable a := by
    induction h with
    | void => exact ⟨_, _, _, .void, fun a ha => absurd ha List.not_mem_nil⟩
    | optional h _ ih =>
      obtain ⟨wraps, row, args, hinner, hargs⟩ := ih
      exact ⟨_, _, _, .optional h hinner, hargs⟩
    | plain h hargs ih =>
      refine ⟨_, _, _, .plain h hargs, fun a ha => ?_⟩
      obtain ⟨wraps, row, args, hlayout, hreadable⟩ := ih a ha
      exact hlayout.readable hreadable
  obtain ⟨wraps, row, args, hlayout, hargs⟩ := hlayout
  exact hlayout.readable hargs

/-! ## The key -/

/-- Arguments that are read alike have the same identities as soon as each of them does. -/
theorem map_identityText_eq {args others : List TypeRef}
    (hsame : List.Forall₂ SameReading args others) (hothers : ∀ b ∈ others, WellFormed b)
    (heach : ∀ a ∈ args, ∀ ⦃b⦄, WellFormed b → SameReading a b → a.identityText = b.identityText) :
    args.map identityText = others.map identityText := by
  induction hsame with
  | nil => rfl
  | cons hfirst _ ih =>
    rw [List.map_cons, List.map_cons,
      heach _ List.mem_cons_self (hothers _ List.mem_cons_self) hfirst,
      ih (fun b hb => hothers b (List.mem_cons_of_mem _ hb))
        (fun a ha => heach a (List.mem_cons_of_mem _ ha))]

/-- References that are read alike have the same identity. -/
theorem WellFormed.identityText_eq {r other : TypeRef} (h : WellFormed r) (hother : WellFormed other)
    (hsame : SameReading r other) : r.identityText = other.identityText := by
  induction h generalizing other with
  | void =>
    obtain ⟨hform, -, -⟩ := hsame
    cases hother with
    | void => rfl
    | optional h _ =>
      rw [form_void, h.form_eq] at hform
      cases hform
    | plain h _ =>
      rw [form_void, h.form_eq] at hform
      cases hform
  | optional h _ ih =>
    obtain ⟨hform, -, hargs⟩ := hsame
    rw [h.form_eq] at hform
    cases hother with
    | void => cases hform
    | optional hopt hinner =>
      rw [h.args, hopt.args] at hargs
      cases hargs with
      | cons hfirst _ => rw [identityText_optional h, identityText_optional hopt, ih hinner hfirst]
    | plain hplain _ =>
      rw [hplain.form_eq] at hform
      cases hform
  | plain h hargs ih =>
    obtain ⟨hform, hname, hsame⟩ := hsame
    rw [h.form_eq] at hform
    cases hother with
    | void => cases hform
    | optional hopt _ =>
      rw [hopt.form_eq] at hform
      cases hform
    | plain hplain hothers =>
      rw [dottedName, dottedName, h.name, hplain.name, ← pieces_eq_iff] at hname
      rw [identityText_plain h hargs, identityText_plain hplain hothers, hname,
        map_identityText_eq hsame hothers ih]

theorem Closes.nil : Closes [] :=
  fun _ h => absurd h (by simp)

/-- The identity is a faithful key: well-formed references have the same one exactly when they
are read alike. -/
theorem identity_eq_iff_sameReading {r other : TypeRef} (h : WellFormed r)
    (hother : WellFormed other) : r.identity = other.identity ↔ SameReading r other := by
  constructor
  · intro heq
    have htext : r.identityText ++ [] = other.identityText ++ [] := by
      rw [identityText, identityText, heq]
    exact (h.readable hother .nil .nil htext).1
  · intro hsame
    exact String.toList_inj.mp (h.identityText_eq hother hsame)

/-! ## Entries of maps -/

def intRef : TypeRef := { name := "System.Int32", category := .primitive }

def optionalInt (category : Category) : TypeRef :=
  { name := Document.nullableName, args := [intRef], nullable := true, category }

/-- A type that is nested in one with two parameters. -/
def entryRef (name : String) : TypeRef :=
  { name, args := [optionalInt .valueType, intRef] }

theorem intRef_wellFormed : WellFormed intRef := by
  have hplain : IsPlain [⟨"System.Int32".toList, 0, by decide, by decide⟩] intRef := by
    constructor <;> decide
  exact .plain hplain fun a ha => absurd ha List.not_mem_nil

theorem entryRef_wellFormed {name : String} {segments : List Segment}
    (h : IsPlain segments (entryRef name)) : WellFormed (entryRef name) := by
  refine .plain h fun a ha => ?_
  simp only [entryRef, List.mem_cons, List.not_mem_nil, or_false] at ha
  rcases ha with rfl | rfl
  · exact .optional ⟨rfl, by decide, rfl, rfl⟩ intRef_wellFormed
  · exact intRef_wellFormed

def entrySegment : Segment := ⟨"Entry".toList, 0, by decide, by decide⟩

theorem mapEntry_isPlain : IsPlain
    [⟨"Maps.Map".toList, 2, by decide, by decide⟩, entrySegment]
    (entryRef "Maps.Map\x602+Entry") := by
  constructor <;> decide

theorem nestedMapEntry_isPlain : IsPlain
    [⟨"Maps".toList, 0, by decide, by decide⟩, ⟨"Map".toList, 2, by decide, by decide⟩,
      entrySegment]
    (entryRef "Maps+Map\x602+Entry") := by
  constructor <;> decide

/-- A map in a namespace and a map in a class of the same name are not told apart. -/
theorem mapEntry_sameReading :
    WellFormed (entryRef "Maps.Map\x602+Entry") ∧ WellFormed (entryRef "Maps+Map\x602+Entry") ∧
      (entryRef "Maps.Map\x602+Entry").identity = (entryRef "Maps+Map\x602+Entry").identity ∧
      SameReading (entryRef "Maps.Map\x602+Entry") (entryRef "Maps+Map\x602+Entry") := by
  have hspaced := entryRef_wellFormed mapEntry_isPlain
  have hnested := entryRef_wellFormed nestedMapEntry_isPlain
  have hidentity :
      (entryRef "Maps.Map\x602+Entry").identity = (entryRef "Maps+Map\x602+Entry").identity := by
    decide
  exact ⟨hspaced, hnested, hidentity, (identity_eq_iff_sameReading hspaced hnested).mp hidentity⟩

/-- A wrapper whose category says that there is no value loses its argument: its identity is that
of the type without values, which is read differently. -/
theorem void_wrapper_identity_eq_void :
    (optionalInt .void).nullable = true ∧ (optionalInt .void).name = Document.nullableName ∧
      (optionalInt .void).args = [intRef] ∧ WellFormed intRef ∧
      (optionalInt .void).identity = TypeRef.void.identity ∧
      ¬ SameReading (optionalInt .void) .void := by
  refine ⟨rfl, rfl, rfl, intRef_wellFormed, by decide, ?_⟩
  rintro ⟨-, -, hargs⟩
  cases hargs

end ApiShell.TypeRef
