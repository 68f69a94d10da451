import ApiShell.Proofs.ArityMarkers
import ApiShell.TypeRef.Name
import Mathlib.Algebra.GroupWithZero.Nat

/-!
# Metadata names and their source names

A well-formed metadata name is a row of segments with plus signs between them, and each segment
may end in a marker that claims arguments. Once dots stand for the plus signs, such a name is a
row of pieces: characters and markers. Main statements: the source name of a name with arguments
is that row with the arguments filled in for the markers, and the row can be read off the dotted
name.
-/

namespace ApiShell.MetadataName

/-! ## Segments and pieces -/

/-- The characters of a name, apart from the plus signs and the markers: ASCII letters and
digits, the underscore and the dot. -/
def isNameChar (c : Char) : Bool :=
  c.isAlphanum || c = '_' || c = '.'

theorem ne_of_isNameChar {c other : Char} (h : isNameChar c = true)
    (hother : isNameChar other = false) : c ≠ other := by
  rintro rfl
  rw [h] at hother
  cases hother

/-- A segment of a metadata name. It claims no arguments when it has no marker, so its arity is
zero exactly then. -/
structure Segment where
  base : List Char
  arity : Nat := 0
  base_ne_nil : base ≠ []
  base_chars : base.all isNameChar = true

theorem Segment.isNameChar_of_mem {s : Segment} {c : Char} (h : c ∈ s.base) :
    isNameChar c = true :=
  List.all_eq_true.mp s.base_chars c h

/-- The marker of an arity, which has no leading zero; there is none for zero. -/
def marker (n : Nat) : List Char :=
  if n = 0 then [] else Arity.mark :: Nat.toDigits 10 n

def Segment.spelling (s : Segment) : List Char :=
  s.base ++ marker s.arity

/-- The name that segments make. -/
def spelling (segments : List Segment) : List Char :=
  Text.joinWith ['+'] (segments.map Segment.spelling)

/-- What a dotted name is made of. -/
inductive Piece where
  | char (c : Char)
  | marker (arity : Nat)

namespace Piece

def spelling : Piece → List Char
  | .char c => [c]
  | .marker n => MetadataName.marker n

/-- How many arguments a piece claims. -/
def claim : Piece → Nat
  | .char _ => 0
  | .marker n => n

/-- Characters come from names, and a marker claims something. -/
def Valid : Piece → Prop
  | .char c => isNameChar c = true
  | .marker n => 0 < n

end Piece

def Segment.pieces (s : Segment) : List Piece :=
  s.base.map .char ++ if s.arity = 0 then [] else [.marker s.arity]

/-- The pieces of the dotted name. -/
def pieces : List Segment → List Piece
  | [] => []
  | [s] => s.pieces
  | s :: rest => s.pieces ++ .char '.' :: pieces rest

/-- The dotted name with arguments in angle brackets where the markers stand. -/
def fill : List Piece → List (List Char) → List Char
  | [], _ => []
  | .char c :: rest, args => c :: fill rest args
  | .marker n :: rest, args => Arity.bracketed (args.take n) ++ fill rest (args.drop n)

/-! ## Spellings -/

theorem mark_not_mem_base (s : Segment) : Arity.mark ∉ s.base :=
  fun h => ne_of_isNameChar (Segment.isNameChar_of_mem h) (by decide) rfl

theorem not_mem_marker {c : Char} (hdigit : c.isDigit = false) (hmark : c ≠ Arity.mark) (n : Nat) :
    c ∉ marker n := by
  rw [marker]
  split
  · exact List.not_mem_nil
  · rw [List.mem_cons, not_or]
    refine ⟨hmark, fun h => ?_⟩
    rw [Nat.isDigit_of_mem_toDigits (by decide) (by decide) h] at hdigit
    cases hdigit

/-- A character that is neither a name's nor a marker's stands in no segment. -/
theorem not_mem_spelling {c : Char} (hname : isNameChar c = false) (hmark : c ≠ Arity.mark)
    (s : Segment) : c ∉ s.spelling := by
  have hdigit : c.isDigit = false := by
    by_contra hdigit
    simp_all [isNameChar, Char.isAlphanum]
  rw [Segment.spelling, List.mem_append, not_or]
  refine ⟨fun h => ne_of_isNameChar (Segment.isNameChar_of_mem h) hname rfl, ?_⟩
  exact not_mem_marker hdigit hmark s.arity

theorem not_mem_spelling_all {c : Char} (hname : isNameChar c = false) (hmark : c ≠ Arity.mark)
    (hplus : c ≠ '+') (segments : List Segment) : c ∉ spelling segments := by
  refine Text.not_mem_joinWith (by simpa using hplus) fun piece hpiece => ?_
  obtain ⟨s, -, rfl⟩ := List.mem_map.mp hpiece
  exact not_mem_spelling hname hmark s

theorem splitOn_spelling {segments : List Segment} (hsome : segments ≠ []) :
    Text.splitOn '+' (spelling segments) = segments.map Segment.spelling := by
  refine Text.splitOn_joinWith (by simpa using hsome) fun piece hpiece => ?_
  obtain ⟨s, -, rfl⟩ := List.mem_map.mp hpiece
  exact not_mem_spelling (by decide) (by decide) s

/-- The pieces spell the dotted name. -/
theorem spelling_pieces (segments : List Segment) :
    (pieces segments).flatMap Piece.spelling
      = Text.replaceChar '+' '.' (spelling segments) := by
  have hone : ∀ s : Segment, s.pieces.flatMap Piece.spelling = s.spelling := by
    intro s
    rw [Segment.pieces, Segment.spelling, marker, List.flatMap_append, List.flatMap_map]
    split <;> simp [Piece.spelling, marker, *]
  have hkeep : ∀ s : Segment, Text.replaceChar '+' '.' s.spelling = s.spelling := fun s =>
    Text.replaceChar_of_not_mem (not_mem_spelling (by decide) (by decide) s)
  fun_induction pieces segments with
  | case1 => rfl
  | case2 s =>
    rw [hone]
    exact (hkeep s).symm
  | case3 s rest hmore ih =>
    have hmap : rest.map Segment.spelling ≠ [] := by simpa using hmore
    rw [List.flatMap_append, hone, List.flatMap_cons, ih, spelling, spelling, List.map_cons,
      Text.joinWith_cons_of_ne_nil _ _ hmap]
    simp only [Text.replaceChar, List.map_append] at hkeep ⊢
    rw [hkeep]
    simp [Piece.spelling]

theorem pieces_valid {segments : List Segment} {p : Piece} (h : p ∈ pieces segments) : p.Valid := by
  have hone : ∀ {s : Segment}, p ∈ s.pieces → p.Valid := by
    intro s hp
    rw [Segment.pieces, List.mem_append] at hp
    rcases hp with hp | hp
    · obtain ⟨c, hc, rfl⟩ := List.mem_map.mp hp
      exact Segment.isNameChar_of_mem hc
    · split at hp
      · cases hp
      · next harity =>
        rw [List.mem_singleton] at hp
        subst hp
        exact Nat.pos_of_ne_zero harity
  fun_induction pieces segments with
  | case1 => cases h
  | case2 s => exact hone h
  | case3 s rest _ ih =>
    rw [List.mem_append, List.mem_cons] at h
    rcases h with h | rfl | h
    · exact hone h
    · show isNameChar '.' = true
      decide
    · exact ih h

theorem claims_pieces (segments : List Segment) :
    ((pieces segments).map Piece.claim).sum = (segments.map Segment.arity).sum := by
  have hone : ∀ s : Segment, (s.pieces.map Piece.claim).sum = s.arity := by
    intro s
    have hbase : ((s.base.map Piece.char).map Piece.claim).sum = 0 := by
      induction s.base with
      | nil => rfl
      | cons c more ih => simpa [Piece.claim] using ih
    rw [Segment.pieces, List.map_append, List.sum_append, hbase]
    split
    · next h => simp [h]
    · simp [Piece.claim]
  fun_induction pieces segments with
  | case1 => rfl
  | case2 s => simp [hone]
  | case3 s rest _ ih => simp [hone, ih, Piece.claim]

/-! ## Names without arguments -/

/-- A marker behind other characters is the first one, and nothing follows it. -/
theorem firstMarker_toDigits {base : List Char} (h : Arity.mark ∉ base) (n : Nat) :
    Arity.FirstMarker base (Nat.toDigits 10 n) [] where
  unmarked := Arity.unmarked_of_not_mem h
  some_digit := Nat.toDigits_ne_nil
  all_digits := fun _ hc => Text.isDecimalDigit_of_mem_toDigits hc
  longest := rfl

theorem stripFrom_of_not_mem {chars : List Char} (h : Arity.mark ∉ chars) :
    Arity.stripFrom false chars = chars :=
  Arity.stripFrom_of_unmarked (Arity.unmarked_of_not_mem h)

/-- Stripping takes the marker off a segment. -/
theorem stripFrom_marker {base : List Char} (h : Arity.mark ∉ base) (n : Nat) :
    Arity.stripFrom false (base ++ marker n) = base := by
  rw [marker]
  split
  · rw [List.append_nil, stripFrom_of_not_mem h]
  · have hstripped := Arity.stripFrom_of_firstMarker (firstMarker_toDigits h n)
    simpa [Arity.stripFrom] using hstripped

/-- Without markers there is nothing to fill in. -/
theorem fill_of_unclaimed {row : List Piece} (h : (row.map Piece.claim).sum = 0)
    (hvalid : ∀ p ∈ row, p.Valid) : fill row [] = row.flatMap Piece.spelling := by
  induction row with
  | nil => rfl
  | cons p rest ih =>
    rw [List.map_cons, List.sum_cons] at h
    have hrest := ih (by omega) fun q hq => hvalid q (List.mem_cons_of_mem _ hq)
    cases p with
    | char c => rw [fill, hrest, List.flatMap_cons, Piece.spelling, List.singleton_append]
    | marker n =>
      have hpos : 0 < n := hvalid _ List.mem_cons_self
      have hzero : n = 0 := by
        have : Piece.claim (.marker n) = n := rfl
        omega
      omega

theorem mark_not_mem_spelling {segments : List Segment}
    (h : (segments.map Segment.arity).sum = 0) : Arity.mark ∉ spelling segments := by
  refine Text.not_mem_joinWith (by decide) fun piece hpiece => ?_
  obtain ⟨s, hs, rfl⟩ := List.mem_map.mp hpiece
  have harity : s.arity = 0 :=
    List.sum_eq_zero_iff_forall_eq_nat.mp h _ (List.mem_map_of_mem hs)
  simpa [Segment.spelling, marker, harity] using mark_not_mem_base s

/-- The source name of a name that claims no arguments is the dotted name. -/
theorem bareName_eq {name : String} {segments : List Segment}
    (hname : name.toList = spelling segments) (hclaims : (segments.map Segment.arity).sum = 0) :
    (TypeRef.bareName false name).toList = fill (pieces segments) [] := by
  have hamp : '&' ∉ Text.replaceChar '+' '.' (spelling segments) := by
    rw [Text.replaceChar, List.mem_map]
    rintro ⟨c, hc, hamp⟩
    split at hamp
    · cases hamp
    · subst hamp
      exact not_mem_spelling_all (by decide) (by decide) (by decide) segments hc
  rw [TypeRef.bareName, if_neg (by decide), String.toList_ofList, TypeRef.dotted, hname,
    stripFrom_of_not_mem (mark_not_mem_spelling hclaims), Text.dropEnds_of_not_mem hamp,
    ← spelling_pieces, fill_of_unclaimed (by rw [claims_pieces, hclaims]) fun p => pieces_valid]

/-! ## Names with arguments -/

/-- A segment is cut at its marker. -/
theorem cut?_marker {base : List Char} (h : Arity.mark ∉ base) (n : Nat) :
    Arity.cut? (base ++ marker n) = if n = 0 then none else some ⟨base, n, []⟩ := by
  rw [marker]
  split
  · rw [List.append_nil, Arity.cut?_of_unmarked (Arity.unmarked_of_not_mem h)]
  · have hcut := Arity.cut?_of_firstMarker (firstMarker_toDigits h n)
    rwa [List.append_nil, Text.digitsValue_toDigits] at hcut

/-- A segment takes as many of the arguments as it claims. -/
theorem attachTo_marker {base : List Char} (h : Arity.mark ∉ base) (n : Nat)
    (rest args : List (List Char)) :
    Arity.attachTo ((base ++ marker n) :: rest) args
      = ((base ++ Arity.bracketed (args.take n)) :: (Arity.attachTo rest (args.drop n)).1,
        (Arity.attachTo rest (args.drop n)).2) := by
  rw [Arity.attachTo, cut?_marker h]
  by_cases hnone : n = 0
  · simp [hnone, marker, Arity.bracketed]
  · simp [hnone]

theorem attachTo_cons (s : Segment) (rest args : List (List Char)) :
    Arity.attachTo (s.spelling :: rest) args
      = ((s.base ++ Arity.bracketed (args.take s.arity)) ::
          (Arity.attachTo rest (args.drop s.arity)).1,
        (Arity.attachTo rest (args.drop s.arity)).2) :=
  attachTo_marker (mark_not_mem_base s) s.arity rest args

theorem fill_append_segment (s : Segment) (rest : List Piece) (args : List (List Char)) :
    fill (s.pieces ++ rest) args
      = s.base ++ Arity.bracketed (args.take s.arity) ++ fill rest (args.drop s.arity) := by
  rw [Segment.pieces, List.append_assoc]
  induction s.base with
  | nil =>
    by_cases harity : s.arity = 0
    · simp [harity, Arity.bracketed]
    · simp [harity, fill]
  | cons c more ih => simp only [List.map_cons, List.cons_append, fill, ih]

/-- Arguments that the segments claim one by one are those that fill the pieces. -/
theorem attachTo_spelling {segments : List Segment} {args : List (List Char)}
    (h : (segments.map Segment.arity).sum = args.length) :
    Text.joinWith ['.'] (Arity.attachTo (segments.map Segment.spelling) args).1
        = fill (pieces segments) args ∧
      (Arity.attachTo (segments.map Segment.spelling) args).2 = [] := by
  fun_induction pieces segments generalizing args with
  | case1 =>
    have hnil : args = [] := List.eq_nil_of_length_eq_zero h.symm
    subst hnil
    exact ⟨rfl, rfl⟩
  | case2 s =>
    have hall : args.drop s.arity = [] := List.drop_eq_nil_of_le (by simpa using h.ge)
    have hfill := fill_append_segment s [] args
    rw [List.append_nil, fill, List.append_nil] at hfill
    rw [List.map_singleton, attachTo_cons, hall, hfill]
    exact ⟨rfl, rfl⟩
  | case3 s rest hmore ih =>
    rw [List.map_cons, List.sum_cons] at h
    have hrest : (rest.map Segment.arity).sum = (args.drop s.arity).length := by
      rw [List.length_drop]
      omega
    obtain ⟨hjoined, hleft⟩ := ih hrest
    have hdone : (Arity.attachTo (rest.map Segment.spelling) (args.drop s.arity)).1 ≠ [] := by
      cases rest with
      | nil => exact absurd rfl hmore
      | cons t more =>
        rw [List.map_cons, attachTo_cons]
        exact List.cons_ne_nil _ _
    rw [List.map_cons, attachTo_cons]
    refine ⟨?_, hleft⟩
    rw [Text.joinWith_cons_of_ne_nil _ _ hdone, hjoined, fill_append_segment, fill,
      List.append_assoc, List.singleton_append]

/-- The signs that stand around and between arguments. -/
def argumentSigns : List Char := ['<', ',', '>']

theorem not_mem_bracketed {c : Char} (hsign : c ∉ argumentSigns) {args : List (List Char)}
    (h : ∀ arg ∈ args, c ∉ arg) : c ∉ Arity.bracketed args := by
  simp only [argumentSigns, List.mem_cons, List.not_mem_nil, or_false, not_or] at hsign
  have hinside : c ∉ Text.joinWith [','] args := Text.not_mem_joinWith (by simpa using hsign.2.1) h
  rw [Arity.bracketed]
  split
  · exact List.not_mem_nil
  · simp [hsign, hinside]

/-- A character that is neither a name's nor such a sign is in a filled name only through an
argument. -/
theorem not_mem_fill {c : Char} (hname : isNameChar c = false) (hsign : c ∉ argumentSigns)
    {row : List Piece} (hvalid : ∀ p ∈ row, p.Valid) {args : List (List Char)}
    (hargs : ∀ arg ∈ args, c ∉ arg) : c ∉ fill row args := by
  induction row generalizing args with
  | nil => exact List.not_mem_nil
  | cons p rest ih =>
    have hrest : ∀ q ∈ rest, q.Valid := fun q hq => hvalid q (List.mem_cons_of_mem _ hq)
    cases p with
    | char d =>
      have hd : isNameChar d = true := hvalid _ List.mem_cons_self
      rw [fill, List.mem_cons, not_or]
      exact ⟨(ne_of_isNameChar hd hname).symm, ih hrest hargs⟩
    | marker n =>
      have hmore : c ∉ fill rest (args.drop n) :=
        ih hrest fun arg harg => hargs arg (List.mem_of_mem_drop harg)
      rw [fill, List.mem_append, not_or]
      exact ⟨not_mem_bracketed hsign fun arg harg => hargs arg (List.mem_of_mem_take harg), hmore⟩

/-- The source name of a name with as many arguments as it claims fills them in. -/
theorem boundName_eq {name : String} {segments : List Segment} {args : List String}
    (hname : name.toList = spelling segments) (hsome : segments ≠ [])
    (hclaims : (segments.map Segment.arity).sum = args.length)
    (hplus : ∀ arg ∈ args, '+' ∉ arg.toList) (hamp : ∀ arg ∈ args, '&' ∉ arg.toList) :
    (TypeRef.boundName name args).toList = fill (pieces segments) (args.map String.toList) := by
  have hlength : (segments.map Segment.arity).sum = (args.map String.toList).length := by
    rw [List.length_map, hclaims]
  obtain ⟨hjoined, hleft⟩ := attachTo_spelling hlength
  have hattach : Arity.attach (spelling segments) (args.map String.toList)
      = fill (pieces segments) (args.map String.toList) := by
    have hnone : Arity.bracketed [] = [] := rfl
    rw [Arity.attach, splitOn_spelling hsome]
    dsimp only
    rw [hjoined, hleft, hnone, List.append_nil]
  have hclean : ∀ c, isNameChar c = false → c ∉ argumentSigns → (∀ arg ∈ args, c ∉ arg.toList) →
      c ∉ fill (pieces segments) (args.map String.toList) := by
    intro c hc hsign hargs
    refine not_mem_fill hc hsign (fun p => pieces_valid) fun text htext => ?_
    obtain ⟨arg, harg, rfl⟩ := List.mem_map.mp htext
    exact hargs arg harg
  -- the marks at the end are dropped before the arguments come in and once more afterwards
  have hmarks : '&' ∉ spelling segments :=
    not_mem_spelling_all (by decide) (by decide) (by decide) segments
  rw [TypeRef.boundName, String.toList_ofList, TypeRef.dotted, hname, Text.dropEnd_of_not_mem hmarks,
    hattach, Text.replaceChar_of_not_mem (hclean '+' (by decide) (by decide) hplus),
    Text.dropEnds_of_not_mem (hclean '&' (by decide) (by decide) hamp)]

/-! ## Reading the pieces off a dotted name -/

/-- The row ends or goes on with a dot, so that no digit comes next. -/
def StartsApart : List Piece → Prop
  | [] => True
  | p :: _ => p = .char '.'

/-- Every marker ends the row or stands before a dot. -/
def Spaced : List Piece → Prop
  | [] => True
  | .char _ :: rest => Spaced rest
  | .marker _ :: rest => StartsApart rest ∧ Spaced rest

theorem spaced_append_segment (s : Segment) {rest : List Piece} (hapart : StartsApart rest)
    (hrest : Spaced rest) : Spaced (s.pieces ++ rest) := by
  rw [Segment.pieces, List.append_assoc]
  induction s.base with
  | nil =>
    rw [List.map_nil, List.nil_append]
    split
    · exact hrest
    · exact ⟨hapart, hrest⟩
  | cons c more ih => exact ih

theorem spaced_pieces (segments : List Segment) : Spaced (pieces segments) := by
  fun_induction pieces segments with
  | case1 => trivial
  | case2 s =>
    have hspaced : Spaced (s.pieces ++ []) := spaced_append_segment s trivial trivial
    rw [List.append_nil] at hspaced
    exact hspaced
  | case3 s rest _ ih => exact spaced_append_segment s rfl ih

theorem marker_of_pos {n : Nat} (h : 0 < n) : marker n = Arity.mark :: Nat.toDigits 10 n :=
  if_neg (Nat.ne_of_gt h)

theorem head?_of_startsApart {row : List Piece} (h : StartsApart row) :
    ∀ c ∈ (row.flatMap Piece.spelling).head?, Text.isDecimalDigit c = false := by
  intro c hc
  cases row with
  | nil => cases hc
  | cons p rest =>
    have hp : p = .char '.' := h
    subst hp
    cases hc
    decide

theorem Piece.spelling_ne_nil {p : Piece} (h : p.Valid) : p.spelling ≠ [] := by
  cases p with
  | char c => exact List.cons_ne_nil c []
  | marker n =>
    rw [spelling, marker_of_pos h]
    exact List.cons_ne_nil _ _

/-- Rows of pieces that are spelled alike are the same. -/
theorem spelling_injective {row other : List Piece} (hvalid : ∀ p ∈ row, p.Valid)
    (hvalid' : ∀ p ∈ other, p.Valid) (hspaced : Spaced row) (hspaced' : Spaced other)
    (h : row.flatMap Piece.spelling = other.flatMap Piece.spelling) : row = other := by
  -- piece by piece; only between two markers is it open where the first of them ends
  induction row generalizing other with
  | nil =>
    cases other with
    | nil => rfl
    | cons q more =>
      have hempty := (List.append_eq_nil_iff.mp h.symm).1
      exact absurd hempty (Piece.spelling_ne_nil (hvalid' q List.mem_cons_self))
  | cons p rest ih =>
    have hrest : ∀ q ∈ rest, q.Valid := fun q hq => hvalid q (List.mem_cons_of_mem _ hq)
    cases other with
    | nil =>
      have hempty := (List.append_eq_nil_iff.mp h).1
      exact absurd hempty (Piece.spelling_ne_nil (hvalid p List.mem_cons_self))
    | cons q more =>
      have hmore : ∀ r ∈ more, r.Valid := fun r hr => hvalid' r (List.mem_cons_of_mem _ hr)
      rw [List.flatMap_cons, List.flatMap_cons] at h
      cases p with
      | char c =>
        have hc : isNameChar c = true := hvalid _ List.mem_cons_self
        cases q with
        | char d =>
          obtain ⟨rfl, htail⟩ := List.cons.inj h
          rw [ih hrest hmore hspaced hspaced' htail]
        | marker n =>
          have hn : 0 < n := hvalid' _ List.mem_cons_self
          rw [Piece.spelling, Piece.spelling, marker_of_pos hn] at h
          exact absurd (List.cons.inj h).1 (ne_of_isNameChar hc (by decide))
      | marker m =>
        have hm : 0 < m := hvalid _ List.mem_cons_self
        rw [Piece.spelling, marker_of_pos hm] at h
        cases q with
        | char d =>
          have hd : isNameChar d = true := hvalid' _ List.mem_cons_self
          exact absurd (List.cons.inj h).1.symm (ne_of_isNameChar hd (by decide))
        | marker n =>
          have hn : 0 < n := hvalid' _ List.mem_cons_self
          rw [Piece.spelling, marker_of_pos hn] at h
          obtain ⟨rfl, htail⟩ := Text.toDigits_append_inj (List.cons.inj h).2
            (head?_of_startsApart hspaced.1) (head?_of_startsApart hspaced'.1)
          rw [ih hrest hmore hspaced.2 hspaced'.2 htail]

/-- Names that agree once dots stand for plus signs have the same pieces. -/
theorem pieces_eq_iff {segments others : List Segment} :
    pieces segments = pieces others ↔
      Text.replaceChar '+' '.' (spelling segments) = Text.replaceChar '+' '.' (spelling others) := by
  rw [← spelling_pieces, ← spelling_pieces]
  constructor
  · intro h
    rw [h]
  · exact spelling_injective (fun p => pieces_valid) (fun p => pieces_valid)
      (spaced_pieces segments) (spaced_pieces others)

end ApiShell.MetadataName
