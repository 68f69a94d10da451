import ApiShell.Proofs.Identity
import ApiShell.Proofs.Words

/-!
# Names with places for arguments

The source name of a name with arguments has the same parts whatever the arguments are: it is a
frame with a place for each of them, and every place stands between signs. Main statements: each
name and number of arguments have such a frame, and words are replaced in the parts of a frame and
in the arguments apart from each other.
-/

namespace ApiShell

open MetadataName (isNameChar argumentSigns)
open Text (Below Aligned EndsClosed StartsClosed KnowsWords replaceWords)

/-! ## Frames -/

/-- A text with places for arguments. -/
inductive Frame where
  | whole (text : List Char)
  | place (before : List Char) (rest : Frame)

namespace Frame

/-- The part before the first place. -/
def start : Frame → List Char
  | whole text => text
  | place before _ => before

/-- How many places there are. -/
def places : Frame → Nat
  | whole _ => 0
  | place _ rest => rest.places + 1

/-- The parts, with the arguments in their places. A place stays empty when there is no argument
for it. -/
def pieces : Frame → List (List Char) → List (List Char)
  | whole text, _ => [text]
  | place before rest, [] => before :: rest.pieces []
  | place before rest, arg :: args => before :: arg :: rest.pieces args

/-- The text with the arguments filled in. -/
def weave (f : Frame) (args : List (List Char)) : List Char :=
  (f.pieces args).flatten

/-- A text is put before the frame. -/
def prepend (text : List Char) : Frame → Frame
  | whole more => whole (text ++ more)
  | place before rest => place (text ++ before) rest

/-- Another frame is put behind the frame. -/
def append : Frame → Frame → Frame
  | whole text, other => other.prepend text
  | place before rest, other => place before (rest.append other)

/-- Each part is changed alone. -/
def map (g : List Char → List Char) : Frame → Frame
  | whole text => whole (g text)
  | place before rest => place (g before) (rest.map g)

/-- The last character is a sign around arguments. -/
def EndsInSign (chars : List Char) : Prop :=
  ∃ rest c, chars = rest ++ [c] ∧ c ∈ argumentSigns

/-- The first character is a sign around arguments. -/
def StartsInSign (chars : List Char) : Prop :=
  ∃ c rest, chars = c :: rest ∧ c ∈ argumentSigns

/-- Every place stands between signs. -/
def Sound : Frame → Prop
  | whole _ => True
  | place before rest => EndsInSign before ∧ StartsInSign rest.start ∧ rest.Sound

section

variable {f other : Frame} {a b : List Char} {args xs ys : List (List Char)}

theorem isNameChar_of_mem_argumentSigns {c : Char} (h : c ∈ argumentSigns) :
    isNameChar c = false := by
  have hsigns : argumentSigns.all (fun c => !isNameChar c) = true := by decide
  simpa using List.all_eq_true.mp hsigns c h

theorem EndsInSign.endsClosed (h : EndsInSign a) : EndsClosed a := by
  obtain ⟨rest, c, rfl, hc⟩ := h
  exact ⟨rest, c, rfl, isNameChar_of_mem_argumentSigns hc⟩

theorem StartsInSign.startsClosed (h : StartsInSign a) : StartsClosed a := by
  obtain ⟨c, rest, rfl, hc⟩ := h
  exact ⟨c, rest, rfl, isNameChar_of_mem_argumentSigns hc⟩

theorem EndsInSign.append (h : EndsInSign b) (a : List Char) : EndsInSign (a ++ b) := by
  obtain ⟨rest, c, rfl, hc⟩ := h
  exact ⟨a ++ rest, c, by simp, hc⟩

theorem StartsInSign.append (h : StartsInSign a) (b : List Char) : StartsInSign (a ++ b) := by
  obtain ⟨c, rest, rfl, hc⟩ := h
  exact ⟨c, rest ++ b, rfl, hc⟩

@[simp] theorem weave_whole (text : List Char) (args : List (List Char)) :
    (whole text).weave args = text := by
  simp [weave, pieces]

@[simp] theorem weave_place (before arg : List Char) (rest : Frame) (args : List (List Char)) :
    (place before rest).weave (arg :: args) = before ++ (arg ++ rest.weave args) := by
  simp [weave, pieces]

@[simp] theorem places_prepend (text : List Char) (f : Frame) :
    (f.prepend text).places = f.places := by
  cases f <;> rfl

@[simp] theorem start_prepend (text : List Char) (f : Frame) :
    (f.prepend text).start = text ++ f.start := by
  cases f <;> rfl

theorem weave_prepend (text : List Char) (f : Frame) (args : List (List Char)) :
    (f.prepend text).weave args = text ++ f.weave args := by
  cases f with
  | whole more => simp [prepend]
  | place before rest => cases args <;> simp [prepend, weave, pieces]

theorem Sound.prepend (h : f.Sound) (text : List Char) : (f.prepend text).Sound := by
  cases f with
  | whole _ => trivial
  | place before rest => exact ⟨h.1.append text, h.2⟩

@[simp] theorem places_append (f other : Frame) :
    (f.append other).places = f.places + other.places := by
  induction f with
  | whole text => simp [append, places]
  | place before rest ih =>
    rw [append, places, places, ih]
    omega

theorem start_append (h : StartsInSign f.start) (other : Frame) :
    StartsInSign (f.append other).start := by
  cases f with
  | whole text =>
    rw [append, start_prepend]
    exact h.append other.start
  | place before rest => exact h

theorem Sound.append (h : f.Sound) (hother : other.Sound) : (f.append other).Sound := by
  induction f with
  | whole text => exact hother.prepend text
  | place before rest ih => exact ⟨h.1, start_append h.2.1 other, ih h.2.2⟩

/-- The first arguments fill the places of the first frame, the others those of the second. -/
theorem weave_append (h : xs.length = f.places) :
    (f.append other).weave (xs ++ ys) = f.weave xs ++ other.weave ys := by
  induction f generalizing xs with
  | whole text =>
    have hnone : xs = [] := List.eq_nil_of_length_eq_zero h
    rw [hnone, List.nil_append, append, weave_prepend, weave_whole]
  | place before rest ih =>
    cases xs with
    | nil => cases h
    | cons x xs =>
      have hrest : xs.length = rest.places := Nat.succ.inj h
      rw [append, List.cons_append, weave_place, weave_place, ih hrest]
      simp

end

end Frame

/-! ## Texts with frames -/

/-- What is written around a number of arguments is the same whatever they are. -/
def Framed (n : Nat) (text : List (List Char) → List Char) : Prop :=
  ∃ f : Frame, f.Sound ∧ f.places = n ∧ ∀ args, args.length = n → text args = f.weave args

namespace Framed

variable {m n : Nat} {t u : List (List Char) → List Char}

theorem prepend (h : Framed n u) (text : List Char) : Framed n fun args => text ++ u args := by
  obtain ⟨f, hsound, hplaces, hu⟩ := h
  refine ⟨f.prepend text, hsound.prepend text, ?_, fun args hargs => ?_⟩
  · rw [Frame.places_prepend, hplaces]
  · dsimp only
    rw [Frame.weave_prepend, hu args hargs]

theorem append (ht : Framed m t) (hu : Framed n u) :
    Framed (m + n) fun args => t (args.take m) ++ u (args.drop m) := by
  obtain ⟨f, hsound, hplaces, ht⟩ := ht
  obtain ⟨other, hsound', hplaces', hu⟩ := hu
  refine ⟨f.append other, hsound.append hsound', ?_, fun args hargs => ?_⟩
  · rw [Frame.places_append, hplaces, hplaces']
  · have htake : (args.take m).length = m := by
      rw [List.length_take]
      omega
    have hdrop : (args.drop m).length = n := by
      rw [List.length_drop]
      omega
    have hweave := @Frame.weave_append f other (args.take m) (args.drop m)
      (htake.trans hplaces.symm)
    rw [List.take_append_drop] at hweave
    dsimp only
    rw [hweave, ht _ htake, hu _ hdrop]

/-- The places behind the first one, up to the closing bracket. -/
def afterFirst : Nat → Frame
  | 0 => .whole ['>']
  | n + 1 => .place [','] (afterFirst n)

theorem afterFirst_starts (n : Nat) : Frame.StartsInSign (afterFirst n).start := by
  cases n with
  | zero => exact ⟨'>', [], rfl, by decide⟩
  | succ n => exact ⟨',', [], rfl, by decide⟩

theorem afterFirst_sound (n : Nat) : (afterFirst n).Sound := by
  induction n with
  | zero => trivial
  | succ n ih => exact ⟨⟨[], ',', rfl, by decide⟩, afterFirst_starts n, ih⟩

theorem places_afterFirst (n : Nat) : (afterFirst n).places = n := by
  induction n with
  | zero => rfl
  | succ n ih => rw [afterFirst, Frame.places, ih]

theorem weave_afterFirst (args : List (List Char)) :
    (afterFirst args.length).weave args = TypeRef.closing args [] := by
  induction args with
  | nil => rfl
  | cons arg args ih =>
    rw [List.length_cons, afterFirst, Frame.weave_place, ih]
    rfl

theorem bracketed (n : Nat) : Framed n Arity.bracketed := by
  cases n with
  | zero =>
    refine ⟨.whole [], trivial, rfl, fun args hargs => ?_⟩
    rw [List.eq_nil_of_length_eq_zero hargs, Frame.weave_whole]
    rfl
  | succ n =>
    have hsigns : Frame.EndsInSign ['<'] := ⟨[], '<', rfl, by decide⟩
    refine ⟨.place ['<'] (afterFirst n), ⟨hsigns, afterFirst_starts n, afterFirst_sound n⟩, ?_,
      fun args hargs => ?_⟩
    · rw [Frame.places, places_afterFirst]
    · cases args with
      | nil => cases hargs
      | cons arg args =>
        have hrest : args.length = n := Nat.succ.inj hargs
        have hwritten := TypeRef.bracketed_append arg args []
        rw [List.append_nil] at hwritten
        rw [hwritten, Frame.weave_place, ← hrest, weave_afterFirst]
        rfl

/-- A segment takes the arguments that it claims and leaves the others to what follows. -/
theorem claim (k : Nat) (before after : List Char) (h : Framed (n - k) u) :
    Framed n fun args =>
      before ++ (Arity.bracketed (args.take k) ++ (after ++ u (args.drop k))) := by
  have htotal : min k n + (n - k) = n := by omega
  obtain ⟨f, hsound, hplaces, htext⟩ :=
    ((bracketed (min k n)).append (h.prepend after)).prepend before
  refine ⟨f, hsound, hplaces.trans htotal, fun args hargs => ?_⟩
  have htake : args.take (min k n) = args.take k := by
    rw [← hargs, ← List.take_eq_take_min]
  have hdrop : args.drop (min k n) = args.drop k := by
    rw [← hargs, ← List.drop_eq_drop_min]
  rw [← htext args (hargs.trans htotal.symm)]
  dsimp only
  rw [htake, hdrop]

/-- Each segment has a number of arguments that it takes and texts around them. -/
theorem attachTo_segment (segment : List Char) :
    ∃ before k after, ∀ rest args, Arity.attachTo (segment :: rest) args
      = ((before ++ Arity.bracketed (args.take k) ++ after) ::
          (Arity.attachTo rest (args.drop k)).1,
        (Arity.attachTo rest (args.drop k)).2) := by
  cases hcut : Arity.cut? segment with
  | none =>
    refine ⟨segment, 0, [], fun rest args => ?_⟩
    simp [Arity.attachTo, hcut, Arity.bracketed]
  | some cut =>
    refine ⟨cut.before, cut.count, cut.after, fun rest args => ?_⟩
    simp [Arity.attachTo, hcut]

theorem attachTo (segment : List Char) (more : List (List Char)) (n : Nat) :
    Framed n fun args => Text.joinWith ['.'] (Arity.attachTo (segment :: more) args).1
      ++ Arity.bracketed (Arity.attachTo (segment :: more) args).2 := by
  induction more generalizing segment n with
  | nil =>
    obtain ⟨before, k, after, hsegment⟩ := attachTo_segment segment
    -- the last segment also gets the arguments that nothing claims
    have hframed := claim k before after (bracketed (n - k))
    have hlast : ∀ args, Arity.attachTo [] args = ([], args) := fun _ => rfl
    simpa [hsegment, hlast, Text.joinWith] using hframed
  | cons next more ih =>
    obtain ⟨before, k, after, hsegment⟩ := attachTo_segment segment
    obtain ⟨before', k', after', hnext⟩ := attachTo_segment next
    have hframed := claim k before after ((ih next (n - k)).prepend ['.'])
    simpa [hsegment, hnext, Text.joinWith] using hframed

end Framed

/-! ## Frames of names -/

namespace Frame

/-- Plus signs are dotted in all parts, and no ampersand is left at the end of the last one. -/
def tidyEnd : Frame → Frame
  | whole text => whole (Text.dropEnd (· = '&') (Text.replaceChar '+' '.' text))
  | place before rest => place (Text.replaceChar '+' '.' before) rest.tidyEnd

/-- Plus signs are dotted in all parts, and no ampersand is left at the ends. -/
def tidy : Frame → Frame
  | whole text => whole (TypeRef.dotted text)
  | place before rest =>
    place ((Text.replaceChar '+' '.' before).dropWhile (· = '&')) rest.tidyEnd

section

variable {f : Frame} {a : List Char} {args : List (List Char)}

/-- A sign is no ampersand, so trimming stops at it. -/
theorem not_mark_of_sign {c : Char} (h : c ∈ argumentSigns) : decide (c = '&') = false := by
  simpa using ne_of_mem_of_not_mem h (by decide)

theorem StartsInSign.replaceChar (h : StartsInSign a) :
    StartsInSign (Text.replaceChar '+' '.' a) := by
  obtain ⟨c, rest, rfl, hc⟩ := h
  have hplus : c ≠ '+' := ne_of_mem_of_not_mem hc (by decide)
  exact ⟨c, Text.replaceChar '+' '.' rest, by simp [Text.replaceChar, hplus], hc⟩

theorem EndsInSign.replaceChar (h : EndsInSign a) : EndsInSign (Text.replaceChar '+' '.' a) := by
  obtain ⟨rest, c, rfl, hc⟩ := h
  have hplus : c ≠ '+' := ne_of_mem_of_not_mem hc (by decide)
  exact ⟨Text.replaceChar '+' '.' rest, c, by simp [Text.replaceChar, hplus], hc⟩

/-- Ampersands at the end do not reach back over a sign. -/
theorem StartsInSign.dropEnd_append (h : StartsInSign a) (text : List Char) :
    Text.dropEnd (· = '&') (text ++ a) = text ++ Text.dropEnd (· = '&') a := by
  obtain ⟨c, rest, rfl, hc⟩ := h
  have hsign := @Text.dropEnd_append_cons (· = '&') c (not_mark_of_sign hc)
  rw [hsign, ← List.nil_append (c :: rest), hsign, List.nil_append]

theorem StartsInSign.dropEnd (h : StartsInSign a) :
    StartsInSign (Text.dropEnd (· = '&') a) := by
  obtain ⟨c, rest, rfl, hc⟩ := h
  have hsign := @Text.dropEnd_append_cons (· = '&') c (not_mark_of_sign hc) [] rest
  exact ⟨c, _, hsign, hc⟩

theorem EndsInSign.dropWhile_append (h : EndsInSign a) (text : List Char) :
    (a ++ text).dropWhile (· = '&') = a.dropWhile (· = '&') ++ text := by
  obtain ⟨rest, c, rfl, hc⟩ := h
  have hsign := @Text.dropWhile_append_cons (· = '&') c (not_mark_of_sign hc) rest
  rw [List.append_assoc, List.singleton_append, hsign, hsign]
  simp

theorem EndsInSign.dropWhile (h : EndsInSign a) : EndsInSign (a.dropWhile (· = '&')) := by
  obtain ⟨rest, c, rfl, hc⟩ := h
  exact ⟨_, c, Text.dropWhile_append_cons (not_mark_of_sign hc) rest [], hc⟩

theorem places_tidyEnd (f : Frame) : f.tidyEnd.places = f.places := by
  induction f with
  | whole text => rfl
  | place before rest ih => rw [tidyEnd, places, places, ih]

theorem tidyEnd_starts (h : StartsInSign f.start) : StartsInSign f.tidyEnd.start := by
  cases f with
  | whole text => exact h.replaceChar.dropEnd
  | place before rest => exact h.replaceChar

theorem Sound.tidyEnd (h : f.Sound) : f.tidyEnd.Sound := by
  induction f with
  | whole text => trivial
  | place before rest ih => exact ⟨h.1.replaceChar, tidyEnd_starts h.2.1, ih h.2.2⟩

theorem weave_starts (h : StartsInSign f.start) (args : List (List Char)) :
    StartsInSign (f.weave args) := by
  cases f with
  | whole text =>
    rw [weave_whole]
    exact h
  | place before rest => cases args <;> exact h.append _

theorem replaceChar_weave {before arg : List Char} {rest : Frame} (hplus : '+' ∉ arg)
    (args : List (List Char)) :
    Text.replaceChar '+' '.' ((place before rest).weave (arg :: args))
      = Text.replaceChar '+' '.' before ++ (arg ++ Text.replaceChar '+' '.' (rest.weave args)) := by
  rw [weave_place]
  have harg := @Text.replaceChar_of_not_mem '+' '.' arg hplus
  simp only [Text.replaceChar, List.map_append] at harg ⊢
  rw [harg]

theorem weave_tidyEnd (hsound : f.Sound) (hargs : args.length = f.places)
    (hplus : ∀ arg ∈ args, '+' ∉ arg) :
    Text.dropEnd (· = '&') (Text.replaceChar '+' '.' (f.weave args)) = f.tidyEnd.weave args := by
  induction f generalizing args with
  | whole text => simp [tidyEnd]
  | place before rest ih =>
    cases args with
    | nil => cases hargs
    | cons arg args =>
      have hrest := ih hsound.2.2 (Nat.succ.inj hargs) fun x hx =>
        hplus x (List.mem_cons_of_mem _ hx)
      have hsign := (weave_starts hsound.2.1 args).replaceChar
      rw [replaceChar_weave (hplus arg List.mem_cons_self), ← List.append_assoc,
        hsign.dropEnd_append, hrest, tidyEnd, weave_place, List.append_assoc]

theorem weave_tidy {before : List Char} {rest : Frame} (hsound : (place before rest).Sound)
    (hargs : args.length = rest.places + 1) (hplus : ∀ arg ∈ args, '+' ∉ arg) :
    TypeRef.dotted ((place before rest).weave args) = (place before rest).tidy.weave args := by
  cases args with
  | nil => cases hargs
  | cons arg args =>
    have hrest := weave_tidyEnd hsound.2.2 (Nat.succ.inj hargs) fun x hx =>
      hplus x (List.mem_cons_of_mem _ hx)
    have hsign := (weave_starts hsound.2.1 args).replaceChar
    rw [TypeRef.dotted, Text.dropEnds, replaceChar_weave (hplus arg List.mem_cons_self),
      hsound.1.replaceChar.dropWhile_append, ← List.append_assoc, hsign.dropEnd_append, hrest, tidy,
      weave_place, List.append_assoc]

/-- Each name has a frame for each number of arguments. -/
theorem exists_of_name (name : String) {n : Nat} (hpos : 0 < n) :
    ∃ f : Frame, f.Sound ∧ f.places = n ∧ ∀ args : List String, args.length = n →
      (∀ arg ∈ args, '+' ∉ arg.toList) →
      (TypeRef.boundName name args).toList = f.weave (args.map String.toList) := by
  cases hsplit : Text.splitOn '+' (Text.dropEnd (· = '&') name.toList) with
  | nil => exact absurd hsplit (Text.splitOn_ne_nil _ _)
  | cons segment more =>
    obtain ⟨f, hsound, hplaces, hf⟩ := Framed.attachTo segment more n
    cases f with
    | whole text => exact absurd hplaces (Nat.ne_of_lt hpos)
    | place before rest =>
      refine ⟨(place before rest).tidy,
        ⟨hsound.1.replaceChar.dropWhile, tidyEnd_starts hsound.2.1, hsound.2.2.tidyEnd⟩, ?_,
        fun args hargs hplus => ?_⟩
      · rw [tidy, places, places_tidyEnd]
        exact hplaces
      · have hlength : (args.map String.toList).length = n := by
          rw [List.length_map, hargs]
        rw [TypeRef.boundName, String.toList_ofList, Arity.attach, hsplit]
        have hattached := hf _ hlength
        dsimp only at hattached ⊢
        rw [hattached]
        refine weave_tidy hsound (hlength.trans hplaces.symm) fun arg harg => ?_
        obtain ⟨source, hsource, rfl⟩ := List.mem_map.mp harg
        exact hplus source hsource

end

/-! ## Replacing words in a frame -/

section

variable {f : Frame} {meaning : List Char → Option (List Char)} {args args' : List (List Char)}

theorem pieces_map (g : List Char → List Char) (f : Frame) (args : List (List Char)) :
    (f.map g).pieces (args.map g) = (f.pieces args).map g := by
  induction f generalizing args with
  | whole text => rfl
  | place before rest ih =>
    cases args with
    | nil =>
      have hrest := ih []
      rw [List.map_nil] at hrest
      simp [map, pieces, hrest]
    | cons arg args => simp [map, pieces, ih]

theorem pieces_eq_cons (f : Frame) (args : List (List Char)) :
    ∃ more, f.pieces args = f.start :: more := by
  cases f with
  | whole text => exact ⟨[], rfl⟩
  | place before rest => cases args <;> exact ⟨_, rfl⟩

theorem start_map (g : List Char → List Char) (f : Frame) : (f.map g).start = g f.start := by
  cases f <;> rfl

/-- Two fillings of a frame run in parallel when the words of one are replaced. -/
theorem Sound.aligned (h : f.Sound) (hmeaning : KnowsWords meaning)
    (hbelow : List.Forall₂ Below args args') (hargs : args.length = f.places) :
    Aligned (f.pieces args) ((f.map (replaceWords meaning)).pieces args') := by
  induction f generalizing args args' with
  | whole text => exact .single (Text.below_replaceWords hmeaning text)
  | place before rest ih =>
    cases hbelow with
    | nil => cases hargs
    | @cons arg arg' args args' hfirst hmore =>
      have hrest := ih h.2.2 hmore (Nat.succ.inj hargs)
      have hbefore := Text.below_replaceWords hmeaning before
      have hends : EndsClosed before := h.1.endsClosed
      have hstarts : StartsClosed rest.start := h.2.1.startsClosed
      obtain ⟨more, hpieces⟩ := rest.pieces_eq_cons args
      obtain ⟨more', hpieces'⟩ := (rest.map (replaceWords meaning)).pieces_eq_cons args'
      rw [start_map] at hpieces'
      rw [map, pieces, pieces]
      rw [hpieces, hpieces'] at hrest ⊢
      exact .cons hbefore (.inl ⟨hends, Text.replaceWords_endsClosed hmeaning hends⟩)
        (.cons hfirst (.inr ⟨hstarts, Text.replaceWords_startsClosed hmeaning hstarts⟩) hrest)

/-- Words are replaced in the parts and in the arguments. -/
theorem Sound.replaceWords_weave (h : f.Sound) (hmeaning : KnowsWords meaning)
    (hargs : args.length = f.places) :
    replaceWords meaning (f.weave args)
      = (f.map (replaceWords meaning)).weave (args.map (replaceWords meaning)) := by
  have hbelow : List.Forall₂ Below args (args.map (replaceWords meaning)) := by
    rw [List.forall₂_map_right_iff, List.forall₂_same]
    exact fun arg _ => Text.below_replaceWords hmeaning arg
  rw [weave, Text.replaceWords_flatten (h.aligned hmeaning hbelow hargs), ← pieces_map]
  rfl

theorem Sound.below_weave (h : f.Sound) (hmeaning : KnowsWords meaning)
    (hargs : args.length = f.places)
    (hbelow : List.Forall₂ Below args' (args.map (replaceWords meaning))) :
    Below (f.weave args') (replaceWords meaning (f.weave args)) := by
  have hargs' : args'.length = f.places := by
    rw [hbelow.length_eq, List.length_map, hargs]
  rw [h.replaceWords_weave hmeaning hargs]
  exact (h.aligned hmeaning hbelow hargs').below_flatten

/-- Fillings that have the same pieces have the same parts and arguments. -/
theorem pieces_inj {g : List Char → List Char} (hargs : args.length = f.places)
    (hargs' : args'.length = f.places) (h : f.pieces args = (f.map g).pieces args') :
    f.map g = f ∧ args = args' := by
  induction f generalizing args args' with
  | whole text =>
    have hnone : args = [] := List.eq_nil_of_length_eq_zero hargs
    have hnone' : args' = [] := List.eq_nil_of_length_eq_zero hargs'
    have htext : text = g text := (List.cons.inj h).1
    rw [map, ← htext, hnone, hnone']
    exact ⟨rfl, rfl⟩
  | place before rest ih =>
    cases args with
    | nil => cases hargs
    | cons arg args =>
      cases args' with
      | nil => cases hargs'
      | cons arg' args' =>
        obtain ⟨hbefore, hmore⟩ := List.cons.inj h
        obtain ⟨rfl, hrest⟩ := List.cons.inj hmore
        obtain ⟨hparts, rfl⟩ := ih (Nat.succ.inj hargs) (Nat.succ.inj hargs') hrest
        rw [map, ← hbefore, hparts]
        exact ⟨rfl, rfl⟩

/-- Other arguments give the text with its words replaced exactly when the parts of the frame stay
and each argument is the old one with its words replaced. -/
theorem Sound.weave_eq_iff (h : f.Sound) (hmeaning : KnowsWords meaning)
    (hargs : args.length = f.places)
    (hbelow : List.Forall₂ Below args' (args.map (replaceWords meaning))) :
    f.weave args' = replaceWords meaning (f.weave args) ↔
      f.map (replaceWords meaning) = f ∧ args' = args.map (replaceWords meaning) := by
  have hargs' : args'.length = f.places := by
    rw [hbelow.length_eq, List.length_map, hargs]
  rw [h.replaceWords_weave hmeaning hargs]
  constructor
  · intro heq
    refine pieces_inj hargs' (by rw [List.length_map, hargs]) ?_
    exact (h.aligned hmeaning hbelow hargs').eq_of_flatten_eq heq
  · rintro ⟨hparts, rfl⟩
    rw [hparts]

end

end Frame

end ApiShell
