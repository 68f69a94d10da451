import ApiShell.Proofs.Text
import ApiShell.TypeRef.Arity
import Mathlib.Data.List.Chain

/-!
# Arity markers

A text is cut at its markers one after the other: what stands before a marker is kept, and all of
its digits go with it. Main statement: stripping takes away the markers and nothing else. Taking
them away never puts a new one together, since what follows a marker is no digit; so stripping
again changes nothing, and the segments of a name are stripped apart from each other.
-/

namespace ApiShell.Arity

open Text (isDecimalDigit)

/-! ## Markers in a text -/

/-- No decimal digit stands right behind a grave accent. -/
def Unmarked (chars : List Char) : Prop :=
  chars.IsChain fun c next => c = mark → isDecimalDigit next = false

/-- What stands before the first marker of a text, the digits of the marker, and what follows
them. The marker has all the digits that stand there. -/
structure FirstMarker (before digits after : List Char) : Prop where
  unmarked : Unmarked before
  some_digit : digits ≠ []
  all_digits : ∀ c ∈ digits, isDecimalDigit c = true
  longest : startsDigit after = false

/-- The second text is the first one without its markers. -/
inductive Stripped : List Char → List Char → Prop
  | unmarked {chars : List Char} (h : Unmarked chars) : Stripped chars chars
  | marker {before digits after rest : List Char} (first : FirstMarker before digits after)
      (more : Stripped after rest) :
      Stripped (before ++ mark :: (digits ++ after)) (before ++ rest)

section

variable {c : Char} {chars before digits after rest : List Char}

theorem startsDigit_mark (rest : List Char) : startsDigit (mark :: rest) = false := by
  have hmark : isDecimalDigit mark = false := by decide
  exact hmark

theorem startsDigit_append (h : startsDigit before = false) (hrest : startsDigit rest = false) :
    startsDigit (before ++ rest) = false := by
  cases before with
  | nil => exact hrest
  | cons c more => exact h

theorem FirstMarker.startsDigit (h : FirstMarker before digits after) :
    startsDigit (digits ++ after) = true := by
  cases digits with
  | nil => exact absurd rfl h.some_digit
  | cons c more => exact h.all_digits c List.mem_cons_self

/-- A text has a marker at its start or behind its first character, or none. -/
theorem unmarked_cons_iff :
    Unmarked (c :: rest) ↔ (c = mark → Arity.startsDigit rest = false) ∧ Unmarked rest := by
  rw [Unmarked, List.isChain_cons]
  refine and_congr_left fun _ => ?_
  cases rest with
  | nil => simp [Arity.startsDigit]
  | cons next more => simp [Arity.startsDigit]

theorem unmarked_of_not_mem (h : mark ∉ chars) : Unmarked chars := by
  induction chars with
  | nil => exact List.isChain_nil
  | cons c rest ih =>
    rw [List.mem_cons, not_or] at h
    exact unmarked_cons_iff.mpr ⟨fun hmark => absurd hmark.symm h.1, ih h.2⟩

/-- The first character of a text without markers starts none, whatever follows the text. -/
theorem Unmarked.starts_none (h : Unmarked (c :: before)) (hrest : Arity.startsDigit rest = false) :
    (c == mark && Arity.startsDigit (before ++ rest)) = false := by
  by_cases hmark : c = mark
  · have hbefore := (unmarked_cons_iff.mp h).1 hmark
    rw [startsDigit_append hbefore hrest, Bool.and_false]
  · rw [beq_false_of_ne hmark, Bool.false_and]

/-- Texts without markers have none when they are put together, unless the second one starts with
a digit. -/
theorem Unmarked.append (h : Unmarked before) (hrest : Unmarked rest)
    (hstart : Arity.startsDigit rest = false) : Unmarked (before ++ rest) := by
  refine List.isChain_append.mpr ⟨h, hrest, ?_⟩
  intro c _ next hnext _
  obtain ⟨more, rfl⟩ := List.head?_eq_some_iff.mp hnext
  exact hstart

/-- A marker at the start of a text has all the digits there. -/
theorem firstMarker_at_start (h : startsDigit rest = true) :
    FirstMarker [] (rest.takeWhile isDecimalDigit) (rest.dropWhile isDecimalDigit) where
  unmarked := List.isChain_nil
  some_digit := by
    cases rest with
    | nil => cases h
    | cons c more =>
      have hc : isDecimalDigit c = true := h
      rw [List.takeWhile_cons_of_pos hc]
      exact List.cons_ne_nil _ _
  all_digits := fun c hc => List.mem_takeWhile_imp hc
  longest := by
    have hhead := List.head?_dropWhile_not isDecimalDigit rest
    cases hafter : rest.dropWhile isDecimalDigit with
    | nil => rfl
    | cons c more =>
      rw [hafter] at hhead
      simpa [startsDigit] using hhead

/-- A text that has markers has a first one. -/
theorem exists_firstMarker (h : ¬ Unmarked chars) :
    ∃ before digits after, FirstMarker before digits after ∧
      chars = before ++ mark :: (digits ++ after) := by
  induction chars with
  | nil => exact absurd List.isChain_nil h
  | cons c rest ih =>
    by_cases hhere : c = mark ∧ startsDigit rest = true
    · obtain ⟨rfl, hdigit⟩ := hhere
      refine ⟨[], _, _, firstMarker_at_start hdigit, ?_⟩
      rw [List.takeWhile_append_dropWhile, List.nil_append]
    · have hstart : c = mark → startsDigit rest = false := by simpa using hhere
      have hrest : ¬ Unmarked rest := fun hrest => h (unmarked_cons_iff.mpr ⟨hstart, hrest⟩)
      obtain ⟨before, digits, after, hfirst, rfl⟩ := ih hrest
      refine ⟨c :: before, digits, after, { hfirst with unmarked := ?_ }, rfl⟩
      refine unmarked_cons_iff.mpr ⟨fun hmark => ?_, hfirst.unmarked⟩
      cases before with
      | nil => rfl
      | cons next more => exact hstart hmark

/-- What holds of texts without markers, and of a text when it holds of what follows the first
marker, holds of every text. -/
theorem induction_on_markers {P : List Char → Prop} (unmarked : ∀ chars, Unmarked chars → P chars)
    (marker : ∀ before digits after, FirstMarker before digits after → P after →
      P (before ++ mark :: (digits ++ after)))
    (chars : List Char) : P chars := by
  by_cases h : Unmarked chars
  · exact unmarked chars h
  · obtain ⟨before, digits, after, hfirst, rfl⟩ := exists_firstMarker h
    exact marker before digits after hfirst (induction_on_markers unmarked marker after)
termination_by chars.length
decreasing_by
  subst_vars
  simp only [List.length_append, List.length_cons]
  omega

/-! ## Stripping -/

theorem stripFrom_append_of_unmarked (h : Unmarked before) (hrest : startsDigit rest = false) :
    stripFrom false (before ++ rest) = before ++ stripFrom false rest := by
  induction before with
  | nil => rfl
  | cons c more ih =>
    rw [List.cons_append, stripFrom, Bool.false_and, if_neg Bool.false_ne_true,
      h.starts_none hrest, if_neg Bool.false_ne_true, ih (unmarked_cons_iff.mp h).2,
      List.cons_append]

/-- The digits of a marker go, as far as they reach. -/
theorem stripFrom_digits (hdigits : ∀ c ∈ digits, isDecimalDigit c = true)
    (hafter : startsDigit after = false) :
    stripFrom true (digits ++ after) = stripFrom false after := by
  induction digits with
  | nil =>
    cases after with
    | nil => rfl
    | cons c more =>
      have hc : isDecimalDigit c = false := hafter
      rw [List.nil_append, stripFrom, stripFrom, hc, Bool.and_false]
      rfl
  | cons c more ih =>
    have hc := hdigits c List.mem_cons_self
    rw [List.cons_append, stripFrom, hc, Bool.and_true, if_pos rfl,
      ih fun d hd => hdigits d (List.mem_cons_of_mem _ hd)]

theorem stripFrom_of_unmarked (h : Unmarked chars) : stripFrom false chars = chars := by
  have hall : stripFrom false (chars ++ []) = chars ++ stripFrom false [] :=
    stripFrom_append_of_unmarked h rfl
  simpa [stripFrom] using hall

theorem stripFrom_of_firstMarker (h : FirstMarker before digits after) :
    stripFrom false (before ++ mark :: (digits ++ after)) = before ++ stripFrom false after := by
  rw [stripFrom_append_of_unmarked h.unmarked (startsDigit_mark _), stripFrom, Bool.false_and,
    if_neg Bool.false_ne_true, beq_self_eq_true, h.startsDigit, Bool.and_true, if_pos rfl,
    stripFrom_digits h.all_digits h.longest]

/-- Stripping a text gives what the text is without its markers, and nothing else is that. -/
theorem stripped_iff : Stripped chars rest ↔ stripFrom false chars = rest := by
  constructor
  · intro h
    induction h with
    | unmarked h => exact stripFrom_of_unmarked h
    | marker first _ ih => rw [stripFrom_of_firstMarker first, ih]
  · rintro rfl
    induction chars using induction_on_markers with
    | unmarked chars h =>
      rw [stripFrom_of_unmarked h]
      exact .unmarked h
    | marker before digits after first ih =>
      rw [stripFrom_of_firstMarker first]
      exact .marker first ih

/-- A digit at the start of a stripped text stood there before. -/
theorem startsDigit_stripFrom (h : startsDigit chars = false) :
    startsDigit (stripFrom false chars) = false := by
  induction chars using induction_on_markers with
  | unmarked chars hchars =>
    rw [stripFrom_of_unmarked hchars]
    exact h
  | marker before digits after first ih =>
    rw [stripFrom_of_firstMarker first]
    refine startsDigit_append ?_ (ih first.longest)
    cases before with
    | nil => rfl
    | cons c more => exact h

/-- The two sides of a marker make no new marker where they meet. -/
theorem unmarked_stripFrom (chars : List Char) : Unmarked (stripFrom false chars) := by
  induction chars using induction_on_markers with
  | unmarked chars h =>
    rw [stripFrom_of_unmarked h]
    exact h
  | marker before digits after first ih =>
    rw [stripFrom_of_firstMarker first]
    exact first.unmarked.append ih (startsDigit_stripFrom first.longest)

/-! ## Cutting -/

theorem cut?_append_of_unmarked (h : Unmarked before) (hrest : startsDigit rest = false) :
    cut? (before ++ rest)
      = (cut? rest).map fun cut => { cut with before := before ++ cut.before } := by
  induction before with
  | nil => simp
  | cons c more ih =>
    rw [List.cons_append, cut?, h.starts_none hrest, if_neg Bool.false_ne_true,
      ih (unmarked_cons_iff.mp h).2, Option.map_map]
    rfl

theorem cut?_of_unmarked (h : Unmarked chars) : cut? chars = none := by
  have hall : cut? (chars ++ []) = none := cut?_append_of_unmarked h rfl
  rwa [List.append_nil] at hall

/-- A segment is cut at its first marker, with all digits of the marker. -/
theorem cut?_of_firstMarker (h : FirstMarker before digits after) :
    cut? (before ++ mark :: (digits ++ after)) = some ⟨before, Text.digitsValue digits, after⟩ := by
  have hhead : ∀ c ∈ after.head?, isDecimalDigit c = false := by
    intro c hc
    obtain ⟨more, rfl⟩ := List.head?_eq_some_iff.mp hc
    exact h.longest
  have htake : (digits ++ after).takeWhile isDecimalDigit = digits := by
    rw [Text.takeWhile_append_of_head digits hhead, List.takeWhile_eq_self_iff.mpr h.all_digits]
  have hdrop : (digits ++ after).dropWhile isDecimalDigit = after := by
    rw [List.dropWhile_append_of_pos h.all_digits, Text.dropWhile_of_head hhead]
  rw [cut?_append_of_unmarked h.unmarked (startsDigit_mark _), cut?, beq_self_eq_true,
    h.startsDigit, Bool.and_true, if_pos rfl, htake, hdrop, Option.map_some, List.append_nil]

/-! ## Segments -/

/-- A text is stripped apart from one that follows it and does not start with a digit. -/
theorem stripFrom_append (hrest : startsDigit rest = false) (chars : List Char) :
    stripFrom false (chars ++ rest) = stripFrom false chars ++ stripFrom false rest := by
  induction chars using induction_on_markers with
  | unmarked chars h => rw [stripFrom_append_of_unmarked h hrest, stripFrom_of_unmarked h]
  | marker before digits after first ih =>
    have hlonger : FirstMarker before digits (after ++ rest) :=
      { first with longest := startsDigit_append first.longest hrest }
    have hsplit : before ++ mark :: (digits ++ after) ++ rest
        = before ++ mark :: (digits ++ (after ++ rest)) := by
      simp
    rw [hsplit, stripFrom_of_firstMarker hlonger, stripFrom_of_firstMarker first, ih,
      List.append_assoc]

theorem stripFrom_plus (rest : List Char) :
    stripFrom false ('+' :: rest) = '+' :: stripFrom false rest := by
  rw [stripFrom]
  simp [mark]

/-- Plus signs are kept and come from nowhere else. -/
theorem plus_not_mem_stripFrom (h : '+' ∉ chars) : '+' ∉ stripFrom false chars := by
  induction chars using induction_on_markers with
  | unmarked chars hchars => rwa [stripFrom_of_unmarked hchars]
  | marker before digits after first ih =>
    rw [stripFrom_of_firstMarker first]
    simp only [List.mem_append, List.mem_cons, not_or] at h ⊢
    exact ⟨h.1, ih h.2.2.2⟩

theorem stripFrom_joinWith (segments : List (List Char)) :
    stripFrom false (Text.joinWith ['+'] segments)
      = Text.joinWith ['+'] (segments.map (stripFrom false)) := by
  induction segments with
  | nil => rfl
  | cons segment more ih =>
    by_cases hlast : more = []
    · subst hlast
      rfl
    · have hplus : startsDigit ('+' :: Text.joinWith ['+'] more) = false := by
        have hdigit : isDecimalDigit '+' = false := by decide
        exact hdigit
      rw [Text.joinWith_cons_of_ne_nil _ _ hlast, List.append_assoc, List.singleton_append,
        stripFrom_append hplus, stripFrom_plus, ih, List.map_cons,
        Text.joinWith_cons_of_ne_nil _ _ (by simpa using hlast), List.append_assoc,
        List.singleton_append]

theorem splitOn_stripFrom (chars : List Char) :
    Text.splitOn '+' (stripFrom false chars)
      = (Text.splitOn '+' chars).map (stripFrom false) := by
  have hsegments : ∀ segment ∈ (Text.splitOn '+' chars).map (stripFrom false), '+' ∉ segment := by
    intro segment hsegment
    obtain ⟨old, hold, rfl⟩ := List.mem_map.mp hsegment
    exact plus_not_mem_stripFrom (Text.not_mem_of_mem_splitOn hold)
  have hsome : (Text.splitOn '+' chars).map (stripFrom false) ≠ [] := by
    simpa using Text.splitOn_ne_nil '+' chars
  rw [← Text.splitOn_joinWith hsome hsegments, ← stripFrom_joinWith, Text.joinWith_splitOn]

end

theorem toList_strip (name : String) : (strip name).toList = stripFrom false name.toList := by
  rw [strip, String.toList_ofList]

/-- A stripped name has no marker, whatever script its digits are of; it is stripped already; its
segments are the stripped segments of the name; and what is gone are the markers, each with all of
its digits. -/
theorem strip_leaves_no_marker (name : String) :
    (∀ digit, isDecimalDigit digit = true → ¬ [mark, digit] <:+: (strip name).toList) ∧
      strip (strip name) = strip name ∧
      (Text.splitOn '+' (strip name).toList).map String.ofList
        = ((Text.splitOn '+' name.toList).map String.ofList).map strip ∧
      ∀ chars, Stripped name.toList chars ↔ chars = (strip name).toList := by
  have hunmarked : Unmarked (strip name).toList := by
    rw [toList_strip]
    exact unmarked_stripFrom name.toList
  refine ⟨?_, ?_, ?_, fun chars => ?_⟩
  · rintro digit hdigit ⟨before, after, hname⟩
    rw [← hname, List.append_assoc] at hunmarked
    have hpair := List.isChain_append_cons_cons.mp hunmarked
    rw [hpair.2.1 rfl] at hdigit
    cases hdigit
  · rw [strip, stripFrom_of_unmarked hunmarked, String.ofList_toList]
  · rw [toList_strip, splitOn_stripFrom]
    simp [strip, List.map_map, Function.comp_def]
  · rw [stripped_iff, toList_strip, eq_comm]

/-- Taking markers away leaves grave accents that started none. -/
example : strip "\x60\x6012\x603x+y\x60٣" = "\x60x+y" := by decide

end ApiShell.Arity
