import ApiShell.Proofs.ArityMarkers
import Mathlib.Algebra.GroupWithZero.Nat
import Mathlib.Data.List.SplitLengths

/-!
# Claimed arguments

The first marker of a segment claims arguments: it takes as many of those left as its digits say,
or all of them when there are fewer. Main statement: the arguments of a name are cut into one group
for each such marker and one group at the end, in their order and without loss, and the name is
written with each group in the place of its marker. This holds for every name and every number of
arguments, also where they do not match.
-/

namespace ApiShell.Arity

open Text (digitsValue joinWith joinWith_eq_intercalate splitOn)

/-! ## Segments and groups -/

/-- A segment of a name, cut at its first marker when it has one. -/
inductive Segment where
  | plain (text : List Char)
  | marked (before digits after : List Char)

namespace Segment

/-- The characters of a segment. -/
def text : Segment → List Char
  | plain text => text
  | marked before digits after => before ++ mark :: (digits ++ after)

/-- How many arguments the first marker claims, if there is one. -/
def claim? : Segment → Option Nat
  | plain _ => none
  | marked _ digits _ => some (digitsValue digits)

/-- The segment has no marker, or it is cut at its first one. -/
def WellCut : Segment → Prop
  | plain text => Unmarked text
  | marked before digits after => FirstMarker before digits after

end Segment

/-- The claims of the segments that have a marker. -/
def claims (segments : List Segment) : List Nat :=
  segments.filterMap Segment.claim?

/-- The segments are what stands between the plus signs of a name. -/
structure Segmented (name : List Char) (segments : List Segment) : Prop where
  some_segment : segments ≠ []
  joined : ['+'].intercalate (segments.map Segment.text) = name
  separate : ∀ s ∈ segments, '+' ∉ s.text
  well_cut : ∀ s ∈ segments, s.WellCut

/-- Arguments are cut into a group for each claim and a last group. A group has as many arguments
as are claimed, unless fewer are left. -/
structure Dealt {α : Type} (claims : List Nat) (args : List α) (groups : List (List α))
    (last : List α) : Prop where
  nothing_lost : groups.flatten ++ last = args
  one_each : groups.length = claims.length
  size : ∀ i n group, claims[i]? = some n → groups[i]? = some group →
    group.length = min n (args.length - (groups.take i).flatten.length)

/-- A group in angle brackets with commas between its arguments; nothing for a group without
arguments. -/
def inBrackets : List (List Char) → List Char
  | [] => []
  | arg :: more => '<' :: ([','].intercalate (arg :: more) ++ ['>'])

/-- The segments with a group in the place of each first marker. -/
def filled : List Segment → List (List (List Char)) → List (List Char)
  | [], _ => []
  | .plain text :: rest, groups => text :: filled rest groups
  | .marked before _ after :: rest, groups =>
    (before ++ inBrackets (groups.headD []) ++ after) :: filled rest groups.tail

/-! ## Dealing -/

section

variable {α : Type} {args last : List α} {groups : List (List α)} {claims : List Nat}

theorem Dealt.nil (args : List α) : Dealt [] args [] args where
  nothing_lost := rfl
  one_each := rfl
  size := fun i n group hclaim => by simp at hclaim

/-- The first claim is met from the start of the arguments, the others from the rest. -/
theorem Dealt.cons {n : Nat} (h : Dealt claims (args.drop n) groups last) :
    Dealt (n :: claims) args (args.take n :: groups) last where
  nothing_lost := by
    rw [List.flatten_cons, List.append_assoc, h.nothing_lost, List.take_append_drop]
  one_each := by
    rw [List.length_cons, List.length_cons, h.one_each]
  size := by
    intro i m group hclaim hgroup
    cases i with
    | zero =>
      obtain rfl : n = m := by simpa using hclaim
      obtain rfl : args.take n = group := by simpa using hgroup
      simp
    | succ i =>
      have hsize := h.size i m group (by simpa using hclaim) (by simpa using hgroup)
      rw [hsize, List.take_succ_cons, List.flatten_cons, List.length_append, List.length_take,
        List.length_drop]
      omega

/-- Any arguments can be cut as claimed. -/
theorem dealt_splitLengths (claims : List Nat) (args : List α) :
    Dealt claims args (claims.splitLengths args) (args.drop claims.sum) := by
  induction claims generalizing args with
  | nil => exact Dealt.nil args
  | cons n claims ih =>
    rw [List.splitLengths_cons, List.sum_cons, ← List.drop_drop]
    exact (ih (args.drop n)).cons

end

/-! ## Cutting segments -/

/-- Every text is a segment that is cut at its first marker. -/
theorem Segment.exists_of_text (text : List Char) : ∃ s : Segment, s.WellCut ∧ s.text = text := by
  by_cases h : Unmarked text
  · exact ⟨.plain text, h, rfl⟩
  · obtain ⟨before, digits, after, hfirst, rfl⟩ := exists_firstMarker h
    exact ⟨.marked before digits after, hfirst, rfl⟩

theorem exists_segments (texts : List (List Char)) :
    ∃ segments : List Segment, (∀ s ∈ segments, s.WellCut) ∧ segments.map Segment.text = texts := by
  induction texts with
  | nil => exact ⟨[], List.forall_mem_nil _, rfl⟩
  | cons text more ih =>
    obtain ⟨s, hcut, rfl⟩ := Segment.exists_of_text text
    obtain ⟨segments, hsegments, rfl⟩ := ih
    exact ⟨s :: segments, List.forall_mem_cons.mpr ⟨hcut, hsegments⟩, rfl⟩

/-- Every name has segments. -/
theorem exists_segmented (name : List Char) : ∃ segments, Segmented name segments := by
  obtain ⟨segments, hcut, htexts⟩ := exists_segments (splitOn '+' name)
  refine ⟨segments, ?_, ?_, ?_, hcut⟩
  · rintro rfl
    exact Text.splitOn_ne_nil '+' name htexts.symm
  · rw [← joinWith_eq_intercalate, htexts, Text.joinWith_splitOn]
  · intro s hs
    have hmem : s.text ∈ splitOn '+' name := by
      rw [← htexts]
      exact List.mem_map_of_mem hs
    exact Text.not_mem_of_mem_splitOn hmem

/-! ## Attaching -/

section

variable {name : List Char} {segments : List Segment}

theorem bracketed_eq (args : List (List Char)) : bracketed args = inBrackets args := by
  cases args with
  | nil => rfl
  | cons arg more => rw [bracketed, inBrackets, joinWith_eq_intercalate]; rfl

/-- Each segment gets the group that its first marker claims, and what no marker claims is left. -/
theorem attachTo_of_wellCut (hcut : ∀ s ∈ segments, s.WellCut) (args : List (List Char)) :
    attachTo (segments.map Segment.text) args
      = (filled segments ((claims segments).splitLengths args),
        args.drop (claims segments).sum) := by
  induction segments generalizing args with
  | nil => rfl
  | cons s rest ih =>
    obtain ⟨hs, hrest⟩ := List.forall_mem_cons.mp hcut
    rw [List.map_cons]
    cases s with
    | plain text =>
      have hclaims : claims (.plain text :: rest) = claims rest := rfl
      rw [attachTo, Segment.text, cut?_of_unmarked hs, ih hrest, hclaims]
      rfl
    | marked before digits after =>
      have hclaims : claims (.marked before digits after :: rest)
          = digitsValue digits :: claims rest := rfl
      rw [attachTo, Segment.text, cut?_of_firstMarker hs]
      dsimp only
      rw [ih hrest, hclaims, List.splitLengths_cons, List.sum_cons, ← List.drop_drop, bracketed_eq]
      rfl

theorem Segmented.splitOn_eq (h : Segmented name segments) :
    splitOn '+' name = segments.map Segment.text := by
  rw [← h.joined, ← joinWith_eq_intercalate, Text.splitOn_joinWith]
  · simpa using h.some_segment
  · intro text htext
    obtain ⟨s, hs, rfl⟩ := List.mem_map.mp htext
    exact h.separate s hs

/-- A name has segments, which do not depend on its arguments. Any arguments are cut, in their
order, into one group for each first marker of a segment and a last group; the name with arguments
is the name with dots for the plus signs, each group in brackets in the place of its marker, and
the last group in brackets at the end. -/
theorem attach_deals_arguments (name : List Char) :
    ∃ segments, Segmented name segments ∧ ∀ args : List (List Char), ∃ groups last,
      Dealt (claims segments) args groups last ∧
        attach name args = ['.'].intercalate (filled segments groups) ++ inBrackets last := by
  obtain ⟨segments, hsegmented⟩ := exists_segmented name
  refine ⟨segments, hsegmented, fun args => ?_⟩
  refine ⟨_, _, dealt_splitLengths (claims segments) args, ?_⟩
  rw [attach, hsegmented.splitOn_eq, attachTo_of_wellCut hsegmented.well_cut]
  dsimp only
  rw [bracketed_eq, joinWith_eq_intercalate]

/-- Markers that claim too much, nothing, or stand behind another marker. -/
example : attach "Map\x602\x601+None\x600+Rest\x609+End".toList [['K'], ['V'], ['R']]
    = "Map<K,V>\x601.None.Rest<R>.End".toList := by decide

end

end ApiShell.Arity
