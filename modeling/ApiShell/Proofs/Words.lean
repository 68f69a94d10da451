import ApiShell.Proofs.MetadataName
import Mathlib.Data.List.SplitBy

/-!
# Words in names

A word of a source name is a longest run of name characters; every other character stands on its
own. Putting texts for some of the words leaves the other characters where they are. Main
statement: two texts that are made of pieces in parallel, such that the second has at least the
other characters of the first in every piece, are equal only if they are equal piece by piece.
-/

namespace ApiShell.Text

open MetadataName (isNameChar)

/-! ## Cutting into words -/

/-- The words of a text, and between them the characters that belong to none. -/
def words (chars : List Char) : List (List Char) :=
  chars.splitBy fun a b => isNameChar a && isNameChar b

/-- What is put for a word: the text that it means, if it means one. -/
def put (meaning : List Char → Option (List Char)) (word : List Char) : List Char :=
  (meaning word).getD word

/-- The text with other texts put for the words that mean them. -/
def replaceWords (meaning : List Char → Option (List Char)) (chars : List Char) : List Char :=
  (words chars).flatMap (put meaning)

/-- A text that can stand as a word. -/
def IsWord (chars : List Char) : Prop :=
  chars ≠ [] ∧ ∀ c ∈ chars, isNameChar c = true

/-- The text starts with a character that belongs to no word. -/
def StartsClosed (chars : List Char) : Prop :=
  ∃ c rest, chars = c :: rest ∧ isNameChar c = false

/-- The text ends with a character that belongs to no word. -/
def EndsClosed (chars : List Char) : Prop :=
  ∃ rest c, chars = rest ++ [c] ∧ isNameChar c = false

section

variable {a b word chars : List Char}

theorem flatten_words (chars : List Char) : (words chars).flatten = chars :=
  List.flatten_splitBy _ chars

theorem StartsClosed.append (h : StartsClosed a) (b : List Char) : StartsClosed (a ++ b) := by
  obtain ⟨c, rest, rfl, hc⟩ := h
  exact ⟨c, rest ++ b, rfl, hc⟩

/-- No word goes over a seam that a character outside of words makes. -/
theorem words_append (h : EndsClosed a ∨ StartsClosed b) : words (a ++ b) = words a ++ words b := by
  refine List.splitBy_append fun x hx y hy => ?_
  rcases h with ⟨rest, c, rfl, hc⟩ | ⟨c, rest, rfl, hc⟩
  · have hlast : c = x := by simpa using hx
    rw [← hlast, hc, Bool.false_and]
  · have hfirst : c = y := by simpa using hy
    rw [← hfirst, hc, Bool.and_false]

theorem words_of_isWord (h : IsWord word) : words word = [word] := by
  refine List.splitBy_of_isChain h.1 (List.Pairwise.isChain ?_)
  refine List.pairwise_of_forall_sublist fun {x y} hpair => ?_
  have hx : x ∈ word := hpair.subset (by simp)
  have hy : y ∈ word := hpair.subset (by simp)
  rw [h.2 x hx, h.2 y hy]
  rfl

/-- What a text is cut into are words and single other characters. -/
theorem isWord_or_single (h : word ∈ words chars) :
    IsWord word ∨ ∃ c, word = [c] ∧ isNameChar c = false := by
  have hchain := List.isChain_of_mem_splitBy h
  have hsome := List.ne_nil_of_mem_splitBy h
  clear h
  induction word with
  | nil => exact absurd rfl hsome
  | cons c rest ih =>
    cases rest with
    | nil =>
      by_cases hc : isNameChar c = true
      · exact .inl ⟨hsome, by simpa using hc⟩
      · exact .inr ⟨c, rfl, by simpa using hc⟩
    | cons d rest =>
      obtain ⟨hpair, hrest⟩ := List.isChain_cons_cons.mp hchain
      rw [Bool.and_eq_true] at hpair
      rcases ih hrest (List.cons_ne_nil _ _) with hword | ⟨e, heq, he⟩
      · refine .inl ⟨hsome, fun x hx => ?_⟩
        rcases List.mem_cons.mp hx with rfl | hx
        · exact hpair.1
        · exact hword.2 x hx
      · rw [(List.cons.inj heq).1, he] at hpair
        cases hpair.2

end

/-! ## Pieces in parallel -/

/-- The second text has at least those characters of the first that belong to no word. -/
def Below (a b : List Char) : Prop :=
  ∀ c, isNameChar c = false → a.count c ≤ b.count c

/-- Where `b` follows `a`, and `b'` follows `a'`, a character outside of words stands before both
seams or behind both. -/
def Seam (a a' b b' : List Char) : Prop :=
  EndsClosed a ∧ EndsClosed a' ∨ StartsClosed b ∧ StartsClosed b'

/-- Pieces of two texts, each of the second above that of the first, with seams between them. -/
inductive Aligned : List (List Char) → List (List Char) → Prop
  | nil : Aligned [] []
  | single {a a' : List Char} (below : Below a a') : Aligned [a] [a']
  | cons {a a' b b' : List Char} {rest rest' : List (List Char)} (below : Below a a')
      (seam : Seam a a' b b') (more : Aligned (b :: rest) (b' :: rest')) :
      Aligned (a :: b :: rest) (a' :: b' :: rest')

section

variable {a a' b b' z : List Char} {pieces pieces' : List (List Char)}

theorem Below.refl (a : List Char) : Below a a :=
  fun _ _ => Nat.le_refl _

theorem Below.append (ha : Below a a') (hb : Below b b') : Below (a ++ b) (a' ++ b') := by
  intro c hc
  rw [List.count_append, List.count_append]
  exact Nat.add_le_add (ha c hc) (hb c hc)

theorem eq_nil_of_endsClosed (hz : ∀ c ∈ z, isNameChar c = true) (h : EndsClosed (a ++ z)) :
    z = [] := by
  obtain ⟨rest, c, heq, hc⟩ := h
  rcases List.eq_nil_or_concat z with rfl | ⟨front, d, rfl⟩
  · rfl
  · have hlast : d = c := by
      have hends := congrArg List.getLast? heq
      simpa using hends
    have hname := hz d (by simp)
    rw [hlast, hc] at hname
    cases hname

theorem eq_nil_of_startsClosed (hz : ∀ c ∈ z, isNameChar c = true) (h : StartsClosed (z ++ b)) :
    z = [] := by
  obtain ⟨c, rest, heq, hc⟩ := h
  cases z with
  | nil => rfl
  | cons d z =>
    have hname := hz d List.mem_cons_self
    rw [(List.cons.inj heq).1, hc] at hname
    cases hname

/-- Where a text goes on without any character outside of words, it goes on with letters of
words. -/
theorem isNameChar_of_count_eq
    (h : ∀ c, isNameChar c = false → (a ++ z).count c = a.count c) {c : Char} (hc : c ∈ z) :
    isNameChar c = true := by
  by_contra hname
  have hcount := h c (by simpa using hname)
  rw [List.count_append] at hcount
  have hpos := List.count_pos_iff.mpr hc
  omega

/-- Equal texts are cut at the same place where the cut is a seam: what one part had more than the
other would belong to words, but no word reaches over the seam. -/
theorem append_inj_of_below (h : a ++ b = a' ++ b') (ha : Below a a') (hb : Below b b')
    (hseam : Seam a a' b b') : a = a' ∧ b = b' := by
  have hcount : ∀ c, isNameChar c = false → a.count c = a'.count c := by
    intro c hc
    have htotal := congrArg (List.count c) h
    rw [List.count_append, List.count_append] at htotal
    have hfirst := ha c hc
    have hsecond := hb c hc
    omega
  rcases List.append_eq_append_iff.mp h with ⟨z, rfl, rfl⟩ | ⟨z, rfl, rfl⟩
  · have hletters : ∀ c ∈ z, isNameChar c = true :=
      fun c => isNameChar_of_count_eq fun d hd => (hcount d hd).symm
    have hnone : z = [] := by
      rcases hseam with ⟨-, hends⟩ | ⟨hstarts, -⟩
      · exact eq_nil_of_endsClosed hletters hends
      · exact eq_nil_of_startsClosed hletters hstarts
    simp [hnone]
  · have hletters : ∀ c ∈ z, isNameChar c = true := fun c => isNameChar_of_count_eq hcount
    have hnone : z = [] := by
      rcases hseam with ⟨hends, -⟩ | ⟨-, hstarts⟩
      · exact eq_nil_of_endsClosed hletters hends
      · exact eq_nil_of_startsClosed hletters hstarts
    simp [hnone]

theorem Aligned.below_flatten (h : Aligned pieces pieces') :
    Below pieces.flatten pieces'.flatten := by
  induction h with
  | nil => exact Below.refl []
  | single below => simpa using below
  | cons below _ _ ih => exact below.append ih

theorem Seam.flatten (h : Seam a a' b b') (rest rest' : List (List Char)) :
    Seam a a' (b :: rest).flatten (b' :: rest').flatten := by
  rcases h with hends | ⟨hstarts, hstarts'⟩
  · exact .inl hends
  · exact .inr ⟨hstarts.append rest.flatten, hstarts'.append rest'.flatten⟩

/-- Texts that are equal as a whole are equal piece by piece. -/
theorem Aligned.eq_of_flatten_eq (h : Aligned pieces pieces')
    (heq : pieces.flatten = pieces'.flatten) : pieces = pieces' := by
  induction h with
  | nil => rfl
  | single _ => simpa using heq
  | cons below seam more ih =>
    rw [List.flatten_cons, List.flatten_cons] at heq
    obtain ⟨rfl, hrest⟩ := append_inj_of_below heq below more.below_flatten
      (seam.flatten _ _)
    rw [ih hrest]

end

/-! ## Replacing words -/

/-- Only words mean something. -/
def KnowsWords (meaning : List Char → Option (List Char)) : Prop :=
  ∀ word text, meaning word = some text → IsWord word

section

variable {meaning : List Char → Option (List Char)} {a b word chars : List Char}
  {pieces pieces' : List (List Char)}

theorem replaceWords_append (h : EndsClosed a ∨ StartsClosed b) :
    replaceWords meaning (a ++ b) = replaceWords meaning a ++ replaceWords meaning b := by
  rw [replaceWords, words_append h, List.flatMap_append]
  rfl

theorem replaceWords_of_isWord (h : IsWord word) :
    replaceWords meaning word = put meaning word := by
  rw [replaceWords, words_of_isWord h, List.flatMap_singleton]

/-- Nothing is put for a character outside of words. -/
theorem put_single (hmeaning : KnowsWords meaning) {c : Char} (hc : isNameChar c = false) :
    put meaning [c] = [c] := by
  cases hword : meaning [c] with
  | none => rw [put, hword, Option.getD_none]
  | some text =>
    have hname := (hmeaning [c] text hword).2 c List.mem_cons_self
    rw [hc] at hname
    cases hname

theorem replaceWords_single (hmeaning : KnowsWords meaning) {c : Char}
    (hc : isNameChar c = false) : replaceWords meaning [c] = [c] := by
  have hcut : words [c] = [[c]] := rfl
  rw [replaceWords, hcut, List.flatMap_singleton, put_single hmeaning hc]

theorem replaceWords_endsClosed (hmeaning : KnowsWords meaning) (h : EndsClosed chars) :
    EndsClosed (replaceWords meaning chars) := by
  obtain ⟨rest, c, rfl, hc⟩ := h
  rw [replaceWords_append (.inr ⟨c, [], rfl, hc⟩), replaceWords_single hmeaning hc]
  exact ⟨_, c, rfl, hc⟩

theorem replaceWords_startsClosed (hmeaning : KnowsWords meaning) (h : StartsClosed chars) :
    StartsClosed (replaceWords meaning chars) := by
  obtain ⟨c, rest, rfl, hc⟩ := h
  have hends : EndsClosed [c] := ⟨[], c, rfl, hc⟩
  rw [← List.singleton_append, replaceWords_append (.inl hends), replaceWords_single hmeaning hc]
  exact ⟨c, _, rfl, hc⟩

/-- Words are replaced piece by piece. -/
theorem replaceWords_flatten (h : Aligned pieces pieces') :
    replaceWords meaning pieces.flatten = (pieces.map (replaceWords meaning)).flatten := by
  induction h with
  | nil => rfl
  | single _ => simp
  | cons below seam more ih =>
    rw [List.flatten_cons, List.map_cons, List.flatten_cons (l := replaceWords meaning _), ← ih]
    refine replaceWords_append ?_
    rcases seam with hends | hstarts
    · exact .inl hends.1
    · exact .inr (hstarts.1.append _)

theorem below_put (hmeaning : KnowsWords meaning) (hword : word ∈ words chars) :
    Below word (put meaning word) := by
  intro c hc
  rcases isWord_or_single hword with hisWord | ⟨d, rfl, hd⟩
  · have hnone : word.count c = 0 := by
      rw [List.count_eq_zero]
      intro hmem
      rw [hisWord.2 c hmem] at hc
      cases hc
    omega
  · rw [put_single hmeaning hd]

/-- Next to a word stands another character, which stays. -/
theorem seam_put (hmeaning : KnowsWords meaning) {next : List Char} (hword : word ∈ words chars)
    (hnext : next ∈ words chars)
    (hapart : ∃ hsome hsome', (isNameChar (word.getLast hsome) && isNameChar (next.head hsome'))
      = false) : Seam word (put meaning word) next (put meaning next) := by
  obtain ⟨hsome, hsome', hapart⟩ := hapart
  rcases isWord_or_single hword with hisWord | ⟨c, rfl, hc⟩
  · rcases isWord_or_single hnext with hisWord' | ⟨c, rfl, hc⟩
    · rw [hisWord.2 _ (List.getLast_mem hsome), hisWord'.2 _ (List.head_mem hsome')] at hapart
      cases hapart
    · rw [put_single hmeaning hc]
      exact .inr ⟨⟨c, [], rfl, hc⟩, ⟨c, [], rfl, hc⟩⟩
  · rw [put_single hmeaning hc]
    exact .inl ⟨⟨[], c, rfl, hc⟩, ⟨[], c, rfl, hc⟩⟩

theorem aligned_words (hmeaning : KnowsWords meaning) (chars : List Char) :
    Aligned (words chars) ((words chars).map (put meaning)) := by
  have hchain := List.isChain_getLast_head_splitBy (fun a b => isNameChar a && isNameChar b) chars
  rw [← words] at hchain
  have hseams := hchain.imp_of_mem_imp fun word next hword hnext hapart =>
    seam_put hmeaning hword hnext hapart
  have hbelow : ∀ word ∈ words chars, Below word (put meaning word) :=
    fun word hword => below_put hmeaning hword
  generalize words chars = cut at hseams hbelow
  induction cut with
  | nil => exact .nil
  | cons word rest ih =>
    have hfirst := hbelow word List.mem_cons_self
    cases rest with
    | nil => exact .single hfirst
    | cons next rest =>
      obtain ⟨hseam, hmore⟩ := List.isChain_cons_cons.mp hseams
      exact .cons hfirst hseam (ih hmore fun w hw => hbelow w (List.mem_cons_of_mem _ hw))

theorem below_replaceWords (hmeaning : KnowsWords meaning) (chars : List Char) :
    Below chars (replaceWords meaning chars) := by
  have hbelow := (aligned_words hmeaning chars).below_flatten
  rwa [flatten_words, ← List.flatMap_def] at hbelow

/-- A text stays as it is exactly when all its words mean themselves or nothing. -/
theorem replaceWords_eq_self_iff (hmeaning : KnowsWords meaning) :
    replaceWords meaning chars = chars ↔ ∀ word ∈ words chars, put meaning word = word := by
  constructor
  · intro h word hword
    have hall : words chars = (words chars).map (put meaning) := by
      refine (aligned_words hmeaning chars).eq_of_flatten_eq ?_
      rw [flatten_words, ← List.flatMap_def]
      exact h.symm
    have hmap := hall.symm.trans (List.map_id _).symm
    exact List.map_inj_left.mp hmap word hword
  · intro h
    have hkeep : ∀ word ∈ words chars, put meaning word = id word := h
    rw [replaceWords, List.flatMap_congr hkeep, List.flatMap_id, flatten_words]

end

end ApiShell.Text
