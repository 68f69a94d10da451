import ApiShell.Text.Basic
import ApiShell.Text.Digit
import Mathlib.Data.List.DropRight

/-!
# Cutting, joining and numerals

Laws of the functions on text that names are made with: cutting undoes joining, trimming leaves
alone what it does not look for, and the numeral of a number is read back as that number.
-/

namespace ApiShell

namespace Text

/-! ## Cutting and joining -/

theorem splitOn_of_not_mem {sep : Char} {chars : List Char} (h : sep ∉ chars) :
    splitOn sep chars = [chars] := by
  induction chars with
  | nil => rfl
  | cons c rest ih =>
    rw [List.mem_cons, not_or] at h
    rw [splitOn, if_neg (Ne.symm h.1), ih h.2]

theorem splitOn_append_sep {sep : Char} {piece : List Char} (h : sep ∉ piece) (rest : List Char) :
    splitOn sep (piece ++ sep :: rest) = piece :: splitOn sep rest := by
  induction piece with
  | nil => rw [List.nil_append, splitOn, if_pos rfl]
  | cons c more ih =>
    rw [List.mem_cons, not_or] at h
    rw [List.cons_append, splitOn, if_neg (Ne.symm h.1), ih h.2]

theorem not_mem_of_mem_splitOn {sep : Char} {chars piece : List Char}
    (h : piece ∈ splitOn sep chars) : sep ∉ piece := by
  induction chars generalizing piece with
  | nil =>
    rw [splitOn, List.mem_singleton] at h
    simp [h]
  | cons c rest ih =>
    rw [splitOn] at h
    by_cases hsep : c = sep
    · rw [if_pos hsep, List.mem_cons] at h
      rcases h with rfl | h
      · exact List.not_mem_nil
      · exact ih h
    · rw [if_neg hsep] at h
      cases hsplit : splitOn sep rest with
      | nil => exact absurd hsplit (splitOn_ne_nil sep rest)
      | cons first more =>
        simp only [hsplit, List.mem_cons] at h ih
        rcases h with rfl | h
        · simp only [List.mem_cons, not_or]
          exact ⟨Ne.symm hsep, ih (.inl rfl)⟩
        · exact ih (.inr h)

theorem joinWith_cons_of_ne_nil (sep piece : List Char) {pieces : List (List Char)}
    (h : pieces ≠ []) : joinWith sep (piece :: pieces) = piece ++ sep ++ joinWith sep pieces := by
  cases pieces with
  | nil => exact absurd rfl h
  | cons next more => rfl

/-- What a piece starts with, the joined text starts with. -/
theorem joinWith_append_cons (sep start piece : List Char) (pieces : List (List Char)) :
    joinWith sep ((start ++ piece) :: pieces) = start ++ joinWith sep (piece :: pieces) := by
  cases pieces <;> simp [joinWith]

theorem not_mem_joinWith {c : Char} {sep : List Char} {pieces : List (List Char)} (hsep : c ∉ sep)
    (h : ∀ piece ∈ pieces, c ∉ piece) : c ∉ joinWith sep pieces := by
  induction pieces with
  | nil => exact List.not_mem_nil
  | cons piece more ih =>
    have hpiece := h piece List.mem_cons_self
    by_cases hlast : more = []
    · subst hlast
      exact hpiece
    · have hmore := ih fun p hp => h p (List.mem_cons_of_mem _ hp)
      rw [joinWith_cons_of_ne_nil _ _ hlast, List.mem_append, List.mem_append]
      rintro ((hc | hc) | hc)
      · exact hpiece hc
      · exact hsep hc
      · exact hmore hc

/-- Pieces that do not hold the separator are found again between the separators. -/
theorem splitOn_joinWith {sep : Char} {pieces : List (List Char)} (hsome : pieces ≠ [])
    (h : ∀ piece ∈ pieces, sep ∉ piece) : splitOn sep (joinWith [sep] pieces) = pieces := by
  induction pieces with
  | nil => exact absurd rfl hsome
  | cons piece more ih =>
    have hpiece := h piece List.mem_cons_self
    by_cases hlast : more = []
    · subst hlast
      exact splitOn_of_not_mem hpiece
    · rw [joinWith_cons_of_ne_nil _ _ hlast, List.append_assoc, List.singleton_append,
        splitOn_append_sep hpiece, ih hlast fun p hp => h p (List.mem_cons_of_mem _ hp)]

theorem joinWith_concat (sep piece : List Char) {pieces : List (List Char)} (h : pieces ≠ []) :
    joinWith sep (pieces ++ [piece]) = joinWith sep pieces ++ sep ++ piece := by
  induction pieces with
  | nil => exact absurd rfl h
  | cons first more ih =>
    by_cases hlast : more = []
    · subst hlast
      rfl
    · rw [List.cons_append, joinWith_cons_of_ne_nil _ _ (by simp), ih hlast,
        joinWith_cons_of_ne_nil _ _ hlast]
      simp

theorem joinWith_eq_intercalate (sep : List Char) (pieces : List (List Char)) :
    joinWith sep pieces = sep.intercalate pieces := by
  fun_induction joinWith sep pieces with
  | case1 => rfl
  | case2 piece => simp [List.intercalate]
  | case3 piece more hmore ih =>
    rw [ih]
    cases more with
    | nil => exact absurd rfl hmore
    | cons next rest => simp [List.intercalate]

/-- What stands in a piece stands in the joined text. -/
theorem mem_joinWith {c : Char} {sep piece : List Char} {pieces : List (List Char)}
    (hpiece : piece ∈ pieces) (hc : c ∈ piece) : c ∈ joinWith sep pieces := by
  induction pieces with
  | nil => cases hpiece
  | cons first more ih =>
    by_cases hlast : more = []
    · subst hlast
      rwa [List.mem_singleton.mp hpiece] at hc
    · rw [joinWith_cons_of_ne_nil _ _ hlast, List.mem_append, List.mem_append]
      rcases List.mem_cons.mp hpiece with rfl | hpiece
      · exact .inl (.inl hc)
      · exact .inr (ih hpiece)

theorem replaceChar_of_not_mem {old new : Char} {chars : List Char} (h : old ∉ chars) :
    replaceChar old new chars = chars := by
  have hkeep : ∀ c ∈ chars, (if c = old then new else c) = id c := by
    intro c hc
    rw [if_neg (ne_of_mem_of_not_mem hc h)]
    rfl
  rw [replaceChar, List.map_congr_left hkeep, List.map_id]

/-- Replacing the separator of pieces that do not hold it is joining with another one. -/
theorem replaceChar_joinWith {old new : Char} {pieces : List (List Char)}
    (h : ∀ piece ∈ pieces, old ∉ piece) :
    replaceChar old new (joinWith [old] pieces) = joinWith [new] pieces := by
  induction pieces with
  | nil => rfl
  | cons piece more ih =>
    have hpiece : replaceChar old new piece = piece := replaceChar_of_not_mem (h piece (by simp))
    by_cases hlast : more = []
    · subst hlast
      exact hpiece
    · have hmore := ih fun other hother => h other (by simp [hother])
      rw [joinWith_cons_of_ne_nil _ _ hlast, joinWith_cons_of_ne_nil _ _ hlast, ← hmore]
      simp only [replaceChar, List.map_append] at hpiece ⊢
      simp [hpiece]

/-- Where the new character does not stand afterwards, nothing was replaced. -/
theorem eq_of_replaceChar_eq {old new : Char} {chars result : List Char}
    (h : replaceChar old new chars = result) (hnew : new ∉ result) : chars = result := by
  have hold : old ∉ chars := by
    intro hmem
    refine hnew (h ▸ List.mem_map.mpr ⟨old, hmem, if_pos rfl⟩)
  rw [← h, replaceChar_of_not_mem hold]

theorem dropWhile_of_head {p : Char → Bool} {chars : List Char}
    (h : ∀ c ∈ chars.head?, p c = false) : chars.dropWhile p = chars := by
  cases chars with
  | nil => rfl
  | cons c rest => rw [List.dropWhile_cons_of_neg (by simp [h c rfl])]

theorem dropEnd_of_last {p : Char → Bool} {chars : List Char}
    (h : ∀ c ∈ chars.getLast?, p c = false) : dropEnd p chars = chars := by
  rw [dropEnd, dropWhile_of_head (by simpa using h), List.reverse_reverse]

/-- Trimming the start stops at a character that is not of the kind. -/
theorem dropWhile_append_cons {p : Char → Bool} {c : Char} (hc : p c = false) (a b : List Char) :
    (a ++ c :: b).dropWhile p = a.dropWhile p ++ c :: b := by
  induction a with
  | nil => rw [List.nil_append, List.dropWhile_cons_of_neg (by simp [hc]), List.dropWhile_nil,
      List.nil_append]
  | cons d rest ih =>
    by_cases hd : p d = true
    · rw [List.cons_append, List.dropWhile_cons_of_pos hd, List.dropWhile_cons_of_pos hd, ih]
    · rw [List.cons_append, List.dropWhile_cons_of_neg hd, List.dropWhile_cons_of_neg hd,
        List.cons_append]

/-- Trimming the end stops at a character that is not of the kind. -/
theorem dropEnd_append_cons {p : Char → Bool} {c : Char} (hc : p c = false) (a b : List Char) :
    dropEnd p (a ++ c :: b) = a ++ c :: dropEnd p b := by
  rw [dropEnd, List.reverse_append, List.reverse_cons, List.append_assoc, List.singleton_append,
    dropWhile_append_cons hc]
  simp [dropEnd]

theorem dropEnd_dropEnd (p : Char → Bool) (chars : List Char) :
    dropEnd p (dropEnd p chars) = dropEnd p chars := by
  rw [dropEnd, dropEnd, List.reverse_reverse, List.dropWhile_idempotent]

theorem mem_of_mem_dropEnds {p : Char → Bool} {c : Char} {chars : List Char}
    (h : c ∈ dropEnds p chars) : c ∈ chars := by
  rw [dropEnds, dropEnd, List.mem_reverse] at h
  have hinner := (List.dropWhile_sublist p).subset h
  rw [List.mem_reverse] at hinner
  exact (List.dropWhile_sublist p).subset hinner

theorem takeWhile_append_of_head {p : Char → Bool} (a : List Char) {b : List Char}
    (h : ∀ c ∈ b.head?, p c = false) : (a ++ b).takeWhile p = a.takeWhile p := by
  have hnone : b.takeWhile p = [] := by
    cases b with
    | nil => rfl
    | cons c rest => rw [List.takeWhile_cons_of_neg (by simp [h c rfl])]
  induction a with
  | nil => exact hnone
  | cons c rest ih =>
    by_cases hc : p c = true
    · rw [List.cons_append, List.takeWhile_cons_of_pos hc, List.takeWhile_cons_of_pos hc, ih]
    · rw [List.cons_append, List.takeWhile_cons_of_neg hc, List.takeWhile_cons_of_neg hc]

theorem mem_dropWhile {p : Char → Bool} {c : Char} {chars : List Char} (hc : c ∈ chars)
    (hp : p c = false) : c ∈ chars.dropWhile p := by
  rw [← @List.takeWhile_append_dropWhile _ p chars, List.mem_append] at hc
  rcases hc with hc | hc
  · rw [List.mem_takeWhile_imp hc] at hp
    cases hp
  · exact hc

theorem mem_dropEnds {p : Char → Bool} {c : Char} {chars : List Char} (hc : c ∈ chars)
    (hp : p c = false) : c ∈ dropEnds p chars := by
  rw [dropEnds, dropEnd, List.mem_reverse]
  exact mem_dropWhile (List.mem_reverse.mpr (mem_dropWhile hc hp)) hp

/-- What trimming takes off the end are characters of the kind, and nothing is lost. -/
theorem dropEnd_append_drop (p : Char → Bool) (chars : List Char) :
    dropEnd p chars ++ chars.drop (dropEnd p chars).length = chars ∧
      ∀ c ∈ chars.drop (dropEnd p chars).length, p c = true := by
  have hwhole : chars = dropEnd p chars ++ (chars.reverse.takeWhile p).reverse := by
    rw [dropEnd, ← List.reverse_append, List.takeWhile_append_dropWhile, List.reverse_reverse]
  have hrest : chars.drop (dropEnd p chars).length = (chars.reverse.takeWhile p).reverse := by
    nth_rewrite 2 [hwhole]
    exact List.drop_left
  rw [hrest]
  refine ⟨hwhole.symm, fun c hc => ?_⟩
  exact List.mem_takeWhile_imp (List.mem_reverse.mp hc)

/-- No character of a kind stands at either end. -/
def EndsApart (p : Char → Bool) (chars : List Char) : Prop :=
  (∀ c ∈ chars.head?, p c = false) ∧ ∀ c ∈ chars.getLast?, p c = false

theorem EndsApart.append {p : Char → Bool} {a b : List Char} (ha : EndsApart p a)
    (hb : EndsApart p b) : EndsApart p (a ++ b) := by
  constructor
  · intro c hc
    simp only [List.head?_append, Option.mem_def, Option.or_eq_some_iff] at hc
    rcases hc with hc | ⟨-, hc⟩
    · exact ha.1 c hc
    · exact hb.1 c hc
  · intro c hc
    simp only [List.getLast?_append, Option.mem_def, Option.or_eq_some_iff] at hc
    rcases hc with hc | ⟨-, hc⟩
    · exact hb.2 c hc
    · exact ha.2 c hc

theorem EndsApart.joinWith {p : Char → Bool} {sep : List Char} {pieces : List (List Char)}
    (hsep : EndsApart p sep) (h : ∀ piece ∈ pieces, EndsApart p piece) :
    EndsApart p (joinWith sep pieces) := by
  fun_induction Text.joinWith sep pieces with
  | case1 => simp [EndsApart]
  | case2 piece => exact h piece (by simp)
  | case3 piece more _ ih =>
    refine ((h piece (by simp)).append hsep).append (ih fun other hother => ?_)
    exact h other (by simp [hother])

theorem endsApart_of_not_mem {c : Char} {chars : List Char} (h : c ∉ chars) :
    EndsApart (· = c) chars := by
  constructor
  · intro d hd
    simpa using ne_of_mem_of_not_mem (List.mem_of_head? hd) h
  · intro d hd
    simpa using ne_of_mem_of_not_mem (List.mem_of_getLast? hd) h

theorem dropEnds_of_endsApart {p : Char → Bool} {chars : List Char} (h : EndsApart p chars) :
    dropEnds p chars = chars := by
  rw [dropEnds, dropWhile_of_head h.1, dropEnd_of_last h.2]

theorem dropEnd_of_not_mem {c : Char} {chars : List Char} (h : c ∉ chars) :
    dropEnd (· = c) chars = chars :=
  dropEnd_of_last (endsApart_of_not_mem h).2

theorem dropEnds_of_not_mem {c : Char} {chars : List Char} (h : c ∉ chars) :
    dropEnds (· = c) chars = chars :=
  dropEnds_of_endsApart (endsApart_of_not_mem h)

/-! ## Starts -/

theorem afterStart?_eq_some_iff {start chars rest : List Char} :
    afterStart? start chars = some rest ↔ chars = start ++ rest := by
  induction start generalizing chars with
  | nil => simp [afterStart?]
  | cons s start ih =>
    cases chars with
    | nil => simp [afterStart?]
    | cons c chars =>
      by_cases h : s = c
      · subst h
        simp [afterStart?, ih]
      · simp [afterStart?, h, Ne.symm h]

/-! ## Numerals -/

theorem digitValue?_of_isDigit {c : Char} (h : c.isDigit = true) :
    digitValue? c = some (c.toNat - '0'.toNat) := by
  have hrange : '0' ≤ c ∧ c ≤ '9' := by
    rw [Char.isDigit, Bool.and_eq_true] at h
    exact ⟨of_decide_eq_true h.1, of_decide_eq_true h.2⟩
  have hsmall : c.toNat < 0x80 := Nat.lt_of_le_of_lt hrange.2 (by decide)
  rw [digitValue?, if_pos hsmall, if_pos hrange]

theorem isDecimalDigit_of_isDigit {c : Char} (h : c.isDigit = true) : isDecimalDigit c = true := by
  rw [isDecimalDigit, digitValue?_of_isDigit h]
  rfl

theorem isDecimalDigit_of_mem_toDigits {c : Char} {n : Nat} (h : c ∈ Nat.toDigits 10 n) :
    isDecimalDigit c = true :=
  isDecimalDigit_of_isDigit (Nat.isDigit_of_mem_toDigits (by decide) (by decide) h)

/-- The numeral of a number has that number as its value. -/
theorem digitsValue_toDigits (n : Nat) : digitsValue (Nat.toDigits 10 n) = n := by
  have hsame : ∀ (digits : List Char) (start : Nat), (∀ c ∈ digits, c.isDigit = true) →
      digits.foldl (fun total c => total * 10 + (digitValue? c).getD 0) start
        = Nat.ofDigitChars 10 digits start := by
    intro digits
    induction digits with
    | nil =>
      intro start _
      rfl
    | cons c rest ih =>
      intro start h
      rw [List.foldl_cons, digitValue?_of_isDigit (h c List.mem_cons_self), Nat.ofDigitChars_cons,
        ← ih _ fun d hd => h d (List.mem_cons_of_mem _ hd), Nat.mul_comm]
      rfl
  rw [digitsValue, hsame _ _ fun c hc => Nat.isDigit_of_mem_toDigits (by decide) (by decide) hc,
    Nat.ofDigitChars_ten_toDigits]

/-- A numeral is read off the start of a text when no digit follows it. -/
theorem toDigits_append_inj {m n : Nat} {a b : List Char}
    (h : Nat.toDigits 10 m ++ a = Nat.toDigits 10 n ++ b)
    (ha : ∀ c ∈ a.head?, isDecimalDigit c = false) (hb : ∀ c ∈ b.head?, isDecimalDigit c = false) :
    m = n ∧ a = b := by
  -- the numeral is the longest row of digits at the start
  have hdigits : ∀ {k : Nat} {rest : List Char}, (∀ c ∈ rest.head?, isDecimalDigit c = false) →
      (Nat.toDigits 10 k ++ rest).takeWhile isDecimalDigit = Nat.toDigits 10 k := by
    intro k rest hrest
    rw [List.takeWhile_append_of_pos fun c hc => isDecimalDigit_of_mem_toDigits hc]
    cases rest with
    | nil => exact List.append_nil _
    | cons c more =>
      rw [List.takeWhile_cons_of_neg (by simp [hrest c rfl]), List.append_nil]
  have hnumerals : Nat.toDigits 10 m = Nat.toDigits 10 n := by
    rw [← hdigits ha, h, hdigits hb]
  have hvalue : m = n := by
    rw [← digitsValue_toDigits m, hnumerals, digitsValue_toDigits]
  rw [hnumerals] at h
  exact ⟨hvalue, List.append_cancel_left h⟩

end Text

end ApiShell
