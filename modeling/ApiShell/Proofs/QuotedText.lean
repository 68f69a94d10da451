import ApiShell.Declaration.Attributes
import ApiShell.Proofs.Text

/-!
# Quoted text

What stands between quotes can be read back. Escaping puts a backslash before the characters that
would end the line or the literal, and a reader that goes from left to right gets the text again.
So a literal says what its text is, ends at its own closing quote and stays on one line.
-/

namespace ApiShell

namespace Literal

/-! ## Reading -/

/-- The quotes of the two kinds of literals. -/
def quotes : List Char := ['"', '\'']

/-- Characters that a literal does not hold as they are. -/
def controls : List Char := ['\n', '\r', '\t', '\x00']

/-- The character that a backslash and the character behind it stand for. -/
def meant? (quote c : Char) : Option Char :=
  if c = '\\' ∨ c = quote then some c
  else if c = 'n' then some '\n'
  else if c = 'r' then some '\r'
  else if c = 't' then some '\t'
  else if c = '0' then some '\x00'
  else none

/-- Reads escaped text to its end. A quote that no backslash escapes is refused, and so is a
backslash that escapes nothing. -/
def decode? (quote : Char) : List Char → Option (List Char)
  | [] => some []
  | '\\' :: c :: rest => do
    let d ← meant? quote c
    let more ← decode? quote rest
    return d :: more
  | c :: rest => if c = '\\' ∨ c = quote then none else (decode? quote rest).map (c :: ·)

/-- Cuts a text at its first quote that no backslash escapes. -/
def cutAtQuote? (quote : Char) : List Char → Option (List Char × List Char)
  | [] => none
  | '\\' :: c :: rest =>
    (cutAtQuote? quote rest).map fun (body, after) => ('\\' :: c :: body, after)
  | c :: rest =>
    if c = quote then some ([], rest)
    else (cutAtQuote? quote rest).map fun (body, after) => (c :: body, after)

/-- Reads a literal off the start of a text: a quote, and escaped text up to the quote of the same
kind that closes it. -/
def read? : List Char → Option (List Char × List Char)
  | [] => none
  | quote :: rest => do
    let (body, after) ← if quote ∈ quotes then cutAtQuote? quote rest else none
    let text ← decode? quote body
    return (text, after)

/-- How many backslashes stand at the end. -/
def slashesAtEnd (chars : List Char) : Nat :=
  (chars.reverse.takeWhile (· = '\\')).length

/-! ## Escaping in turn -/

/-- The text with some characters put for every occurrence of one. -/
def replaced (old : Char) (new chars : List Char) : List Char :=
  chars.flatMap fun c => if c = old then new else [c]

/-- What is replaced in a text between quotes, in this order. -/
def replacements (quote : Char) : List (Char × List Char) :=
  [('\\', ['\\', '\\']), (quote, ['\\', quote]), ('\n', ['\\', 'n']), ('\r', ['\\', 'r']),
   ('\t', ['\\', 't']), ('\x00', ['\\', '0'])]

/-- The text after one replacement has followed the other throughout it. -/
def escapeInTurn (quote : Char) (chars : List Char) : List Char :=
  (replacements quote).foldl (fun text (old, new) => replaced old new text) chars

section

variable {quote c : Char} {rest : List Char}

/-- No replacement touches what an earlier one has put, so all can be made in one pass. -/
theorem escapeInTurn_eq (hquote : quote ∈ quotes) (chars : List Char) :
    escapeInTurn quote chars = chars.flatMap (escapeChar quote) := by
  simp only [escapeInTurn, replacements, List.foldl_cons, List.foldl_nil, replaced,
    List.flatMap_assoc]
  refine List.flatMap_congr fun c _ => ?_
  simp only [quotes, List.mem_cons, List.not_mem_nil, or_false] at hquote
  rcases hquote with rfl | rfl
  all_goals
    unfold escapeChar
    split_ifs <;> simp_all

/-! ## One character -/

/-- A character is written as a backslash and a character that means it, or as itself where it
has no meaning of its own between quotes. -/
theorem escapeChar_cases (hquote : quote ∈ quotes) (c : Char) :
    (∃ d, escapeChar quote c = ['\\', d] ∧ meant? quote d = some c ∧ d ∉ controls) ∨
      escapeChar quote c = [c] ∧ c ≠ '\\' ∧ c ≠ quote ∧ c ∉ controls := by
  simp only [quotes, List.mem_cons, List.not_mem_nil, or_false] at hquote
  unfold escapeChar
  split_ifs with hslash hsame hfeed hreturn htab hnull
  · exact .inl ⟨'\\', rfl, by simp [meant?, hslash], by decide⟩
  · refine .inl ⟨quote, rfl, by simp [meant?, hsame], ?_⟩
    rcases hquote with rfl | rfl <;> decide
  · refine .inl ⟨'n', rfl, ?_, by decide⟩
    rcases hquote with rfl | rfl <;> rw [hfeed] <;> rfl
  · refine .inl ⟨'r', rfl, ?_, by decide⟩
    rcases hquote with rfl | rfl <;> rw [hreturn] <;> rfl
  · refine .inl ⟨'t', rfl, ?_, by decide⟩
    rcases hquote with rfl | rfl <;> rw [htab] <;> rfl
  · refine .inl ⟨'0', rfl, ?_, by decide⟩
    rcases hquote with rfl | rfl <;> rw [hnull] <;> rfl
  · exact .inr ⟨rfl, hslash, hsame, by simp [controls, hfeed, hreturn, htab, hnull]⟩

theorem decode?_of_plain (hslash : c ≠ '\\') (hquote : c ≠ quote) :
    decode? quote (c :: rest) = (decode? quote rest).map (c :: ·) := by
  rw [decode?, if_neg (by simp [hslash, hquote])]
  intro d more hcons
  exact absurd hcons hslash

theorem cutAtQuote?_of_plain (hslash : c ≠ '\\') (hquote : c ≠ quote) :
    cutAtQuote? quote (c :: rest) =
      (cutAtQuote? quote rest).map fun (body, after) => (c :: body, after) := by
  rw [cutAtQuote?, if_neg hquote]
  intro d more hcons
  exact absurd hcons hslash

theorem decode?_escapeChar_append (hquote : quote ∈ quotes) (c : Char) (rest : List Char) :
    decode? quote (escapeChar quote c ++ rest) = (decode? quote rest).map (c :: ·) := by
  rcases escapeChar_cases hquote c with ⟨d, hpair, hmeant, -⟩ | ⟨hself, hslash, hother, -⟩
  · rw [hpair, List.cons_append, List.cons_append, List.nil_append, decode?, hmeant]
    cases decode? quote rest <;> rfl
  · rw [hself, List.singleton_append, decode?_of_plain hslash hother]

theorem cutAtQuote?_escapeChar_append (hquote : quote ∈ quotes) (c : Char) (rest : List Char) :
    cutAtQuote? quote (escapeChar quote c ++ rest) =
      (cutAtQuote? quote rest).map fun (body, after) => (escapeChar quote c ++ body, after) := by
  rcases escapeChar_cases hquote c with ⟨d, hpair, -⟩ | ⟨hself, hslash, hother, -⟩
  · rw [hpair, List.cons_append, List.cons_append, List.nil_append, cutAtQuote?]
    rfl
  · rw [hself, List.singleton_append, cutAtQuote?_of_plain hslash hother]
    rfl

/-! ## Whole texts -/

theorem decode?_escape (hquote : quote ∈ quotes) (chars : List Char) :
    decode? quote (chars.flatMap (escapeChar quote)) = some chars := by
  induction chars with
  | nil => rfl
  | cons c chars ih => rw [List.flatMap_cons, decode?_escapeChar_append hquote, ih, Option.map_some]

theorem cutAtQuote?_escape (hquote : quote ∈ quotes) (chars after : List Char) :
    cutAtQuote? quote (chars.flatMap (escapeChar quote) ++ quote :: after) =
      some (chars.flatMap (escapeChar quote), after) := by
  induction chars with
  | nil =>
    have hslash : quote ≠ '\\' := by
      rintro rfl
      exact absurd hquote (by decide)
    rw [List.flatMap_nil, List.nil_append, cutAtQuote?, if_pos rfl]
    intro d more hcons
    exact absurd hcons hslash
  | cons c chars ih =>
    rw [List.flatMap_cons, List.append_assoc, cutAtQuote?_escapeChar_append hquote, ih,
      Option.map_some]

theorem control_not_mem_escape (hquote : quote ∈ quotes) {control : Char}
    (hcontrol : control ∈ controls) (chars : List Char) :
    control ∉ chars.flatMap (escapeChar quote) := by
  intro hmem
  obtain ⟨c, -, hc⟩ := List.mem_flatMap.mp hmem
  have hslash : control ≠ '\\' := by
    rintro rfl
    exact absurd hcontrol (by decide)
  rcases escapeChar_cases hquote c with ⟨d, hpair, -, hd⟩ | ⟨hself, -, -, hplain⟩
  · simp only [hpair, List.mem_cons, List.not_mem_nil, or_false] at hc
    rcases hc with rfl | rfl
    · exact hslash rfl
    · exact hd hcontrol
  · rw [hself, List.mem_singleton] at hc
    exact hplain (hc ▸ hcontrol)

/-! ## Quotes inside -/

/-- An even number of backslashes at the end of what comes before does not change whether the
number is odd. -/
theorem slashesAtEnd_append {a : List Char} (heven : slashesAtEnd a % 2 = 0) (b : List Char) :
    slashesAtEnd (a ++ b) % 2 = slashesAtEnd b % 2 := by
  rw [slashesAtEnd] at heven
  rw [slashesAtEnd, slashesAtEnd, List.reverse_append, List.takeWhile_append]
  split
  · rw [List.length_append]
    omega
  · rfl

theorem slashesAtEnd_escapeChar (hquote : quote ∈ quotes) (c : Char) :
    slashesAtEnd (escapeChar quote c) % 2 = 0 := by
  rcases escapeChar_cases hquote c with ⟨d, hpair, -⟩ | ⟨hself, hslash, -⟩
  · by_cases hd : d = '\\' <;> simp [hpair, slashesAtEnd, hd]
  · simp [hself, slashesAtEnd, hslash]

/-- Every quote in an escaped text is escaped: the number of backslashes right before it is odd,
so the last of them is not itself escaped. The induction is on the text, and the characters
before the quote lie in what its first character is written as or go beyond that. -/
theorem slashes_before_quote (hquote : quote ∈ quotes) {chars before after : List Char}
    (h : chars.flatMap (escapeChar quote) = before ++ quote :: after) :
    slashesAtEnd before % 2 = 1 := by
  induction chars generalizing before with
  | nil => simp at h
  | cons c chars ih =>
    rw [List.flatMap_cons] at h
    rcases List.append_eq_append_iff.mp h with ⟨more, rfl, hrest⟩ | ⟨inside, hinside, hrest⟩
    · rw [slashesAtEnd_append (slashesAtEnd_escapeChar hquote c)]
      exact ih hrest
    · cases inside with
      | nil =>
        have hnone : slashesAtEnd [] % 2 = 1 := ih hrest.symm
        cases hnone
      | cons first inside =>
        obtain ⟨rfl, -⟩ := List.cons.inj hrest
        have hslash : quote ≠ '\\' := by
          rintro rfl
          exact absurd hquote (by decide)
        rcases escapeChar_cases hquote c with ⟨d, hpair, -⟩ | ⟨hself, -, hother, -⟩
        · rw [hpair] at hinside
          rcases List.cons_eq_append_iff.mp hinside with ⟨rfl, hfirst⟩ | ⟨tail, rfl, htail⟩
          · exact absurd (List.cons.inj hfirst).1 hslash
          · rcases List.cons_eq_append_iff.mp htail with ⟨rfl, -⟩ | ⟨inner, -, hinner⟩
            · decide
            · simp at hinner
        · rw [hself] at hinside
          rcases List.cons_eq_append_iff.mp hinside with ⟨-, hfirst⟩ | ⟨tail, -, htail⟩
          · exact absurd (List.cons.inj hfirst).1.symm hother
          · simp at htail

theorem read?_quoted (hquote : quote ∈ quotes) (text : String) (after : List Char) :
    read? ((quoted quote text).toList ++ after) = some (text.toList, after) := by
  have hchars : (quoted quote text).toList ++ after =
      quote :: (text.toList.flatMap (escapeChar quote) ++ quote :: after) := by
    simp [quoted, escape]
  rw [hchars, read?, if_pos hquote, cutAtQuote?_escape hquote]
  simp [decode?_escape hquote]

end

/-- The quote that a text is put in as a constant of a type. -/
def quoteOf (ref : TypeRef) : Char :=
  if ref.category = .char ∨ ref.identity = "System.Char" then '\'' else '"'

theorem quoteOf_mem (ref : TypeRef) : quoteOf ref ∈ quotes := by
  rw [quoteOf]
  split <;> decide

end Literal

open Literal

theorem literal_text (g : Graph) (aliases : Bool) {ref : TypeRef} (hkind : ref.category ≠ .enum)
    (text : String) : literal g aliases ref (.text text) = quoted (quoteOf ref) text := by
  have hplain : literal g aliases ref (.text text) = plainLiteral ref (.text text) := by
    unfold literal
    split
    · contradiction
    · contradiction
    · rfl
  rw [hplain, quoteOf]
  by_cases hchar : ref.category = .char ∨ ref.identity = "System.Char"
  · simp [plainLiteral, hchar, Value.display]
  · simp [plainLiteral, hchar, Value.display]

/-- A text without line feeds that is not empty is written as one line. -/
theorem Writer.line_of_plain (w : Writer) {text : String} (hsome : text ≠ "")
    (hfeed : '\n' ∉ text.toList) :
    w.line text = { w with lines := w.lines ++ [indentation w.unit w.level ++ text] } := by
  rw [line, Text.pieces, Text.splitOn_of_not_mem hfeed]
  simp [indented, hsome]

theorem literal_oneLine (g : Graph) (aliases : Bool) {ref : TypeRef} (hkind : ref.category ≠ .enum)
    (text : String) : literal g aliases ref (.text text) ≠ "" ∧
      '\n' ∉ (literal g aliases ref (.text text)).toList := by
  have hquote := quoteOf_mem ref
  have hfeed : '\n' ∉ text.toList.flatMap (escapeChar (quoteOf ref)) :=
    control_not_mem_escape hquote (by decide) text.toList
  have hapart : '\n' ≠ quoteOf ref := by
    intro hsame
    rw [← hsame] at hquote
    exact absurd hquote (by decide)
  have hchars : (quoted (quoteOf ref) text).toList =
      quoteOf ref :: (text.toList.flatMap (escapeChar (quoteOf ref)) ++ [quoteOf ref]) := by
    simp [quoted, escape]
  rw [literal_text g aliases hkind]
  constructor
  · intro hempty
    rw [hempty] at hchars
    cases hchars
  · simp [hchars, hfeed, hapart]

/-- Escaping makes one replacement after the other, leaves no control character and no quote that
is not escaped, and is undone by reading. So the literals of a type that is no enum tell texts
apart; each ends at its own closing quote, whatever follows it, and takes up one line. -/
theorem quoted_text_reads_back :
    (∀ quote ∈ quotes, ∀ text : String,
      (escape quote text).toList = escapeInTurn quote text.toList ∧
      (∀ control ∈ controls, control ∉ (escape quote text).toList) ∧
      (∀ before after, (escape quote text).toList = before ++ quote :: after →
        slashesAtEnd before % 2 = 1) ∧
      decode? quote (escape quote text).toList = some text.toList) ∧
    ∀ (g : Graph) (aliases : Bool) (ref : TypeRef), ref.category ≠ .enum →
      Function.Injective (fun text => literal g aliases ref (.text text)) ∧
      ∀ text : String,
        (∀ after, read? ((literal g aliases ref (.text text)).toList ++ after) =
          some (text.toList, after)) ∧
        ∀ w : Writer, w.line (literal g aliases ref (.text text)) =
          { w with lines := w.lines ++
            [Writer.indentation w.unit w.level ++ literal g aliases ref (.text text)] } := by
  constructor
  · intro quote hquote text
    have hchars : (escape quote text).toList = text.toList.flatMap (escapeChar quote) :=
      String.toList_ofList
    rw [hchars]
    refine ⟨(escapeInTurn_eq hquote text.toList).symm, ?_, ?_, decode?_escape hquote text.toList⟩
    · intro control hcontrol
      exact control_not_mem_escape hquote hcontrol text.toList
    · intro before after hsplit
      exact slashes_before_quote hquote hsplit
  · intro g aliases ref hkind
    have hread : ∀ (text : String) (after : List Char),
        read? ((literal g aliases ref (.text text)).toList ++ after) =
          some (text.toList, after) := by
      intro text after
      rw [literal_text g aliases hkind, read?_quoted (quoteOf_mem ref)]
    refine ⟨?_, fun text => ⟨hread text, fun w => ?_⟩⟩
    · intro text other hsame
      have hboth : some (text.toList, ([] : List Char)) = some (other.toList, []) := by
        rw [← hread text, ← hread other]
        exact congrArg (fun shown : String => read? (shown.toList ++ [])) hsame
      exact String.toList_injective (Prod.mk.inj (Option.some.inj hboth)).1
    · obtain ⟨hsome, hfeed⟩ := literal_oneLine g aliases hkind text
      exact w.line_of_plain hsome hfeed

/-- A text with everything that needs care: backslashes before a quote, and control characters
before digits. -/
def trickyText : String := "a\\\"b\n0\x007\\"

theorem trickyText_reads_back :
    literal {} true Attribute.stringRef (.text trickyText) =
      "\"a\\\\\\\"b\\n0\\07\\\\\"" ∧
    decode? '"' (escape '"' trickyText).toList = some trickyText.toList ∧
    read? ((literal {} true Attribute.stringRef (.text trickyText)).toList ++ [')', '"']) =
      some (trickyText.toList, [')', '"']) := by
  obtain ⟨hescape, hliteral⟩ := quoted_text_reads_back
  obtain ⟨-, -, -, hdecode⟩ := hescape '"' (by decide) trickyText
  obtain ⟨-, hread⟩ := hliteral {} true Attribute.stringRef (by decide)
  exact ⟨by decide +kernel, hdecode, (hread trickyText).1 [')', '"']⟩

end ApiShell
