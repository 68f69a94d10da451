import ApiShell.Proofs.NamespaceBlocks
import ApiShell.Template.Engine
import Mathlib.Data.List.Infix

/-!
# Closed comment

The bundled template makes one comment, in which the library's name and version and the names left
out stand as they are, when the engine fills it in as it is written. Main statement: the comment is
closed by its last two characters and not before exactly when none of these texts has the closing
mark in it; no such mark comes about where texts and template meet. Then what follows the comment of
a shell is what the shell has without a comment.
-/

namespace ApiShell

namespace Banner

/-! ## Comments -/

/-- The mark that opens a comment. -/
def openingMark : List Char := ['/', '*']

/-- The mark that closes a comment. -/
def closingMark : List Char := ['*', '/']

/-- A text is one comment: it starts with the opening mark and ends with the closing mark, which
occurs nowhere else. -/
structure IsOneComment (text : String) : Prop where
  opens : openingMark <+: text.toList
  closes : closingMark <:+ text.toList
  closes_once : ∀ before after, text.toList = before ++ closingMark ++ after → after = []

/-- What follows the first closing mark. -/
def behindClosing? : List Char → Option (List Char)
  | [] => none
  | '*' :: '/' :: rest => some rest
  | _ :: rest => behindClosing? rest

/-- What follows a comment at the start of a text. -/
def behindOneComment? : List Char → Option (List Char)
  | '/' :: '*' :: rest => behindClosing? rest
  | _ => none

/-- No text has the closing mark in it. -/
def LeaveOpen (texts : List String) : Prop :=
  ∀ text ∈ texts, ¬ closingMark <:+: text.toList

/-! ## Marks across a seam -/

/-- A mark in two texts put together is in one of them, or the seam goes through it. -/
theorem closingMark_infix_append_iff {a b : List Char} :
    closingMark <:+: a ++ b ↔
      closingMark <:+: a ∨ closingMark <:+: b ∨ (a.getLast? = some '*' ∧ b.head? = some '/') := by
  rw [List.infix_append_iff]
  constructor
  · rintro (ha | hb | ⟨left, right, hmark, hleft, hright⟩)
    · exact .inl ha
    · exact .inr (.inl hb)
    · rcases List.append_eq_cons_iff.mp hmark.symm with ⟨rfl, rfl⟩ | ⟨more, rfl, hmore⟩
      · exact .inr (.inl hright.isInfix)
      · rcases List.append_eq_cons_iff.mp hmore.symm with ⟨rfl, rfl⟩ | ⟨rest, rfl, hrest⟩
        · obtain ⟨before, rfl⟩ := hleft
          obtain ⟨after, rfl⟩ := hright
          exact .inr (.inr ⟨by simp, rfl⟩)
        · rw [(List.append_eq_nil_iff.mp hrest.symm).1] at hleft
          exact .inl hleft.isInfix
  · rintro (ha | hb | ⟨hlast, hhead⟩)
    · exact .inl ha
    · exact .inr (.inl hb)
    · obtain ⟨before, rfl⟩ := List.getLast?_eq_some_iff.mp hlast
      obtain ⟨after, rfl⟩ := List.head?_eq_some_iff.mp hhead
      exact .inr (.inr ⟨['*'], ['/'], rfl, List.suffix_append before ['*'],
        List.prefix_append ['/'] after⟩)

/-- A text that has no closing mark and can be no part of one with what is around it. -/
structure SetsApart (text : List Char) : Prop where
  some_text : text ≠ []
  no_slash : text.head? ≠ some '/'
  no_star : text.getLast? ≠ some '*'
  no_mark : ¬ closingMark <:+: text

instance : DecidablePred SetsApart := fun text =>
  decidable_of_iff (text ≠ [] ∧ text.head? ≠ some '/' ∧ text.getLast? ≠ some '*' ∧
      ¬ closingMark <:+: text)
    ⟨fun ⟨hsome, hslash, hstar, hmark⟩ => ⟨hsome, hslash, hstar, hmark⟩,
     fun h => ⟨h.some_text, h.no_slash, h.no_star, h.no_mark⟩⟩

theorem SetsApart.infix_iff {between : List Char} (h : SetsApart between) (a b : List Char) :
    closingMark <:+: a ++ (between ++ b) ↔ closingMark <:+: a ∨ closingMark <:+: b := by
  have hlast : (a ++ between).getLast? = between.getLast? :=
    List.getLast?_append_of_ne_nil a h.some_text
  rw [← List.append_assoc, closingMark_infix_append_iff, closingMark_infix_append_iff, hlast]
  simp [h.no_slash, h.no_star, h.no_mark]

/-- What texts with a separator between them have in them, one of the texts has. -/
theorem closingMark_infix_joinWith {separator : List Char} (h : SetsApart separator)
    (texts : List (List Char)) :
    closingMark <:+: Text.joinWith separator texts ↔ ∃ text ∈ texts, closingMark <:+: text := by
  induction texts with
  | nil => simp [Text.joinWith, closingMark]
  | cons text rest ih =>
    cases rest with
    | nil => simp [Text.joinWith]
    | cons next more =>
      rw [Text.joinWith_cons_of_ne_nil separator text (List.cons_ne_nil next more),
        List.append_assoc, h.infix_iff, ih]
      exact (List.exists_mem_cons_iff _ _ _).symm

/-! ## Reading a comment -/

/-- What follows the first closing mark. A mark before it, which takes in its first character at
most, is what the condition on the text before it rules out. -/
theorem behindClosing?_eq_some_iff {chars rest : List Char} :
    behindClosing? chars = some rest ↔
      ∃ body, chars = body ++ closingMark ++ rest ∧ ¬ closingMark <:+: body ++ ['*'] := by
  fun_induction behindClosing? chars with
  | case1 => simp [closingMark]
  | case2 more =>
    constructor
    · intro h
      cases h
      exact ⟨[], rfl, by decide⟩
    · rintro ⟨body, hchars, hnone⟩
      cases body with
      | nil =>
        cases hchars
        rfl
      | cons c body =>
        cases body with
        | nil => cases hchars
        | cons d body =>
          cases hchars
          exact absurd (List.prefix_append closingMark (body ++ ['*'])).isInfix hnone
  | case3 c more hother ih =>
    rw [ih]
    constructor
    · rintro ⟨body, rfl, hnone⟩
      refine ⟨c :: body, rfl, ?_⟩
      rw [List.cons_append, List.infix_cons_iff]
      rintro (hfirst | hlater)
      · obtain ⟨hstar, hslash⟩ := List.cons_prefix_cons.mp hfirst
        cases body with
        | nil => exact absurd (List.cons_prefix_cons.mp hslash).1 (by decide)
        | cons d body =>
          have hd := (List.cons_prefix_cons.mp hslash).1
          exact hother (body ++ closingMark ++ rest) hstar.symm (by rw [hd]; rfl)
      · exact hnone hlater
    · rintro ⟨body, hchars, hnone⟩
      cases body with
      | nil =>
        obtain ⟨hstar, hmore⟩ := List.cons.inj hchars
        exact (hother rest hstar hmore).elim
      | cons d body =>
        obtain ⟨rfl, hmore⟩ := List.cons.inj hchars
        exact ⟨body, hmore, fun hlater => hnone (List.infix_cons_iff.mpr (.inr hlater))⟩

/-- The last closing mark of a text is the only one exactly when there is none before its last
character. -/
theorem closes_once_iff (body : List Char) :
    (∀ before after, body ++ closingMark = before ++ closingMark ++ after → after = []) ↔
      ¬ closingMark <:+: body ++ ['*'] := by
  have hlast : body ++ closingMark = (body ++ ['*']) ++ ['/'] := by simp [closingMark]
  constructor
  · rintro honce ⟨before, after, hmark⟩
    have hnil := honce before (after ++ ['/']) (by rw [hlast, ← hmark, List.append_assoc])
    simp at hnil
  · intro hnone before after hmark
    rcases List.eq_nil_or_concat after with rfl | ⟨inside, c, rfl⟩
    · rfl
    · rw [hlast, List.concat_eq_append, ← List.append_assoc] at hmark
      have hinit := (List.append_inj' hmark rfl).1
      exact absurd ⟨before, inside, hinit.symm⟩ hnone

/-- A text between the two marks is one comment exactly where it has no mark that closes it
before. -/
theorem isOneComment_iff (body : List Char) :
    IsOneComment (String.ofList (openingMark ++ (body ++ closingMark))) ↔
      ¬ closingMark <:+: openingMark ++ (body ++ ['*']) := by
  rw [← List.append_assoc, ← List.append_assoc, ← closes_once_iff]
  constructor
  · intro h
    simpa using h.closes_once
  · intro h
    refine ⟨?_, ?_, by simpa using h⟩
    · rw [String.toList_ofList, List.append_assoc]
      exact List.prefix_append openingMark (body ++ closingMark)
    · rw [String.toList_ofList]
      exact List.suffix_append (openingMark ++ body) closingMark

/-- What follows a text between the two marks follows the comment exactly where the text has no
mark that closes it before. -/
theorem behindOneComment?_eq_some_iff (body rest : List Char) :
    behindOneComment? (openingMark ++ (body ++ closingMark) ++ rest) = some rest ↔
      ¬ closingMark <:+: body ++ ['*'] := by
  have hopen : behindOneComment? (openingMark ++ (body ++ closingMark) ++ rest) =
      behindClosing? (body ++ closingMark ++ rest) := rfl
  rw [hopen, behindClosing?_eq_some_iff]
  constructor
  · rintro ⟨other, hsame, hnone⟩
    rw [List.append_cancel_right (List.append_cancel_right hsame)]
    exact hnone
  · intro hnone
    exact ⟨body, rfl, hnone⟩

/-! ## The bundled template -/

/-- The text of the bundled template between the opening mark and the library's name. -/
def beforeName : String := "\n * Declaration shell of "

/-- The text of the bundled template behind the library's version. -/
def behindVersion : String :=
  ".\n * Generated by declshell from the library's public metadata; every member\n" ++
  " * body is a stub. Changes to this file may be lost when it is regenerated.\n"

/-- The text of the bundled template before the names that were left out. -/
def beforeIgnored : String := " *\n * Omitted namespaces and types: "

theorem setsApart_beforeName : SetsApart beforeName.toList := by
  unfold beforeName
  rw [String.toList_ofList]
  decide +kernel

theorem setsApart_behindVersion : SetsApart behindVersion.toList := by
  unfold behindVersion
  rw [String.toList_append, String.toList_ofList, String.toList_ofList]
  decide +kernel

theorem setsApart_beforeIgnored : SetsApart beforeIgnored.toList := by
  unfold beforeIgnored
  rw [String.toList_ofList]
  decide +kernel

/-- The part of the comment about the names that were left out, if there are any. -/
def omission (ignored : List String) : List Char :=
  if ignored.isEmpty then []
  else beforeIgnored.toList ++ (Text.joinWith [',', ' '] (ignored.map String.toList) ++ ['\n'])

/-- The comment between its marks. -/
def commentBody (name version : String) (ignored : List String) : List Char :=
  beforeName.toList ++ (name.toList ++ ([' '] ++ (version.toList ++
    (behindVersion.toList ++ (omission ignored ++ [' '])))))

/-- The comment that the values make of the bundled template. -/
def bundledComment (name version : String) (ignored : List String) : List Char :=
  openingMark ++ (commentBody name version ignored ++ closingMark)

/-- The engine fills the bundled template in as it is written: every value stands in the place of
its mark as it is, and the part about the names left out is there where there are any. -/
def FillsBundled [Engine] : Prop :=
  ∀ (name version : String) (ignored : List String),
    Engine.fill bundled name version ignored =
      .ok (String.ofList (bundledComment name version ignored))

theorem banner_bundled [Engine] (filled : FillsBundled) {t : FileTree} {templates : Option Path}
    (htemplate : template t templates = .ok bundled) (name version : String)
    (ignored : List String) :
    banner t templates name version ignored =
      .ok (String.ofList
        (bundledComment name version (ignored.mergeSort fun a b => a ≤ b))) := by
  have hend : ∀ chars : List Char,
      Text.dropEnd (· = '\n') (chars ++ closingMark) = chars ++ closingMark := by
    intro chars
    exact Text.dropEnd_of_last (by simp [closingMark])
  simp only [banner, htemplate, ofTemplate, filled name version, bind, Except.bind, pure,
    Except.pure, Except.mapError, Text.trimEnd, String.toList_ofList]
  rw [bundledComment, ← List.append_assoc, hend, List.append_assoc]

theorem leaveOpen_mergeSort (name version : String) (ignored : List String) :
    LeaveOpen (name :: version :: ignored.mergeSort fun a b => a ≤ b) ↔
      LeaveOpen (name :: version :: ignored) := by
  simp [LeaveOpen, List.mem_mergeSort]

/-- The names left out bring in no mark but their own. -/
theorem closingMark_infix_omission_iff (ignored : List String) :
    closingMark <:+: omission ignored ++ [' ', '*'] ↔
      ∃ text ∈ ignored, closingMark <:+: text.toList := by
  cases ignored with
  | nil => decide
  | cons first rest =>
    have hparts : omission (first :: rest) ++ [' ', '*'] =
        [] ++ (beforeIgnored.toList ++
          (Text.joinWith [',', ' '] ((first :: rest).map String.toList) ++
            (['\n', ' '] ++ ['*']))) := by
      simp [omission]
    have hbreak : SetsApart ['\n', ' '] := by decide
    have hnone : ¬ closingMark <:+: [] := by decide
    have hstar : ¬ closingMark <:+: ['*'] := by decide
    rw [hparts, setsApart_beforeIgnored.infix_iff, hbreak.infix_iff,
      closingMark_infix_joinWith (by decide)]
    simp only [hnone, hstar, false_or, or_false, List.mem_map, exists_exists_and_eq_and]

/-- The comment is closed before its last character exactly where one of the texts closes it. -/
theorem closingMark_infix_body_iff {start : List Char} (hstart : ¬ closingMark <:+: start)
    (name version : String) (ignored : List String) :
    closingMark <:+: start ++ (commentBody name version ignored ++ ['*']) ↔
      ¬ LeaveOpen (name :: version :: ignored) := by
  have hblank : SetsApart [' '] := by decide
  have hparts : start ++ (commentBody name version ignored ++ ['*']) =
      start ++ (beforeName.toList ++ (name.toList ++ ([' '] ++ (version.toList ++
        (behindVersion.toList ++ (omission ignored ++ [' ', '*'])))))) := by
    simp [commentBody]
  rw [hparts, setsApart_beforeName.infix_iff, hblank.infix_iff, setsApart_behindVersion.infix_iff,
    closingMark_infix_omission_iff]
  simp only [hstart, false_or, LeaveOpen, List.forall_mem_cons, not_and_or, not_not, not_forall,
    exists_prop]

end Banner

/-! ## An engine that fills it in -/

namespace Template

open Banner

/-- The pieces of the bundled template. -/
def bundledPieces : List Piece :=
  [.text ("/*" ++ beforeName).toList, .name, .text " ".toList, .version,
   .text behindVersion.toList, .whenIgnored, .text beforeIgnored.toList, .ignored ", ",
   .text "\n".toList, .done, .text " */".toList]

-- The kernel is slow at decoding a string, so that the literals are made lists of characters
-- before anything is decided.
theorem pieces_bundled : pieces bundled = .ok bundledPieces := by
  unfold pieces bundled bundledPieces beforeName behindVersion beforeIgnored
  simp only [String.toList_append]
  repeat rw [String.toList_ofList]
  decide +kernel

theorem render_bundled (name version : String) (ignored : List String) :
    (render name version ignored 0 bundledPieces).toList = bundledComment name version ignored := by
  cases ignored with
  | nil =>
    simp [bundledPieces, render, bundledComment, commentBody, omission, openingMark, closingMark]
  | cons first rest =>
    simp [bundledPieces, render, bundledComment, commentBody, omission, openingMark, closingMark,
      Text.joinWith_eq_intercalate, String.toList_intercalate]

theorem fillsBundled : FillsBundled := by
  intro name version ignored
  have hrender : render name version ignored 0 bundledPieces =
      String.ofList (bundledComment name version ignored) := by
    rw [← render_bundled, String.ofList_toList]
  rw [engine_fill, fill, pieces_bundled, ← hrender]
  rfl

end Template

/-! ## The shell -/

/-- A text that is written at the outermost level stands in the shell as it is. -/
theorem Writer.toList_text_pieces (text : String) :
    (String.join ((Text.pieces text).map (· ++ "\n"))).toList = text.toList ++ ['\n'] := by
  have hlines : ∀ lines : List (List Char), lines ≠ [] →
      (String.join ((lines.map String.ofList).map (· ++ "\n"))).toList =
        Text.joinWith ['\n'] lines ++ ['\n'] := by
    intro lines hsome
    induction lines with
    | nil => exact absurd rfl hsome
    | cons line rest ih =>
      cases rest with
      | nil => simp [Text.joinWith]
      | cons next more =>
        rw [List.map_cons, List.map_cons, String.join_cons, String.toList_append,
          ih (List.cons_ne_nil next more), Text.joinWith_cons_of_ne_nil _ _ (List.cons_ne_nil _ _)]
        simp
  rw [Text.pieces, hlines _ (Text.splitOn_ne_nil _ _), Text.joinWith_splitOn]

/-- The text of a shell, with a comment or without one. -/
def Settings.shellText (s : Settings) (unit : String) (g : Graph) (library : Library)
    (banner : Option String) : List Char :=
  (({ unit } : Writer).performAll (s.assembly g library banner)).writer.text.toList

theorem Settings.shellText_banner (s : Settings) (unit : String) (g : Graph) (library : Library)
    {banner : String} (hsome : banner ≠ "") :
    s.shellText unit g library (some banner) =
      banner.toList ++ '\n' :: s.shellText unit g library none := by
  have hsteps : s.assembly g library (some banner) =
      [.line banner] ++ s.assembly g library none := by
    simp [assembly, Option.filter, hsome]
  have hfirst : Writer.linesOf unit 0 [.line banner] = Text.pieces banner := by
    simp [Writer.linesOf, Writer.performAll, Writer.perform, Writer.line, Writer.indented_zero]
  have hlines : Writer.linesOf unit 0 ([.line banner] ++ s.assembly g library none) =
      Writer.linesOf unit 0 [.line banner] ++ Writer.linesOf unit 0 (s.assembly g library none) :=
    linesOf_append (.line banner) (s.assembly_balanced g library none)
  rw [hfirst, ← hsteps] at hlines
  have htext : ∀ steps : List Step, (({ unit } : Writer).performAll steps).writer.text =
      String.join ((Writer.linesOf unit 0 steps).map (· ++ "\n")) := fun _ => rfl
  rw [shellText, shellText, htext, htext, hlines, List.map_append, String.join_append,
    String.toList_append, Writer.toList_text_pieces, List.append_assoc, List.singleton_append]

/-! ## The comment of a shell -/

/-- The comment that the bundled template makes. It starts with the opening mark and ends with the
closing mark. It is one comment exactly where neither the name nor the version nor a name left out
has the closing mark in it, and just then nothing of it stands outside the comment of a shell. -/
theorem banner_isOneComment_iff [Banner.Engine] (filled : Banner.FillsBundled) {t : FileTree}
    {templates : Option Path} (htemplate : Banner.template t templates = .ok Banner.bundled)
    (name version : String) (ignored : List String) :
    ∃ text, banner t templates name version ignored = .ok text ∧
      Banner.openingMark <+: text.toList ∧
      Banner.closingMark <:+ text.toList ∧
      (Banner.IsOneComment text ↔ Banner.LeaveOpen (name :: version :: ignored)) ∧
      ∀ (s : Settings) (unit : String) (g : Graph) (library : Library),
        Banner.behindOneComment? (s.shellText unit g library (some text)) =
            some ('\n' :: s.shellText unit g library none) ↔
          Banner.LeaveOpen (name :: version :: ignored) := by
  have hopening : ¬ Banner.closingMark <:+: Banner.openingMark := by decide
  have hnothing : ¬ Banner.closingMark <:+: [] := by decide
  have hbanner := Banner.banner_bundled filled htemplate name version ignored
  rw [← Banner.leaveOpen_mergeSort]
  generalize ignored.mergeSort (fun a b => a ≤ b) = sorted at hbanner ⊢
  rw [Banner.bundledComment] at hbanner
  have hbody := Banner.closingMark_infix_body_iff hnothing name version sorted
  refine ⟨_, hbanner, ?_, ?_, ?_, ?_⟩
  · rw [String.toList_ofList]
    exact List.prefix_append Banner.openingMark _
  · rw [String.toList_ofList, ← List.append_assoc]
    exact List.suffix_append _ Banner.closingMark
  · rw [Banner.isOneComment_iff, Banner.closingMark_infix_body_iff hopening, not_not]
  · intro s unit g library
    have hsome : String.ofList (Banner.openingMark ++
        (Banner.commentBody name version sorted ++ Banner.closingMark)) ≠ "" := by
      simp [← String.toList_inj, Banner.openingMark]
    rw [s.shellText_banner unit g library hsome, String.toList_ofList,
      Banner.behindOneComment?_eq_some_iff, ← List.nil_append (_ ++ ['*']), hbody, not_not]

theorem acme_banner_isOneComment :
    Banner.FillsBundled ∧ Banner.template {} none = .ok Banner.bundled ∧
      ∃ text, banner {} none "Acme" "1.0.0.0" ["Zeta", "Acme.*"] = .ok text ∧
        Banner.IsOneComment text := by
  have htemplate : Banner.template {} none = .ok Banner.bundled := rfl
  have hopen : Banner.LeaveOpen ["Acme", "1.0.0.0", "Zeta", "Acme.*"] := by
    unfold Banner.LeaveOpen
    decide +kernel
  obtain ⟨text, hrun, -, -, hone, -⟩ :=
    banner_isOneComment_iff Template.fillsBundled htemplate "Acme" "1.0.0.0" ["Zeta", "Acme.*"]
  exact ⟨Template.fillsBundled, htemplate, text, hrun, hone.mpr hopen⟩

/-- A library's name closes the comment, and the rest of the comment stands outside it. -/
theorem closingName_stands_outside :
    ∃ text, banner {} none "Acme */ x" "1.0.0.0" [] = .ok text ∧ ¬ Banner.IsOneComment text := by
  have hclosed : ¬ Banner.LeaveOpen ["Acme */ x", "1.0.0.0"] := by
    unfold Banner.LeaveOpen
    decide +kernel
  refine ⟨_, Banner.banner_bundled Template.fillsBundled rfl "Acme */ x" "1.0.0.0" [], ?_⟩
  rw [Banner.bundledComment, Banner.isOneComment_iff, not_not,
    Banner.closingMark_infix_body_iff (by decide), Banner.leaveOpen_mergeSort]
  exact hclosed

end ApiShell
