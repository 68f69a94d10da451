import ApiShell.Proofs.Assignability
import Mathlib.Data.List.FinRange

/-!
# Leaves of a list

What is kept of a list under a reflexive and transitive order in which different entries may be
above each other. Entries that are above each other form a class; a class is a leaf if it is above
no other class of the list. Main statement: of each leaf class the last entry is kept, in the order
of the list, and nothing else. So what is kept is unrelated, has an entry under every entry of the
list, and does not depend on the order of the list but for the choice within a class.
-/

namespace ApiShell

/-- Each of two entries is above the other. -/
def SameClass {α : Type} (above : α → α → Bool) (a b : α) : Prop :=
  above a b = true ∧ above b a = true

instance {α : Type} (above : α → α → Bool) : DecidableRel (SameClass above) :=
  fun a b => inferInstanceAs (Decidable (above a b = true ∧ above b a = true))

/-- Whatever of the list the entry is above is above it in turn. -/
def IsLeaf {α : Type} (above : α → α → Bool) (entries : List α) (c : α) : Prop :=
  ∀ x ∈ entries, above c x = true → above x c = true

instance {α : Type} (above : α → α → Bool) (entries : List α) :
    DecidablePred (IsLeaf above entries) :=
  fun c => inferInstanceAs (Decidable (∀ x ∈ entries, above c x = true → above x c = true))

/-- The entry at a position is of a kind, and none of its class stands at a later position. -/
def IsLastAt {α : Type} (kind : α → Prop) (same : α → α → Prop) (entries : List α)
    (i : Fin entries.length) : Prop :=
  kind (entries.get i) ∧ ∀ j, i < j → ¬ same (entries.get i) (entries.get j)

instance {α : Type} (kind : α → Prop) [DecidablePred kind] (same : α → α → Prop)
    [DecidableRel same] (entries : List α) : DecidablePred (IsLastAt kind same entries) :=
  fun i => inferInstanceAs (Decidable (_ ∧ ∀ j, i < j → ¬ same (entries.get i) (entries.get j)))

/-- The last entry of each class of a kind, in the order of the list. -/
def lastOfEach {α : Type} (kind : α → Prop) [DecidablePred kind] (same : α → α → Prop)
    [DecidableRel same] (entries : List α) : List α :=
  ((List.finRange entries.length).filter fun i => IsLastAt kind same entries i).map entries.get

/-! ## Last entries -/

section

variable {α : Type} {kind : α → Prop} {same : α → α → Prop}

theorem isLastAt_zero {entry : α} {later : List α} :
    IsLastAt kind same (entry :: later) (0 : Fin (later.length + 1)) ↔
      kind entry ∧ ∀ x ∈ later, ¬ same entry x := by
  refine and_congr_right fun _ => ?_
  show (∀ j : Fin (later.length + 1), _) ↔ _
  rw [Fin.forall_fin_succ, List.forall_mem_iff_get]
  simp

theorem isLastAt_succ {entry : α} {later : List α} {i : Fin later.length} :
    IsLastAt kind same (entry :: later) i.succ ↔ IsLastAt kind same later i := by
  refine and_congr_right fun _ => ?_
  show (∀ j : Fin (later.length + 1), _) ↔ _
  rw [Fin.forall_fin_succ]
  simp

variable [DecidablePred kind] [DecidableRel same]

theorem lastOfEach_cons (entry : α) (later : List α) :
    lastOfEach kind same (entry :: later) =
      if kind entry ∧ ∀ x ∈ later, ¬ same entry x then entry :: lastOfEach kind same later
      else lastOfEach kind same later := by
  have hlater : ((List.finRange later.length).map Fin.succ).filter
      (fun i => decide (IsLastAt kind same (entry :: later) i)) =
      ((List.finRange later.length).filter fun i => IsLastAt kind same later i).map Fin.succ := by
    rw [List.filter_map]
    congr 1
    refine List.filter_congr fun i _ => ?_
    simp only [Function.comp_apply, isLastAt_succ]
  have hpositions : List.finRange (entry :: later).length =
      (0 : Fin (later.length + 1)) :: (List.finRange later.length).map Fin.succ :=
    List.finRange_succ
  rw [lastOfEach, hpositions, List.filter_cons, hlater]
  simp only [decide_eq_true_eq, isLastAt_zero]
  split
  · rw [List.map_cons, List.map_map]
    rfl
  · rw [List.map_map]
    rfl

theorem of_mem_lastOfEach {entries : List α} {x : α} (h : x ∈ lastOfEach kind same entries) :
    x ∈ entries ∧ kind x := by
  obtain ⟨i, hi, rfl⟩ := List.mem_map.mp h
  have hlast : IsLastAt kind same entries i := by simpa using hi
  exact ⟨entries.get_mem i, hlast.1⟩

/-- Of two entries that are last in their classes, the first has not the class of the second. -/
theorem lastOfEach_pairwise (entries : List α) :
    (lastOfEach kind same entries).Pairwise fun a b => ¬ same a b := by
  induction entries with
  | nil => exact .nil
  | cons entry later ih =>
    rw [lastOfEach_cons]
    split
    · next hlast =>
      refine .cons (fun b hb => ?_) ih
      exact hlast.2 b (of_mem_lastOfEach hb).1
    · exact ih

end

/-! ## The entries that are kept -/

section

variable {α : Type} {above : α → α → Bool}

/-- How the entries looked at, those of them that are kept and those still to come are related:
nothing that is kept is above anything to come, and every entry that was looked at is above one
that is kept or to come. -/
structure Surveyed (above : α → α → Bool) (before kept rest : List α) : Prop where
  seen : kept ⊆ before
  clear : ∀ k ∈ kept, ∀ x ∈ rest, above k x = false
  covered : ∀ x ∈ before, ∃ y ∈ kept ++ rest, above x y = true

variable {before kept later entries : List α} {entry : α}

/-- An entry that is above one kept or to come is passed over. -/
theorem Surveyed.pass (trans : ∀ x y z, above x y = true → above y z = true → above x z = true)
    (h : Surveyed above before kept (entry :: later))
    (hdropped : ∃ y ∈ kept ++ later, above entry y = true) :
    Surveyed above (before ++ [entry]) kept later where
  seen x hx := List.mem_append_left _ (h.seen hx)
  clear k hk x hx := h.clear k hk x (List.mem_cons_of_mem _ hx)
  covered x hx := by
    rcases List.mem_append.mp hx with hx | hx
    · obtain ⟨y, hy, habove⟩ := h.covered x hx
      simp only [List.mem_append, List.mem_cons] at hy
      rcases hy with hy | rfl | hy
      · exact ⟨y, List.mem_append_left _ hy, habove⟩
      · -- what the entry covered is covered by what it gives way to
        obtain ⟨z, hz, hbelow⟩ := hdropped
        exact ⟨z, hz, trans x y z habove hbelow⟩
      · exact ⟨y, List.mem_append_right _ hy, habove⟩
    · obtain rfl := List.mem_singleton.mp hx
      exact hdropped

/-- An entry that is above none kept or to come is kept. -/
theorem Surveyed.keep (refl : ∀ x, above x x = true)
    (h : Surveyed above before kept (entry :: later))
    (hfree : ∀ y ∈ kept ++ later, above entry y = false) :
    Surveyed above (before ++ [entry]) (kept ++ [entry]) later where
  seen := List.append_subset.mpr
    ⟨fun x hx => List.mem_append_left _ (h.seen hx), fun x hx => List.mem_append_right _ hx⟩
  clear k hk x hx := by
    rcases List.mem_append.mp hk with hk | hk
    · exact h.clear k hk x (List.mem_cons_of_mem _ hx)
    · obtain rfl := List.mem_singleton.mp hk
      exact hfree x (List.mem_append_right _ hx)
  covered x hx := by
    rcases List.mem_append.mp hx with hx | hx
    · obtain ⟨y, hy, habove⟩ := h.covered x hx
      exact ⟨y, by simpa using hy, habove⟩
    · obtain rfl := List.mem_singleton.mp hx
      exact ⟨x, by simp, refl x⟩

/-- The next entry is above none kept or to come exactly when it is a leaf of the whole list and
the last of its class. -/
theorem Surveyed.free_iff (refl : ∀ x, above x x = true)
    (trans : ∀ x y z, above x y = true → above y z = true → above x z = true)
    (h : Surveyed above before kept (entry :: later)) :
    (∀ y ∈ kept ++ later, above entry y = false) ↔
      IsLeaf above (before ++ entry :: later) entry ∧ ∀ x ∈ later, ¬ SameClass above entry x := by
  constructor
  · intro hfree
    have hapart : ∀ y ∈ kept ++ later, ¬ above entry y = true := fun y hy => by simp [hfree y hy]
    refine ⟨fun x hx habove => ?_, fun x hx hsame => ?_⟩
    · simp only [List.mem_append, List.mem_cons] at hx
      rcases hx with hx | rfl | hx
      · obtain ⟨y, hy, hbelow⟩ := h.covered x hx
        have hthrough := trans entry x y habove hbelow
        simp only [List.mem_append, List.mem_cons] at hy
        rcases hy with hy | rfl | hy
        · exact absurd hthrough (hapart y (List.mem_append_left _ hy))
        · exact hbelow
        · exact absurd hthrough (hapart y (List.mem_append_right _ hy))
      · exact refl x
      · exact absurd habove (hapart x (List.mem_append_right _ hx))
    · exact hapart x (List.mem_append_right _ hx) hsame.1
  · rintro ⟨hleaf, hlast⟩ y hy
    by_contra hnot
    have habove : above entry y = true := by simpa using hnot
    rcases List.mem_append.mp hy with hy | hy
    · have hback := hleaf y (List.mem_append_left _ (h.seen hy)) habove
      rw [h.clear y hy entry List.mem_cons_self] at hback
      cases hback
    · exact hlast y hy ⟨habove, hleaf y (by simp [hy]) habove⟩

/-- From a survey on, what is still kept are the last entries of the leaf classes among those to
come. -/
theorem leavesOnto_eq (refl : ∀ x, above x x = true)
    (trans : ∀ x y z, above x y = true → above y z = true → above x z = true)
    (h : Surveyed above before kept later) (hwhole : before ++ later = entries) :
    leavesOnto above kept later =
      kept ++ lastOfEach (IsLeaf above entries) (SameClass above) later := by
  induction later generalizing before kept with
  | nil => simp [leavesOnto, lastOfEach]
  | cons entry later ih =>
    have hnext : (before ++ [entry]) ++ later = entries := by simpa using hwhole
    have hiff := h.free_iff refl trans
    rw [hwhole] at hiff
    rw [leavesOnto, lastOfEach_cons, ← List.any_append]
    by_cases hdropped : (kept ++ later).any (above entry) = true
    · have hgives : ∃ y ∈ kept ++ later, above entry y = true := List.any_eq_true.mp hdropped
      have hnot : ¬ (IsLeaf above entries entry ∧ ∀ x ∈ later, ¬ SameClass above entry x) := by
        rw [← hiff]
        intro hfree
        obtain ⟨y, hy, habove⟩ := hgives
        rw [hfree y hy] at habove
        cases habove
      rw [if_pos hdropped, if_neg hnot]
      exact ih (h.pass trans hgives) hnext
    · have hfree : ∀ y ∈ kept ++ later, above entry y = false := by
        simpa only [List.any_eq_true, not_exists, not_and, Bool.not_eq_true] using hdropped
      rw [if_neg hdropped, if_pos (hiff.mp hfree), ih (h.keep refl hfree) hnext, List.append_assoc,
        List.singleton_append]

/-- What is kept are the last entries of the leaf classes. -/
theorem leaves_eq (refl : ∀ x, above x x = true)
    (trans : ∀ x y z, above x y = true → above y z = true → above x z = true)
    (entries : List α) :
    leaves above entries = lastOfEach (IsLeaf above entries) (SameClass above) entries := by
  have hstart : Surveyed above [] [] entries := ⟨by simp, by simp, by simp⟩
  rw [leaves, leavesOnto_eq refl trans hstart (List.nil_append entries), List.nil_append]

theorem exists_above_leaves (refl : ∀ x, above x x = true)
    (trans : ∀ x y z, above x y = true → above y z = true → above x z = true)
    {entries : List α} {x : α} (hx : x ∈ entries) :
    ∃ leaf ∈ leaves above entries, above x leaf = true := by
  have hall : [] ++ entries ⊆ entries := by simp
  exact exists_above_leavesOnto refl (fun a _ b _ c _ => trans a b c) hall hx

/-- An entry of a leaf class shares its class with one that is kept, and only such an entry. -/
theorem exists_leaf_sameClass_iff (refl : ∀ x, above x x = true)
    (trans : ∀ x y z, above x y = true → above y z = true → above x z = true) (entries : List α)
    (x : α) :
    (∃ leaf ∈ leaves above entries, SameClass above x leaf) ↔
      ∃ y ∈ entries, IsLeaf above entries y ∧ SameClass above x y := by
  constructor
  · rintro ⟨leaf, hleaf, hsame⟩
    rw [leaves_eq refl trans] at hleaf
    obtain ⟨hin, hkind⟩ := of_mem_lastOfEach hleaf
    exact ⟨leaf, hin, hkind, hsame⟩
  · rintro ⟨y, hy, hkind, hsame⟩
    obtain ⟨leaf, hleaf, habove⟩ := exists_above_leaves refl trans hy
    have hin : leaf ∈ entries := by simpa using leavesOnto_subset hleaf
    have hback := hkind leaf hin habove
    exact ⟨leaf, hleaf, trans x y leaf hsame.1 habove, trans leaf y x hback hsame.2⟩

/-- Of a list under a reflexive and transitive order, exactly the last entry of each leaf class is
kept, in the order of the list. So no two entries that are kept are related, every entry is above
one of them, and a list with the same entries in another order keeps the same classes. -/
theorem leaves_are_last_of_leaf_classes (refl : ∀ x, above x x = true)
    (trans : ∀ x y z, above x y = true → above y z = true → above x z = true)
    (entries : List α) :
    leaves above entries = lastOfEach (IsLeaf above entries) (SameClass above) entries ∧
    (leaves above entries).Pairwise (fun a b => above a b = false ∧ above b a = false) ∧
    (∀ x ∈ entries, ∃ leaf ∈ leaves above entries, above x leaf = true) ∧
    ∀ other : List α, other.Perm entries → ∀ x,
      (∃ leaf ∈ leaves above entries, SameClass above x leaf) ↔
        ∃ leaf ∈ leaves above other, SameClass above x leaf := by
  have hleaves := leaves_eq refl trans entries
  refine ⟨hleaves, ?_, fun x hx => ?_, fun other hother x => ?_⟩
  · have hkinds : ∀ a ∈ leaves above entries, a ∈ entries ∧ IsLeaf above entries a := by
      rw [hleaves]
      exact fun a ha => of_mem_lastOfEach ha
    have hapart : (leaves above entries).Pairwise fun a b => ¬ SameClass above a b := by
      rw [hleaves]
      exact lastOfEach_pairwise entries
    refine hapart.imp_of_mem fun {a b} ha hb hsame => ?_
    obtain ⟨hain, haleaf⟩ := hkinds a ha
    obtain ⟨hbin, hbleaf⟩ := hkinds b hb
    -- between leaves one direction gives the other, and then they are of one class
    constructor
    · by_contra h
      have habove : above a b = true := by simpa using h
      exact hsame ⟨habove, haleaf b hbin habove⟩
    · by_contra h
      have habove : above b a = true := by simpa using h
      exact hsame ⟨hbleaf a hain habove, habove⟩
  · exact exists_above_leaves refl trans hx
  · rw [exists_leaf_sameClass_iff refl trans, exists_leaf_sameClass_iff refl trans]
    simp only [IsLeaf, hother.mem_iff]

end

/-! ## Spaces and what is in them -/

/-- A reference is above those whose identity continues its own. -/
def opensWith (target source : TypeRef) : Bool :=
  target.identity.toList.isPrefixOf source.identity.toList

/-- A shop, a book under two names of one identity, a shelf, and the shop again. -/
def shopEntries : List TypeRef :=
  [plainRef "Shop", plainRef "Shop.Book", plainRef "Shop+Book", plainRef "Shop.Shelf",
    plainRef "Shop"]

/-- Of the two names of the book the later one is kept, with the shelf; the shop is above both. -/
theorem shop_leaves :
    (∀ x, opensWith x x = true) ∧
    (∀ x y z, opensWith x y = true → opensWith y z = true → opensWith x z = true) ∧
    leaves opensWith shopEntries =
      lastOfEach (IsLeaf opensWith shopEntries) (SameClass opensWith) shopEntries ∧
    (leaves opensWith shopEntries).map (·.name) = ["Shop+Book", "Shop.Shelf"] ∧
    opensWith (plainRef "Shop.Book") (plainRef "Shop+Book") = true ∧
    opensWith (plainRef "Shop+Book") (plainRef "Shop.Book") = true := by
  have hrefl : ∀ x, opensWith x x = true := by
    intro x
    simp [opensWith]
  have htrans : ∀ x y z, opensWith x y = true → opensWith y z = true → opensWith x z = true := by
    intro x y z hxy hyz
    simp only [opensWith, List.isPrefixOf_iff_prefix] at hxy hyz ⊢
    exact hxy.trans hyz
  have hleaves := (leaves_are_last_of_leaf_classes hrefl htrans shopEntries).1
  refine ⟨hrefl, htrans, hleaves, ?_, by decide +kernel, by decide +kernel⟩
  decide +kernel

end ApiShell
