import Mathlib

/-!
Finite sets as strictly ascending lists.

`sortedSet` is the sorted tuple of a set; two lists with the same members give the
same one.
-/

namespace EgoAgent

variable {α : Type} [LinearOrder α]

/-- Insertion that drops a duplicate. -/
def insertSorted (item : α) : List α → List α
  | [] => [item]
  | head :: rest =>
      if item < head then item :: head :: rest
      else if item = head then head :: rest
      else head :: insertSorted item rest

def sortedSet (items : List α) : List α := items.foldr insertSorted []

section

variable {items : List α}

theorem mem_insertSorted {item other : α} :
    other ∈ insertSorted item items ↔ other = item ∨ other ∈ items := by
  induction items with
  | nil => simp [insertSorted]
  | cons head rest ih =>
      unfold insertSorted
      by_cases before : item < head
      · rw [if_pos before, List.mem_cons]
      · rw [if_neg before]
        by_cases same : item = head
        · rw [if_pos same, same, List.mem_cons]
          constructor
          · exact Or.inr
          · rintro (first | member)
            · exact .inl first
            · exact member
        · rw [if_neg same, List.mem_cons, List.mem_cons, ih]
          constructor
          · rintro (first | isItem | member)
            · exact .inr (.inl first)
            · exact .inl isItem
            · exact .inr (.inr member)
          · rintro (isItem | first | member)
            · exact .inr (.inl isItem)
            · exact .inl first
            · exact .inr (.inr member)

theorem mem_sortedSet {item : α} : item ∈ sortedSet items ↔ item ∈ items := by
  induction items with
  | nil => exact Iff.rfl
  | cons head rest ih =>
      change item ∈ insertSorted head (sortedSet rest) ↔ _
      rw [mem_insertSorted, List.mem_cons, ih]

theorem insertSorted_pairwise {item : α} (sorted : items.Pairwise (· < ·)) :
    (insertSorted item items).Pairwise (· < ·) := by
  induction items with
  | nil => exact List.pairwise_singleton _ _
  | cons head rest ih =>
      have ⟨below, tail⟩ := List.pairwise_cons.mp sorted
      unfold insertSorted
      by_cases before : item < head
      · rw [if_pos before]
        apply List.pairwise_cons.mpr
        refine ⟨?_, sorted⟩
        intro other member
        rcases List.mem_cons.mp member with first | later
        · rw [first]; exact before
        · exact lt_trans before (below other later)
      · rw [if_neg before]
        by_cases same : item = head
        · rw [if_pos same]; exact sorted
        · rw [if_neg same]
          apply List.pairwise_cons.mpr
          refine ⟨?_, ih tail⟩
          intro other member
          rcases mem_insertSorted.mp member with isItem | later
          · rw [isItem]
            exact lt_of_le_of_ne (not_lt.mp before) (Ne.symm same)
          · exact below other later

theorem sortedSet_pairwise (items : List α) : (sortedSet items).Pairwise (· < ·) := by
  induction items with
  | nil => exact List.Pairwise.nil
  | cons head rest ih => exact insertSorted_pairwise ih

theorem sortedSet_nodup (items : List α) : (sortedSet items).Nodup :=
  (sortedSet_pairwise items).imp fun less => less.ne

theorem sortedSet_congr {left right : List α} (same : ∀ item, item ∈ left ↔ item ∈ right) :
    sortedSet left = sortedSet right := by
  have perm : (sortedSet left).Perm (sortedSet right) :=
    (List.perm_ext_iff_of_nodup (sortedSet_nodup left) (sortedSet_nodup right)).mpr fun item =>
      mem_sortedSet.trans ((same item).trans mem_sortedSet.symm)
  exact perm.eq_of_pairwise (fun _ _ _ _ above below => (lt_asymm above below).elim)
    (sortedSet_pairwise left) (sortedSet_pairwise right)

theorem sortedSet_eq_nil_iff : sortedSet items = [] ↔ items = [] := by
  constructor
  · intro nothing
    apply List.eq_nil_iff_forall_not_mem.mpr
    intro item member
    have inSet := mem_sortedSet.mpr member
    rw [nothing] at inSet
    cases inSet
  · intro nothing
    rw [nothing]
    rfl

end

end EgoAgent
