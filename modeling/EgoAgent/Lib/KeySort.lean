import EgoAgent.Lib.Value

/-!
Lists sorted by a key.  Where the key tells the items of a list apart, the order in which they
are given does not matter.  The members of an object are sorted by their names.
-/

namespace EgoAgent

/-! ### Keys -/

section KeySort

variable {α κ : Type} [LinearOrder κ] (key : α → κ)

theorem byKey_total : Std.Total fun left right : α => key left ≤ key right :=
  ⟨fun left right => le_total (key left) (key right)⟩

theorem byKey_trans : IsTrans α fun left right => key left ≤ key right :=
  ⟨fun _ _ _ first second => le_trans first second⟩

variable [DecidableRel fun left right : α => key left ≤ key right]

theorem sortedByKey_ascending (items : List α) :
    (items.insertionSort fun left right => key left ≤ key right).Pairwise
      fun left right => key left ≤ key right := by
  have total := byKey_total key
  have transitive := byKey_trans key
  exact List.pairwise_insertionSort _ items

theorem mergedByKey_ascending (items : List α) :
    (items.mergeSort fun left right => decide (key left ≤ key right)).Pairwise
      fun left right => key left ≤ key right := by
  have total := byKey_total key
  have transitive := byKey_trans key
  exact List.pairwise_mergeSort' _ items

variable {items : List α}

theorem mem_sortedByKey {item : α} :
    item ∈ items.insertionSort (fun left right => key left ≤ key right) ↔ item ∈ items :=
  (List.perm_insertionSort _ items).mem_iff

theorem sortedByKey_congr {left right : List α} (perm : left.Perm right)
    (tells : ∀ first ∈ right, ∀ second ∈ right, key first = key second → first = second) :
    (left.insertionSort fun left right => key left ≤ key right) =
      right.insertionSort fun left right => key left ≤ key right := by
  refine (((List.perm_insertionSort _ left).trans perm).trans
    (List.perm_insertionSort _ right).symm).eq_of_pairwise
    (fun first second isLeft isRight le ge => ?_) (sortedByKey_ascending key left)
    (sortedByKey_ascending key right)
  exact tells first (perm.mem_iff.mp ((mem_sortedByKey key).mp isLeft)) second
    ((mem_sortedByKey key).mp isRight) (le_antisymm le ge)

/-- The last of the items that pass is the greatest of them. -/
theorem getLast?_sortedByKey {keep : α → Bool} {last : α}
    (isLast : ((items.insertionSort fun left right => key left ≤ key right).filter
      keep).getLast? = some last) :
    last ∈ items ∧ keep last = true ∧ ∀ item ∈ items, keep item = true → key item ≤ key last := by
  have listed := List.mem_filter.mp (List.mem_of_getLast? isLast)
  refine ⟨(mem_sortedByKey key).mp listed.1, listed.2, fun item member kept => ?_⟩
  have ascending := (sortedByKey_ascending key items).filter keep
  obtain ⟨front, split⟩ := List.getLast?_eq_some_iff.mp isLast
  have present : item ∈ (items.insertionSort fun left right => key left ≤ key right).filter keep :=
    List.mem_filter.mpr ⟨(mem_sortedByKey key).mpr member, kept⟩
  rw [split] at ascending present
  rcases List.mem_append.mp present with before | isEnd
  · exact (List.pairwise_append.mp ascending).2.2 item before last (List.mem_singleton_self last)
  · rw [List.mem_singleton.mp isEnd]

theorem getLast?_sortedByKey_eq_none {keep : α → Bool}
    (missing : ((items.insertionSort fun left right => key left ≤ key right).filter
      keep).getLast? = none) : ∀ item ∈ items, keep item = false := by
  intro item member
  have empty := List.getLast?_eq_none_iff.mp missing
  rw [List.filter_eq_nil_iff] at empty
  exact Bool.eq_false_iff.mpr (empty item ((mem_sortedByKey key).mpr member))

end KeySort

/-! ### Members -/

section Members

variable {α : Type}

theorem orderedInsert_greatest {greatest : String × α} {members : List (String × α)}
    (below : ∀ entry ∈ members, ¬ keyLe greatest entry) :
    List.orderedInsert keyLe greatest members = members ++ [greatest] := by
  induction members with
  | nil => rfl
  | cons first rest ih =>
      have ⟨head, tail⟩ := List.forall_mem_cons.mp below
      rw [List.orderedInsert_cons, if_neg head, ih tail, List.cons_append]

theorem orderedInsert_concat {entry greatest : String × α} (below : keyLe entry greatest)
    (members : List (String × α)) :
    List.orderedInsert keyLe entry (members ++ [greatest]) =
      List.orderedInsert keyLe entry members ++ [greatest] := by
  induction members with
  | nil =>
      rw [List.nil_append, List.orderedInsert_cons, if_pos below]
      rfl
  | cons first rest ih =>
      rw [List.cons_append, List.orderedInsert_cons, List.orderedInsert_cons]
      split
      · rfl
      · rw [ih, List.cons_append]

/-- The entry with the greatest key comes last. -/
theorem sortMembers_greatest {greatest : String × α} (front back : List (String × α))
    (below : ∀ entry ∈ front ++ back, ¬ keyLe greatest entry) :
    sortMembers (front ++ greatest :: back) = sortMembers (front ++ back) ++ [greatest] := by
  induction front with
  | nil =>
      apply orderedInsert_greatest
      intro entry member
      exact below entry ((sortMembers_perm back).mem_iff.mp member)
  | cons first rest ih =>
      have ⟨head, tail⟩ := List.forall_mem_cons.mp below
      have before : keyLe first greatest := (le_total first.1 greatest.1).resolve_right head
      have sorted := ih tail
      unfold sortMembers at sorted ⊢
      rw [List.cons_append, List.cons_append, List.insertionSort_cons, List.insertionSort_cons,
        sorted, orderedInsert_concat before]

/-- The entry with the least key comes first. -/
theorem sortMembers_least {least : String × α} {front back : List (String × α)}
    (above : ∀ entry ∈ front, ¬ keyLe entry least) (least_le : ∀ entry ∈ back, keyLe least entry) :
    sortMembers (front ++ least :: back) = least :: sortMembers (front ++ back) := by
  induction front with
  | nil =>
      change List.orderedInsert keyLe least (sortMembers back) = least :: sortMembers back
      cases sorted : sortMembers back with
      | nil => rfl
      | cons first rest =>
          have member : first ∈ back := by
            apply (sortMembers_perm back).mem_iff.mp
            rw [sorted]
            exact List.mem_cons_self
          rw [List.orderedInsert_cons, if_pos (least_le first member)]
  | cons first rest ih =>
      have ⟨head, tail⟩ := List.forall_mem_cons.mp above
      have sorted := ih tail
      unfold sortMembers at sorted ⊢
      rw [List.cons_append, List.insertionSort_cons, sorted, List.orderedInsert_cons, if_neg head,
        List.cons_append, List.insertionSort_cons]

end Members

end EgoAgent
