import Mathlib

/-!
The longest prefix of a list with a property: by growing it, and by shrinking it.
-/

namespace EgoAgent

variable {α : Type} (fits : List α → Bool)

/-- A list grows by the items of another one, as long as it fits. -/
def growWhile (grown : List α) : List α → List α
  | [] => grown
  | item :: rest => if fits (grown ++ [item]) then growWhile (grown ++ [item]) rest else grown

theorem growWhile_eq_append (grown items : List α) : ∃ taken, taken <+: items ∧
    growWhile fits grown items = grown ++ taken ∧
      (fits grown = true → fits (grown ++ taken) = true) ∧
      ∀ item, taken ++ [item] <+: items → fits (grown ++ (taken ++ [item])) = false := by
  induction items generalizing grown with
  | nil =>
      refine ⟨[], List.prefix_refl _, (List.append_nil _).symm, fun holds => ?_,
        fun item longer => ?_⟩
      · rwa [List.append_nil]
      · have length := longer.length_le
        simp at length
  | cons first rest ih =>
      rw [growWhile]
      by_cases next : fits (grown ++ [first]) = true
      · obtain ⟨taken, isPrefix, grows, keeps, stops⟩ := ih (grown ++ [first])
        rw [if_pos next]
        refine ⟨first :: taken, List.cons_prefix_cons.mpr ⟨rfl, isPrefix⟩, ?_, fun _ => ?_,
          fun item longer => ?_⟩
        · rw [grows, List.append_assoc, List.singleton_append]
        · have holds := keeps next
          rwa [List.append_assoc, List.singleton_append] at holds
        · have later := stops item (List.cons_prefix_cons.mp longer).2
          rwa [List.append_assoc, List.singleton_append] at later
      · rw [if_neg next]
        refine ⟨[], List.nil_prefix, (List.append_nil _).symm, fun holds => ?_,
          fun item longer => ?_⟩
        · rwa [List.append_nil]
        · rw [List.nil_append] at longer ⊢
          rw [(List.cons_prefix_cons.mp longer).1]
          exact Bool.eq_false_iff.mpr next

/-- Where the prefixes of what fits do, growing gives the longest prefix that fits. -/
theorem growWhile_longest (items : List α) (empty : fits [] = true)
    (shorter : ∀ {some more : List α}, fits (some ++ more) = true → fits some = true) :
    growWhile fits [] items <+: items ∧ fits (growWhile fits [] items) = true ∧
      ∀ longer, longer <+: items → (growWhile fits [] items).length < longer.length →
        fits longer = false := by
  obtain ⟨taken, isPrefix, grows, keeps, stops⟩ := growWhile_eq_append fits [] items
  rw [List.nil_append] at grows keeps
  rw [grows]
  refine ⟨isPrefix, keeps empty, fun longer isLonger length => ?_⟩
  obtain ⟨more, rfl⟩ := List.prefix_of_prefix_length_le isPrefix isLonger length.le
  cases more with
  | nil => simp at length
  | cons item rest =>
      have next : taken ++ [item] <+: items := by
        refine List.IsPrefix.trans ⟨rest, ?_⟩ isLonger
        rw [List.append_assoc, List.singleton_append]
      have stopped := stops item next
      rw [List.nil_append] at stopped
      refine Bool.eq_false_iff.mpr fun holds => ?_
      have split : taken ++ item :: rest = (taken ++ [item]) ++ rest := by
        rw [List.append_assoc, List.singleton_append]
      rw [split] at holds
      rw [shorter holds] at stopped
      cases stopped

end EgoAgent
