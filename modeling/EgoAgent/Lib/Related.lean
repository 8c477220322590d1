import Mathlib

/-!
Two lists related element by element: what list functions keep of the relation.
-/

namespace EgoAgent.Related

variable {α β γ : Type} {relation : α → β → Prop} {left : List α} {right : List β}

/-- Each member of the left list has a partner in the right one. -/
theorem partner_of_left (related : List.Forall₂ relation left right) :
    ∀ item ∈ left, ∃ partner ∈ right, relation item partner := by
  induction related with
  | nil => intro item impossible; cases impossible
  | cons first _ ih =>
      intro item present
      rcases List.mem_cons.mp present with rfl | later
      · exact ⟨_, List.mem_cons_self, first⟩
      · obtain ⟨partner, inRest, holds⟩ := ih item later
        exact ⟨partner, List.mem_cons_of_mem _ inRest, holds⟩

theorem partner_of_right (related : List.Forall₂ relation left right) :
    ∀ partner ∈ right, ∃ item ∈ left, relation item partner :=
  partner_of_left related.flip

/-- Two relations between the same lists. -/
theorem both {another : α → β → Prop} (related : List.Forall₂ relation left right)
    (alsoRelated : List.Forall₂ another left right) :
    List.Forall₂ (fun a b => relation a b ∧ another a b) left right := by
  induction related with
  | nil => exact .nil
  | cons first _ ih =>
      cases alsoRelated with
      | cons alsoFirst alsoRest => exact .cons ⟨first, alsoFirst⟩ (ih alsoRest)

theorem imp_of_mem {weaker : α → β → Prop} (related : List.Forall₂ relation left right)
    (weaken : ∀ a ∈ left, ∀ b ∈ right, relation a b → weaker a b) :
    List.Forall₂ weaker left right := by
  induction related with
  | nil => exact .nil
  | cons first _ ih =>
      exact .cons (weaken _ List.mem_cons_self _ List.mem_cons_self first)
        (ih fun a inLeft b inRight => weaken a (List.mem_cons_of_mem _ inLeft) b
          (List.mem_cons_of_mem _ inRight))

theorem map_eq (related : List.Forall₂ relation left right) (f : α → γ) (g : β → γ)
    (same : ∀ a b, relation a b → g b = f a) : right.map g = left.map f := by
  induction related with
  | nil => rfl
  | cons first _ ih => rw [List.map_cons, List.map_cons, ih, same _ _ first]

theorem filter (related : List.Forall₂ relation left right) (p : α → Bool) (q : β → Bool)
    (same : ∀ a b, relation a b → q b = p a) :
    List.Forall₂ relation (left.filter p) (right.filter q) := by
  induction related with
  | nil => exact .nil
  | cons first _ ih =>
      rename_i a b _ _ _
      rw [List.filter_cons, List.filter_cons, same a b first]
      cases p a with
      | true => exact .cons first ih
      | false => exact ih

theorem find? (related : List.Forall₂ relation left right) (p : α → Bool) (q : β → Bool)
    (same : ∀ a b, relation a b → q b = p a) :
    Option.Rel relation (left.find? p) (right.find? q) := by
  induction related with
  | nil => exact .none
  | cons first _ ih =>
      rename_i a b _ _ _
      rw [List.find?_cons, List.find?_cons, same a b first]
      cases p a with
      | true => exact .some first
      | false => exact ih

theorem any_eq (related : List.Forall₂ relation left right) (p : α → Bool) (q : β → Bool)
    (same : ∀ a b, relation a b → q b = p a) : right.any q = left.any p := by
  induction related with
  | nil => rfl
  | cons first _ ih => rw [List.any_cons, List.any_cons, ih, same _ _ first]

end EgoAgent.Related
