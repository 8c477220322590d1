import Mathlib

/-!
Hash trees with a duplicated last node.

A level is hashed in adjacent pairs, and the last node of an odd level is its own partner.  On
levels without duplicates the padding is harmless: where the hash tells the hashed pairs apart,
two trees whose roots agree have one among the other's levels.
-/

namespace EgoAgent

namespace Merkle

variable {α : Type}

/-! ### Pairs -/

/-- The pairs of a level. -/
def paired : List α → List (α × α)
  | [] => []
  | [last] => [(last, last)]
  | left :: right :: rest => (left, right) :: paired rest

theorem paired_length (level : List α) : (paired level).length = (level.length + 1) / 2 := by
  fun_induction paired level with
  | case1 => simp
  | case2 last => simp
  | case3 left right rest ih =>
      rw [List.length_cons, ih, List.length_cons, List.length_cons]
      omega

theorem paired_fst_mem {level : List α} {pair : α × α} (member : pair ∈ paired level) :
    pair.1 ∈ level := by
  fun_induction paired level with
  | case1 => cases member
  | case2 last =>
      rw [List.mem_singleton.mp member]
      exact List.mem_singleton_self last
  | case3 left right rest ih =>
      rcases List.mem_cons.mp member with rfl | later
      · exact List.mem_cons_self
      · exact List.mem_cons_of_mem _ (List.mem_cons_of_mem _ (ih later))

theorem paired_nodup {level : List α} (distinct : level.Nodup) : (paired level).Nodup := by
  fun_induction paired level with
  | case1 => exact List.nodup_nil
  | case2 last => exact List.nodup_singleton _
  | case3 left right rest ih =>
      have ⟨fresh, tail⟩ := List.nodup_cons.mp distinct
      refine List.nodup_cons.mpr ⟨fun again => ?_, ih (List.nodup_cons.mp tail).2⟩
      exact fresh (List.mem_cons_of_mem _ (paired_fst_mem again))

/-- A level without duplicates is determined by its pairs: padding shows as a pair of equals. -/
theorem paired_injective {level other : List α} (distinct : level.Nodup)
    (otherDistinct : other.Nodup) (same : paired level = paired other) : level = other := by
  induction level using paired.induct generalizing other with
  | case1 =>
      cases other using paired.fun_cases with
      | case1 => rfl
      | case2 last => cases same
      | case3 left right rest => cases same
  | case2 last =>
      cases other using paired.fun_cases with
      | case1 => cases same
      | case2 only =>
          cases same
          rfl
      | case3 left right rest =>
          cases (List.cons.inj same).1
          exact absurd List.mem_cons_self (List.nodup_cons.mp otherDistinct).1
  | case3 left right rest ih =>
      cases other using paired.fun_cases with
      | case1 => cases same
      | case2 only =>
          cases (List.cons.inj same).1
          exact absurd List.mem_cons_self (List.nodup_cons.mp distinct).1
      | case3 first second others =>
          obtain ⟨headEq, tailEq⟩ := List.cons.inj same
          cases headEq
          rw [ih (List.nodup_cons.mp (List.nodup_cons.mp distinct).2).2
            (List.nodup_cons.mp (List.nodup_cons.mp otherDistinct).2).2 tailEq]

/-- Lists are told apart by what tells their members apart. -/
theorem map_injOn {β : Type} {f : α → β} {members : Set α} (apart : Set.InjOn f members)
    {left right : List α} (leftIn : ∀ item ∈ left, item ∈ members)
    (rightIn : ∀ item ∈ right, item ∈ members) (same : left.map f = right.map f) :
    left = right := by
  induction left generalizing right with
  | nil => exact (List.map_eq_nil_iff.mp same.symm).symm
  | cons first rest ih =>
      obtain ⟨other, others, rfl, firstEq, restEq⟩ := List.map_eq_cons_iff.mp same.symm
      have ⟨firstIn, restIn⟩ := List.forall_mem_cons.mp leftIn
      have ⟨otherIn, othersIn⟩ := List.forall_mem_cons.mp rightIn
      rw [apart firstIn otherIn firstEq.symm, ih restIn othersIn restEq.symm]

/-! ### Levels -/

variable (node : α → α → α)

/-- The level above: one hash for each pair. -/
def pairUp (level : List α) : List α := (paired level).map fun pair => node pair.1 pair.2

/-- The levels a computation goes through, from its leaves up. -/
def Reaches : List α → List α → Prop :=
  Relation.ReflTransGen fun lower upper => 2 ≤ lower.length ∧ upper = pairUp node lower

/-- The pairs hashed above these leaves. -/
def Hashed (leaves : List α) (pair : α × α) : Prop :=
  ∃ level, Reaches node leaves level ∧ 2 ≤ level.length ∧ pair ∈ paired level

/-- Folds levels until one node is left, or the value of the empty tree. -/
def root (empty : α) : Nat → List α → α
  | _, [] => empty
  | _, [top] => top
  | 0, first :: _ => first
  | fuel + 1, level => root empty fuel (pairUp node level)

theorem pairUp_length (level : List α) : (pairUp node level).length = (level.length + 1) / 2 := by
  rw [pairUp, List.length_map, paired_length]

/-- With a level's length as fuel, the fold ends at the top of its tree. -/
theorem reaches_root (empty : α) (fuel : Nat) (level : List α) (enough : level.length ≤ fuel)
    (nonempty : level ≠ []) : Reaches node level [root node empty fuel level] := by
  induction fuel generalizing level with
  | zero => exact absurd (List.length_eq_zero_iff.mp (Nat.le_zero.mp enough)) nonempty
  | succ fuel ih =>
      match level with
      | [] => exact absurd rfl nonempty
      | [top] => exact .refl
      | left :: right :: rest =>
          have shorter := pairUp_length node (left :: right :: rest)
          simp only [List.length_cons] at shorter enough
          refine .head ⟨by simp, rfl⟩ (ih _ (by omega) fun nothing => ?_)
          rw [nothing, List.length_nil] at shorter
          omega

section Injective

variable {node}

/-- Nodes that are told apart by their pairs are pairwise distinct on every level. -/
theorem reaches_nodup {leaves level : List α}
    (apart : Set.InjOn (fun pair : α × α => node pair.1 pair.2) {pair | Hashed node leaves pair})
    (distinct : leaves.Nodup) (reached : Reaches node leaves level) : level.Nodup := by
  induction reached with
  | refl => exact distinct
  | tail before step ih =>
      obtain ⟨large, rfl⟩ := step
      refine List.Nodup.map_on (fun pair member other otherMember same => ?_) (paired_nodup ih)
      exact apart ⟨_, before, large, member⟩ ⟨_, before, large, otherMember⟩ same

/-- Of two trees with a level in common, one has the other's leaves among its levels. -/
theorem reaches_or_reaches {left right top : List α}
    (apart : ∀ lower upper, Reaches node left lower → Reaches node right upper →
      2 ≤ lower.length → 2 ≤ upper.length → pairUp node lower = pairUp node upper → lower = upper)
    (leftReaches : Reaches node left top) (rightReaches : Reaches node right top) :
    Reaches node left right ∨ Reaches node right left := by
  induction leftReaches using Relation.ReflTransGen.head_induction_on with
  | refl => exact .inr rightReaches
  | @head lower upper step _ ih =>
      have below : ∀ level, Reaches node upper level → Reaches node lower level :=
        fun level reached => .head step reached
      rcases ih fun first second reached => apart first second (below first reached) with
        up | under
      · exact .inl (below right up)
      · obtain ⟨large, rfl⟩ := step
        rcases Relation.ReflTransGen.cases_tail under with same | ⟨last, before, lastLarge, same⟩
        · exact .inl (same ▸ .single ⟨large, rfl⟩)
        · rw [apart lower last .refl before large lastLarge same]
          exact .inr before

/-- The root commits to the leaves, where a leaf is not a node. -/
theorem leaves_eq_of_top_eq {left right top : List α} (leftDistinct : left.Nodup)
    (rightDistinct : right.Nodup) (leftNonempty : left ≠ []) (rightNonempty : right ≠ [])
    (apart : Set.InjOn (fun pair : α × α => node pair.1 pair.2)
      {pair | Hashed node left pair ∨ Hashed node right pair})
    (leafOrNode : ∀ leaf ∈ left ++ right, ∀ pair, Hashed node left pair ∨ Hashed node right pair →
      leaf ≠ node pair.1 pair.2)
    (leftReaches : Reaches node left top) (rightReaches : Reaches node right top) :
    left = right := by
  have leftApart := apart.mono fun pair hashed => Or.inl hashed
  have rightApart := apart.mono fun pair hashed => Or.inr hashed
  have levelsApart : ∀ lower upper, Reaches node left lower → Reaches node right upper →
      2 ≤ lower.length → 2 ≤ upper.length → pairUp node lower = pairUp node upper →
        lower = upper := by
    intro lower upper lowerReached upperReached lowerLarge upperLarge same
    refine paired_injective (reaches_nodup leftApart leftDistinct lowerReached)
      (reaches_nodup rightApart rightDistinct upperReached) ?_
    refine map_injOn apart ?_ ?_ same
    · exact fun pair member => .inl ⟨lower, lowerReached, lowerLarge, member⟩
    · exact fun pair member => .inr ⟨upper, upperReached, upperLarge, member⟩
  -- A level above the leaves holds nodes, and leaves are no nodes.
  have noneAbove : ∀ lower upper, upper ≠ [] → (∀ leaf ∈ upper, leaf ∈ left ++ right) →
      (∀ pair, Hashed node lower pair → Hashed node left pair ∨ Hashed node right pair) →
      Reaches node lower upper → lower = upper := by
    intro lower upper nonempty isLeaf hashed reached
    rcases Relation.ReflTransGen.cases_tail reached with same | ⟨last, before, large, rfl⟩
    · exact same.symm
    · obtain ⟨leaf, member⟩ := List.exists_mem_of_ne_nil _ nonempty
      obtain ⟨pair, pairMember, rfl⟩ := List.mem_map.mp member
      exact absurd rfl (leafOrNode _ (isLeaf _ member) pair
        (hashed pair ⟨last, before, large, pairMember⟩))
  rcases reaches_or_reaches levelsApart leftReaches rightReaches with up | down
  · exact noneAbove left right rightNonempty (fun leaf => List.mem_append_right left)
      (fun _ => .inl) up
  · exact (noneAbove right left leftNonempty (fun leaf => List.mem_append_left right)
      (fun _ => .inr) down).symm

end Injective

end Merkle

end EgoAgent
