import Mathlib

/-!
Hash-linked lists.

Each item names the hash of the item before it, the first one a root.  Where no
hash is used twice, the items of a linked list can only be linked in their own
order: what is linked from the same root and made of them is a prefix.
-/

namespace EgoAgent

variable {ε η : Type} {previous hash : ε → η} {root : η}

def Linked (previous hash : ε → η) : η → List ε → Prop
  | _, [] => True
  | root, item :: rest => previous item = root ∧ Linked previous hash (hash item) rest

theorem linked_append_singleton {items : List ε} {last : ε} :
    Linked previous hash root (items ++ [last]) ↔
      Linked previous hash root items ∧
        previous last = ((items.getLast?.map hash).getD root) := by
  induction items generalizing root with
  | nil => simp [Linked]
  | cons item rest ih =>
      rw [List.cons_append, Linked, Linked, ih, and_assoc]
      cases rest with
      | nil => simp
      | cons next later =>
          rw [List.getLast?_cons_cons, List.getLast?_cons]
          simp only [Option.map_some, Option.getD_some]

theorem Linked.of_prefix {part whole : List ε} (inside : part <+: whole)
    (linked : Linked previous hash root whole) : Linked previous hash root part := by
  obtain ⟨rest, rfl⟩ := inside
  induction part generalizing root with
  | nil => trivial
  | cons item later ih => exact ⟨linked.1, ih linked.2⟩

theorem linked_map {ζ : Type} {previous' hash' : ζ → η} {view : ε → ζ}
    (samePrevious : ∀ item, previous' (view item) = previous item)
    (sameHash : ∀ item, hash' (view item) = hash item) {items : List ε} :
    Linked previous' hash' root (items.map view) ↔ Linked previous hash root items := by
  induction items generalizing root with
  | nil => exact Iff.rfl
  | cons item rest ih =>
      rw [List.map_cons, Linked, Linked, samePrevious, sameHash, ih]

end EgoAgent
