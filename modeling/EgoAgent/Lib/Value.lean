import Mathlib

/-!
Values of a JSON-like data language and their canonical form.

A value keeps what a caller of the language can build: tuples are not lists and
a mapping keeps its insertion order.  The canonical form normalises every
string, turns tuples into lists, sorts mappings by key, and rejects integers
outside the signed 64-bit range and mappings whose keys collide.

Nothing here fixes which Unicode tables are used; `Unicode` collects the facts
about them that later modules rely on.
-/

namespace EgoAgent

instance lawfulBEqChars : LawfulBEq (List Char) := inferInstance

instance lawfulBEqPair : LawfulBEq (String × String) := inferInstance

/-- The Unicode facts the development depends on: a normalisation form and the
value of a decimal digit. -/
structure Unicode where
  nfc : String → String
  decimal : Char → Option Nat
  nfc_idem : ∀ s, nfc (nfc s) = nfc s
  nfc_plain : ∀ s, (∀ c ∈ s.toList, c.toNat < 128 ∨ (decimal c).isSome = true) → nfc s = s
  decimal_ascii : ∀ c, c.toNat < 128 →
    decimal c = if c.isDigit then some (c.toNat - 48) else none

theorem ascii_decimal (c : Char) (_ : c.toNat < 128) :
    (if c.isDigit then some (c.toNat - 48) else none) =
      if c.isDigit then some (c.toNat - 48) else none := rfl

inductive Value where
  | null
  | bool (flag : Bool)
  | int (number : Int)
  | str (text : String)
  | list (items : List Value)
  | tuple (items : List Value)
  | dict (members : List (String × Value))

/-! ### Sorted members -/

abbrev Members (α : Type) := List (String × α)

def Members.keys {α : Type} (members : Members α) : List String :=
  members.map Prod.fst

def keyLe {α : Type} (left right : String × α) : Prop := left.1 ≤ right.1

instance {α : Type} : DecidableRel (keyLe (α := α)) :=
  fun left right => inferInstanceAs (Decidable (left.1 ≤ right.1))

instance {α : Type} : Std.Total (keyLe (α := α)) :=
  ⟨fun left right => le_total left.1 right.1⟩

instance {α : Type} : IsTrans (String × α) keyLe :=
  ⟨fun _ _ _ first second => le_trans first second⟩

def sortMembers {α : Type} (members : Members α) : Members α :=
  members.insertionSort keyLe

section

variable {α : Type}

theorem sortMembers_perm (members : Members α) :
    (sortMembers members).Perm members :=
  List.perm_insertionSort keyLe members

theorem sortMembers_sorted (members : Members α) :
    (sortMembers members).Pairwise keyLe :=
  List.pairwise_insertionSort keyLe members

theorem sortMembers_idem (members : Members α) :
    sortMembers (sortMembers members) = sortMembers members :=
  (sortMembers_sorted members).insertionSort_eq

theorem sortMembers_keys_nodup (members : Members α) :
    (sortMembers members).keys.Nodup ↔ members.keys.Nodup :=
  ((sortMembers_perm members).map Prod.fst).nodup_iff

theorem sortMembers_eq_of_perm {left right : Members α} (same : left.Perm right)
    (distinct : left.keys.Nodup) : sortMembers left = sortMembers right := by
  have sorted := (sortMembers_perm left).trans (same.trans (sortMembers_perm right).symm)
  refine sorted.eq_of_pairwise ?_ (sortMembers_sorted left) (sortMembers_sorted right)
  intro one other inLeft inRight up down
  have oneIn := (sortMembers_perm left).mem_iff.mp inLeft
  have otherIn := same.mem_iff.mpr ((sortMembers_perm right).mem_iff.mp inRight)
  exact List.inj_on_of_nodup_map distinct oneIn otherIn (le_antisymm up down)

end

/-! ### Canonical form -/

def inInt64 (number : Int) : Prop := -(2 ^ 63) ≤ number ∧ number < 2 ^ 63

instance (number : Int) : Decidable (inInt64 number) := by
  unfold inInt64; infer_instance

mutual

def Value.canon (u : Unicode) : Value → Option Value
  | .null => some .null
  | .bool flag => some (.bool flag)
  | .int number => if inInt64 number then some (.int number) else none
  | .str text => some (.str (u.nfc text))
  | .list items => (canonItems u items).map .list
  | .tuple items => (canonItems u items).map .list
  | .dict members =>
      (canonMembers u members).bind fun normal =>
        -- two keys with one normal form collide, wherever they stand
        if (Members.keys normal).Nodup then some (.dict (sortMembers normal)) else none

def canonItems (u : Unicode) : List Value → Option (List Value)
  | [] => some []
  | item :: rest =>
      (Value.canon u item).bind fun head =>
        (canonItems u rest).map fun tail => head :: tail

def canonMembers (u : Unicode) : Members Value → Option (Members Value)
  | [] => some []
  | (key, value) :: rest =>
      (Value.canon u value).bind fun head =>
        (canonMembers u rest).map fun tail => (u.nfc key, head) :: tail

end

/-- A value that is its own canonical form. -/
def Value.IsCanon (u : Unicode) (value : Value) : Prop := value.canon u = some value

theorem canonMembers_eq_some_iff (u : Unicode) (members : Members Value) :
    ∀ normal, canonMembers u members = some normal ↔
      List.Forall₂ (fun source target =>
        target.1 = u.nfc source.1 ∧ source.2.canon u = some target.2) members normal := by
  induction members with
  | nil =>
      intro normal
      simp [canonMembers, eq_comm]
  | cons member rest ih =>
      intro normal
      obtain ⟨key, value⟩ := member
      constructor
      · intro computed
        simp only [canonMembers, Option.bind_eq_some_iff, Option.map_eq_some_iff] at computed
        obtain ⟨head, headEq, tail, tailEq, rfl⟩ := computed
        exact .cons ⟨rfl, headEq⟩ ((ih tail).mp tailEq)
      · intro related
        cases related with
        | cons first later =>
            rename_i target tail
            obtain ⟨targetKey, targetValue⟩ := target
            obtain ⟨rfl, valueEq⟩ := first
            simp only at valueEq
            simp [canonMembers, valueEq, (ih tail).mpr later]

/-- Members that are canonical one by one are canonical in any order. -/
theorem canonMembers_of_forall (u : Unicode) (members : Members Value)
    (fixed : ∀ member ∈ members, u.nfc member.1 = member.1 ∧ member.2.IsCanon u) :
    canonMembers u members = some members := by
  rw [canonMembers_eq_some_iff, List.forall₂_same]
  intro member present
  obtain ⟨keyFixed, valueFixed⟩ := fixed member present
  exact ⟨keyFixed.symm, valueFixed⟩

theorem forall_of_canonMembers (u : Unicode) (members : Members Value)
    (computed : canonMembers u members = some members) :
    ∀ member ∈ members, u.nfc member.1 = member.1 ∧ member.2.IsCanon u := by
  rw [canonMembers_eq_some_iff, List.forall₂_same] at computed
  intro member present
  obtain ⟨keyFixed, valueFixed⟩ := computed member present
  exact ⟨keyFixed.symm, valueFixed⟩

mutual

theorem Value.canon_isCanon (u : Unicode) :
    ∀ (value normal : Value), value.canon u = some normal → normal.IsCanon u
  | .null, _, computed => by
      cases computed; rfl
  | .bool _, _, computed => by
      cases computed; rfl
  | .int number, _, computed => by
      simp only [Value.canon] at computed
      split at computed
      · rename_i within
        cases computed
        simp [Value.IsCanon, Value.canon, within]
      · cases computed
  | .str text, _, computed => by
      cases computed
      simp [Value.IsCanon, Value.canon, u.nfc_idem]
  | .list items, _, computed => by
      simp only [Value.canon, Option.map_eq_some_iff] at computed
      obtain ⟨normal, itemsEq, rfl⟩ := computed
      simp [Value.IsCanon, Value.canon, canonItems_fixed u items normal itemsEq]
  | .tuple items, _, computed => by
      simp only [Value.canon, Option.map_eq_some_iff] at computed
      obtain ⟨normal, itemsEq, rfl⟩ := computed
      simp [Value.IsCanon, Value.canon, canonItems_fixed u items normal itemsEq]
  | .dict members, _, computed => by
      simp only [Value.canon, Option.bind_eq_some_iff] at computed
      obtain ⟨normal, membersEq, checked⟩ := computed
      split at checked
      · rename_i distinct
        cases checked
        have fixed := forall_of_canonMembers u normal
          (canonMembers_fixed u members normal membersEq)
        have sortedFixed : canonMembers u (sortMembers normal) = some (sortMembers normal) :=
          canonMembers_of_forall u _ fun member present =>
            fixed member ((sortMembers_perm normal).mem_iff.mp present)
        have sortedDistinct := (sortMembers_keys_nodup normal).mpr distinct
        simp [Value.IsCanon, Value.canon, sortedFixed, sortedDistinct, sortMembers_idem]
      · cases checked

theorem canonItems_fixed (u : Unicode) :
    ∀ (items normal : List Value), canonItems u items = some normal →
      canonItems u normal = some normal
  | [], _, computed => by
      cases computed; rfl
  | item :: rest, _, computed => by
      simp only [canonItems, Option.bind_eq_some_iff, Option.map_eq_some_iff] at computed
      obtain ⟨head, headEq, tail, tailEq, rfl⟩ := computed
      have headFixed : head.canon u = some head := Value.canon_isCanon u item head headEq
      simp [canonItems, headFixed, canonItems_fixed u rest tail tailEq]

theorem canonMembers_fixed (u : Unicode) :
    ∀ (members normal : Members Value), canonMembers u members = some normal →
      canonMembers u normal = some normal
  | [], _, computed => by
      cases computed; rfl
  | (key, value) :: rest, _, computed => by
      simp only [canonMembers, Option.bind_eq_some_iff, Option.map_eq_some_iff] at computed
      obtain ⟨head, headEq, tail, tailEq, rfl⟩ := computed
      have headFixed : head.canon u = some head := Value.canon_isCanon u value head headEq
      simp [canonMembers, headFixed, u.nfc_idem, canonMembers_fixed u rest tail tailEq]

end

end EgoAgent
