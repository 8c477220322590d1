import EgoAgent.Lib.Dict
import EgoAgent.Lib.JsonText

/-!
Equality of JSON values.

Objects are equal when they have equally many members and each member of one has an equal partner
under its key in the other.  Values without duplicate keys are equal exactly when they are the
same after sorting every object, so a canonical encoding decides equality of normalised values.
-/

namespace EgoAgent

/-! ### Definitions -/

mutual

/-- The normalisation of a value, its objects in the order they had. -/
def Value.normalise (u : Unicode) : Value → Option Value
  | .null => some .null
  | .bool flag => some (.bool flag)
  | .int number => if inInt64 number then some (.int number) else none
  | .str text => some (.str (u.nfc text))
  | .list items => (Value.normaliseItems u items).map .list
  | .tuple items => (Value.normaliseItems u items).map .list
  | .dict members =>
      (Value.normaliseMembers u members).bind fun normal =>
        if (Members.keys normal).Nodup then some (.dict normal) else none

def Value.normaliseItems (u : Unicode) : List Value → Option (List Value)
  | [] => some []
  | item :: rest =>
      (Value.normalise u item).bind fun head =>
        (Value.normaliseItems u rest).map fun tail => head :: tail

def Value.normaliseMembers (u : Unicode) : Members Value → Option (Members Value)
  | [] => some []
  | (key, value) :: rest =>
      (Value.normalise u value).bind fun head =>
        (Value.normaliseMembers u rest).map fun tail => (u.nfc key, head) :: tail

end

mutual

/-- The value with the members of every object sorted. -/
def Value.sorted : Value → Value
  | .list items => .list (Value.sortedItems items)
  | .tuple items => .tuple (Value.sortedItems items)
  | .dict members => .dict (sortMembers (sortedValues members))
  | other => other

def Value.sortedItems : List Value → List Value
  | [] => []
  | item :: rest => item.sorted :: Value.sortedItems rest

def sortedValues : Members Value → Members Value
  | [] => []
  | (key, value) :: rest => (key, value.sorted) :: sortedValues rest

end

mutual

/-- No object repeats a key. -/
def Value.Distinct : Value → Prop
  | .list items => DistinctItems items
  | .tuple items => DistinctItems items
  | .dict members => (Members.keys members).Nodup ∧ DistinctMembers members
  | _ => True

def DistinctItems : List Value → Prop
  | [] => True
  | item :: rest => item.Distinct ∧ DistinctItems rest

def DistinctMembers : Members Value → Prop
  | [] => True
  | (_, value) :: rest => value.Distinct ∧ DistinctMembers rest

end

mutual

/-- Equality of JSON values: the order of members does not count, and a boolean is no integer. -/
def sameJson : Value → Value → Prop
  | .null, .null => True
  | .bool flag, .bool other => flag = other
  | .int number, .int other => number = other
  | .str text, .str other => text = other
  | .list items, .list others => Value.sameItems items others
  | .tuple items, .tuple others => Value.sameItems items others
  | .dict members, .dict others => members.length = others.length ∧ eachIn members others
  | _, _ => False

def Value.sameItems : List Value → List Value → Prop
  | [], [] => True
  | item :: rest, other :: others => sameJson item other ∧ Value.sameItems rest others
  | _, _ => False

/-- Each member has an equal partner under its key. -/
def eachIn : Members Value → Members Value → Prop
  | [], _ => True
  | (key, value) :: rest, others =>
      (match Dict.get? others key with
        | some other => sameJson value other
        | none => False) ∧ eachIn rest others

end

/-! ### Values without duplicate keys -/

theorem distinctMembers_iff (members : Members Value) :
    DistinctMembers members ↔ ∀ member ∈ members, member.2.Distinct := by
  induction members with
  | nil => simp [DistinctMembers]
  | cons member rest ih =>
      obtain ⟨key, value⟩ := member
      rw [DistinctMembers, List.forall_mem_cons, ih]

theorem sortedValues_eq (members : Members Value) :
    sortedValues members = members.map fun member => (member.1, member.2.sorted) := by
  induction members with
  | nil => rfl
  | cons member rest ih =>
      obtain ⟨key, value⟩ := member
      rw [sortedValues, ih, List.map_cons]

theorem sortedValues_keys (members : Members Value) :
    Members.keys (sortedValues members) = Members.keys members := by
  rw [sortedValues_eq, Members.keys, Members.keys, List.map_map]
  rfl

mutual

theorem Value.distinct_of_normalise (u : Unicode) :
    ∀ (value normal : Value), value.normalise u = some normal → normal.Distinct
  | .null, _, computed => by cases computed; trivial
  | .bool _, _, computed => by cases computed; trivial
  | .int number, _, computed => by
      rw [Value.normalise] at computed
      split at computed
      · cases computed
        trivial
      · cases computed
  | .str _, _, computed => by cases computed; trivial
  | .list items, _, computed => by
      obtain ⟨normal, itemsEq, rfl⟩ := Option.map_eq_some_iff.mp computed
      exact distinctItems_of_normalise u items normal itemsEq
  | .tuple items, _, computed => by
      obtain ⟨normal, itemsEq, rfl⟩ := Option.map_eq_some_iff.mp computed
      exact distinctItems_of_normalise u items normal itemsEq
  | .dict members, _, computed => by
      obtain ⟨normal, membersEq, checked⟩ := Option.bind_eq_some_iff.mp computed
      split at checked
      · rename_i distinct
        cases checked
        exact ⟨distinct, distinctMembers_of_normalise u members normal membersEq⟩
      · cases checked

theorem distinctItems_of_normalise (u : Unicode) :
    ∀ (items normal : List Value), Value.normaliseItems u items = some normal → DistinctItems normal
  | [], _, computed => by cases computed; trivial
  | item :: rest, _, computed => by
      obtain ⟨head, headEq, later⟩ := Option.bind_eq_some_iff.mp computed
      obtain ⟨tail, tailEq, rfl⟩ := Option.map_eq_some_iff.mp later
      exact ⟨Value.distinct_of_normalise u item head headEq,
        distinctItems_of_normalise u rest tail tailEq⟩

theorem distinctMembers_of_normalise (u : Unicode) :
    ∀ (members normal : Members Value), Value.normaliseMembers u members = some normal →
      DistinctMembers normal
  | [], _, computed => by cases computed; trivial
  | (key, value) :: rest, _, computed => by
      obtain ⟨head, headEq, later⟩ := Option.bind_eq_some_iff.mp computed
      obtain ⟨tail, tailEq, rfl⟩ := Option.map_eq_some_iff.mp later
      exact ⟨Value.distinct_of_normalise u value head headEq,
        distinctMembers_of_normalise u rest tail tailEq⟩

end

mutual

/-- The canonical form is the normalisation with every object sorted. -/
theorem Value.canon_eq_sorted (u : Unicode) :
    ∀ value : Value, value.canon u = (value.normalise u).map Value.sorted
  | .null => rfl
  | .bool _ => rfl
  | .int number => by
      rw [Value.canon, Value.normalise]
      split
      · rfl
      · rfl
  | .str _ => rfl
  | .list items => by
      rw [Value.canon, Value.normalise, canonItems_eq_sorted u items, Option.map_map,
        Option.map_map]
      rfl
  | .tuple items => by
      rw [Value.canon, Value.normalise, canonItems_eq_sorted u items, Option.map_map,
        Option.map_map]
      rfl
  | .dict members => by
      rw [Value.canon, Value.normalise, canonMembers_eq_sorted u members]
      cases Value.normaliseMembers u members with
      | none => rfl
      | some normal =>
          simp only [Option.map_some, Option.bind_some, sortedValues_keys]
          split
          · rfl
          · rfl

theorem canonItems_eq_sorted (u : Unicode) :
    ∀ items : List Value, canonItems u items = (Value.normaliseItems u items).map Value.sortedItems
  | [] => rfl
  | item :: rest => by
      rw [canonItems, Value.normaliseItems, Value.canon_eq_sorted u item, canonItems_eq_sorted u rest]
      cases Value.normalise u item with
      | none => rfl
      | some head =>
          cases Value.normaliseItems u rest with
          | none => rfl
          | some tail => rfl

theorem canonMembers_eq_sorted (u : Unicode) :
    ∀ members : Members Value,
      canonMembers u members = (Value.normaliseMembers u members).map sortedValues
  | [] => rfl
  | (key, value) :: rest => by
      rw [canonMembers, Value.normaliseMembers, Value.canon_eq_sorted u value,
        canonMembers_eq_sorted u rest]
      cases Value.normalise u value with
      | none => rfl
      | some head =>
          cases Value.normaliseMembers u rest with
          | none => rfl
          | some tail => rfl

end

mutual

theorem Value.sorted_distinct : ∀ value : Value, value.Distinct → value.sorted.Distinct
  | .null, _ => trivial
  | .bool _, _ => trivial
  | .int _, _ => trivial
  | .str _, _ => trivial
  | .list items, distinct => sortedItems_distinct items distinct
  | .tuple items, distinct => sortedItems_distinct items distinct
  | .dict members, distinct => by
      refine ⟨(sortMembers_keys_nodup _).mpr ((sortedValues_keys members).symm ▸ distinct.1), ?_⟩
      have inside := (distinctMembers_iff _).mp (sortedValues_distinct members distinct.2)
      exact (distinctMembers_iff _).mpr fun member present =>
        inside member ((sortMembers_perm _).mem_iff.mp present)

theorem sortedItems_distinct : ∀ items : List Value, DistinctItems items →
    DistinctItems (Value.sortedItems items)
  | [], _ => trivial
  | item :: rest, distinct =>
      ⟨Value.sorted_distinct item distinct.1, sortedItems_distinct rest distinct.2⟩

theorem sortedValues_distinct : ∀ members : Members Value, DistinctMembers members →
    DistinctMembers (sortedValues members)
  | [], _ => trivial
  | (_, value) :: rest, distinct =>
      ⟨Value.sorted_distinct value distinct.1, sortedValues_distinct rest distinct.2⟩

end

mutual

theorem Value.sorted_idem : ∀ value : Value, value.Distinct → value.sorted.sorted = value.sorted
  | .null, _ => rfl
  | .bool _, _ => rfl
  | .int _, _ => rfl
  | .str _, _ => rfl
  | .list items, distinct => congrArg Value.list (sortedItems_idem items distinct)
  | .tuple items, distinct => congrArg Value.tuple (sortedItems_idem items distinct)
  | .dict members, distinct => by
      have again := sortedValues_idem members distinct.2
      have keysDistinct : (Members.keys (sortedValues members)).Nodup :=
        (sortedValues_keys members).symm ▸ distinct.1
      have perm : (sortedValues (sortMembers (sortedValues members))).Perm
          (sortedValues members) := by
        rw [sortedValues_eq (sortMembers _)]
        refine ((sortMembers_perm _).map _).trans ?_
        rw [← sortedValues_eq, again]
      have sortedDistinct :
          (Members.keys (sortedValues (sortMembers (sortedValues members)))).Nodup :=
        (perm.map Prod.fst).nodup_iff.mpr keysDistinct
      exact congrArg Value.dict (sortMembers_eq_of_perm perm sortedDistinct)

theorem sortedItems_idem : ∀ items : List Value, DistinctItems items →
    Value.sortedItems (Value.sortedItems items) = Value.sortedItems items
  | [], _ => rfl
  | item :: rest, distinct =>
      congrArg₂ List.cons (Value.sorted_idem item distinct.1) (sortedItems_idem rest distinct.2)

theorem sortedValues_idem : ∀ members : Members Value, DistinctMembers members →
    sortedValues (sortedValues members) = sortedValues members
  | [], _ => rfl
  | (key, value) :: rest, distinct =>
      congrArg₂ List.cons (congrArg (Prod.mk key) (Value.sorted_idem value distinct.1))
        (sortedValues_idem rest distinct.2)

end

/-! ### Equality after sorting -/

/-- Objects are the same after sorting when each member of one has its partner in the other. -/
theorem sortMembers_sortedValues_eq_iff {members others : Members Value}
    (distinct : (Members.keys members).Nodup) (othersDistinct : (Members.keys others).Nodup) :
    sortMembers (sortedValues members) = sortMembers (sortedValues others) ↔
      members.length = others.length ∧ ∀ member ∈ members, ∃ other,
        Dict.get? others member.1 = some other ∧ member.2.sorted = other.sorted := by
  have keysDistinct : (Members.keys (sortedValues members)).Nodup :=
    (sortedValues_keys members).symm ▸ distinct
  constructor
  · intro same
    have perm : (sortedValues members).Perm (sortedValues others) :=
      (sortMembers_perm _).symm.trans (same ▸ sortMembers_perm _)
    rw [sortedValues_eq, sortedValues_eq] at perm
    refine ⟨by simpa using perm.length_eq, fun member present => ?_⟩
    obtain ⟨partner, isOther, equal⟩ :=
      List.mem_map.mp (perm.mem_iff.mp (List.mem_map_of_mem present))
    obtain ⟨keyEq, valueEq⟩ := Prod.mk.inj equal
    refine ⟨partner.2, Dict.get?_of_mem others othersDistinct ?_, valueEq.symm⟩
    rw [← keyEq]
    exact isOther
  · rintro ⟨lengths, partners⟩
    refine sortMembers_eq_of_perm ?_ keysDistinct
    have within : sortedValues members ⊆ sortedValues others := by
      intro entry present
      rw [sortedValues_eq] at present ⊢
      obtain ⟨member, isMember, rfl⟩ := List.mem_map.mp present
      obtain ⟨other, found, sameValue⟩ := partners member isMember
      exact List.mem_map.mpr ⟨(member.1, other), Dict.mem_of_get? others found,
        Prod.ext rfl sameValue.symm⟩
    refine (List.Nodup.subperm (List.Nodup.of_map _ keysDistinct) within).perm_of_length_le ?_
    rw [sortedValues_eq, sortedValues_eq, List.length_map, List.length_map, lengths]

mutual

/-- Values without duplicate keys are equal exactly when sorting makes them the same. -/
theorem sameJson_iff : ∀ left right : Value, left.Distinct → right.Distinct →
    (sameJson left right ↔ left.sorted = right.sorted)
  | .null, right, _, _ => by cases right <;> simp [sameJson, Value.sorted]
  | .bool _, right, _, _ => by cases right <;> simp [sameJson, Value.sorted]
  | .int _, right, _, _ => by cases right <;> simp [sameJson, Value.sorted]
  | .str _, right, _, _ => by cases right <;> simp [sameJson, Value.sorted]
  | .list items, right, leftDistinct, rightDistinct => by
      cases right with
      | list others =>
          rw [sameJson, Value.sorted, Value.sorted, Value.list.injEq]
          exact sameItems_iff items others leftDistinct rightDistinct
      | _ => simp [sameJson, Value.sorted]
  | .tuple items, right, leftDistinct, rightDistinct => by
      cases right with
      | tuple others =>
          rw [sameJson, Value.sorted, Value.sorted, Value.tuple.injEq]
          exact sameItems_iff items others leftDistinct rightDistinct
      | _ => simp [sameJson, Value.sorted]
  | .dict members, right, leftDistinct, rightDistinct => by
      cases right with
      | dict others =>
          rw [sameJson, Value.sorted, Value.sorted, Value.dict.injEq,
            sortMembers_sortedValues_eq_iff leftDistinct.1 rightDistinct.1,
            eachIn_iff members others leftDistinct.2 rightDistinct.2]
      | _ => simp [sameJson, Value.sorted]

theorem sameItems_iff : ∀ items others : List Value, DistinctItems items → DistinctItems others →
    (Value.sameItems items others ↔ Value.sortedItems items = Value.sortedItems others)
  | [], others, _, _ => by cases others <;> simp [Value.sameItems, Value.sortedItems]
  | item :: rest, others, leftDistinct, rightDistinct => by
      cases others with
      | nil => simp [Value.sameItems, Value.sortedItems]
      | cons other later =>
          rw [Value.sameItems, Value.sortedItems, Value.sortedItems, List.cons.injEq,
            sameJson_iff item other leftDistinct.1 rightDistinct.1,
            sameItems_iff rest later leftDistinct.2 rightDistinct.2]

theorem eachIn_iff : ∀ members others : Members Value, DistinctMembers members →
    DistinctMembers others → (eachIn members others ↔ ∀ member ∈ members, ∃ other,
      Dict.get? others member.1 = some other ∧ member.2.sorted = other.sorted)
  | [], others, _, _ => by simp [eachIn]
  | (key, value) :: rest, others, leftDistinct, rightDistinct => by
      rw [eachIn, List.forall_mem_cons, eachIn_iff rest others leftDistinct.2 rightDistinct]
      refine and_congr_left fun _ => ?_
      cases found : Dict.get? others key with
      | none => simp
      | some other =>
          have otherDistinct := (distinctMembers_iff others).mp rightDistinct _
            (Dict.mem_of_get? others found)
          simp [sameJson_iff value other leftDistinct.1 otherDistinct]

end

end EgoAgent
