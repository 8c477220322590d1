import EgoAgent.Api.JsonReading
import EgoAgent.Lib.Related

/-!
JSON documents of an acceptance bundle: equality, the canonical form of the
protocol, and reading back what was written.
-/

namespace EgoAgent.Acceptance

open EgoAgent.Api

/-! ### Canonical form -/

section Canonical

variable {φ : Type} (u : Unicode)

mutual

/-- `_normalise`: texts in NFC, 64-bit integers, no floating-point numbers, no
two keys with one normal form. -/
def normalise : Json φ → Option Value
  | .null => some .null
  | .bool flag => some (.bool flag)
  | .int number => if inInt64 number then some (.int number) else none
  | .float _ => none
  | .str text => some (.str (u.nfc text))
  | .list items => (normaliseItems items).map .list
  | .dict members =>
      (normaliseMembers members).bind fun normal =>
        if (Members.keys normal).Nodup then some (.dict (sortMembers normal)) else none

def normaliseItems : List (Json φ) → Option (List Value)
  | [] => some []
  | item :: rest =>
      (normalise item).bind fun head => (normaliseItems rest).map fun tail => head :: tail

def normaliseMembers : List (String × Json φ) → Option (Members Value)
  | [] => some []
  | (key, value) :: rest =>
      (normalise value).bind fun head =>
        (normaliseMembers rest).map fun tail => (u.nfc key, head) :: tail

end

/-- `protocols.rxp.canonical_bytes`. -/
def canonicalBytes (value : Json φ) : Option Bytes :=
  (normalise u value).map fun normal => utf8Encode normal.text

theorem normaliseItems_iff (items : List (Json φ)) (normal : List Value) :
    normaliseItems u items = some normal ↔
      List.Forall₂ (fun item target => normalise u item = some target) items normal := by
  induction items generalizing normal with
  | nil => simp [normaliseItems, eq_comm]
  | cons item rest ih =>
      constructor
      · intro computed
        simp only [normaliseItems, Option.bind_eq_some_iff, Option.map_eq_some_iff] at computed
        obtain ⟨head, headEq, tail, tailEq, rfl⟩ := computed
        exact .cons headEq ((ih tail).mp tailEq)
      · intro related
        cases related with
        | cons first later => simp [normaliseItems, first, (ih _).mpr later]

/-- How a member and its normal form are related. -/
def NormalMember (source : String × Json φ) (target : String × Value) : Prop :=
  target.1 = u.nfc source.1 ∧ normalise u source.2 = some target.2

theorem normaliseMembers_iff (members : List (String × Json φ)) (normal : Members Value) :
    normaliseMembers u members = some normal ↔
      List.Forall₂ (NormalMember u) members normal := by
  induction members generalizing normal with
  | nil => simp [normaliseMembers, eq_comm]
  | cons member rest ih =>
      obtain ⟨key, value⟩ := member
      constructor
      · intro computed
        simp only [normaliseMembers, Option.bind_eq_some_iff, Option.map_eq_some_iff] at computed
        obtain ⟨head, headEq, tail, tailEq, rfl⟩ := computed
        exact .cons ⟨rfl, headEq⟩ ((ih tail).mp tailEq)
      · intro related
        cases related with
        | @cons _ target _ tail first later =>
            obtain ⟨targetKey, targetValue⟩ := target
            obtain ⟨rfl, valueEq⟩ := first
            simp only at valueEq
            simp [normaliseMembers, valueEq, (ih tail).mpr later]

theorem normalise_dict_iff (members : List (String × Json φ)) (value : Value) :
    normalise u (.dict members) = some value ↔
      ∃ normal, List.Forall₂ (NormalMember u) members normal ∧
        (Members.keys normal).Nodup ∧ value = .dict (sortMembers normal) := by
  simp only [normalise, Option.bind_eq_some_iff]
  constructor
  · rintro ⟨normal, computed, checked⟩
    split at checked
    · rename_i distinct
      cases checked
      exact ⟨normal, (normaliseMembers_iff u members normal).mp computed, distinct, rfl⟩
    · cases checked
  · rintro ⟨normal, related, distinct, rfl⟩
    exact ⟨normal, (normaliseMembers_iff u members normal).mpr related, if_pos distinct⟩

variable {value : Value}

/-- The order of the members does not count. -/
theorem normalise_dict_perm {members other : List (String × Json φ)} (same : members.Perm other)
    (computed : normalise u (.dict members) = some value) :
    normalise u (.dict other) = some value := by
  obtain ⟨normal, related, distinct, rfl⟩ := (normalise_dict_iff u members value).mp computed
  obtain ⟨moved, movedRelated, movedSame⟩ := List.perm_comp_forall₂ same.symm related
  have movedDistinct : (Members.keys moved).Nodup :=
    ((movedSame.map Prod.fst).nodup_iff).mpr distinct
  refine (normalise_dict_iff u other _).mpr ⟨moved, movedRelated, movedDistinct, ?_⟩
  rw [sortMembers_eq_of_perm movedSame movedDistinct]

variable {members : List (String × Json φ)}

/-- Distinct normal forms of keys come from distinct keys. -/
theorem keys_nodup_of_normalMember {normal : Members Value}
    (related : List.Forall₂ (NormalMember u) members normal)
    (distinct : (Members.keys normal).Nodup) : (Dict.keys members).Nodup := by
  have names : Members.keys normal = (Dict.keys members).map u.nfc := by
    induction related with
    | nil => rfl
    | cons first _ ih =>
        have tail := (List.nodup_cons.mp distinct).2
        change _ :: Members.keys _ = _ :: (Dict.keys _).map u.nfc
        rw [ih tail, first.1]
  rw [names] at distinct
  exact List.Nodup.of_map _ distinct

/-- What a normal form says under a key that is its own normal form. -/
theorem normalise_dict_get
    (computed : normalise u (.dict members) = some value) {key : String} {item : Json φ}
    (found : Dict.get? members key = some item) (plain : u.nfc key = key) :
    ∃ normal target, value = .dict normal ∧ (Members.keys normal).Nodup ∧
      Dict.get? normal key = some target ∧ normalise u item = some target := by
  obtain ⟨normal, related, distinct, rfl⟩ := (normalise_dict_iff u members value).mp computed
  obtain ⟨⟨name, target⟩, present, nameEq, valueEq⟩ :=
    Related.partner_of_left related _ (Dict.mem_of_get? members found)
  have same : name = key := nameEq.trans plain
  subst same
  have inSorted := (sortMembers_perm normal).mem_iff.mpr present
  have sortedDistinct := (sortMembers_keys_nodup normal).mpr distinct
  exact ⟨sortMembers normal, target, rfl, sortedDistinct,
    Dict.get?_of_mem _ sortedDistinct inSorted, valueEq⟩

variable {left right : List (String × Json φ)}

/-- Two objects with one normal form agree under such a key. -/
theorem normalise_dict_congr (leftComputed : normalise u (.dict left) = some value)
    (rightComputed : normalise u (.dict right) = some value) {key : String} {item other : Json φ}
    (leftFound : Dict.get? left key = some item) (rightFound : Dict.get? right key = some other)
    (plain : u.nfc key = key) :
    ∃ target, normalise u item = some target ∧ normalise u other = some target := by
  obtain ⟨normal, target, rfl, _, get, computed⟩ :=
    normalise_dict_get u leftComputed leftFound plain
  obtain ⟨again, target', same, _, get', computed'⟩ :=
    normalise_dict_get u rightComputed rightFound plain
  cases same
  rw [get] at get'
  cases get'
  exact ⟨target, computed, computed'⟩

/-! ### Canonical bytes -/

mutual

theorem normalise_plain : ∀ (value : Json φ) (normal : Value),
    normalise u value = some normal → normal.Plain
  | .null, _, computed => by cases computed; trivial
  | .bool _, _, computed => by cases computed; trivial
  | .int _, _, computed => by
      simp only [normalise] at computed
      split at computed
      · cases computed; trivial
      · cases computed
  | .float _, _, computed => by cases computed
  | .str _, _, computed => by cases computed; trivial
  | .list items, _, computed => by
      simp only [normalise, Option.map_eq_some_iff] at computed
      obtain ⟨normal, itemsEq, rfl⟩ := computed
      exact normaliseItems_plain items normal itemsEq
  | .dict members, _, computed => by
      simp only [normalise, Option.bind_eq_some_iff] at computed
      obtain ⟨normal, membersEq, checked⟩ := computed
      split at checked
      · cases checked
        have plain := (plainMembers_iff normal).mp (normaliseMembers_plain members normal membersEq)
        exact (plainMembers_iff _).mpr fun member present =>
          plain member ((sortMembers_perm normal).mem_iff.mp present)
      · cases checked

theorem normaliseItems_plain : ∀ (items : List (Json φ)) (normal : List Value),
    normaliseItems u items = some normal → PlainItems normal
  | [], _, computed => by cases computed; trivial
  | item :: rest, _, computed => by
      simp only [normaliseItems, Option.bind_eq_some_iff, Option.map_eq_some_iff] at computed
      obtain ⟨head, headEq, tail, tailEq, rfl⟩ := computed
      exact ⟨normalise_plain item head headEq, normaliseItems_plain rest tail tailEq⟩

theorem normaliseMembers_plain : ∀ (members : List (String × Json φ)) (normal : Members Value),
    normaliseMembers u members = some normal → PlainMembers normal
  | [], _, computed => by cases computed; trivial
  | (key, value) :: rest, _, computed => by
      simp only [normaliseMembers, Option.bind_eq_some_iff, Option.map_eq_some_iff] at computed
      obtain ⟨head, headEq, tail, tailEq, rfl⟩ := computed
      exact ⟨normalise_plain value head headEq, normaliseMembers_plain rest tail tailEq⟩

end

/-- Equal canonical bytes mean equal normal forms. -/
theorem normalise_eq_of_canonicalBytes {left right : Json φ} {bytes : Bytes}
    (leftBytes : canonicalBytes u left = some bytes)
    (rightBytes : canonicalBytes u right = some bytes) :
    ∃ normal, normalise u left = some normal ∧ normalise u right = some normal := by
  obtain ⟨normal, computed, written⟩ := Option.map_eq_some_iff.mp leftBytes
  obtain ⟨other, otherComputed, otherWritten⟩ := Option.map_eq_some_iff.mp rightBytes
  have read := readBytes_utf8Encode_text normal (normalise_plain u left normal computed)
  have otherRead := readBytes_utf8Encode_text other (normalise_plain u right other otherComputed)
  rw [written] at read
  rw [otherWritten, read] at otherRead
  cases otherRead
  exact ⟨normal, computed, otherComputed⟩

/-! ### Sorted documents -/

mutual

/-- Sorting the members does not change the normal form. -/
theorem normalise_sorted : ∀ (value : Json φ) (normal : Value),
    normalise u value = some normal → normalise u value.sorted = some normal
  | .null, _, computed => computed
  | .bool _, _, computed => computed
  | .int _, _, computed => computed
  | .float _, _, computed => computed
  | .str _, _, computed => computed
  | .list items, _, computed => by
      simp only [normalise, Option.map_eq_some_iff] at computed
      obtain ⟨normal, itemsEq, rfl⟩ := computed
      simp only [Json.sorted, normalise, normaliseItems_sorted items normal itemsEq,
        Option.map_some]
  | .dict members, value, computed => by
      simp only [normalise, Option.bind_eq_some_iff] at computed
      obtain ⟨normal, membersEq, checked⟩ := computed
      have inner : normalise u (.dict (sortedMembers members)) = some value := by
        simp only [normalise, normaliseMembers_sorted members normal membersEq, Option.bind_some]
        exact checked
      exact normalise_dict_perm u (sortMembers_perm _).symm inner

theorem normaliseItems_sorted : ∀ (items : List (Json φ)) (normal : List Value),
    normaliseItems u items = some normal → normaliseItems u (sortedItems items) = some normal
  | [], _, computed => computed
  | item :: rest, _, computed => by
      simp only [normaliseItems, Option.bind_eq_some_iff, Option.map_eq_some_iff] at computed
      obtain ⟨head, headEq, tail, tailEq, rfl⟩ := computed
      simp [sortedItems, normaliseItems, normalise_sorted item head headEq,
        normaliseItems_sorted rest tail tailEq]

theorem normaliseMembers_sorted :
    ∀ (members : List (String × Json φ)) (normal : Members Value),
      normaliseMembers u members = some normal →
        normaliseMembers u (sortedMembers members) = some normal
  | [], _, computed => computed
  | (key, value) :: rest, _, computed => by
      simp only [normaliseMembers, Option.bind_eq_some_iff, Option.map_eq_some_iff] at computed
      obtain ⟨head, headEq, tail, tailEq, rfl⟩ := computed
      simp [sortedMembers, normaliseMembers, normalise_sorted value head headEq,
        normaliseMembers_sorted rest tail tailEq]

end

theorem normalise_sortedMembers (computed : normalise u (.dict members) = some value) :
    normalise u (.dict (sortedMembers members)) = some value :=
  normalise_dict_perm u (sortMembers_perm _) (normalise_sorted u (.dict members) value computed)

/-! ### Objects with plain keys -/

def NormalOf (value : Json φ) (target : Value) : Prop := normalise u value = some target

/-- The members of an object with plain keys, one by one. -/
theorem normalMembers_of_plain (plain : ∀ key ∈ Dict.keys members, u.nfc key = key)
    (values : ∀ member ∈ members, (normalise u member.2).isSome = true) :
    ∃ normal : Members Value,
      List.Forall₂ (fun (entry : String × Json φ) (other : String × Value) =>
        other.1 = entry.1 ∧ NormalOf u entry.2 other.2) members normal ∧
      List.Forall₂ (NormalMember u) members normal := by
  induction members with
  | nil => exact ⟨[], .nil, .nil⟩
  | cons member rest ih =>
      obtain ⟨key, value⟩ := member
      obtain ⟨target, computed⟩ := Option.isSome_iff_exists.mp (values _ List.mem_cons_self)
      obtain ⟨normal, exactly, related⟩ := ih
        (fun name present => plain name (List.mem_cons_of_mem _ present))
        (fun entry present => values entry (List.mem_cons_of_mem _ present))
      have here : u.nfc key = key := plain key List.mem_cons_self
      exact ⟨(key, target) :: normal, .cons ⟨rfl, computed⟩ exactly,
        .cons ⟨here.symm, computed⟩ related⟩

/-- Objects that agree under every key have one normal form. -/
theorem normalise_dict_of_agree {keys : List String}
    (plain : ∀ key ∈ keys, u.nfc key = key) (distinct : keys.Nodup)
    (leftKeys : (Dict.keys left).Perm keys) (rightKeys : (Dict.keys right).Perm keys)
    (agree : ∀ key ∈ keys, ∃ value other target, Dict.get? left key = some value ∧
      Dict.get? right key = some other ∧ normalise u value = some target ∧
      normalise u other = some target) :
    ∃ normal, normalise u (.dict left) = some normal ∧
      normalise u (.dict right) = some normal := by
  have leftDistinct := leftKeys.nodup_iff.mpr distinct
  have rightDistinct := rightKeys.nodup_iff.mpr distinct
  have leftValues : ∀ member ∈ left, (normalise u member.2).isSome = true := by
    intro member present
    obtain ⟨value, _, target, found, _, computed, _⟩ := agree member.1
      (leftKeys.mem_iff.mp (List.mem_map_of_mem present))
    rw [Dict.get?_of_mem left leftDistinct present] at found
    cases found
    rw [computed, Option.isSome_some]
  have rightValues : ∀ member ∈ right, (normalise u member.2).isSome = true := by
    intro member present
    obtain ⟨_, value, target, _, found, _, computed⟩ := agree member.1
      (rightKeys.mem_iff.mp (List.mem_map_of_mem present))
    rw [Dict.get?_of_mem right rightDistinct present] at found
    cases found
    rw [computed, Option.isSome_some]
  obtain ⟨leftNormal, leftExactly, leftRelated⟩ := normalMembers_of_plain u
    (fun key present => plain key (leftKeys.mem_iff.mp present)) leftValues
  obtain ⟨rightNormal, rightExactly, rightRelated⟩ := normalMembers_of_plain u
    (fun key present => plain key (rightKeys.mem_iff.mp present)) rightValues
  have leftNames : Members.keys leftNormal = Dict.keys left :=
    Related.map_eq leftExactly Prod.fst Prod.fst fun _ _ holds => holds.1
  have rightNames : Members.keys rightNormal = Dict.keys right :=
    Related.map_eq rightExactly Prod.fst Prod.fst fun _ _ holds => holds.1
  have leftNormalDistinct : (Members.keys leftNormal).Nodup := leftNames ▸ leftDistinct
  have rightNormalDistinct : (Members.keys rightNormal).Nodup := rightNames ▸ rightDistinct
  have same : leftNormal.Perm rightNormal := by
    refine Dict.perm_of_get? leftNormalDistinct rightNormalDistinct fun key => ?_
    by_cases wanted : key ∈ keys
    · obtain ⟨value, other, target, leftFound, rightFound, leftTarget, rightTarget⟩ :=
        agree key wanted
      rcases Dict.get?_related leftExactly key with ⟨absent, _⟩ | ⟨_, _, here, there, computed⟩
      · rw [leftFound] at absent
        cases absent
      rw [leftFound] at here
      cases here
      rcases Dict.get?_related rightExactly key with ⟨absent, _⟩ | ⟨_, _, here', there', computed'⟩
      · rw [rightFound] at absent
        cases absent
      rw [rightFound] at here'
      cases here'
      rw [there, there']
      exact computed.symm.trans (leftTarget.trans (rightTarget.symm.trans computed'))
    · have leftAbsent : Dict.get? leftNormal key = none :=
        (Dict.get?_eq_none_iff _ _).mpr fun present =>
          wanted (leftKeys.mem_iff.mp (leftNames ▸ present))
      have rightAbsent : Dict.get? rightNormal key = none :=
        (Dict.get?_eq_none_iff _ _).mpr fun present =>
          wanted (rightKeys.mem_iff.mp (rightNames ▸ present))
      rw [leftAbsent, rightAbsent]
  refine ⟨.dict (sortMembers leftNormal),
    (normalise_dict_iff u left _).mpr ⟨leftNormal, leftRelated, leftNormalDistinct, rfl⟩,
    (normalise_dict_iff u right _).mpr ⟨rightNormal, rightRelated, rightNormalDistinct, ?_⟩⟩
  rw [sortMembers_eq_of_perm same leftNormalDistinct]

end Canonical

/-! ### Equality -/

/-- How floating-point numbers compare with integers and with each other. -/
class FloatEq (φ : Type) where
  equalsInt : φ → Int → Bool
  equals : φ → φ → Bool

instance : FloatEq Empty := ⟨Empty.elim, Empty.elim⟩

section Equality

variable {φ : Type} [FloatEq φ]

/-- `True == 1` and `1 == 1.0`. -/
def numbersEqual : Json φ → Json φ → Bool
  | .float left, .float right => FloatEq.equals left right
  | .float left, .int right => FloatEq.equalsInt left right
  | .float left, .bool right => FloatEq.equalsInt left right.toInt
  | .int left, .float right => FloatEq.equalsInt right left
  | .bool left, .float right => FloatEq.equalsInt right left.toInt
  | .int left, .int right => left == right
  | .int left, .bool right => left == right.toInt
  | .bool left, .int right => left.toInt == right
  | .bool left, .bool right => left == right
  | _, _ => false

mutual

/-- `left == right`. -/
def pyEq : Json φ → Json φ → Bool
  | .null, .null => true
  | .str left, .str right => left == right
  | .list left, .list right => pyEqItems left right
  | .dict left, .dict right => left.length == right.length && pyEqMembers left right
  | left, right => numbersEqual left right

def pyEqItems : List (Json φ) → List (Json φ) → Bool
  | [], [] => true
  | left :: lefts, right :: rights => pyEq left right && pyEqItems lefts rights
  | _, _ => false

/-- Every member of the left mapping has an equal one in the right mapping. -/
def pyEqMembers : List (String × Json φ) → List (String × Json φ) → Bool
  | [], _ => true
  | (key, value) :: rest, right =>
      (match Dict.get? right key with
        | some other => pyEq value other
        | none => false) && pyEqMembers rest right

end

variable (u : Unicode)

mutual

theorem pyEq_sorted : ∀ (value : Json φ) (normal : Value),
    normalise u value = some normal → pyEq value value.sorted = true
  | .null, _, _ => rfl
  | .bool flag, _, _ => by simp [Json.sorted, pyEq, numbersEqual]
  | .int number, _, _ => by simp [Json.sorted, pyEq, numbersEqual]
  | .float _, _, computed => by cases computed
  | .str text, _, _ => by simp [Json.sorted, pyEq]
  | .list items, _, computed => by
      simp only [normalise, Option.map_eq_some_iff] at computed
      obtain ⟨normal, itemsEq, rfl⟩ := computed
      simp [Json.sorted, pyEq, pyEqItems_sorted items normal itemsEq]
  | .dict members, value, computed => by
      obtain ⟨normal, related, distinct, _⟩ :=
        (normalise_dict_iff u members value).mp computed
      have keys := keys_nodup_of_normalMember u related distinct
      have found : ∀ member ∈ members,
          Dict.get? (sortMembers (sortedMembers members)) member.1 = some member.2.sorted :=
        fun member present => get?_sorted keys (Dict.get?_of_mem members keys present)
      have length : (sortMembers (sortedMembers members)).length = members.length := by
        rw [(sortMembers_perm _).length_eq, sortedMembers_eq_map, List.length_map]
      have equal := pyEqMembers_sorted members _ normal
        ((normaliseMembers_iff u members normal).mpr related) found
      simp [Json.sorted, pyEq, length, equal]

theorem pyEqItems_sorted : ∀ (items : List (Json φ)) (normal : List Value),
    normaliseItems u items = some normal → pyEqItems items (sortedItems items) = true
  | [], _, _ => rfl
  | item :: rest, _, computed => by
      simp only [normaliseItems, Option.bind_eq_some_iff, Option.map_eq_some_iff] at computed
      obtain ⟨head, headEq, tail, tailEq, rfl⟩ := computed
      simp [sortedItems, pyEqItems, pyEq_sorted item head headEq,
        pyEqItems_sorted rest tail tailEq]

theorem pyEqMembers_sorted :
    ∀ (members other : List (String × Json φ)) (normal : Members Value),
      normaliseMembers u members = some normal →
        (∀ member ∈ members, Dict.get? other member.1 = some member.2.sorted) →
          pyEqMembers members other = true
  | [], _, _, _, _ => rfl
  | (key, value) :: rest, other, _, computed, found => by
      simp only [normaliseMembers, Option.bind_eq_some_iff, Option.map_eq_some_iff] at computed
      obtain ⟨head, headEq, tail, tailEq, rfl⟩ := computed
      have here := found (key, value) List.mem_cons_self
      have later := pyEqMembers_sorted rest other tail tailEq
        (fun member present => found member (List.mem_cons_of_mem _ present))
      simp only at here
      simp [pyEqMembers, here, pyEq_sorted value head headEq, later]

end

variable {left right : List (String × Json φ)}

theorem pyEqMembers_get? (equal : pyEqMembers left right = true) {key : String} {value : Json φ}
    (present : (key, value) ∈ left) :
    ∃ other, Dict.get? right key = some other ∧ pyEq value other = true := by
  induction left with
  | nil => cases present
  | cons member rest ih =>
      obtain ⟨name, first⟩ := member
      simp only [pyEqMembers, Bool.and_eq_true] at equal
      rcases List.mem_cons.mp present with here | later
      · cases here
        cases found : Dict.get? right key with
        | none =>
            rw [found] at equal
            cases equal.1
        | some other =>
            rw [found] at equal
            exact ⟨other, rfl, equal.1⟩
      · exact ih equal.2 later

/-- An equal mapping has the same keys. -/
theorem keys_of_pyEq (equal : pyEq (.dict left) (.dict right))
    (leftDistinct : (Dict.keys left).Nodup) :
    (Dict.keys left).Perm (Dict.keys right) := by
  simp only [pyEq, Bool.and_eq_true, beq_iff_eq] at equal
  have inside : ∀ members : List (String × Json φ), pyEqMembers members right = true →
      Dict.keys members ⊆ Dict.keys right := by
    intro members all
    induction members with
    | nil => exact List.nil_subset _
    | cons member rest ih =>
        obtain ⟨key, value⟩ := member
        simp only [pyEqMembers, Bool.and_eq_true] at all
        intro name present
        rcases List.mem_cons.mp present with here | later
        · rw [here]
          refine (Dict.mem_keys_iff right key).mpr ?_
          cases found : Dict.get? right key with
          | some other => exact ⟨other, rfl⟩
          | none =>
              rw [found] at all
              cases all.1
        · exact ih all.2 later
  have lengths : (Dict.keys right).length ≤ (Dict.keys left).length := by
    simp [Dict.keys, equal.1]
  exact (List.subperm_of_subset leftDistinct (inside left equal.2)).perm_of_length_le lengths

end Equality

/-! ### Reading -/

mutual

/-- What has a canonical form repeats no key. -/
theorem uniqueKeys_of_normalise {φ : Type} (u : Unicode) : ∀ (value : Json φ) (normal : Value),
    normalise u value = some normal → uniqueKeys value = true
  | .null, _, _ | .bool _, _, _ | .int _, _, _ | .float _, _, _ | .str _, _, _ => rfl
  | .list items, _, computed => by
      simp only [normalise, Option.map_eq_some_iff] at computed
      obtain ⟨normal, itemsEq, rfl⟩ := computed
      exact uniqueItems_of_normalise u items normal itemsEq
  | .dict members, value, computed => by
      obtain ⟨normal, related, distinct, _⟩ :=
        (normalise_dict_iff u members value).mp computed
      have membersEq := (normaliseMembers_iff u members normal).mpr related
      simp [uniqueKeys, keys_nodup_of_normalMember u related distinct,
        uniqueMembers_of_normalise u members normal membersEq]

theorem uniqueItems_of_normalise {φ : Type} (u : Unicode) :
    ∀ (items : List (Json φ)) (normal : List Value),
      normaliseItems u items = some normal → uniqueItems items = true
  | [], _, _ => rfl
  | item :: rest, _, computed => by
      simp only [normaliseItems, Option.bind_eq_some_iff, Option.map_eq_some_iff] at computed
      obtain ⟨head, headEq, tail, tailEq, rfl⟩ := computed
      simp [uniqueItems, uniqueKeys_of_normalise u item head headEq,
        uniqueItems_of_normalise u rest tail tailEq]

theorem uniqueMembers_of_normalise {φ : Type} (u : Unicode) :
    ∀ (members : List (String × Json φ)) (normal : Members Value),
      normaliseMembers u members = some normal → uniqueMembers members = true
  | [], _, _ => rfl
  | (key, value) :: rest, _, computed => by
      simp only [normaliseMembers, Option.bind_eq_some_iff, Option.map_eq_some_iff] at computed
      obtain ⟨head, headEq, tail, tailEq, rfl⟩ := computed
      simp [uniqueMembers, uniqueKeys_of_normalise u value head headEq,
        uniqueMembers_of_normalise u rest tail tailEq]

end

/-- `json.loads` of a document in UTF-8.  It reads back what `json.dumps` wrote
with sorted keys and a line feed. -/
structure JsonReader (φ : Type) [FloatText φ] where
  loads : Bytes → Option (Json φ)
  reads_back : ∀ (u : Unicode) (value : Json φ), (normalise u value).isSome = true →
    loads (utf8Encode (value.sorted.text ++ ['\n'])) = some value.sorted

/-! ### A reader of canonical texts -/

section Reader

variable {φ : Type} [FloatText φ]

mutual

/-- A document without floating-point numbers as a value of the protocol. -/
def ofJson : Json φ → Value
  | .null | .float _ => .null
  | .bool flag => .bool flag
  | .int number => .int number
  | .str text => .str text
  | .list items => .list (ofJsonItems items)
  | .dict members => .dict (ofJsonMembers members)

def ofJsonItems : List (Json φ) → List Value
  | [] => []
  | item :: rest => ofJson item :: ofJsonItems rest

def ofJsonMembers : List (String × Json φ) → Members Value
  | [] => []
  | (key, value) :: rest => (key, ofJson value) :: ofJsonMembers rest

end

mutual

def toJson : Value → Json φ
  | .null => .null
  | .bool flag => .bool flag
  | .int number => .int number
  | .str text => .str text
  | .list items | .tuple items => .list (toJsonItems items)
  | .dict members => .dict (toJsonMembers members)

def toJsonItems : List Value → List (Json φ)
  | [] => []
  | item :: rest => toJson item :: toJsonItems rest

def toJsonMembers : Members Value → List (String × Json φ)
  | [] => []
  | (key, value) :: rest => (key, toJson value) :: toJsonMembers rest

end

variable (u : Unicode)

mutual

theorem ofJson_spec : ∀ (value : Json φ) (normal : Value), normalise u value = some normal →
    (ofJson value).text = value.text ∧ (ofJson value).Plain ∧ toJson (ofJson value) = value
  | .null, _, _ => ⟨rfl, trivial, rfl⟩
  | .bool true, _, _ => ⟨rfl, trivial, rfl⟩
  | .bool false, _, _ => ⟨rfl, trivial, rfl⟩
  | .int _, _, _ => ⟨rfl, trivial, rfl⟩
  | .float _, _, computed => by cases computed
  | .str _, _, _ => ⟨rfl, trivial, rfl⟩
  | .list items, _, computed => by
      simp only [normalise, Option.map_eq_some_iff] at computed
      obtain ⟨normal, itemsEq, rfl⟩ := computed
      obtain ⟨texts, plain, back⟩ := ofJsonItems_spec items normal itemsEq
      refine ⟨?_, plain, by rw [ofJson, toJson, back]⟩
      cases items with
      | nil => rfl
      | cons item rest =>
          simp only [ofJsonItems, textItems, jsonTextItems, List.cons.injEq] at texts
          simpa [ofJson, ofJsonItems, Value.text, Json.text] using texts
  | .dict members, value, computed => by
      simp only [normalise, Option.bind_eq_some_iff] at computed
      obtain ⟨normal, membersEq, _⟩ := computed
      obtain ⟨texts, plain, back⟩ := ofJsonMembers_spec members normal membersEq
      refine ⟨?_, plain, by rw [ofJson, toJson, back]⟩
      cases members with
      | nil => rfl
      | cons member rest =>
          obtain ⟨key, value⟩ := member
          simp only [ofJsonMembers, textMembers, jsonTextMembers, List.cons.injEq] at texts
          simpa [ofJson, ofJsonMembers, Value.text, Json.text] using texts

theorem ofJsonItems_spec : ∀ (items : List (Json φ)) (normal : List Value),
    normaliseItems u items = some normal →
      textItems (ofJsonItems items) = jsonTextItems items ∧ PlainItems (ofJsonItems items) ∧
        toJsonItems (ofJsonItems items) = items
  | [], _, _ => ⟨rfl, trivial, rfl⟩
  | item :: rest, _, computed => by
      simp only [normaliseItems, Option.bind_eq_some_iff, Option.map_eq_some_iff] at computed
      obtain ⟨head, headEq, tail, tailEq, rfl⟩ := computed
      obtain ⟨text, plain, back⟩ := ofJson_spec item head headEq
      obtain ⟨texts, plains, backs⟩ := ofJsonItems_spec rest tail tailEq
      exact ⟨by rw [ofJsonItems, textItems, jsonTextItems, text, texts], ⟨plain, plains⟩,
        by rw [ofJsonItems, toJsonItems, back, backs]⟩

theorem ofJsonMembers_spec : ∀ (members : List (String × Json φ)) (normal : Members Value),
    normaliseMembers u members = some normal →
      textMembers (ofJsonMembers members) = jsonTextMembers members ∧
        PlainMembers (ofJsonMembers members) ∧
        toJsonMembers (ofJsonMembers members) = members
  | [], _, _ => ⟨rfl, trivial, rfl⟩
  | (key, value) :: rest, _, computed => by
      simp only [normaliseMembers, Option.bind_eq_some_iff, Option.map_eq_some_iff] at computed
      obtain ⟨head, headEq, tail, tailEq, rfl⟩ := computed
      obtain ⟨text, plain, back⟩ := ofJson_spec value head headEq
      obtain ⟨texts, plains, backs⟩ := ofJsonMembers_spec rest tail tailEq
      exact ⟨by rw [ofJsonMembers, textMembers, jsonTextMembers, text, texts], ⟨plain, plains⟩,
        by rw [ofJsonMembers, toJsonMembers, back, backs]⟩

end

/-- A reader of texts without white space, as far as the bundles need one. -/
def compactReader : JsonReader φ where
  loads bytes := (utf8Decode bytes).bind fun chars =>
    (readText chars.dropLast).map toJson
  reads_back u value computed := by
    obtain ⟨normal, computed⟩ := Option.isSome_iff_exists.mp computed
    obtain ⟨text, plain, back⟩ := ofJson_spec u value.sorted normal
      (normalise_sorted u value normal computed)
    rw [utf8Decode_utf8Encode, Option.bind_some, List.dropLast_concat, ← text,
      readText_text _ plain, Option.map_some, back]

end Reader

end EgoAgent.Acceptance
