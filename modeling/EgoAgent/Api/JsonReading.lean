import EgoAgent.Api.Provenance
import EgoAgent.Lib.Dict

/-!
Reading back what the canonical encoder wrote.
-/

namespace EgoAgent.Api

variable {φ : Type}

/-! ### Documents without repeated keys -/

mutual

/-- No object repeats a key. -/
def uniqueKeys : Json φ → Bool
  | .list items => uniqueItems items
  | .dict members => decide (Dict.keys members).Nodup && uniqueMembers members
  | _ => true

def uniqueItems : List (Json φ) → Bool
  | [] => true
  | item :: rest => uniqueKeys item && uniqueItems rest

def uniqueMembers : List (String × Json φ) → Bool
  | [] => true
  | (_, value) :: rest => uniqueKeys value && uniqueMembers rest

end

/-! ### Documents that can be written -/

/-- The integers that `int` and `str` convert, of at most 4300 digits. -/
def convertible (number : Int) : Bool := (Nat.toDigits 10 number.natAbs).length ≤ 4300

theorem convertible_of_small {number : Nat} (small : number < 2 ^ 100) :
    convertible (number : Int) = true := by
  have digits : (Nat.toDigits 10 number).length ≤ 40 :=
    (Nat.length_toDigits_le_iff (by decide) (by decide)).mpr (by omega)
  unfold convertible
  apply decide_eq_true
  rw [Int.natAbs_natCast]
  omega

mutual

/-- No object repeats a key, and every integer can be written. -/
def legible : Json φ → Bool
  | .int number => convertible number
  | .list items => legibleItems items
  | .dict members => decide (Dict.keys members).Nodup && legibleMembers members
  | _ => true

def legibleItems : List (Json φ) → Bool
  | [] => true
  | item :: rest => legible item && legibleItems rest

def legibleMembers : List (String × Json φ) → Bool
  | [] => true
  | (_, value) :: rest => legible value && legibleMembers rest

end

section

variable (members : List (String × Json φ))

theorem legibleMembers_iff :
    legibleMembers members = true ↔ ∀ member ∈ members, legible member.2 = true := by
  induction members with
  | nil => simp [legibleMembers]
  | cons member rest ih =>
      obtain ⟨key, value⟩ := member
      simp [legibleMembers, ih]

theorem legible_dict_iff :
    legible (.dict members) = true ↔
      (Dict.keys members).Nodup ∧ ∀ member ∈ members, legible member.2 = true := by
  rw [legible, Bool.and_eq_true, decide_eq_true_iff, legibleMembers_iff]

mutual

/-- What can be written repeats no key. -/
theorem uniqueKeys_of_legible : ∀ value : Json φ, legible value = true → uniqueKeys value = true
  | .null, _ | .bool _, _ | .int _, _ | .float _, _ | .str _, _ => rfl
  | .list items, readable => uniqueItems_of_legible items readable
  | .dict members, readable => by
      obtain ⟨distinct, values⟩ := (legible_dict_iff members).mp readable
      rw [uniqueKeys, Bool.and_eq_true, decide_eq_true_iff]
      exact ⟨distinct, uniqueMembers_of_legible members ((legibleMembers_iff members).mpr values)⟩

theorem uniqueItems_of_legible : ∀ items : List (Json φ),
    legibleItems items = true → uniqueItems items = true
  | [], _ => rfl
  | item :: rest, readable => by
      rw [legibleItems, Bool.and_eq_true] at readable
      rw [uniqueItems, uniqueKeys_of_legible item readable.1, uniqueItems_of_legible rest readable.2]
      rfl

theorem uniqueMembers_of_legible : ∀ members : List (String × Json φ),
    legibleMembers members = true → uniqueMembers members = true
  | [], _ => rfl
  | (key, value) :: rest, readable => by
      rw [legibleMembers, Bool.and_eq_true] at readable
      rw [uniqueMembers, uniqueKeys_of_legible value readable.1,
        uniqueMembers_of_legible rest readable.2]
      rfl

end

section Finite

variable [FloatText φ]

variable (members : List (String × Json φ))

theorem finiteMembers_iff :
    finiteMembers members = true ↔ ∀ member ∈ members, member.2.finite = true := by
  induction members with
  | nil => simp [finiteMembers]
  | cons member rest ih =>
      obtain ⟨key, value⟩ := member
      simp [finiteMembers, ih]

theorem finite_dict_iff :
    (Json.dict members).finite = true ↔ ∀ member ∈ members, member.2.finite = true :=
  finiteMembers_iff members

/-- `json.loads` reads back what `json.dumps` writes in canonical form. -/
def ReadsBack (loads : Bytes → Option (Json φ)) : Prop :=
  ∀ value : Json φ, value.finite = true → legible value = true →
    loads (utf8Encode value.sorted.text) = some value.sorted

end Finite

/-! ### Sorted documents -/

theorem sortedMembers_keys :
    Dict.keys (sortedMembers members) = Dict.keys members := by
  rw [sortedMembers_eq_map]
  simp [Dict.keys, Function.comp_def]

theorem sorted_keys_perm :
    (Dict.keys (sortMembers (sortedMembers members))).Perm (Dict.keys members) := by
  have perm := (sortMembers_perm (sortedMembers members)).map Prod.fst
  rw [← sortedMembers_keys members]
  exact perm

section

variable {members : List (String × Json φ)}

theorem mem_sorted_iff {key : String} {item : Json φ} :
    (key, item) ∈ sortMembers (sortedMembers members) ↔
      ∃ value, (key, value) ∈ members ∧ item = value.sorted := by
  rw [(sortMembers_perm _).mem_iff, sortedMembers_eq_map, List.mem_map]
  constructor
  · rintro ⟨⟨name, value⟩, present, pair⟩
    cases pair
    exact ⟨value, present, rfl⟩
  · rintro ⟨value, present, rfl⟩
    exact ⟨(key, value), present, rfl⟩

/-- Lookups in a sorted object. -/
theorem get?_sorted (distinct : (Dict.keys members).Nodup)
    {key : String} {item : Json φ} (found : Dict.get? members key = some item) :
    Dict.get? (sortMembers (sortedMembers members)) key = some item.sorted := by
  have sortedDistinct := (sorted_keys_perm members).nodup_iff.mpr distinct
  exact Dict.get?_of_mem _ sortedDistinct
    (mem_sorted_iff.mpr ⟨item, Dict.mem_of_get? members found, rfl⟩)

theorem get?_sorted_eq_map (distinct : (Dict.keys members).Nodup) (key : String) :
    Dict.get? (sortMembers (sortedMembers members)) key =
      (Dict.get? members key).map Json.sorted := by
  cases found : Dict.get? members key with
  | some item =>
      rw [get?_sorted distinct found]
      rfl
  | none =>
      rw [Dict.get?_eq_none_iff] at found
      rw [Option.map_none, Dict.get?_eq_none_iff]
      exact fun present => found ((sorted_keys_perm members).mem_iff.mp present)

end

theorem sortedItems_eq_map (items : List (Json φ)) : sortedItems items = items.map Json.sorted := by
  induction items with
  | nil => rfl
  | cons item rest ih => rw [sortedItems, ih, List.map_cons]

theorem sortedMembers_sortMembers :
    sortedMembers (sortMembers members) = sortMembers (sortedMembers members) := by
  rw [sortedMembers_eq_map, sortedMembers_eq_map]
  exact List.map_insertionSort _ _ _ _ fun _ _ _ _ => Iff.rfl

end

mutual

/-- Sorting once is enough. -/
theorem sorted_sorted : ∀ value : Json φ, value.sorted.sorted = value.sorted
  | .null => by simp [Json.sorted]
  | .bool _ => by simp [Json.sorted]
  | .int _ => by simp [Json.sorted]
  | .float _ => by simp [Json.sorted]
  | .str _ => by simp [Json.sorted]
  | .list items => by simp [Json.sorted, sortedItems_sortedItems items]
  | .dict members => by
      have inner := sortedMembers_sortedMembers members
      have moved : sortedMembers (sortMembers (sortedMembers members)) =
          sortMembers (sortedMembers (sortedMembers members)) := sortedMembers_sortMembers _
      simp only [Json.sorted]
      rw [moved, inner, sortMembers_idem]

theorem sortedItems_sortedItems : ∀ items : List (Json φ),
    sortedItems (sortedItems items) = sortedItems items
  | [] => rfl
  | item :: rest => by simp [sortedItems, sorted_sorted item, sortedItems_sortedItems rest]

theorem sortedMembers_sortedMembers : ∀ members : List (String × Json φ),
    sortedMembers (sortedMembers members) = sortedMembers members
  | [] => rfl
  | (key, value) :: rest => by
      simp [sortedMembers, sorted_sorted value, sortedMembers_sortedMembers rest]

end

mutual

theorem legible_sorted : ∀ value : Json φ, legible value = true → legible value.sorted = true
  | .null, readable | .bool _, readable | .int _, readable | .float _, readable
  | .str _, readable => readable
  | .list items, readable => by
      rw [Json.sorted, legible]
      rw [legible] at readable
      exact legibleItems_sorted items readable
  | .dict members, readable => by
      obtain ⟨distinct, values⟩ := (legible_dict_iff members).mp readable
      have inner := legibleMembers_sorted members ((legibleMembers_iff members).mpr values)
      simp only [Json.sorted]
      refine (legible_dict_iff _).mpr ⟨(sorted_keys_perm members).nodup_iff.mpr distinct, ?_⟩
      intro member present
      exact (legibleMembers_iff _).mp inner member ((sortMembers_perm _).mem_iff.mp present)

theorem legibleItems_sorted : ∀ items : List (Json φ),
    legibleItems items = true → legibleItems (sortedItems items) = true
  | [], _ => rfl
  | item :: rest, readable => by
      simp only [legibleItems, Bool.and_eq_true] at readable
      simp [sortedItems, legibleItems, legible_sorted item readable.1,
        legibleItems_sorted rest readable.2]

theorem legibleMembers_sorted : ∀ members : List (String × Json φ),
    legibleMembers members = true → legibleMembers (sortedMembers members) = true
  | [], _ => rfl
  | (key, value) :: rest, readable => by
      simp only [legibleMembers, Bool.and_eq_true] at readable
      simp [sortedMembers, legibleMembers, legible_sorted value readable.1,
        legibleMembers_sorted rest readable.2]

end

section FiniteSorted

variable [FloatText φ]

mutual

theorem finite_sorted : ∀ value : Json φ, value.finite = true → value.sorted.finite = true
  | .null, finite | .bool _, finite | .int _, finite | .float _, finite
  | .str _, finite => finite
  | .list items, finite => by
      simpa [Json.sorted, Json.finite] using finiteItems_sorted items
        (by simpa [Json.finite] using finite)
  | .dict members, finite => by
      have inner := finiteMembers_sorted members (by simpa [Json.finite] using finite)
      simp only [Json.sorted]
      refine (finite_dict_iff _).mpr fun member present => ?_
      exact (finiteMembers_iff _).mp inner member ((sortMembers_perm _).mem_iff.mp present)

theorem finiteItems_sorted : ∀ items : List (Json φ),
    finiteItems items = true → finiteItems (sortedItems items) = true
  | [], _ => rfl
  | item :: rest, finite => by
      simp only [finiteItems, Bool.and_eq_true] at finite
      simp [sortedItems, finiteItems, finite_sorted item finite.1, finiteItems_sorted rest finite.2]

theorem finiteMembers_sorted : ∀ members : List (String × Json φ),
    finiteMembers members = true → finiteMembers (sortedMembers members) = true
  | [], _ => rfl
  | (key, value) :: rest, finite => by
      simp only [finiteMembers, Bool.and_eq_true] at finite
      simp [sortedMembers, finiteMembers, finite_sorted value finite.1,
        finiteMembers_sorted rest finite.2]

end

/-- Documents written with the same bytes are one document. -/
theorem sorted_eq_of_bytes {loads : Bytes → Option (Json φ)} (readsBack : ReadsBack loads)
    {left right : Json φ} (leftFinite : left.finite = true) (rightFinite : right.finite = true)
    (leftLegible : legible left = true) (rightLegible : legible right = true)
    (same : utf8Encode left.sorted.text = utf8Encode right.sorted.text) :
    left.sorted = right.sorted := by
  have read := readsBack left leftFinite leftLegible
  rw [same, readsBack right rightFinite rightLegible] at read
  exact (Option.some.inj read).symm

end FiniteSorted

/-! ### A reader of canonical texts -/

mutual

/-- A document without floating-point numbers as a value of the protocol. -/
def ofJson : Json Empty → Value
  | .null => .null
  | .bool flag => .bool flag
  | .int number => .int number
  | .float number => nomatch number
  | .str text => .str text
  | .list items => .list (ofJsonItems items)
  | .dict members => .dict (ofJsonMembers members)

def ofJsonItems : List (Json Empty) → List Value
  | [] => []
  | item :: rest => ofJson item :: ofJsonItems rest

def ofJsonMembers : List (String × Json Empty) → Members Value
  | [] => []
  | (key, value) :: rest => (key, ofJson value) :: ofJsonMembers rest

end

mutual

def toJson : Value → Json Empty
  | .null => .null
  | .bool flag => .bool flag
  | .int number => .int number
  | .str text => .str text
  | .list items | .tuple items => .list (toJsonItems items)
  | .dict members => .dict (toJsonMembers members)

def toJsonItems : List Value → List (Json Empty)
  | [] => []
  | item :: rest => toJson item :: toJsonItems rest

def toJsonMembers : Members Value → List (String × Json Empty)
  | [] => []
  | (key, value) :: rest => (key, toJson value) :: toJsonMembers rest

end

mutual

theorem ofJson_spec : ∀ value : Json Empty,
    (ofJson value).text = value.text ∧ (ofJson value).Plain ∧ toJson (ofJson value) = value
  | .null => ⟨rfl, trivial, rfl⟩
  | .bool true => ⟨rfl, trivial, rfl⟩
  | .bool false => ⟨rfl, trivial, rfl⟩
  | .int _ => ⟨rfl, trivial, rfl⟩
  | .float number => nomatch number
  | .str _ => ⟨rfl, trivial, rfl⟩
  | .list items => by
      obtain ⟨texts, plain, back⟩ := ofJsonItems_spec items
      refine ⟨?_, plain, by rw [ofJson, toJson, back]⟩
      cases items with
      | nil => rfl
      | cons item rest =>
          simp only [ofJsonItems, textItems, jsonTextItems, List.cons.injEq] at texts
          simpa [ofJson, ofJsonItems, Value.text, Json.text] using texts
  | .dict members => by
      obtain ⟨texts, plain, back⟩ := ofJsonMembers_spec members
      refine ⟨?_, plain, by rw [ofJson, toJson, back]⟩
      cases members with
      | nil => rfl
      | cons member rest =>
          obtain ⟨key, value⟩ := member
          simp only [ofJsonMembers, textMembers, jsonTextMembers, List.cons.injEq] at texts
          simpa [ofJson, ofJsonMembers, Value.text, Json.text] using texts

theorem ofJsonItems_spec : ∀ items : List (Json Empty),
    textItems (ofJsonItems items) = jsonTextItems items ∧ PlainItems (ofJsonItems items) ∧
      toJsonItems (ofJsonItems items) = items
  | [] => ⟨rfl, trivial, rfl⟩
  | item :: rest => by
      obtain ⟨text, plain, back⟩ := ofJson_spec item
      obtain ⟨texts, plains, backs⟩ := ofJsonItems_spec rest
      exact ⟨by rw [ofJsonItems, textItems, jsonTextItems, text, texts], ⟨plain, plains⟩,
        by rw [ofJsonItems, toJsonItems, back, backs]⟩

theorem ofJsonMembers_spec : ∀ members : List (String × Json Empty),
    textMembers (ofJsonMembers members) = jsonTextMembers members ∧
      PlainMembers (ofJsonMembers members) ∧ toJsonMembers (ofJsonMembers members) = members
  | [] => ⟨rfl, trivial, rfl⟩
  | (key, value) :: rest => by
      obtain ⟨text, plain, back⟩ := ofJson_spec value
      obtain ⟨texts, plains, backs⟩ := ofJsonMembers_spec rest
      exact ⟨by rw [ofJsonMembers, textMembers, jsonTextMembers, text, texts], ⟨plain, plains⟩,
        by rw [ofJsonMembers, toJsonMembers, back, backs]⟩

end

/-- A reader of texts without white space. -/
def readCompact (bytes : Bytes) : Option (Json Empty) :=
  (utf8Decode bytes).bind fun chars => (readText chars).map toJson

theorem readCompact_text (value : Json Empty) :
    readCompact (utf8Encode value.text) = some value := by
  obtain ⟨text, plain, back⟩ := ofJson_spec value
  rw [readCompact, utf8Decode_utf8Encode, Option.bind_some, ← text, readText_text _ plain,
    Option.map_some, back]

theorem readCompact_readsBack : ReadsBack readCompact :=
  fun value _ _ => readCompact_text value.sorted

end EgoAgent.Api
