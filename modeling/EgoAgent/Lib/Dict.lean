import Mathlib

/-!
Insertion-ordered dictionaries as association lists.

`Dict.set` overwrites in place or appends, so the keys stay distinct and keep
their first insertion order.
-/

namespace EgoAgent

abbrev Dict (κ α : Type) := List (κ × α)

namespace Dict

variable {κ α β : Type} [DecidableEq κ]

def get? : Dict κ α → κ → Option α
  | [], _ => none
  | (key, value) :: rest, wanted => if key = wanted then some value else get? rest wanted

def set : Dict κ α → κ → α → Dict κ α
  | [], wanted, value => [(wanted, value)]
  | (key, old) :: rest, wanted, value =>
      if key = wanted then (key, value) :: rest else (key, old) :: set rest wanted value

def keys (dict : Dict κ α) : List κ := dict.map Prod.fst

def mapValues (f : α → β) (dict : Dict κ α) : Dict κ β :=
  dict.map fun entry => (entry.1, f entry.2)

@[simp] theorem get?_nil (wanted : κ) : get? ([] : Dict κ α) wanted = none := rfl

section

variable (dict : Dict κ α)

theorem get?_set_self (wanted : κ) (value : α) :
    (dict.set wanted value).get? wanted = some value := by
  induction dict with
  | nil => simp [set, get?]
  | cons entry rest ih =>
      obtain ⟨key, old⟩ := entry
      by_cases same : key = wanted
      · simp [set, get?, same]
      · simp [set, get?, same, ih]

theorem get?_set_ne {wanted other : κ} (value : α) (different : other ≠ wanted) :
    (dict.set wanted value).get? other = dict.get? other := by
  induction dict with
  | nil => simp [set, get?, different.symm]
  | cons entry rest ih =>
      obtain ⟨key, old⟩ := entry
      by_cases same : key = wanted
      · subst key; simp [set, get?, different.symm]
      · simp only [set, if_neg same, get?, ih]

/-- The later of two writes to a key wins. -/
theorem set_set (wanted : κ) (first second : α) :
    (dict.set wanted first).set wanted second = dict.set wanted second := by
  induction dict with
  | nil => simp [set]
  | cons entry rest ih =>
      obtain ⟨key, old⟩ := entry
      by_cases same : key = wanted
      · simp [set, same]
      · simp [set, same, ih]

theorem get?_set (wanted other : κ) (value : α) :
    (dict.set wanted value).get? other =
      if other = wanted then some value else dict.get? other := by
  by_cases same : other = wanted
  · subst other; rw [if_pos rfl, get?_set_self]
  · rw [if_neg same, get?_set_ne dict value same]

theorem get?_mapValues (f : α → β) (dict : Dict κ α) (wanted : κ) :
    (dict.mapValues f).get? wanted = (dict.get? wanted).map f := by
  induction dict with
  | nil => rfl
  | cons entry rest ih =>
      obtain ⟨key, value⟩ := entry
      by_cases same : key = wanted
      · simp [mapValues, get?, same]
      · have tail := ih
        simp only [mapValues] at tail
        simp [mapValues, get?, same, tail]

theorem mem_keys_iff (wanted : κ) :
    wanted ∈ dict.keys ↔ ∃ value, dict.get? wanted = some value := by
  induction dict with
  | nil => simp [keys]
  | cons entry rest ih =>
      obtain ⟨key, value⟩ := entry
      by_cases same : key = wanted
      · simp [keys, get?, same]
      · have tail := ih
        simp only [keys] at tail
        simp [keys, get?, same, Ne.symm same, tail]

theorem get?_eq_none_iff (wanted : κ) :
    dict.get? wanted = none ↔ wanted ∉ dict.keys := by
  rw [mem_keys_iff, not_exists]
  cases dict.get? wanted with
  | none => simp
  | some value => simp

theorem keys_set_of_mem {wanted : κ} (value : α)
    (present : wanted ∈ dict.keys) : (dict.set wanted value).keys = dict.keys := by
  induction dict with
  | nil => simp [keys] at present
  | cons entry rest ih =>
      obtain ⟨key, old⟩ := entry
      by_cases same : key = wanted
      · simp [keys, set, same]
      · have later : wanted ∈ keys rest := by
          simpa [keys, Ne.symm same] using present
        have tail := ih later
        simp only [keys] at tail
        simp [keys, set, same, tail]

theorem keys_set_of_not_mem {wanted : κ} (value : α)
    (absent : wanted ∉ dict.keys) : (dict.set wanted value).keys = dict.keys ++ [wanted] := by
  induction dict with
  | nil => rfl
  | cons entry rest ih =>
      obtain ⟨key, old⟩ := entry
      have different : key ≠ wanted := by
        rintro rfl; exact absent List.mem_cons_self
      have later : wanted ∉ keys rest := fun present => absent (List.mem_cons_of_mem _ present)
      have tail := ih later
      simp only [keys] at tail
      simp [keys, set, different, tail]

theorem keys_set_nodup (wanted : κ) (value : α) (distinct : dict.keys.Nodup) :
    (dict.set wanted value).keys.Nodup := by
  by_cases present : wanted ∈ dict.keys
  · rwa [keys_set_of_mem dict value present]
  · rw [keys_set_of_not_mem dict value present, List.nodup_append]
    refine ⟨distinct, List.nodup_singleton wanted, ?_⟩
    intro key inDict other isWanted same
    rw [List.mem_singleton] at isWanted
    rw [same, isWanted] at inDict
    exact present inDict

variable {key : κ}

/-- With distinct keys, looking a member's key up finds that member. -/
theorem get?_of_mem (distinct : dict.keys.Nodup) {value : α}
    (present : (key, value) ∈ dict) : dict.get? key = some value := by
  induction dict with
  | nil => cases present
  | cons entry rest ih =>
      obtain ⟨first, old⟩ := entry
      simp only [keys, List.map_cons, List.nodup_cons] at distinct
      rcases List.mem_cons.mp present with same | later
      · cases same; simp [get?]
      · have different : first ≠ key := by
          rintro rfl
          exact distinct.1 (List.mem_map_of_mem (f := Prod.fst) later)
        simp only [get?, if_neg different]
        exact ih distinct.2 later

theorem mem_of_get? {value : α} (found : dict.get? key = some value) : (key, value) ∈ dict := by
  induction dict with
  | nil => cases found
  | cons entry rest ih =>
      obtain ⟨first, old⟩ := entry
      simp only [get?] at found
      split at found
      · rename_i same
        cases found; subst same; exact List.mem_cons_self
      · exact List.mem_cons_of_mem _ (ih found)

/-- Lookups do not depend on the order of distinct keys. -/
theorem get?_perm {left right : Dict κ α} (perm : left.Perm right) (distinct : left.keys.Nodup)
    (wanted : κ) : left.get? wanted = right.get? wanted := by
  have rightDistinct : right.keys.Nodup := (perm.map Prod.fst).nodup_iff.mp distinct
  cases found : left.get? wanted with
  | some value =>
      exact (get?_of_mem right rightDistinct (perm.mem_iff.mp (mem_of_get? left found))).symm
  | none =>
      rw [get?_eq_none_iff] at found
      symm
      rw [get?_eq_none_iff]
      intro present
      exact found ((perm.map Prod.fst).mem_iff.mpr present)

/-- Dictionaries that agree everywhere have the same members. -/
theorem perm_of_get? {left right : Dict κ α} (leftDistinct : left.keys.Nodup)
    (rightDistinct : right.keys.Nodup) (agree : ∀ key, left.get? key = right.get? key) :
    left.Perm right := by
  rw [List.perm_ext_iff_of_nodup (List.Nodup.of_map _ leftDistinct)
    (List.Nodup.of_map _ rightDistinct)]
  rintro ⟨key, value⟩
  constructor
  · intro present
    have found := get?_of_mem left leftDistinct present
    rw [agree] at found
    exact mem_of_get? right found
  · intro present
    have found := get?_of_mem right rightDistinct present
    rw [← agree] at found
    exact mem_of_get? left found

/-- A dictionary with the keys of these fields, and with their values, has these members. -/
theorem perm_of_fields {dict fields : Dict κ α} (distinct : dict.keys.Nodup)
    (fieldsDistinct : fields.keys.Nodup) (known : ∀ entry ∈ dict, entry.1 ∈ fields.keys)
    (agree : ∀ field ∈ fields, dict.get? field.1 = some field.2) : dict.Perm fields := by
  refine (List.perm_ext_iff_of_nodup (List.Nodup.of_map _ distinct)
    (List.Nodup.of_map _ fieldsDistinct)).mpr fun entry => ⟨fun present => ?_, fun present => ?_⟩
  · obtain ⟨field, isField, sameKey⟩ := List.mem_map.mp (known entry present)
    have found := agree field isField
    have held : dict.get? entry.1 = some entry.2 := get?_of_mem dict distinct present
    rw [sameKey, held] at found
    have equal : entry = field := Prod.ext sameKey.symm (Option.some.inj found)
    exact equal ▸ isField
  · exact mem_of_get? dict (agree entry present)

/-! ### Entries set and removed -/

theorem set_of_absent {dict : Dict κ α} (value : α) (absent : dict.get? key = none) :
    dict.set key value = dict ++ [(key, value)] := by
  induction dict with
  | nil => rfl
  | cons entry rest ih =>
      obtain ⟨other, old⟩ := entry
      by_cases same : other = key
      · rw [get?, if_pos same] at absent
        cases absent
      · rw [get?, if_neg same] at absent
        rw [set, if_neg same, ih absent, List.cons_append]

theorem length_set_le (key : κ) (value : α) :
    (dict.set key value).length ≤ dict.length + 1 := by
  induction dict with
  | nil => exact Nat.le_refl _
  | cons entry rest ih =>
      obtain ⟨other, old⟩ := entry
      rw [set]
      split
      · simp
      · simpa using ih

/-- What does not change of the replaced value does not change at all. -/
theorem map_set_of_same {dict : Dict κ α} (f : α → β) {value old : α}
    (found : dict.get? key = some old) (same : f value = f old) :
    (dict.set key value).map (fun entry => f entry.2) = dict.map fun entry => f entry.2 := by
  induction dict with
  | nil => cases found
  | cons entry rest ih =>
      obtain ⟨other, first⟩ := entry
      by_cases here : other = key
      · rw [get?, if_pos here] at found
        cases found
        rw [set, if_pos here, List.map_cons, List.map_cons, same]
      · rw [get?, if_neg here] at found
        rw [set, if_neg here, List.map_cons, List.map_cons, ih found]

theorem get?_removed (removed wanted : κ) :
    Dict.get? (dict.filter fun entry => entry.1 ≠ removed) wanted =
      if wanted = removed then none else dict.get? wanted := by
  induction dict with
  | nil => simp
  | cons entry rest ih =>
      obtain ⟨key, value⟩ := entry
      by_cases gone : key = removed
      · rw [List.filter_cons_of_neg (by simpa using gone), ih]
        by_cases same : wanted = removed
        · rw [if_pos same, if_pos same]
        · rw [if_neg same, if_neg same, get?,
            if_neg fun isKey => same (isKey.symm.trans gone)]
      · rw [List.filter_cons_of_pos (by simpa using gone), get?, ih, get?]
        by_cases isKey : key = wanted
        · rw [if_pos isKey, if_pos isKey, if_neg fun same => gone (isKey.trans same)]
        · rw [if_neg isKey, if_neg isKey]

end

/-! ### Related dictionaries -/

section Related

variable {relation : α → β → Prop} {left : Dict κ α} {right : Dict κ β}
  (related : List.Forall₂ (fun (entry : κ × α) (other : κ × β) =>
    other.1 = entry.1 ∧ relation entry.2 other.2) left right)

include related

theorem get?_related (wanted : κ) :
    (left.get? wanted = none ∧ right.get? wanted = none) ∨
      ∃ a b, left.get? wanted = some a ∧ right.get? wanted = some b ∧ relation a b := by
  induction related with
  | nil => exact .inl ⟨rfl, rfl⟩
  | @cons entry other rest others first _ ih =>
      obtain ⟨key, value⟩ := entry
      obtain ⟨otherKey, otherValue⟩ := other
      obtain ⟨rfl, holds⟩ := first
      by_cases same : otherKey = wanted
      · exact .inr ⟨value, otherValue, by simp [get?, same], by simp [get?, same], holds⟩
      · simpa [get?, same] using ih

theorem set_related (wanted : κ) {a : α} {b : β} (holds : relation a b) :
    List.Forall₂ (fun (entry : κ × α) (other : κ × β) =>
      other.1 = entry.1 ∧ relation entry.2 other.2) (left.set wanted a) (right.set wanted b) := by
  induction related with
  | nil => exact .cons ⟨rfl, holds⟩ .nil
  | @cons entry other rest others first rest' ih =>
      obtain ⟨key, value⟩ := entry
      obtain ⟨otherKey, otherValue⟩ := other
      obtain ⟨rfl, old⟩ := first
      by_cases same : otherKey = wanted
      · simp only [set, if_pos same]
        exact .cons ⟨rfl, holds⟩ rest'
      · simp only [set, if_neg same]
        exact .cons ⟨rfl, old⟩ ih

end Related

end Dict

end EgoAgent
