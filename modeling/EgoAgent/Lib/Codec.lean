import EgoAgent.Lib.JsonText
import EgoAgent.Lib.Dict
import EgoAgent.Lib.Related

/-!
Codecs between typed values and canonical JSON values.

A codec dumps a typed value, loads a value a reader produced, and says what a
typed value becomes when it is dumped, canonicalised and loaded again (`norm`),
which is `none` when the loader refuses it.  A re-read value has the canonical
form of the original, so it has the same digest.

Records are built field by field.  Loading a record refuses unknown names and
fills an absent name with the field's default, when it has one.
-/

namespace EgoAgent

structure Codec (u : Unicode) (α : Type) where
  dump : α → Value
  load : Value → Option α
  norm : α → Option α
  load_canon : ∀ item, ((dump item).canon u).bind load = norm item
  dump_norm : ∀ item normal, norm item = some normal →
    (dump normal).canon u = (dump item).canon u

namespace Codec

variable {u : Unicode} {α β : Type}

/-- Reads the canonical bytes of a value back into the type. -/
def parse (codec : Codec u α) (value : Value) : Option α :=
  ((canonicalBytes u value).bind readBytes).bind codec.load

theorem parse_eq_load_canon (codec : Codec u α) (value : Value) :
    codec.parse value = (value.canon u).bind codec.load := by
  rw [parse, readBytes_canonicalBytes]

theorem parse_dump (codec : Codec u α) (item : α) :
    codec.parse (codec.dump item) = codec.norm item := by
  rw [parse_eq_load_canon, codec.load_canon]

theorem parse_congr (codec : Codec u α) {left right : Value}
    (same : left.canon u = right.canon u) : codec.parse left = codec.parse right := by
  rw [parse_eq_load_canon, parse_eq_load_canon, same]

/-- A canonical form parses as the value it came from. -/
theorem parse_canon (codec : Codec u α) {value normal : Value}
    (computed : value.canon u = some normal) : codec.parse normal = codec.parse value :=
  codec.parse_congr ((Value.canon_isCanon u value normal computed).trans computed.symm)

/-- Re-reading never refuses what can be encoded. -/
def Total (codec : Codec u α) : Prop :=
  ∀ item value, (codec.dump item).canon u = some value → ∃ normal, codec.norm item = some normal

/-! ### Leaves -/

def text : Codec u String where
  dump := .str
  load
    | .str content => some content
    | _ => none
  norm content := some (u.nfc content)
  load_canon _ := rfl
  dump_norm := by
    rintro content _ ⟨⟩
    simp [Value.canon, u.nfc_idem]

def boolean : Codec u Bool where
  dump := .bool
  load
    | .bool flag => some flag
    | _ => none
  norm flag := some flag
  load_canon _ := rfl
  dump_norm := by rintro flag _ ⟨⟩; rfl

def integer : Codec u Int where
  dump := .int
  load
    | .int number => some number
    | _ => none
  norm number := if inInt64 number then some number else none
  load_canon number := by
    by_cases within : inInt64 number <;> simp [Value.canon, within]
  dump_norm := by
    intro number normal computed
    by_cases within : inInt64 number
    · rw [if_pos within] at computed
      cases computed; rfl
    · rw [if_neg within] at computed
      cases computed

/-- Values written as a text that normalisation leaves alone. -/
def rendered (render : α → String) (read : String → Option α)
    (fixed : ∀ item, u.nfc (render item) = render item)
    (inverse : ∀ item, read (render item) = some item) : Codec u α where
  dump item := .str (render item)
  load
    | .str content => read content
    | _ => none
  norm item := some item
  load_canon item := by simp [Value.canon, fixed, inverse]
  dump_norm := by rintro item _ ⟨⟩; rfl

/-! ### Refinement and change of representation -/

def permit (legal : α → Prop) [DecidablePred legal] (item : α) : Option {item // legal item} :=
  if holds : legal item then some ⟨item, holds⟩ else none

theorem permit_eq_some (legal : α → Prop) [DecidablePred legal] (item : α)
    (subject : {item // legal item}) :
    permit legal item = some subject ↔ item = subject.val := by
  unfold permit
  constructor
  · intro computed
    split at computed
    · cases computed; rfl
    · cases computed
  · rintro rfl
    rw [dif_pos subject.property]

/-- Loading checks the loaded value, so a re-read value can be refused even
when the original was legal. -/
def refine (codec : Codec u α) (legal : α → Prop) [DecidablePred legal] :
    Codec u {item // legal item} where
  dump item := codec.dump item.val
  load value := (codec.load value).bind (permit legal)
  norm item := (codec.norm item.val).bind (permit legal)
  load_canon item := by
    rw [← codec.load_canon, Option.bind_assoc]
  dump_norm := by
    intro item normal computed
    rw [Option.bind_eq_some_iff] at computed
    obtain ⟨middle, middleEq, admitted⟩ := computed
    rw [permit_eq_some] at admitted
    subst admitted
    exact codec.dump_norm item.val normal.val middleEq

def iso (codec : Codec u α) (pack : α → β) (unpack : β → α)
    (inverse : ∀ item, unpack (pack item) = item) : Codec u β where
  dump item := codec.dump (unpack item)
  load value := (codec.load value).map pack
  norm item := (codec.norm (unpack item)).map pack
  load_canon item := by
    rw [← codec.load_canon, Option.map_bind]
    rfl
  dump_norm := by
    intro item normal computed
    rw [Option.map_eq_some_iff] at computed
    obtain ⟨middle, middleEq, rfl⟩ := computed
    rw [inverse]
    exact codec.dump_norm (unpack item) middle middleEq

/-- What a re-read value is under the representation a codec was built from. -/
theorem iso_norm (codec : Codec u α) (pack : α → β) (unpack : β → α)
    (inverse : ∀ item, unpack (pack item) = item) (item normal : β)
    (computed : (codec.iso pack unpack inverse).norm item = some normal) :
    codec.norm (unpack item) = some (unpack normal) := by
  simp only [iso, Option.map_eq_some_iff] at computed
  obtain ⟨middle, middleEq, rfl⟩ := computed
  rw [inverse]
  exact middleEq

theorem iso_norm_of (codec : Codec u α) (pack : α → β) (unpack : β → α)
    (inverse : ∀ item, unpack (pack item) = item) {item normal : β}
    (packed : pack (unpack normal) = normal)
    (computed : codec.norm (unpack item) = some (unpack normal)) :
    (codec.iso pack unpack inverse).norm item = some normal := by
  simp only [iso, computed, Option.map_some, packed]

theorem refine_norm (codec : Codec u α) (legal : α → Prop) [DecidablePred legal]
    (item normal : {item // legal item}) :
    (codec.refine legal).norm item = some normal ↔ codec.norm item.val = some normal.val := by
  simp only [refine, Option.bind_eq_some_iff, permit_eq_some]
  constructor
  · rintro ⟨_, computed, rfl⟩
    exact computed
  · intro computed
    exact ⟨_, computed, rfl⟩

/-! ### Optional values -/

def optional (codec : Codec u α) (present : ∀ item, (codec.dump item).canon u ≠ some .null) :
    Codec u (Option α) where
  dump
    | none => .null
    | some item => codec.dump item
  load
    | .null => some none
    | value => (codec.load value).map some
  norm
    | none => some none
    | some item => (codec.norm item).map some
  load_canon item := by
    cases item with
    | none => rfl
    | some item =>
        simp only
        rw [← codec.load_canon, Option.map_bind]
        cases computed : (codec.dump item).canon u with
        | none => rfl
        | some normal =>
            have notNull : normal ≠ .null := by
              rintro rfl; exact present item computed
            simp only [Option.bind_some, Function.comp]
  dump_norm := by
    intro item normal computed
    cases item with
    | none => cases computed; rfl
    | some item =>
        simp only [Option.map_eq_some_iff] at computed
        obtain ⟨inner, innerEq, rfl⟩ := computed
        exact codec.dump_norm item inner innerEq

/-! ### Arrays -/

def traverse (f : α → Option β) : List α → Option (List β)
  | [] => some []
  | item :: rest => (f item).bind fun head => (traverse f rest).map fun tail => head :: tail

theorem traverse_eq_some_iff (f : α → Option β) (items : List α) :
    ∀ results, traverse f items = some results ↔
      List.Forall₂ (fun item result => f item = some result) items results := by
  induction items with
  | nil => intro results; simp [traverse, eq_comm]
  | cons item rest ih =>
      intro results
      constructor
      · intro computed
        simp only [traverse, Option.bind_eq_some_iff, Option.map_eq_some_iff] at computed
        obtain ⟨head, headEq, tail, tailEq, rfl⟩ := computed
        exact .cons headEq ((ih tail).mp tailEq)
      · rintro ⟨⟩
        rename_i head tail headEq related
        simp [traverse, headEq, (ih tail).mpr related]

theorem traverse_of_fixed (f : α → Option α) (items : List α)
    (fixed : ∀ item ∈ items, f item = some item) : traverse f items = some items := by
  rw [traverse_eq_some_iff, List.forall₂_same]
  exact fixed

private theorem traverse_load_canon (codec : Codec u α) (items : List α) :
    (canonItems u (items.map codec.dump)).bind (traverse codec.load) =
      traverse codec.norm items := by
  induction items with
  | nil => rfl
  | cons item rest ih =>
      simp only [List.map_cons, canonItems, traverse]
      rw [← ih, ← codec.load_canon]
      cases (codec.dump item).canon u with
      | none => rfl
      | some head =>
          cases canonItems u (rest.map codec.dump) with
          | none =>
              simp only [Option.bind_some, Option.map_none, Option.bind_none]
              cases codec.load head <;> rfl
          | some tail => rfl

private theorem canonItems_dump_norm (codec : Codec u α) {items normal : List α}
    (related : List.Forall₂ (fun item result => codec.norm item = some result) items normal) :
    canonItems u (normal.map codec.dump) = canonItems u (items.map codec.dump) := by
  induction related with
  | nil => rfl
  | cons headEq _ ih =>
      simp only [List.map_cons, canonItems]
      rw [ih, codec.dump_norm _ _ headEq]

def array (codec : Codec u α) : Codec u (List α) where
  dump items := .list (items.map codec.dump)
  load
    | .list values => traverse codec.load values
    | _ => none
  norm items := traverse codec.norm items
  load_canon items := by
    rw [← traverse_load_canon]
    simp only [Value.canon]
    cases canonItems u (items.map codec.dump) <;> rfl
  dump_norm := by
    intro items normal computed
    simp only [Value.canon]
    rw [canonItems_dump_norm codec ((traverse_eq_some_iff _ _ _).mp computed)]

theorem traverse_returns (f : α → Option β) (items : List α)
    (returns : ∀ item ∈ items, ∃ result, f item = some result) :
    ∃ results, traverse f items = some results := by
  induction items with
  | nil => exact ⟨[], rfl⟩
  | cons item rest ih =>
      obtain ⟨head, headEq⟩ := returns item List.mem_cons_self
      obtain ⟨tail, tailEq⟩ := ih fun other present => returns other (List.mem_cons_of_mem _ present)
      exact ⟨head :: tail, by simp [traverse, headEq, tailEq]⟩

end Codec

/-- Every member of a value with a canonical form has one. -/
theorem Value.canon_member {u : Unicode} {members : Members Value} {normal : Value}
    (computed : (Value.dict members).canon u = some normal) {member : String × Value}
    (present : member ∈ members) : ∃ value, member.2.canon u = some value := by
  simp only [Value.canon, Option.bind_eq_some_iff] at computed
  obtain ⟨canonical, canonicalEq, _⟩ := computed
  obtain ⟨target, _, _, targetEq⟩ :=
    Related.partner_of_left ((canonMembers_eq_some_iff u members canonical).mp canonicalEq) member present
  exact ⟨target.2, targetEq⟩

/-- A member under a normalised name is found, normalised, in the canonical form. -/
theorem Value.canon_get? {u : Unicode} {members canonical : Members Value}
    (computed : (Value.dict members).canon u = some (.dict canonical)) (name : String)
    (value : Value) (present : (name, value) ∈ members) (plain : u.nfc name = name) :
    ∃ normal, value.canon u = some normal ∧ Dict.get? canonical name = some normal := by
  simp only [Value.canon, Option.bind_eq_some_iff] at computed
  obtain ⟨unsorted, unsortedEq, checked⟩ := computed
  split at checked
  · rename_i distinct
    cases checked
    obtain ⟨target, inUnsorted, keyEq, valueEq⟩ := Related.partner_of_left
      ((canonMembers_eq_some_iff u members unsorted).mp unsortedEq) _ present
    have here : (name, target.2) ∈ unsorted := by
      rw [← plain, ← keyEq]
      exact inUnsorted
    have found := Dict.get?_of_mem unsorted distinct here
    exact ⟨target.2, valueEq, (Dict.get?_perm (sortMembers_perm unsorted).symm distinct name) ▸
      found⟩
  · cases checked

/-! ### Plain objects -/

/-- A mapping of arbitrary values that has a canonical form. -/
structure JsonObject (u : Unicode) where
  members : Members Value
  valid : ((Value.dict members).canon u).isSome = true

def JsonObject.value {u : Unicode} (object : JsonObject u) : Value := .dict object.members

def JsonObject.ofValue (u : Unicode) : Value → Option (JsonObject u)
  | .dict members =>
      if valid : ((Value.dict members).canon u).isSome = true then some ⟨members, valid⟩ else none
  | _ => none

theorem JsonObject.ofValue_eq_some (u : Unicode) (value : Value) (object : JsonObject u) :
    JsonObject.ofValue u value = some object ↔ value = object.value := by
  constructor
  · intro computed
    cases value with
    | dict members =>
        simp only [JsonObject.ofValue] at computed
        split at computed
        · cases computed; rfl
        · cases computed
    | _ => cases computed
  · rintro rfl
    simp only [JsonObject.value, JsonObject.ofValue]
    rw [dif_pos object.valid]

def JsonObject.codec {u : Unicode} : Codec u (JsonObject u) where
  dump := JsonObject.value
  load := JsonObject.ofValue u
  norm object := (object.value.canon u).bind (JsonObject.ofValue u)
  load_canon _ := rfl
  dump_norm := by
    intro object normal computed
    rw [Option.bind_eq_some_iff] at computed
    obtain ⟨canonical, canonicalEq, loaded⟩ := computed
    rw [JsonObject.ofValue_eq_some] at loaded
    subst loaded
    rw [canonicalEq]
    exact Value.canon_isCanon u object.value normal.value canonicalEq

theorem JsonObject.norm_isSome {u : Unicode} (object : JsonObject u) :
    ∃ normal, JsonObject.codec.norm object = some normal ∧
      object.value.canon u = some normal.value := by
  obtain ⟨canonical, canonicalEq⟩ := Option.isSome_iff_exists.mp object.valid
  have isDict : ∃ members, canonical = .dict members := by
    simp only [Value.canon, Option.bind_eq_some_iff] at canonicalEq
    obtain ⟨normal, _, checked⟩ := canonicalEq
    split at checked
    · cases checked; exact ⟨_, rfl⟩
    · cases checked
  obtain ⟨members, rfl⟩ := isDict
  have fixed : (Value.dict members).canon u = some (.dict members) :=
    Value.canon_isCanon u _ _ canonicalEq
  refine ⟨⟨members, by rw [fixed]; rfl⟩, ?_, canonicalEq⟩
  simp only [JsonObject.codec, JsonObject.value, canonicalEq, Option.bind_some]
  rw [JsonObject.ofValue_eq_some]; rfl

/-! ### Mappings with one type of value -/

/-- A mapping: its keys are distinct and keep their insertion order. -/
structure Mapping (α : Type) where
  members : Members α
  distinct : members.keys.Nodup

namespace Mapping

variable {u : Unicode} {α β : Type}

def ofMembers (members : Members α) : Option (Mapping α) :=
  if distinct : members.keys.Nodup then some ⟨members, distinct⟩ else none

theorem ofMembers_eq_some (members : Members α) (mapping : Mapping α) :
    ofMembers members = some mapping ↔ members = mapping.members := by
  unfold ofMembers
  constructor
  · intro computed
    split at computed
    · cases computed; rfl
    · cases computed
  · rintro rfl
    rw [dif_pos mapping.distinct]

/-- Values under unchanged keys. -/
private def KeepsKeys (f : String × α → Option (String × β)) (members : Members α) : Prop :=
  ∀ entry ∈ members, ∀ result, f entry = some result → result.1 = entry.1

private theorem traverse_orderedInsert (f : String × α → Option (String × β))
    (entry : String × α) (members : Members α) (keeps : KeepsKeys f (entry :: members)) :
    Codec.traverse f (members.orderedInsert keyLe entry) =
      (f entry).bind fun head =>
        (Codec.traverse f members).map fun tail => List.orderedInsert keyLe head tail := by
  induction members with
  | nil => cases headEq : f entry <;> simp [Codec.traverse, headEq]
  | cons first rest ih =>
      have tailKeeps : KeepsKeys f (entry :: rest) := by
        intro other present
        apply keeps
        rcases List.mem_cons.mp present with rfl | later
        · exact List.mem_cons_self
        · exact List.mem_cons_of_mem _ (List.mem_cons_of_mem _ later)
      have entryKey := keeps entry List.mem_cons_self
      have firstKey := keeps first (List.mem_cons_of_mem _ List.mem_cons_self)
      have tail := ih tailKeeps
      by_cases before : keyLe entry first
      · rw [List.orderedInsert_cons_of_le _ _ before]
        simp only [Codec.traverse]
        cases headEq : f entry with
        | none => rfl
        | some head =>
            cases secondEq : f first with
            | none => rfl
            | some second =>
                have ordered : keyLe head second := by
                  unfold keyLe
                  rw [entryKey head headEq, firstKey second secondEq]
                  exact before
                cases Codec.traverse f rest with
                | none => rfl
                | some others =>
                    simp [ordered]
      · rw [List.orderedInsert_of_not_le _ _ before]
        simp only [Codec.traverse, tail]
        cases headEq : f entry with
        | none => cases f first <;> rfl
        | some head =>
            cases secondEq : f first with
            | none => rfl
            | some second =>
                have ordered : ¬ keyLe head second := by
                  unfold keyLe
                  rw [entryKey head headEq, firstKey second secondEq]
                  exact before
                cases Codec.traverse f rest with
                | none => rfl
                | some others =>
                    simp [ordered]

/-- Sorting by key commutes with work that keeps the keys. -/
private theorem traverse_sortMembers (f : String × α → Option (String × β))
    (members : Members α) (keeps : KeepsKeys f members) :
    Codec.traverse f (sortMembers members) = (Codec.traverse f members).map sortMembers := by
  induction members with
  | nil => rfl
  | cons entry rest ih =>
      have restKeeps : KeepsKeys f rest :=
        fun other present => keeps other (List.mem_cons_of_mem _ present)
      have sortedKeeps : KeepsKeys f (entry :: sortMembers rest) := by
        intro other present
        apply keeps
        rcases List.mem_cons.mp present with rfl | later
        · exact List.mem_cons_self
        · exact List.mem_cons_of_mem _ ((sortMembers_perm rest).mem_iff.mp later)
      have inserted := traverse_orderedInsert f entry (sortMembers rest) sortedKeeps
      unfold sortMembers at ih inserted ⊢
      rw [List.insertionSort_cons, inserted, ih restKeeps]
      simp only [Codec.traverse]
      cases f entry with
      | none => rfl
      | some head => cases Codec.traverse f rest <;> rfl

private theorem keys_of_traverse (f : String × α → Option (String × β))
    (members : Members α) (keeps : KeepsKeys f members) (results : Members β)
    (computed : Codec.traverse f members = some results) : results.keys = members.keys := by
  induction members generalizing results with
  | nil => cases computed; rfl
  | cons entry rest ih =>
      simp only [Codec.traverse, Option.bind_eq_some_iff, Option.map_eq_some_iff] at computed
      obtain ⟨head, headEq, tail, tailEq, rfl⟩ := computed
      have later := ih (fun other present => keeps other (List.mem_cons_of_mem _ present))
        tail tailEq
      have first := keeps entry List.mem_cons_self head headEq
      simp only [Members.keys] at later
      simp [Members.keys, first, later]

private def loadEntry (codec : Codec u α) (entry : String × Value) : Option (String × α) :=
  (codec.load entry.2).map fun item => (entry.1, item)

private def normEntry (codec : Codec u α) (entry : String × α) : Option (String × α) :=
  (codec.norm entry.2).map fun item => (u.nfc entry.1, item)

private def canonEntry (u : Unicode) (entry : String × Value) : Option (String × Value) :=
  (entry.2.canon u).map fun item => (u.nfc entry.1, item)

private theorem canonMembers_eq_traverse (u : Unicode) (members : Members Value) :
    canonMembers u members = Codec.traverse (canonEntry u) members := by
  induction members with
  | nil => rfl
  | cons entry rest ih =>
      simp only [canonMembers, Codec.traverse, canonEntry, ih]
      cases entry.2.canon u <;> rfl

private theorem loadEntry_keeps (codec : Codec u α) (members : Members Value) :
    KeepsKeys (loadEntry codec) members := by
  intro entry _ result computed
  simp only [loadEntry, Option.map_eq_some_iff] at computed
  obtain ⟨_, _, rfl⟩ := computed
  rfl

def dump (codec : Codec u α) (members : Members α) : Members Value :=
  members.map fun entry => (entry.1, codec.dump entry.2)

private theorem traverse_loadEntry (codec : Codec u α) (members : Members α) :
    (canonMembers u (dump codec members)).bind (Codec.traverse (loadEntry codec)) =
      Codec.traverse (normEntry codec) members := by
  induction members with
  | nil => rfl
  | cons entry rest ih =>
      simp only [dump, List.map_cons, canonMembers, Codec.traverse, normEntry]
      rw [← ih, ← codec.load_canon]
      unfold dump
      cases (codec.dump entry.2).canon u with
      | none => rfl
      | some head =>
          cases canonMembers u (rest.map fun entry => (entry.1, codec.dump entry.2)) with
          | none =>
              simp only [Option.bind_some, Option.map_none, Option.bind_none]
              cases codec.load head <;> rfl
          | some tail =>
              simp only [Option.bind_some, Option.map_some, Codec.traverse, loadEntry]

private theorem canonMembers_dump_norm (codec : Codec u α) (members results : Members α)
    (computed : Codec.traverse (normEntry codec) members = some results) :
    canonMembers u (dump codec results) = canonMembers u (dump codec members) ∧
      ∀ entry ∈ results, u.nfc entry.1 = entry.1 := by
  induction members generalizing results with
  | nil =>
      cases computed
      exact ⟨rfl, by simp⟩
  | cons entry rest ih =>
      simp only [Codec.traverse, normEntry, Option.bind_eq_some_iff, Option.map_eq_some_iff]
        at computed
      obtain ⟨_, ⟨item, itemEq, rfl⟩, tail, tailEq, rfl⟩ := computed
      obtain ⟨laterEq, laterFixed⟩ := ih tail tailEq
      refine ⟨?_, ?_⟩
      · simp only [dump] at laterEq
        simp only [dump, List.map_cons, canonMembers, codec.dump_norm _ _ itemEq, laterEq,
          u.nfc_idem]
      · intro other present
        rcases List.mem_cons.mp present with rfl | later
        · exact u.nfc_idem _
        · exact laterFixed other later

private theorem dump_sortMembers (codec : Codec u α) (members : Members α) :
    dump codec (sortMembers members) = sortMembers (dump codec members) := by
  have keeps : KeepsKeys (fun entry : String × α => some (entry.1, codec.dump entry.2))
      members := by
    rintro entry _ result ⟨⟩
    rfl
  have asTraverse : ∀ source : Members α,
      Codec.traverse (fun entry : String × α => some (entry.1, codec.dump entry.2)) source =
        some (dump codec source) := by
    intro source
    induction source with
    | nil => rfl
    | cons entry rest ih => simp [Codec.traverse, ih, dump]
  have sorted := traverse_sortMembers _ members keeps
  rw [asTraverse, asTraverse] at sorted
  exact Option.some.inj sorted

private theorem canon_dump_sorted (codec : Codec u α) (members : Members α)
    (fixed : ∀ entry ∈ members, u.nfc entry.1 = entry.1) :
    (Value.dict (dump codec (sortMembers members))).canon u =
      (Value.dict (dump codec members)).canon u := by
  have keeps : KeepsKeys (canonEntry u) (dump codec members) := by
    intro entry present result computed
    simp only [canonEntry, Option.map_eq_some_iff] at computed
    obtain ⟨_, _, rfl⟩ := computed
    obtain ⟨source, sourcePresent, rfl⟩ := List.mem_map.mp present
    exact fixed source sourcePresent
  simp only [Value.canon, dump_sortMembers, canonMembers_eq_traverse]
  rw [traverse_sortMembers _ _ keeps]
  cases Codec.traverse (canonEntry u) (dump codec members) with
  | none => rfl
  | some normal =>
      simp only [Option.map_some, Option.bind_some, sortMembers_idem]
      by_cases distinct : (Members.keys normal).Nodup
      · rw [if_pos distinct, if_pos ((sortMembers_keys_nodup normal).mpr distinct)]
      · rw [if_neg distinct, if_neg (mt (sortMembers_keys_nodup normal).mp distinct)]

def codec (codec : Codec u α) : Codec u (Mapping α) where
  dump mapping := .dict (dump codec mapping.members)
  load
    | .dict source => (Codec.traverse (loadEntry codec) source).bind ofMembers
    | _ => none
  norm mapping :=
    (Codec.traverse (normEntry codec) mapping.members).bind fun normal =>
      ofMembers (sortMembers normal)
  load_canon mapping := by
    rw [← traverse_loadEntry]
    simp only [Value.canon]
    cases canonMembers u (dump codec mapping.members) with
    | none => rfl
    | some normal =>
        have loadKeys := keys_of_traverse (loadEntry codec) normal (loadEntry_keeps codec normal)
        simp only [Option.bind_some]
        by_cases distinct : (Members.keys normal).Nodup
        · rw [if_pos distinct, Option.bind_some]
          simp only
          rw [traverse_sortMembers _ _ (loadEntry_keeps codec normal)]
          cases Codec.traverse (loadEntry codec) normal <;> rfl
        · rw [if_neg distinct, Option.bind_none]
          cases loaded : Codec.traverse (loadEntry codec) normal with
          | none => rfl
          | some items =>
              have collide : ¬ (sortMembers items).keys.Nodup := by
                rw [sortMembers_keys_nodup, loadKeys items loaded]
                exact distinct
              simp only [Option.bind_some, ofMembers]
              rw [dif_neg collide]
  dump_norm := by
    intro mapping normal computed
    rw [Option.bind_eq_some_iff] at computed
    obtain ⟨items, itemsEq, packed⟩ := computed
    rw [ofMembers_eq_some] at packed
    obtain ⟨sameMembers, fixed⟩ := canonMembers_dump_norm codec mapping.members items itemsEq
    rw [← packed, canon_dump_sorted codec items fixed]
    simp only [Value.canon, sameMembers]

/-- A re-read mapping holds the re-read entries, in some order. -/
theorem norm_entries (codec : Codec u α) (mapping normal : Mapping α)
    (computed : (Mapping.codec codec).norm mapping = some normal) :
    ∃ entries, List.Forall₂ (fun source target =>
        target.1 = u.nfc source.1 ∧ codec.norm source.2 = some target.2) mapping.members entries ∧
      normal.members.Perm entries := by
  simp only [Mapping.codec, Option.bind_eq_some_iff, ofMembers_eq_some] at computed
  obtain ⟨entries, entriesEq, same⟩ := computed
  refine ⟨entries, ?_, same ▸ sortMembers_perm entries⟩
  refine ((Codec.traverse_eq_some_iff _ _ _).mp entriesEq).imp ?_
  intro source target related
  simp only [normEntry, Option.map_eq_some_iff] at related
  obtain ⟨item, itemEq, rfl⟩ := related
  exact ⟨rfl, itemEq⟩

theorem total {codec : Codec u α} (entryTotal : codec.Total) : (Mapping.codec codec).Total := by
  intro mapping value computed
  have encodes : ∀ entry ∈ mapping.members, ∃ result, normEntry codec entry = some result := by
    intro entry present
    obtain ⟨item, itemEq⟩ := Value.canon_member computed
      (List.mem_map_of_mem (f := fun entry : String × α => (entry.1, codec.dump entry.2)) present)
    obtain ⟨normal, normalEq⟩ := entryTotal entry.2 item itemEq
    exact ⟨(u.nfc entry.1, normal), by simp [normEntry, normalEq]⟩
  obtain ⟨entries, entriesEq⟩ := Codec.traverse_returns _ _ encodes
  have loaded := traverse_loadEntry codec mapping.members
  simp only [Mapping.codec, Value.canon, Option.bind_eq_some_iff] at computed
  obtain ⟨canonical, canonicalEq, checked⟩ := computed
  split at checked
  · rename_i distinct
    rw [canonicalEq, Option.bind_some, entriesEq] at loaded
    have keysEq := keys_of_traverse (loadEntry codec) canonical (loadEntry_keeps codec canonical)
      entries loaded
    have entriesDistinct : (sortMembers entries).keys.Nodup := by
      rw [sortMembers_keys_nodup, keysEq]
      exact distinct
    refine ⟨⟨sortMembers entries, entriesDistinct⟩, ?_⟩
    simp only [Mapping.codec, entriesEq, Option.bind_some]
    rw [ofMembers_eq_some]
  · cases checked

end Mapping

/-! ### Records -/

def isAscii (text : String) : Prop := ∀ c ∈ text.toList, c.toNat < 128

instance (text : String) : Decidable (isAscii text) :=
  decidable_of_iff (text.toList.all (fun c => c.toNat < 128) = true) (by simp [isAscii])

theorem isAscii_append {left right : String} (first : isAscii left) (second : isAscii right) :
    isAscii (left ++ right) := by
  intro c present
  rw [String.toList_append, List.mem_append] at present
  exact present.elim (first c) (second c)

theorem isAscii_intercalate {separator : String} (plain : isAscii separator)
    (texts : List String) (ascii : ∀ text ∈ texts, isAscii text) :
    isAscii (separator.intercalate texts) := by
  induction texts with
  | nil =>
      rw [String.intercalate_nil]
      decide
  | cons first rest ih =>
      have firstAscii := ascii first List.mem_cons_self
      have restAscii := ih fun text present => ascii text (List.mem_cons_of_mem _ present)
      cases rest with
      | nil => rwa [String.intercalate_singleton]
      | cons second later =>
          rw [String.intercalate_cons_cons]
          exact isAscii_append (isAscii_append firstAscii plain) restAscii

theorem Unicode.nfc_ascii (u : Unicode) {text : String} (ascii : isAscii text) :
    u.nfc text = text :=
  u.nfc_plain text fun c present => .inl (ascii c present)

/-- Field names a record may use: distinct, and plain ASCII. -/
def WellNamed (names : List String) : Prop := names.Nodup ∧ ∀ name ∈ names, isAscii name

instance (names : List String) : Decidable (WellNamed names) := by
  unfold WellNamed; infer_instance

theorem WellNamed.tail {name : String} {names : List String} (well : WellNamed (name :: names)) :
    WellNamed names :=
  ⟨(List.nodup_cons.mp well.1).2, fun other present => well.2 other (List.mem_cons_of_mem _ present)⟩

/-- The fields of an object type, under their names and in their order. -/
structure Record (u : Unicode) (names : List String) (α : Type) where
  members : α → Members Value
  load : Members Value → Option α
  norm : α → Option α
  keys_members : ∀ item, (members item).keys = names
  norm_none : ∀ item, canonMembers u (members item) = none → norm item = none
  load_members : WellNamed names → ∀ item normal source,
    canonMembers u (members item) = some normal →
    (∀ name ∈ names, Dict.get? source name = Dict.get? normal name) → load source = norm item
  members_norm : ∀ item normal, norm item = some normal →
    canonMembers u (members normal) = canonMembers u (members item)

namespace Record

variable {u : Unicode} {names : List String} {α β : Type}

def empty : Record u [] Unit where
  members _ := []
  load _ := some ()
  norm _ := some ()
  keys_members _ := rfl
  norm_none := by rintro ⟨⟩ ⟨⟩
  load_members := by intros; rfl
  members_norm := by intros; rfl

private theorem get?_agrees {name : String} {source tail : Members Value}
    {head : Value} (well : WellNamed (name :: names))
    (agrees : ∀ other ∈ name :: names,
      Dict.get? source other = Dict.get? ((u.nfc name, head) :: tail) other) :
    Dict.get? source name = some head ∧
      ∀ other ∈ names, Dict.get? source other = Dict.get? tail other := by
  rw [u.nfc_ascii (well.2 name List.mem_cons_self)] at agrees
  constructor
  · rw [agrees name List.mem_cons_self]
    simp [Dict.get?]
  · intro other present
    have different : name ≠ other := by
      rintro rfl; exact (List.nodup_cons.mp well.1).1 present
    rw [agrees other (List.mem_cons_of_mem _ present)]
    simp [Dict.get?, different]

/-- One more field in front, with the value an absent name stands for. -/
def field (name : String) (codec : Codec u α) (absent : Option α)
    (rest : Record u names β) : Record u (name :: names) (α × β) where
  members item := (name, codec.dump item.1) :: rest.members item.2
  load source :=
    ((Dict.get? source name).elim absent codec.load).bind fun head =>
      (rest.load source).map fun tail => (head, tail)
  norm item :=
    (codec.norm item.1).bind fun head => (rest.norm item.2).map fun tail => (head, tail)
  keys_members item := by
    have tail := rest.keys_members item.2
    simp only [Members.keys] at tail
    simp [Members.keys, tail]
  norm_none := by
    intro item failed
    rw [← codec.load_canon]
    simp only [canonMembers] at failed
    cases headEq : (codec.dump item.1).canon u with
    | none => rfl
    | some head =>
        simp only [headEq, Option.bind_some, Option.map_eq_none_iff] at failed
        simp only [Option.bind_some, rest.norm_none item.2 failed, Option.map_none]
        cases codec.load head <;> rfl
  load_members := by
    intro well item normal source computed agrees
    simp only [canonMembers, Option.bind_eq_some_iff, Option.map_eq_some_iff] at computed
    obtain ⟨head, headEq, tail, tailEq, rfl⟩ := computed
    obtain ⟨first, others⟩ := get?_agrees well agrees
    have later := rest.load_members well.tail item.2 tail source tailEq others
    rw [first, later, ← codec.load_canon, headEq]
    rfl
  members_norm := by
    intro item normal computed
    simp only [Option.bind_eq_some_iff, Option.map_eq_some_iff] at computed
    obtain ⟨head, headEq, tail, tailEq, rfl⟩ := computed
    simp only [canonMembers, codec.dump_norm _ _ headEq, rest.members_norm _ _ tailEq]

/-- A field whose value is fixed, and which may be left out. -/
def constant (name content : String) (plain : isAscii content) (rest : Record u names β) :
    Record u (name :: names) β where
  members item := (name, .str content) :: rest.members item
  load source :=
    match Dict.get? source name with
    | none => rest.load source
    | some (.str found) => if found = content then rest.load source else none
    | some _ => none
  norm := rest.norm
  keys_members item := by
    have tail := rest.keys_members item
    simp only [Members.keys] at tail
    simp [Members.keys, tail]
  norm_none := by
    intro item failed
    simp only [canonMembers, Value.canon, Option.bind_some, Option.map_eq_none_iff] at failed
    exact rest.norm_none item failed
  load_members := by
    intro well item normal source computed agrees
    simp only [canonMembers, Value.canon, Option.bind_some, Option.map_eq_some_iff] at computed
    obtain ⟨tail, tailEq, rfl⟩ := computed
    obtain ⟨first, others⟩ := get?_agrees well agrees
    rw [u.nfc_ascii plain] at first
    have later := rest.load_members well.tail item tail source tailEq others
    simp [first, later]
  members_norm := by
    intro item normal computed
    simp only [canonMembers, rest.members_norm _ _ computed]

private theorem keys_of_related (u : Unicode) {members normal : Members Value}
    (related : List.Forall₂ (fun source target =>
      target.1 = u.nfc source.1 ∧ source.2.canon u = some target.2) members normal) :
    normal.keys = members.keys.map u.nfc := by
  unfold Members.keys
  induction related with
  | nil => rfl
  | cons first _ ih => simp [first.1, ih]

private theorem keys_canonMembers (record : Record u names α) (well : WellNamed names)
    (item : α) (normal : Members Value)
    (computed : canonMembers u (record.members item) = some normal) :
    normal.keys = names := by
  have related := (canonMembers_eq_some_iff u _ normal).mp computed
  rw [keys_of_related u related, record.keys_members]
  conv_rhs => rw [← List.map_id names]
  exact List.map_congr_left fun name present => u.nfc_ascii (well.2 name present)

/-- The object whose members are exactly the record's fields. -/
def object (record : Record u names α) (well : WellNamed names) : Codec u α where
  dump item := .dict (record.members item)
  load
    | .dict source =>
        if ∀ name ∈ Members.keys source, name ∈ names then record.load source else none
    | _ => none
  norm := record.norm
  load_canon item := by
    simp only [Value.canon]
    cases computed : canonMembers u (record.members item) with
    | none => rw [record.norm_none item computed]; rfl
    | some normal =>
        have keysEq := keys_canonMembers record well item normal computed
        have distinct : normal.keys.Nodup := by rw [keysEq]; exact well.1
        have known : ∀ name ∈ (sortMembers normal).keys, name ∈ names := by
          intro name present
          rw [← keysEq]
          exact ((sortMembers_perm normal).map Prod.fst).mem_iff.mp present
        simp only [Option.bind_some, if_pos distinct]
        rw [if_pos known]
        apply record.load_members well item normal _ computed
        intro name _
        exact (Dict.get?_perm (sortMembers_perm normal).symm distinct name).symm
  dump_norm := by
    intro item normal computed
    simp only [Value.canon, record.members_norm item normal computed]

theorem field_norm (name : String) (codec : Codec u α) (absent : Option α)
    (rest : Record u names β) (item normal : α × β) :
    (field name codec absent rest).norm item = some normal ↔
      codec.norm item.1 = some normal.1 ∧ rest.norm item.2 = some normal.2 := by
  obtain ⟨head, tail⟩ := normal
  simp only [field, Option.bind_eq_some_iff, Option.map_eq_some_iff]
  constructor
  · rintro ⟨_, headEq, _, tailEq, ⟨⟩⟩
    exact ⟨headEq, tailEq⟩
  · rintro ⟨headEq, tailEq⟩
    exact ⟨head, headEq, tail, tailEq, rfl⟩

theorem constant_norm (name content : String) (plain : isAscii content)
    (rest : Record u names β) (item : β) :
    (constant name content plain rest).norm item = rest.norm item := rfl

theorem object_norm (record : Record u names α) (well : WellNamed names) (item : α) :
    (record.object well).norm item = record.norm item := rfl

end Record

/-- What codecs of objects dump is never read back as null. -/
theorem Value.canon_dict_ne_null (u : Unicode) (members : Members Value) :
    (Value.dict members).canon u ≠ some .null := by
  intro computed
  simp only [Value.canon, Option.bind_eq_some_iff] at computed
  obtain ⟨normal, _, checked⟩ := computed
  split at checked <;> cases checked

theorem Value.canon_str_ne_null (u : Unicode) (text : String) :
    (Value.str text).canon u ≠ some .null := by
  rintro ⟨⟩

end EgoAgent
