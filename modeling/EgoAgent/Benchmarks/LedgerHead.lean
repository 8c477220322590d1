import EgoAgent.Benchmarks.LedgerVerified
import EgoAgent.Lib.Chain

/-!
The head of a verified chain commits to its items.
-/

namespace EgoAgent.Benchmarks

open EgoAgent.Api EgoAgent.Bridge

section Head

variable {φ : Type} [FloatText φ] (platform : TracePlatform φ)

/-! ### Links -/

/-- What is hashed of an item. -/
def payloadOf (item : Members φ) : Json φ :=
  .dict [("event_id", field item "event_id"), ("run_id", field item "run_id"),
    ("kind", field item "kind"), ("envelope", field item "envelope"),
    ("previous_hash", field item "previous_hash"), ("created_at", field item "created_at")]

/-- What the verifier has found of the item at an index. -/
structure VerifiedItem (runId : String) (index : Nat) (previousHash eventHash : String)
    (item : Members φ) : Prop where
  keys : hasKeys item bridgeLedgerItemKeys = true
  sequence : field item "sequence" = .int (index + 1)
  run : field item "run_id" = .str runId
  previous : field item "previous_hash" = .str previousHash
  event : field item "event_hash" = .str eventHash
  sender : ∃ envelope sender, field item "envelope" = .dict envelope ∧
    field envelope "sender" = .str sender ∧ sender.length ≤ 2048
  finite : (payloadOf item).finite = true
  hashed : eventHash = bridgeSha256 platform.sha256 (payloadOf item)

/-- A chain of verified items from an index and a hash on, to the hash of its last item. -/
def Chained (runId : String) : Nat → String → List (Json φ) → String → Prop
  | _, previousHash, [], last => last = previousHash
  | index, previousHash, value :: rest, last => ∃ item eventHash, value = .dict item ∧
      VerifiedItem platform runId index previousHash eventHash item ∧
      Chained runId (index + 1) eventHash rest last

variable {platform}

variable {value : Json φ}

theorem sha256Of_eq_ok {digest : String} (hashed : sha256Of platform value = .ok digest) :
    value.finite = true ∧ digest = bridgeSha256 platform.sha256 value := by
  by_cases finite : value.finite = true
  · rw [sha256Of_eq finite] at hashed
    exact ⟨finite, (Except.ok.inj hashed).symm⟩
  · unfold sha256Of canonicalSha256 canonicalJson at hashed
    rw [if_neg finite] at hashed
    cases hashed

omit [FloatText φ] in
theorem equalsText_eq_true {text : String} (same : equalsText value text = true) :
    value = .str text := by
  cases value with
  | str other => exact congrArg Json.str (of_decide_eq_true same)
  | _ => cases same

variable {label : String}

omit [FloatText φ] in
theorem positiveInteger_eq_ok {number : Int}
    (read : positiveInteger label value = .ok number) : value = .int number := by
  cases value with
  | int other =>
      obtain ⟨_, read⟩ := (raiseIf_bind_eq_ok _ _ _ _).mp read
      cases read
      rfl
  | _ => cases read

variable {members : Members φ}

omit [FloatText φ] in
theorem objectOf_eq_ok (read : objectOf label value = .ok members) : value = .dict members := by
  cases value with
  | dict other =>
      cases read
      rfl
  | _ => cases read

omit [FloatText φ] in
theorem arrayOf_eq_ok {items : List (Json φ)}
    (read : arrayOf label value = .ok items) : value = .list items := by
  cases value with
  | list other =>
      cases read
      rfl
  | _ => cases read

omit [FloatText φ] in
theorem textOf_short {label text : String}
    (read : textOf label value = .ok text) : text.length ≤ 2048 := by
  rw [textOf_eq_ok read] at read
  obtain ⟨_, read⟩ := (raiseIf_bind_eq_ok _ _ _ _).mp read
  obtain ⟨short, _⟩ := (raiseIf_bind_eq_ok _ _ _ _).mp read
  exact Nat.le_of_not_lt short

variable {head : TraceHead φ}

/-- The checks of an envelope return the time of its item, and read its sender. -/
theorem checkEnvelope_eq_ok {label kind createdAt : String} {item envelope : Members φ}
    (checked : checkEnvelope platform head label kind item envelope = .ok createdAt) :
    field item "created_at" = .str createdAt ∧
      ∃ sender, field envelope "sender" = .str sender ∧ sender.length ≤ 2048 := by
  unfold checkEnvelope at checked
  obtain ⟨_, checked⟩ := (raiseIf_bind_eq_ok _ _ _ _).mp checked
  obtain ⟨_, _, checked⟩ := (bind_eq_ok _ _ _).mp checked
  iterate 3 obtain ⟨_, checked⟩ := (raiseIf_bind_eq_ok _ _ _ _).mp checked
  obtain ⟨_, _, checked⟩ := (bind_eq_ok _ _ _).mp checked
  obtain ⟨_, _, checked⟩ := (bind_eq_ok _ _ _).mp checked
  obtain ⟨sender, isSender, checked⟩ := (bind_eq_ok _ _ _).mp checked
  iterate 3 obtain ⟨_, _, checked⟩ := (bind_eq_ok _ _ _).mp checked
  obtain ⟨_, checked⟩ := (raiseIf_bind_eq_ok _ _ _ _).mp checked
  obtain ⟨time, read, checked⟩ := (bind_eq_ok _ _ _).mp checked
  obtain ⟨_, _, checked⟩ := (bind_eq_ok _ _ _).mp checked
  have same : time = createdAt := by
    split at checked
    · obtain ⟨_, checked⟩ := (raiseIf_bind_eq_ok _ _ _ _).mp checked
      exact Except.ok.inj checked
    · cases checked
    · cases checked
  rw [← same]
  exact ⟨textOf_eq_ok read, sender, textOf_eq_ok isSender, textOf_short isSender⟩

variable {runId : String}

/-- An item that is read extends the chain. -/
theorem readItem_verified {done later : List LedgerItem} {index : Nat}
    (read : readItem platform head runId done (value, index) = .ok later) :
    ∃ item eventHash, value = .dict item ∧
      VerifiedItem platform runId index (expectedPrevious done) eventHash item ∧
      expectedPrevious later = eventHash := by
  unfold readItem at read
  obtain ⟨item, isObject, read⟩ := (bind_eq_ok _ _ _).mp read
  obtain ⟨keys, read⟩ := (raiseIf_bind_eq_ok _ _ _ _).mp read
  obtain ⟨sequence, isSequence, read⟩ := (bind_eq_ok _ _ _).mp read
  obtain ⟨contiguous, read⟩ := (raiseIf_bind_eq_ok _ _ _ _).mp read
  obtain ⟨eventId, isEventId, read⟩ := (bind_eq_ok _ _ _).mp read
  obtain ⟨_, read⟩ := (raiseIf_bind_eq_ok _ _ _ _).mp read
  obtain ⟨sameRun, read⟩ := (raiseIf_bind_eq_ok _ _ _ _).mp read
  obtain ⟨kind, isKind, read⟩ := (bind_eq_ok _ _ _).mp read
  obtain ⟨_, read⟩ := (raiseIf_bind_eq_ok _ _ _ _).mp read
  obtain ⟨envelope, isEnvelope, read⟩ := (bind_eq_ok _ _ _).mp read
  obtain ⟨createdAt, checked, read⟩ := (bind_eq_ok _ _ _).mp read
  obtain ⟨previousHash, isPrevious, read⟩ := (bind_eq_ok _ _ _).mp read
  obtain ⟨linked, read⟩ := (raiseIf_bind_eq_ok _ _ _ _).mp read
  obtain ⟨expectedHash, isExpected, read⟩ := (bind_eq_ok _ _ _).mp read
  obtain ⟨eventHash, isHash, read⟩ := (bind_eq_ok _ _ _).mp read
  obtain ⟨hashes, read⟩ := (raiseIf_bind_eq_ok _ _ _ _).mp read
  obtain ⟨isTime, sender, isSender, short⟩ := checkEnvelope_eq_ok checked
  have runField : field item "run_id" = .str runId := equalsText_eq_true (by simpa using sameRun)
  have payload : payloadOf item = .dict [("event_id", .str eventId), ("run_id", .str runId),
      ("kind", .str kind), ("envelope", .dict envelope), ("previous_hash", .str previousHash),
      ("created_at", .str createdAt)] := by
    unfold payloadOf
    rw [textOf_eq_ok isEventId, runField, textOf_eq_ok isKind, objectOf_eq_ok isEnvelope,
      rawDigest_eq_ok isPrevious, isTime]
  obtain ⟨finite, hashed⟩ := sha256Of_eq_ok isExpected
  have previous : previousHash = expectedPrevious done := not_not.mp linked
  refine ⟨item, eventHash, objectOf_eq_ok isObject, ⟨by simpa using keys, ?_, runField, ?_,
    rawDigest_eq_ok isHash, ⟨envelope, sender, objectOf_eq_ok isEnvelope, isSender, short⟩,
    by rw [payload]; exact finite, ?_⟩, ?_⟩
  · rw [positiveInteger_eq_ok isSequence, not_not.mp contiguous]
  · rw [rawDigest_eq_ok isPrevious, previous]
  · rw [not_not.mp hashes, hashed, payload]
  · cases read
    exact expectedPrevious_concat _ _

/-- The items that are read are a chain. -/
theorem readItems_chained :
    ∀ {items : List (Json φ)} {index : Nat} {done later : List LedgerItem},
      (items.zipIdx index).foldlM (readItem platform head runId) done = .ok later →
      Chained platform runId index (expectedPrevious done) items (expectedPrevious later)
  | [], _, _, _, read => by
      cases read
      rfl
  | value :: rest, index, done, later, read => by
      rw [List.zipIdx_cons, List.foldlM_cons] at read
      obtain ⟨middle, first, others⟩ := (bind_eq_ok _ _ _).mp read
      obtain ⟨item, eventHash, isItem, verified, next⟩ := readItem_verified first
      have chained := readItems_chained others
      rw [next] at chained
      exact ⟨item, eventHash, isItem, verified, chained⟩

/-- A verified chain runs from the zero hash to its head. -/
theorem verified_chained {chain : Members φ}
    {ledger : Ledger} (accepted : verifyBridgeEventChain platform head runId chain = .ok ledger) :
    ∃ items, field chain "items" = .list items ∧
      Chained platform runId 0 zeroHash items ledger.head := by
  unfold verifyBridgeEventChain at accepted
  obtain ⟨_, accepted⟩ := (raiseIf_bind_eq_ok _ _ _ _).mp accepted
  obtain ⟨_, accepted⟩ := (raiseIf_bind_eq_ok _ _ _ _).mp accepted
  obtain ⟨items, isList, accepted⟩ := (bind_eq_ok _ _ _).mp accepted
  obtain ⟨_, accepted⟩ := (raiseIf_bind_eq_ok _ _ _ _).mp accepted
  obtain ⟨_, _, accepted⟩ := (bind_eq_ok _ _ _).mp accepted
  obtain ⟨_, _, accepted⟩ := (bind_eq_ok _ _ _).mp accepted
  obtain ⟨_, accepted⟩ := (raiseIf_bind_eq_ok _ _ _ _).mp accepted
  obtain ⟨read, run, accepted⟩ := (bind_eq_ok _ _ _).mp accepted
  obtain ⟨chainHead, _, accepted⟩ := (bind_eq_ok _ _ _).mp accepted
  obtain ⟨same, accepted⟩ := (raiseIf_bind_eq_ok _ _ _ _).mp accepted
  obtain ⟨_, accepted⟩ := (raiseIf_bind_eq_ok _ _ _ _).mp accepted
  cases accepted
  refine ⟨items, arrayOf_eq_ok isList, ?_⟩
  have chained := readItems_chained run
  rw [← not_not.mp same] at chained
  exact chained

/-! ### Senders -/

theorem Chained.senders {times : TimeText} :
    ∀ {appended : List (String × Envelope φ)} {previousHash before last : String} {index : Nat},
      Chained platform runId index before (sortedItems (exportedItems runId index
        (rowsOf platform.sha256 times runId previousHash appended))) last →
      ∀ entry ∈ appended, entry.2.sender.length ≤ 2048
  | [], _, _, _, _, _, entry, present => nomatch present
  | (eventId, envelope) :: rest, previousHash, _, _, index, chained, entry, present => by
      rw [rowsOf, exportedItems, sortedItems] at chained
      obtain ⟨item, eventHash, isItem, verified, later⟩ := chained
      rcases List.mem_cons.mp present with rfl | inRest
      · have sorted : item = sortMembers (sortedMembers (exportedItem runId index
            (rowOf platform.sha256 times runId previousHash eventId envelope))) :=
          (Json.dict.inj isItem).symm
        obtain ⟨read, sender, isEnvelope, isSender, short⟩ := verified.sender
        rw [sorted, exportedItem_envelope] at isEnvelope
        rw [← Json.dict.inj isEnvelope, written_field] at isSender
        rw [← Json.str.inj isSender] at short
        exact short
      · exact Chained.senders later entry inRest

/-- The senders of an exported chain that is accepted are of at most 2048 characters. -/
theorem senders_of_accepted {times : TimeText}
    {appended : List (String × Envelope φ)} {ledger : Ledger}
    (accepted : verifyBridgeEventChain platform head runId (sortMembers (sortedMembers
      (exportedChain runId (rowsOf platform.sha256 times runId zeroHash appended)))) =
        .ok ledger) :
    ∀ entry ∈ appended, entry.2.sender.length ≤ 2048 := by
  obtain ⟨items, isList, chained⟩ := verified_chained accepted
  rw [field_sorted (exportedChain_distinct runId _)] at isList
  rw [← Json.list.inj isList] at chained
  exact chained.senders

/-! ### Entries -/

/-- What an item adds to the chain, sorted. -/
structure LinkEntry (φ : Type) where
  eventId : Json φ
  kind : Json φ
  envelope : Json φ
  createdAt : Json φ

def entryOf (item : Members φ) : LinkEntry φ where
  eventId := (field item "event_id").sorted
  kind := (field item "kind").sorted
  envelope := (field item "envelope").sorted
  createdAt := (field item "created_at").sorted

def entriesOf : List (Json φ) → List (LinkEntry φ)
  | .dict item :: rest => entryOf item :: entriesOf rest
  | _ :: rest => entriesOf rest
  | [] => []

def linkPayload (runId previousHash : String) (entry : LinkEntry φ) : Members φ :=
  [("event_id", entry.eventId), ("run_id", .str runId), ("kind", entry.kind),
    ("envelope", entry.envelope), ("previous_hash", .str previousHash),
    ("created_at", entry.createdAt)]

variable (platform) in
/-- The hash of an entry upon a hash. -/
def linkHash (runId previousHash : String) (entry : LinkEntry φ) : String :=
  bridgeSha256 platform.sha256 (.dict (linkPayload runId previousHash entry))

omit [FloatText φ] in
theorem linkPayload_distinct (runId previousHash : String) (entry : LinkEntry φ) :
    (Dict.keys (linkPayload runId previousHash entry)).Nodup := by
  have keys : Dict.keys (linkPayload runId previousHash entry) =
    ["event_id", "run_id", "kind", "envelope", "previous_hash", "created_at"] := rfl
  rw [keys]
  decide

variable {runId previousHash eventHash : String} {item : Members φ}

theorem VerifiedItem.payload {index : Nat}
    (verified : VerifiedItem platform runId index previousHash eventHash item) :
    (payloadOf item).sorted =
      (Json.dict (linkPayload runId previousHash (entryOf item))).sorted := by
  unfold payloadOf
  rw [verified.run, verified.previous]
  simp [linkPayload, entryOf, Json.sorted, sortedMembers, sorted_sorted]

theorem VerifiedItem.link {index : Nat}
    (verified : VerifiedItem platform runId index previousHash eventHash item) :
    linkHash platform runId previousHash (entryOf item) = eventHash := by
  rw [verified.hashed]
  unfold linkHash bridgeSha256
  rw [verified.payload]

/-- The last hash of a chain is its root. -/
theorem Chained.root :
    ∀ {items : List (Json φ)} {index : Nat} {previousHash last : String},
      Chained platform runId index previousHash items last →
      chainRoot (linkHash platform runId) previousHash (entriesOf items) = last
  | [], _, _, _, chained => chained.symm
  | value :: rest, _, previousHash, _, chained => by
      obtain ⟨item, eventHash, rfl, verified, later⟩ := chained
      have root := Chained.root later
      unfold chainRoot at root ⊢
      rw [entriesOf, List.foldl_cons, verified.link]
      exact root

/-- A link of a verified chain is that of an item. -/
theorem Chained.link :
    ∀ {items : List (Json φ)} {index : Nat} {previousHash last : String},
      Chained platform runId index previousHash items last →
      ∀ link ∈ chainLinks (linkHash platform runId) previousHash (entriesOf items),
        ∃ item, .dict item ∈ items ∧ link.2 = entryOf item ∧ (payloadOf item).finite = true ∧
          (payloadOf item).sorted = (Json.dict (linkPayload runId link.1 link.2)).sorted
  | [], _, _, _, _, link, present => nomatch present
  | value :: rest, _, previousHash, _, chained, link, present => by
      obtain ⟨item, eventHash, rfl, verified, later⟩ := chained
      rw [entriesOf, chainLinks, List.mem_cons] at present
      rcases present with rfl | inRest
      · exact ⟨item, List.mem_cons_self, rfl, verified.finite, verified.payload⟩
      · rw [verified.link] at inRest
        obtain ⟨other, inside, rest⟩ := Chained.link later link inRest
        exact ⟨other, List.mem_cons_of_mem _ inside, rest⟩

/-! ### One head, one list of items -/

/-- The byte strings that are hashed for the items of a chain. -/
def hashedItems (chain : Members φ) : Set Bytes :=
  {bytes | ∃ items item, field chain "items" = .list items ∧ .dict item ∈ items ∧
    bytes = utf8Encode (payloadOf item).sorted.text}

omit [FloatText φ] in
theorem legible_field (readable : legible (.dict members) = true)
    (key : String) : legible (field members key) = true := by
  unfold field
  cases found : Dict.get? members key with
  | none => rfl
  | some value =>
      exact ((legible_dict_iff members).mp readable).2 _ (Dict.mem_of_get? members found)

omit [FloatText φ] in
theorem legible_payloadOf (readable : legible (.dict item) = true) :
    legible (payloadOf item) = true := by
  refine (legible_dict_iff _).mpr ⟨by simp [Dict.keys], ?_⟩
  simp [legible_field readable]

omit [FloatText φ] in
theorem legibleItems_iff (items : List (Json φ)) :
    legibleItems items = true ↔ ∀ item ∈ items, legible item = true := by
  induction items with
  | nil => simp [legibleItems]
  | cons item rest ih => simp [legibleItems, ih]

variable {loads : Bytes → Option (Json φ)}

/-- Payloads with one hash are of one link. -/
theorem links_injective {left right : String × LinkEntry φ} {leftItem rightItem : Members φ}
    (readsBack : ReadsBack loads)
    (leftEntry : left.2 = entryOf leftItem) (rightEntry : right.2 = entryOf rightItem)
    (leftPayload : (payloadOf leftItem).sorted =
      (Json.dict (linkPayload runId left.1 left.2)).sorted)
    (rightPayload : (payloadOf rightItem).sorted =
      (Json.dict (linkPayload runId right.1 right.2)).sorted)
    (leftFinite : (payloadOf leftItem).finite = true)
    (rightFinite : (payloadOf rightItem).finite = true)
    (leftReadable : legible (.dict leftItem) = true)
    (rightReadable : legible (.dict rightItem) = true)
    (same : utf8Encode (payloadOf leftItem).sorted.text =
      utf8Encode (payloadOf rightItem).sorted.text) : left = right := by
  have payloads := sorted_eq_of_bytes readsBack leftFinite rightFinite
    (legible_payloadOf leftReadable) (legible_payloadOf rightReadable) same
  rw [leftPayload, rightPayload] at payloads
  simp only [Json.sorted, Json.dict.injEq] at payloads
  have fields : ∀ key, (field (linkPayload runId left.1 left.2) key).sorted =
      (field (linkPayload runId right.1 right.2) key).sorted := by
    intro key
    rw [← field_sorted (linkPayload_distinct _ _ _), payloads,
      field_sorted (linkPayload_distinct _ _ _)]
  have hash : (Json.str left.1 : Json φ) = .str right.1 := fields "previous_hash"
  have eventId : left.2.eventId.sorted = right.2.eventId.sorted := fields "event_id"
  have kind : left.2.kind.sorted = right.2.kind.sorted := fields "kind"
  have envelope : left.2.envelope.sorted = right.2.envelope.sorted := fields "envelope"
  have createdAt : left.2.createdAt.sorted = right.2.createdAt.sorted := fields "created_at"
  rw [leftEntry, rightEntry] at eventId kind envelope createdAt
  simp only [entryOf, sorted_sorted] at eventId kind envelope createdAt
  refine Prod.ext (Json.str.inj hash) ?_
  rw [leftEntry, rightEntry]
  simp only [entryOf, eventId, kind, envelope, createdAt]

omit [FloatText φ] in
theorem mem_keys_of_hasKeys {keys : List String}
    (has : hasKeys members keys = true) (key : String) : key ∈ Dict.keys members ↔ key ∈ keys := by
  unfold hasKeys at has
  rw [Bool.and_eq_true, List.all_eq_true, List.all_eq_true] at has
  exact ⟨fun present => of_decide_eq_true (has.1 key present),
    fun present => of_decide_eq_true (has.2 key present)⟩

omit [FloatText φ] in
theorem get?_sorted_of_mem (distinct : (Dict.keys members).Nodup)
    {key : String} (present : key ∈ Dict.keys members) :
    Dict.get? (sortMembers (sortedMembers members)) key = some (field members key).sorted := by
  obtain ⟨value, found⟩ := (Dict.mem_keys_iff members key).mp present
  rw [get?_sorted distinct found]
  unfold field
  rw [found]
  rfl

omit [FloatText φ] in
/-- Objects with the same keys and fields are one document. -/
theorem sorted_eq_of_fields {left right : Members φ} {keys : List String}
    (leftDistinct : (Dict.keys left).Nodup) (rightDistinct : (Dict.keys right).Nodup)
    (leftKeys : hasKeys left keys = true) (rightKeys : hasKeys right keys = true)
    (same : ∀ key ∈ keys, (field left key).sorted = (field right key).sorted) :
    (Json.dict left).sorted = (Json.dict right).sorted := by
  have agree : ∀ key, Dict.get? (sortMembers (sortedMembers left)) key =
      Dict.get? (sortMembers (sortedMembers right)) key := by
    intro key
    by_cases known : key ∈ keys
    · rw [get?_sorted_of_mem leftDistinct ((mem_keys_of_hasKeys leftKeys key).mpr known),
        get?_sorted_of_mem rightDistinct ((mem_keys_of_hasKeys rightKeys key).mpr known),
        same key known]
    · have leftAbsent : key ∉ Dict.keys (sortMembers (sortedMembers left)) := fun present =>
        known ((mem_keys_of_hasKeys leftKeys key).mp ((sorted_keys_perm left).mem_iff.mp present))
      have rightAbsent : key ∉ Dict.keys (sortMembers (sortedMembers right)) := fun present =>
        known ((mem_keys_of_hasKeys rightKeys key).mp ((sorted_keys_perm right).mem_iff.mp present))
      rw [(Dict.get?_eq_none_iff _ _).mpr leftAbsent, (Dict.get?_eq_none_iff _ _).mpr rightAbsent]
  have leftSorted := (sorted_keys_perm left).nodup_iff.mpr leftDistinct
  have rightSorted := (sorted_keys_perm right).nodup_iff.mpr rightDistinct
  have perm := Dict.perm_of_get? leftSorted rightSorted agree
  have members := sortMembers_eq_of_perm perm leftSorted
  rw [sortMembers_idem, sortMembers_idem] at members
  simp only [Json.sorted, members]

/-- Chains of the same entries have the same items. -/
theorem Chained.items_eq :
    ∀ {left right : List (Json φ)} {index : Nat} {previousHash leftLast rightLast : String},
      Chained platform runId index previousHash left leftLast →
      Chained platform runId index previousHash right rightLast →
      legibleItems left = true → legibleItems right = true →
      entriesOf left = entriesOf right → sortedItems left = sortedItems right
  | [], [], _, _, _, _, _, _, _, _, _ => rfl
  | [], value :: _, _, _, _, _, _, rightChain, _, _, same => by
      obtain ⟨item, _, rfl, _, _⟩ := rightChain
      cases same
  | value :: _, [], _, _, _, _, leftChain, _, _, _, same => by
      obtain ⟨item, _, rfl, _, _⟩ := leftChain
      cases same
  | leftValue :: leftRest, rightValue :: rightRest, index, previousHash, _, _, leftChain,
      rightChain, leftReadable, rightReadable, same => by
      obtain ⟨leftItem, leftHash, rfl, leftVerified, leftLater⟩ := leftChain
      obtain ⟨rightItem, rightHash, rfl, rightVerified, rightLater⟩ := rightChain
      simp only [entriesOf, List.cons.injEq] at same
      simp only [legibleItems, Bool.and_eq_true] at leftReadable rightReadable
      have hashes : leftHash = rightHash := by
        rw [← leftVerified.link, ← rightVerified.link, same.1]
      have entry := same.1
      simp only [entryOf, LinkEntry.mk.injEq] at entry
      obtain ⟨eventId, kind, envelope, createdAt⟩ := entry
      have items : (Json.dict leftItem).sorted = (Json.dict rightItem).sorted := by
        refine sorted_eq_of_fields ((legible_dict_iff _).mp leftReadable.1).1
          ((legible_dict_iff _).mp rightReadable.1).1 leftVerified.keys rightVerified.keys ?_
        simp only [bridgeLedgerItemKeys, List.forall_mem_cons]
        refine ⟨?_, eventId, ?_, kind, envelope, ?_, ?_, createdAt, by simp⟩
        · rw [leftVerified.sequence, rightVerified.sequence]
        · rw [leftVerified.run, rightVerified.run]
        · rw [leftVerified.previous, rightVerified.previous]
        · rw [leftVerified.event, rightVerified.event, hashes]
      rw [← hashes] at rightLater
      rw [sortedItems, sortedItems, items, Chained.items_eq leftLater rightLater leftReadable.2
        rightReadable.2 same.2]

/-- Verified chains of one run with one head have the same items. -/
theorem verified_chains_equal {left right : Members φ} {leftLedger rightLedger : Ledger}
    (readsBack : ReadsBack loads) (leftReadable : legible (.dict left) = true)
    (rightReadable : legible (.dict right) = true)
    (collisionFree : Set.InjOn platform.sha256 (hashedItems left ∪ hashedItems right))
    (fresh : ∀ bytes ∈ hashedItems left ∪ hashedItems right,
      (platform.sha256 bytes).labelled "" ≠ zeroHash)
    (leftAccepted : verifyBridgeEventChain platform head runId left = .ok leftLedger)
    (rightAccepted : verifyBridgeEventChain platform head runId right = .ok rightLedger)
    (sameHead : leftLedger.head = rightLedger.head) :
    (field left "items").sorted = (field right "items").sorted := by
  obtain ⟨leftItems, leftField, leftChain⟩ := verified_chained leftAccepted
  obtain ⟨rightItems, rightField, rightChain⟩ := verified_chained rightAccepted
  have leftLegible : legibleItems leftItems = true := by
    have readable := legible_field leftReadable "items"
    rw [leftField] at readable
    exact readable
  have rightLegible : legibleItems rightItems = true := by
    have readable := legible_field rightReadable "items"
    rw [rightField] at readable
    exact readable
  have fromZero : ∀ {chain : Members φ} {items : List (Json φ)} {last : String},
      field chain "items" = .list items → Chained platform runId 0 zeroHash items last →
      hashedItems chain ⊆ hashedItems left ∪ hashedItems right →
      ∀ link ∈ chainLinks (linkHash platform runId) zeroHash (entriesOf items),
        linkHash platform runId link.1 link.2 ≠ zeroHash := by
    intro chain items last isItems chained inside link present zero
    obtain ⟨item, member, _, _, payload⟩ := chained.link link present
    refine fresh _ (inside ⟨items, item, isItems, member, rfl⟩) ?_
    rw [payload]
    exact zero
  have entries : entriesOf leftItems = entriesOf rightItems := by
    refine chainRoot_commits (linkHash platform runId) zeroHash _ _ ?_
      (fromZero leftField leftChain Set.subset_union_left)
      (fromZero rightField rightChain Set.subset_union_right)
      (leftChain.root.trans (sameHead.trans rightChain.root.symm))
    intro first inLeft second inRight same
    obtain ⟨leftItem, leftMember, leftEntry, leftFinite, leftPayload⟩ := leftChain.link first inLeft
    obtain ⟨rightItem, rightMember, rightEntry, rightFinite, rightPayload⟩ :=
      rightChain.link second inRight
    refine links_injective readsBack leftEntry rightEntry leftPayload rightPayload leftFinite
      rightFinite ((legibleItems_iff leftItems).mp leftLegible _ leftMember)
      ((legibleItems_iff rightItems).mp rightLegible _ rightMember) ?_
    refine collisionFree (.inl ⟨leftItems, leftItem, leftField, leftMember, rfl⟩)
      (.inr ⟨rightItems, rightItem, rightField, rightMember, rfl⟩) ?_
    rw [leftPayload, rightPayload]
    exact Digest.labelled_injective "" same
  rw [leftField, rightField, Json.sorted, Json.sorted,
    leftChain.items_eq rightChain leftLegible rightLegible entries]

end Head

end EgoAgent.Benchmarks
