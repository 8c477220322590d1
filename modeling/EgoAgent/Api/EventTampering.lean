import EgoAgent.Api.ApprovalToken
import EgoAgent.Api.EventChain

/-!
Changes of a stream behind the back of the store, and which of them `verify_event_chain` reports.
-/

namespace EgoAgent.Api

/-! ### Sorting keeps the numbers -/

section Finite

variable {φ : Type} [FloatText φ]

mutual

theorem finite_of_sorted : ∀ value : Json φ, value.sorted.finite = true → value.finite = true
  | .null, finite | .bool _, finite | .int _, finite | .float _, finite
  | .str _, finite => finite
  | .list items, finite => by
      have inner := finiteItems_of_sorted items (by simpa [Json.sorted, Json.finite] using finite)
      simpa [Json.finite] using inner
  | .dict members, finite => by
      have inner := (finite_dict_iff _).mp (by simpa only [Json.sorted] using finite)
      have sorted : finiteMembers (sortedMembers members) = true :=
        (finiteMembers_iff _).mpr fun member present =>
          inner member ((sortMembers_perm _).mem_iff.mpr present)
      exact finiteMembers_of_sorted members sorted

theorem finiteItems_of_sorted : ∀ items : List (Json φ),
    finiteItems (sortedItems items) = true → finiteItems items = true
  | [], _ => rfl
  | item :: rest, finite => by
      simp only [sortedItems, finiteItems, Bool.and_eq_true] at finite ⊢
      exact ⟨finite_of_sorted item finite.1, finiteItems_of_sorted rest finite.2⟩

theorem finiteMembers_of_sorted : ∀ members : List (String × Json φ),
    finiteMembers (sortedMembers members) = true → finiteMembers members = true
  | [], _ => rfl
  | (_, value) :: rest, finite => by
      simp only [sortedMembers, finiteMembers, Bool.and_eq_true] at finite ⊢
      exact ⟨finite_of_sorted value finite.1, finiteMembers_of_sorted rest finite.2⟩

end

end Finite

/-! ### Events as they are read -/

section Reading

variable {φ : Type}

/-- An event as `_event_from_row` makes it of a row. -/
def AuditEvent.read (event : AuditEvent φ) : AuditEvent φ :=
  { event with stage := event.stage.filter (· ≠ "") }

def AuditEvent.Readable (event : AuditEvent φ) : Prop :=
  ∀ stage ∈ event.read.stage, stage ∈ stageValues

/-- An event without its place in the table, as a value: a payload does not depend on the order of
its members. -/
def AuditEvent.facts (event : AuditEvent φ) : AuditEvent φ :=
  { event.read with sequence := 0, payload := event.payload.sorted }

variable [FloatText φ]

omit [FloatText φ] in
theorem eventFromRow_eq_ok {row event : AuditEvent φ} :
    eventFromRow row = .ok event ↔ row.Readable ∧ event = row.read := by
  unfold eventFromRow AuditEvent.Readable AuditEvent.read
  cases found : row.stage.filter (· ≠ "") with
  | none => simp [eq_comm]
  | some stage =>
      have same : row.stage = some stage := (Option.filter_eq_some_iff.mp found).1
      have whole : ({ row with stage := some stage } : AuditEvent φ) = row := by rw [← same]
      by_cases known : stage ∈ stageValues
      · simp [known, whole, eq_comm]
      · simp [known]

omit [FloatText φ] in
theorem mapM_eventFromRow_eq_ok : ∀ {rows events : List (AuditEvent φ)},
    rows.mapM eventFromRow = .ok events ↔
      (∀ row ∈ rows, row.Readable) ∧ events = rows.map AuditEvent.read
  | [], events => by
      rw [List.mapM_nil]
      constructor
      · rintro ⟨⟩
        exact ⟨nofun, rfl⟩
      · rintro ⟨_, rfl⟩
        rfl
  | row :: rest, events => by
      rw [List.mapM_cons, bind_eq_ok]
      constructor
      · rintro ⟨first, isFirst, later⟩
        obtain ⟨others, isOthers, done⟩ := (bind_eq_ok _ _ _).mp later
        cases done
        obtain ⟨readable, rfl⟩ := eventFromRow_eq_ok.mp isFirst
        obtain ⟨allReadable, rfl⟩ := mapM_eventFromRow_eq_ok.mp isOthers
        exact ⟨List.forall_mem_cons.mpr ⟨readable, allReadable⟩, rfl⟩
      · rintro ⟨readable, rfl⟩
        obtain ⟨first, others⟩ := List.forall_mem_cons.mp readable
        exact ⟨_, eventFromRow_eq_ok.mpr ⟨first, rfl⟩, (bind_eq_ok _ _ _).mpr
          ⟨_, mapM_eventFromRow_eq_ok.mpr ⟨others, rfl⟩, rfl⟩⟩

end Reading

/-! ### Verified lists -/

section Verified

variable {φ : Type} [FloatText φ] {sha256 : Bytes → Digest}

/-- The list passes the loop. -/
structure Sound (sha256 : Bytes → Digest) (events : List (AuditEvent φ)) : Prop where
  linked : Linked AuditEvent.previousHash AuditEvent.eventHash zeroEventHash events
  hashed : ∀ event ∈ events, event.Hashed sha256

theorem verifyFrom_append {root : String} {good : List (AuditEvent φ)}
    (linked : Linked AuditEvent.previousHash AuditEvent.eventHash root good)
    (hashed : ∀ event ∈ good, event.Hashed sha256) (rest : List (AuditEvent φ)) :
    verifyFrom sha256 root (good ++ rest) =
      verifyFrom sha256 ((good.getLast?.map AuditEvent.eventHash).getD root) rest := by
  induction good generalizing root with
  | nil => rfl
  | cons event later ih =>
      obtain ⟨first, others⟩ := List.forall_mem_cons.mp hashed
      unfold AuditEvent.Hashed at first
      rw [linked.1] at first
      rw [List.cons_append, verifyFrom, first, ok_bind, if_neg (by simp [linked.1]),
        ih linked.2 others]
      cases later with
      | nil => rfl
      | cons next rest =>
          rw [List.getLast?_cons_cons, List.getLast?_cons]
          simp only [Option.map_some, Option.getD_some]

theorem Sound.verified {events : List (AuditEvent φ)} (sound : Sound sha256 events) :
    verifyFrom sha256 zeroEventHash events = .ok true := by
  have verified := verifyFrom_append sound.linked sound.hashed []
  rw [List.append_nil] at verified
  rw [verified, verifyFrom]

theorem canonicalSha256_finite {value : Json φ} (finite : value.finite = true) :
    canonicalSha256 sha256 value =
      .ok ((sha256 (utf8Encode value.sorted.text)).labelled "") := by
  unfold canonicalSha256 canonicalJson
  rw [if_pos finite]
  rfl

theorem canonicalSha256_not_finite {value : Json φ} (infinite : value.finite ≠ true) :
    ∃ error, canonicalSha256 sha256 value = .error error := by
  unfold canonicalSha256 canonicalJson
  rw [if_neg infinite]
  exact ⟨_, rfl⟩

end Verified

/-! ### Streams and their changes -/

section Streams

variable {φ : Type} [FloatText φ] {sha256 : Bytes → Digest} {before : List (AuditEvent φ)}

/-- What `list_events` shows from the start, without its limit. -/
def EventStore.shown (store : EventStore φ) (taskId generation : String) : List (AuditEvent φ) :=
  (store.auditEvents.of taskId generation).filter fun event => 0 < event.sequence

/-- The events are the first ones of the stream. -/
def Intact (before events : List (AuditEvent φ)) : Prop :=
  events.map AuditEvent.facts <+: before.map AuditEvent.facts

/-- The bytes under the hash of an event. -/
def AuditEvent.hashedBytes (event : AuditEvent φ) : Bytes :=
  utf8Encode (event.contents.hashPayload event.previousHash).sorted.text

theorem AuditEvent.Written.readable {event : AuditEvent φ} (written : event.Written sha256) :
    event.read = event := by
  unfold AuditEvent.read
  have same : event.stage.filter (· ≠ "") = event.stage := by
    cases isStage : event.stage with
    | none => rfl
    | some stage =>
        refine Option.filter_eq_some_iff.mpr ⟨rfl, decide_eq_true ?_⟩
        rintro rfl
        exact absurd (written.stage "" isStage) (by decide)
  rw [same]

/-- The hash of an event is one of its facts. -/
theorem hashed_read_of_facts {left right : AuditEvent φ} (written : left.Written sha256)
    (same : right.facts = left.facts) : right.read.Hashed sha256 := by
  have hashed := written.hashed
  have payload : right.payload.sorted = left.payload.sorted := congrArg AuditEvent.payload same
  have contents : ({ right.read.contents with payload := right.payload.sorted } : NewEvent φ) =
      left.contents := by
    have facts := congrArg AuditEvent.contents same
    rw [AuditEvent.facts, AuditEvent.facts, written.readable] at facts
    refine facts.trans ?_
    unfold AuditEvent.contents
    rw [written.sorted]
  have previous : right.facts.previousHash = left.facts.previousHash := by rw [same]
  have hash : right.facts.eventHash = left.facts.eventHash := by rw [same]
  unfold AuditEvent.Hashed at hashed ⊢
  obtain ⟨text, isText, digest⟩ := (canonicalSha256_eq_ok sha256 _ _).mp hashed
  refine (canonicalSha256_eq_ok sha256 _ _).mpr ⟨text, ?_, digest.trans hash.symm⟩
  unfold canonicalJson at isText ⊢
  split at isText
  · rename_i finite
    rw [hashPayload_finite] at finite
    have isFinite : right.payload.finite = true := by
      refine finite_of_sorted _ ?_
      rw [payload, written.sorted]
      exact finite
    have readFinite : (right.read.contents.hashPayload right.read.previousHash).finite = true := by
      rw [hashPayload_finite]
      exact isFinite
    rw [if_pos readFinite, ← isText, hashPayload_sorted]
    show Except.ok ((({ right.read.contents with payload := right.payload.sorted } :
      NewEvent φ).hashPayload right.previousHash).sorted.text) = _
    rw [contents]
    exact congrArg (fun hash => Except.ok ((left.contents.hashPayload hash).sorted.text)) previous
  · cases isText

variable {events : List (AuditEvent φ)}

omit [FloatText φ] in
theorem linked_facts {root : String} :
    Linked AuditEvent.previousHash AuditEvent.eventHash root (events.map AuditEvent.facts) ↔
      Linked AuditEvent.previousHash AuditEvent.eventHash root events :=
  linked_map (fun _ => rfl) fun _ => rfl

omit [FloatText φ] in
theorem linked_read {root : String} :
    Linked AuditEvent.previousHash AuditEvent.eventHash root (events.map AuditEvent.read) ↔
      Linked AuditEvent.previousHash AuditEvent.eventHash root events :=
  linked_map (fun _ => rfl) fun _ => rfl

/-- What is intact passes the loop. -/
theorem Intact.sound (intact : Intact before events)
    (linked : Linked AuditEvent.previousHash AuditEvent.eventHash zeroEventHash before)
    (written : ∀ event ∈ before, event.Written sha256) :
    Sound sha256 (events.map AuditEvent.read) := by
  constructor
  · exact linked_read.mpr (linked_facts.mp (Linked.of_prefix intact (linked_facts.mpr linked)))
  · intro event present
    obtain ⟨row, isRow, rfl⟩ := List.mem_map.mp present
    obtain ⟨original, isOriginal, same⟩ :=
      List.mem_map.mp (intact.subset (List.mem_map_of_mem isRow))
    exact hashed_read_of_facts (written original isOriginal) same.symm

theorem AuditEvent.Hashed.digest {event : AuditEvent φ} (hashed : event.Hashed sha256) :
    (event.contents.hashPayload event.previousHash).finite = true ∧
      event.eventHash = (sha256 event.hashedBytes).labelled "" := by
  unfold AuditEvent.Hashed at hashed
  by_cases finite : (event.contents.hashPayload event.previousHash).finite = true
  · rw [canonicalSha256_finite finite] at hashed
    exact ⟨finite, (Except.ok.inj hashed).symm⟩
  · obtain ⟨error, raised⟩ := @canonicalSha256_not_finite φ _ sha256 _ finite
    rw [raised] at hashed
    cases hashed

variable {loads : Bytes → Option (Json φ)}

/-- The bytes that are hashed over two lists of events. -/
def hashedBytesOf (before after : List (AuditEvent φ)) : Set Bytes :=
  { bytes | ∃ event ∈ before ++ after.map AuditEvent.read, bytes = event.hashedBytes }

/-- A page of the first thousand. -/
theorem verifyEventChain_eq (taskId generation : String) (store : EventStore φ) :
    verifyEventChain sha256 taskId generation store =
      ((store.shown taskId generation).take 1000).mapM eventFromRow >>=
        verifyFrom sha256 zeroEventHash := by
  unfold verifyEventChain listEvents
  rw [if_pos (Nat.zero_le _), ok_bind]
  rfl

variable {store : EventStore φ}

theorem Chained.shown (chained : Chained sha256 store) (taskId generation : String) :
    store.shown taskId generation = store.auditEvents.of taskId generation := by
  refine List.filter_eq_self.mpr fun event present => decide_eq_true ?_
  exact (chained.written event (List.mem_of_mem_filter present)).positive

/-- A page of the first events passes. -/
theorem verified_of_intact (intact : Intact before events)
    (linked : Linked AuditEvent.previousHash AuditEvent.eventHash zeroEventHash before)
    (written : ∀ event ∈ before, event.Written sha256) :
    events.mapM eventFromRow >>= verifyFrom sha256 zeroEventHash = .ok true := by
  have readable : ∀ row ∈ events, row.Readable := by
    intro row present
    obtain ⟨original, isOriginal, same⟩ :=
      List.mem_map.mp (intact.subset (List.mem_map_of_mem present))
    have isWritten := written original isOriginal
    have stage : original.facts.stage = row.facts.stage := by rw [same]
    have read : original.read.stage = row.read.stage := stage
    unfold AuditEvent.Readable
    rw [← read, isWritten.readable]
    exact isWritten.stage
  rw [mapM_eventFromRow_eq_ok.mpr ⟨readable, rfl⟩, ok_bind]
  exact (intact.sound linked written).verified

theorem Chained.verified (chained : Chained sha256 store) (taskId generation : String) :
    verifyEventChain sha256 taskId generation store = .ok true := by
  rw [verifyEventChain_eq, chained.shown]
  refine verified_of_intact ?_ (chained.linked taskId generation)
    fun event present => chained.written event (List.mem_of_mem_filter present)
  exact (List.take_prefix _ _).map _

end Streams

/-! ### Beyond the first page -/

section Beyond

variable {φ : Type} [FloatText φ] {sha256 : Bytes → Digest} {store : EventStore φ}

/-- The store without the row of one hash. -/
def EventStore.without (store : EventStore φ) (eventHash : String) : EventStore φ :=
  { store with
    auditEvents :=
      { rows := store.auditEvents.rows.filter fun row => row.eventHash ≠ eventHash
        last := store.auditEvents.last
        increasing := store.auditEvents.increasing.filter _
        bounded := fun event present =>
          store.auditEvents.bounded event (List.mem_of_mem_filter present)
        small := store.auditEvents.small } }

/-- The hashes of a recorded stream tell its events apart, so nothing collides among them. -/
theorem Chained.collisionFree (chained : Chained sha256 store) (taskId generation : String)
    {after : List (AuditEvent φ)} (inside : after ⊆ store.auditEvents.of taskId generation) :
    Set.InjOn sha256 (hashedBytesOf (store.auditEvents.of taskId generation) after) := by
  have known : ∀ bytes ∈ hashedBytesOf (store.auditEvents.of taskId generation) after,
      ∃ event ∈ store.auditEvents.rows, event.hashedBytes = bytes := by
    intro bytes isHashed
    obtain ⟨event, present, same⟩ := isHashed
    rcases List.mem_append.mp present with isBefore | isAfter
    · exact ⟨event, List.mem_of_mem_filter isBefore, same.symm⟩
    · obtain ⟨row, isRow, isRead⟩ := List.mem_map.mp isAfter
      have member := List.mem_of_mem_filter (inside isRow)
      rw [(chained.written row member).readable] at isRead
      exact ⟨event, isRead ▸ member, same.symm⟩
  intro left isLeft right isRight same
  obtain ⟨first, isFirst, ofFirst⟩ := known left isLeft
  obtain ⟨second, isSecond, ofSecond⟩ := known right isRight
  rw [← ofFirst, ← ofSecond] at same
  have sameHash : first.eventHash = second.eventHash := by
    rw [(chained.written first isFirst).hashed.digest.2,
      (chained.written second isSecond).hashed.digest.2, same]
  have sameEvent := List.inj_on_of_nodup_map chained.distinct isFirst isSecond sameHash
  rw [← ofFirst, ← ofSecond, sameEvent]

end Beyond

theorem exists_appendEvent {φ : Type} [FloatText φ] {sha256 : Bytes → Digest}
    {event : NewEvent φ} {store : EventStore φ} {eventHash : String}
    (hashed : canonicalSha256 sha256 (event.hashPayload
      ((((store.auditEvents.of event.taskId event.generation).getLast?).map
        AuditEvent.eventHash).getD zeroEventHash)) = .ok eventHash)
    (unique : ¬ ∃ row ∈ store.auditEvents.rows, row.id = event.id ∨ row.eventHash = eventHash)
    (room : store.auditEvents.last < sqliteMax) :
    ∃ later, appendEvent sha256 event store = .ok later ∧
      later.auditEvents.rows = store.auditEvents.rows ++ [event.row
        ((((store.auditEvents.of event.taskId event.generation).getLast?).map
          AuditEvent.eventHash).getD zeroEventHash) eventHash (store.auditEvents.last + 1)] ∧
      later.auditEvents.last = store.auditEvents.last + 1 := by
  unfold appendEvent
  dsimp only
  rw [hashed, ok_bind, raiseIf_bind_of_not unique, dif_pos room]
  exact ⟨_, rfl, rfl, rfl⟩

namespace StreamSample

def note (index : Nat) : NewEvent Empty where
  id := String.ofList (List.replicate index 'a')
  taskId := "task-1"
  generation := "gen_1"
  eventType := "note"
  actor := "worker"
  stage := none
  payload := .dict []
  createdAt := "2026-01-01T00:00:00+00:00"

theorem note_sorted (index : Nat) (previousHash : String) :
    ((note index).hashPayload previousHash).sorted = .dict
      [("actor", .str "worker"), ("created_at", .str "2026-01-01T00:00:00+00:00"),
        ("event_type", .str "note"), ("generation", .str "gen_1"), ("id", .str (note index).id),
        ("payload", .dict []), ("previous_hash", .str previousHash), ("stage", .null),
        ("task_id", .str "task-1")] := by
  have order : sortMembers ([("id", .str (note index).id), ("task_id", .str "task-1"),
      ("generation", .str "gen_1"), ("event_type", .str "note"), ("actor", .str "worker"),
      ("stage", .null), ("payload", .dict []), ("previous_hash", .str previousHash),
      ("created_at", .str "2026-01-01T00:00:00+00:00")] : List (String × Json Empty)) =
      [("actor", .str "worker"), ("created_at", .str "2026-01-01T00:00:00+00:00"),
        ("event_type", .str "note"), ("generation", .str "gen_1"), ("id", .str (note index).id),
        ("payload", .dict []), ("previous_hash", .str previousHash), ("stage", .null),
        ("task_id", .str "task-1")] := by
    simp +decide [sortMembers, List.insertionSort, List.orderedInsert, keyLe]
  rw [hashPayload_eq, Json.sorted]
  exact congrArg Json.dict order

/-- A digest that counts the bytes. -/
def lengthSum (bytes : Bytes) : Digest := BitVec.ofNat 256 bytes.length

theorem wireLength_id (index : Nat) : wireLength (quoted (note index).id) = 2 + index := by
  have letters : (note index).id.toList = List.replicate index 'a' := String.toList_ofList
  rw [wireLength_quoted, letters, wireLength_escaped_wire _ ?_, List.length_replicate]
  intro c present
  rw [List.eq_of_mem_replicate present]
  unfold isWireChar
  decide

theorem wireLength_labelled (digest : Digest) :
    wireLength (quoted (digest.labelled "")) = 66 := by
  have plain : ∀ value, value < 16 → isWireChar (hexDigit value) := by
    unfold isWireChar
    decide
  have wire : ∀ count value, ∀ c ∈ hexDigits count value, isWireChar c := by
    intro count
    induction count with
    | zero =>
        intro value c present
        cases present
    | succ count ih =>
        intro value c present
        rw [hexDigits, List.mem_append, List.mem_singleton] at present
        rcases present with earlier | rfl
        · exact ih _ c earlier
        · exact plain _ (Nat.mod_lt _ (by decide))
  rw [wireLength_quoted, Digest.labelled_toList, String.toList_empty, List.nil_append,
    Digest.hex, wireLength_escaped_wire _ (wire _ _), hexDigits_length]

def base : Nat := wireLength ((note 0).hashPayload ((0 : Digest).labelled "")).sorted.text

theorem note_length (index : Nat) (digest : Digest) :
    wireLength ((note index).hashPayload (digest.labelled "")).sorted.text = base + index := by
  unfold base
  rw [note_sorted, note_sorted]
  simp only [Json.text, jsonTextMembers, wireLength_cons, wireLength_append, wireLength_labelled,
    wireLength_id]
  omega

theorem base_small : base < 1000 := by
  unfold base
  rw [note_sorted]
  decide +kernel

def hashAt (index : Nat) : String := Digest.labelled "" (BitVec.ofNat 256 (base + index))

theorem zero_labelled : Digest.labelled "" 0 = zeroEventHash := by
  have digits : Digest.hex 0 = List.replicate 64 '0' := by decide +kernel
  rw [Digest.labelled, digits, String.empty_append]
  rfl

theorem note_hash (index : Nat) (digest : Digest) :
    canonicalSha256 lengthSum ((note index).hashPayload (digest.labelled "")) =
      .ok (hashAt index) := by
  rw [canonicalSha256_finite (by rw [hashPayload_finite]; rfl)]
  unfold lengthSum hashAt
  have length := note_length index digest
  unfold wireLength at length
  rw [length]

/-- A store with the first notes. -/
structure Grown (count : Nat) (store : EventStore Empty) : Prop where
  recorded : Recorded lengthSum store
  length : (store.auditEvents.of "task-1" "gen_1").length = count
  last : store.auditEvents.last = count
  rows : ∀ row ∈ store.auditEvents.rows, ∃ index < count, row.id = (note index).id ∧
    row.eventHash = hashAt index

theorem id_injective {left right : Nat} (same : (note left).id = (note right).id) :
    left = right := by
  have lists := congrArg String.toList same
  unfold note at lists
  rw [String.toList_ofList, String.toList_ofList] at lists
  have lengths := congrArg List.length lists
  rwa [List.length_replicate, List.length_replicate] at lengths

theorem hash_injective {left right : Nat} (leftSmall : left < 10000) (rightSmall : right < 10000)
    (same : hashAt left =
      hashAt right) : left = right := by
  have digests := congrArg BitVec.toNat (Digest.labelled_injective "" same)
  have small := base_small
  rw [BitVec.toNat_ofNat, BitVec.toNat_ofNat, Nat.mod_eq_of_lt (by omega),
    Nat.mod_eq_of_lt (by omega)] at digests
  omega

theorem note_typed (index : Nat) : (note index).Typed where
  stage := by
    intro stage present
    cases present
  legible := rfl

theorem Grown.next {count : Nat} {store : EventStore Empty} (grown : Grown count store)
    (small : count < 5000) : ∃ later, Grown (count + 1) later := by
  obtain ⟨digest, previous⟩ : ∃ digest : Digest,
      (((store.auditEvents.of "task-1" "gen_1").getLast?).map AuditEvent.eventHash).getD
        zeroEventHash = digest.labelled "" := by
    cases found : (store.auditEvents.of "task-1" "gen_1").getLast? with
    | none => exact ⟨0, zero_labelled.symm⟩
    | some row =>
        obtain ⟨index, _, _, hash⟩ :=
          grown.rows row (List.mem_of_mem_filter (List.mem_of_getLast? found))
        exact ⟨_, hash⟩
  have unique : ¬ ∃ row ∈ store.auditEvents.rows, row.id = (note count).id ∨
      row.eventHash = hashAt count := by
    rintro ⟨row, present, same⟩
    obtain ⟨index, earlier, id, hash⟩ := grown.rows row present
    rcases same with sameId | sameHash
    · rw [id] at sameId
      exact absurd (id_injective sameId) (by omega)
    · rw [hash] at sameHash
      exact absurd (hash_injective (by omega) (by omega) sameHash) (by omega)
  have room : store.auditEvents.last < sqliteMax := by
    rw [grown.last]
    unfold sqliteMax
    omega
  obtain ⟨later, appended, rows, last⟩ :=
    exists_appendEvent (previous ▸ note_hash count digest) unique room
  refine ⟨later, grown.recorded.append (note_typed count) appended, ?_, ?_, ?_⟩
  · rw [of_append rows, if_pos ⟨rfl, rfl⟩, List.length_append, grown.length]
    rfl
  · rw [last, grown.last]
  · intro row present
    rw [rows] at present
    rcases List.mem_append.mp present with earlier | isRow
    · obtain ⟨index, before, same⟩ := grown.rows row earlier
      exact ⟨index, Nat.lt_succ_of_lt before, same⟩
    · rw [List.mem_singleton.mp isRow]
      exact ⟨count, Nat.lt_succ_self _, rfl, rfl⟩

/-- No task and no event. -/
def blank : EventStore Empty where
  tasks := []
  auditEvents := EventTable.empty
  named := by
    intro taskId generation found
    cases found

end StreamSample

end EgoAgent.Api
