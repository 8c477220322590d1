import EgoAgent.Lib.Linked
import EgoAgent.Api.EventStream
import EgoAgent.Api.Idempotency
import EgoAgent.Api.JsonReading

/-!
`verify_event_chain`: what the first page of a stream says about all of it.
-/

namespace EgoAgent.Api

section Verification

variable {φ : Type} [FloatText φ]

/-- The values of `Stage`. -/
def stageValues : List String :=
  ["INTAKE", "CONTEXT", "PLAN", "PLAN_REVIEW", "APPROVAL", "EXECUTE", "OBSERVE", "EVALUATE",
    "VERIFY", "DECIDE", "ARCHIVE", "MEMORY_SKILL", "COMPLETED"]

/-- `_event_from_row`, on rows whose payload and time can be read. -/
def eventFromRow (row : AuditEvent φ) : Except ServiceError (AuditEvent φ) :=
  match row.stage.filter (· ≠ "") with
  | none => .ok { row with stage := none }
  | some stage =>
      if stage ∈ stageValues then .ok row
      else .error (.other "ValueError" ("'" ++ stage ++ "' is not a valid Stage"))

/-- What of an event is hashed, but for the hash before it. -/
def AuditEvent.contents (event : AuditEvent φ) : NewEvent φ where
  id := event.id
  taskId := event.taskId
  generation := event.generation
  eventType := event.eventType
  actor := event.actor
  stage := event.stage
  payload := event.payload
  createdAt := event.createdAt

variable (sha256 : Bytes → Digest)

/-- The loop of `verify_event_chain`. -/
def verifyFrom : String → List (AuditEvent φ) → Except ServiceError Bool
  | _, [] => .ok true
  | previousHash, event :: rest => do
      let expectedHash ← canonicalSha256 sha256 (event.contents.hashPayload previousHash)
      if event.previousHash ≠ previousHash ∨ event.eventHash ≠ expectedHash then .ok false
      else verifyFrom event.eventHash rest

/-- `verify_event_chain`. -/
def verifyEventChain (taskId generation : String) (store : EventStore φ) :
    Except ServiceError Bool := do
  let rows ← listEvents taskId generation 0 1000 store
  let events ← rows.mapM eventFromRow
  verifyFrom sha256 zeroEventHash events

end Verification

/-! ### Recorded streams -/

section Recorded

variable {φ : Type} [FloatText φ] {sha256 : Bytes → Digest}

/-- What `append_event` is given: a stage of the enumeration, and a payload that can be written. -/
structure NewEvent.Typed (event : NewEvent φ) : Prop where
  stage : ∀ stage ∈ event.stage, stage ∈ stageValues
  legible : legible event.payload = true

/-- The stores that appended events and new generations lead to. -/
inductive Recorded (sha256 : Bytes → Digest) : EventStore φ → Prop
  | start {store : EventStore φ} (blank : store.auditEvents = EventTable.empty) :
      Recorded sha256 store
  | append {store later : EventStore φ} {event : NewEvent φ} (recorded : Recorded sha256 store)
      (typed : event.Typed) (appended : appendEvent sha256 event store = .ok later) :
      Recorded sha256 later
  | seed {store : EventStore φ} (recorded : Recorded sha256 store) (taskId suffix : String) :
      Recorded sha256 (upsertSeedTask taskId suffix store)

/-- The hash of an event is that of its contents. -/
def AuditEvent.Hashed (sha256 : Bytes → Digest) (event : AuditEvent φ) : Prop :=
  canonicalSha256 sha256 (event.contents.hashPayload event.previousHash) = .ok event.eventHash

/-- What append_event leaves of an event. -/
structure AuditEvent.Written (sha256 : Bytes → Digest) (event : AuditEvent φ) : Prop where
  hashed : event.Hashed sha256
  stage : ∀ stage ∈ event.stage, stage ∈ stageValues
  legible : legible event.payload = true
  sorted : event.payload.sorted = event.payload
  positive : 0 < event.sequence

/-- The members of `hash_payload`. -/
def NewEvent.hashMembers (event : NewEvent φ) (previousHash : String) : List (String × Json φ) :=
  [("id", .str event.id), ("task_id", .str event.taskId), ("generation", .str event.generation),
    ("event_type", .str event.eventType), ("actor", .str event.actor),
    ("stage", (event.stage.map Json.str).getD .null), ("payload", event.payload),
    ("previous_hash", .str previousHash), ("created_at", .str event.createdAt)]

omit [FloatText φ] in
theorem hashPayload_eq (event : NewEvent φ) (previousHash : String) :
    event.hashPayload previousHash = .dict (event.hashMembers previousHash) := rfl

omit [FloatText φ] in
theorem hashPayload_sorted (event : NewEvent φ) (previousHash : String) :
    (event.hashPayload previousHash).sorted =
      ({ event with payload := event.payload.sorted }.hashPayload previousHash).sorted := by
  rw [hashPayload_eq, hashPayload_eq, Json.sorted, Json.sorted]
  simp only [NewEvent.hashMembers, sortedMembers, sorted_sorted]

theorem hashPayload_finite (event : NewEvent φ) (previousHash : String) :
    (event.hashPayload previousHash).finite = event.payload.finite := by
  unfold NewEvent.hashPayload
  cases event.stage <;> simp [Json.finite, finiteMembers]

/-- The row is hashed as the event was, with its payload in order. -/
theorem canonicalSha256_row {event : NewEvent φ} {previousHash eventHash : String}
    (hashed : canonicalSha256 sha256 (event.hashPayload previousHash) = .ok eventHash) :
    canonicalSha256 sha256
      ({ event with payload := event.payload.sorted }.hashPayload previousHash) =
        .ok eventHash := by
  obtain ⟨text, isText, digest⟩ := (canonicalSha256_eq_ok sha256 _ _).mp hashed
  refine (canonicalSha256_eq_ok sha256 _ _).mpr ⟨text, ?_, digest⟩
  unfold canonicalJson at isText ⊢
  split at isText
  · rename_i finite
    rw [hashPayload_finite] at finite
    rw [if_pos (by rw [hashPayload_finite]; exact finite_sorted _ finite), ← hashPayload_sorted]
    exact isText
  · cases isText

/-- What an append adds to a table. -/
structure Appends (sha256 : Bytes → Digest) (event : NewEvent φ) (store later : EventStore φ) where
  row : AuditEvent φ
  rows : later.auditEvents.rows = store.auditEvents.rows ++ [row]
  contents : row.contents = { event with payload := event.payload.sorted }
  previous : row.previousHash = (((store.auditEvents.of event.taskId event.generation).getLast?).map
    AuditEvent.eventHash).getD zeroEventHash
  hashed : row.Hashed sha256
  fresh : ∀ other ∈ store.auditEvents.rows, other.eventHash ≠ row.eventHash
  positive : 0 < row.sequence

theorem appendEvent_appends {event : NewEvent φ} {store later : EventStore φ}
    (appended : appendEvent sha256 event store = .ok later) :
    Nonempty (Appends sha256 event store later) := by
  unfold appendEvent at appended
  obtain ⟨eventHash, hashed, appended⟩ := (bind_eq_ok _ _ _).mp appended
  obtain ⟨unique, appended⟩ := (raiseIf_bind_eq_ok _ _ _ _).mp appended
  split at appended
  · cases appended
    refine ⟨⟨_, rfl, rfl, rfl, ?_, ?_, Nat.succ_pos _⟩⟩
    · exact canonicalSha256_row hashed
    · intro other present same
      exact unique ⟨other, present, .inr same⟩
  · cases appended

/-- What holds of the events of a recorded store. -/
structure Chained (sha256 : Bytes → Digest) (store : EventStore φ) : Prop where
  written : ∀ event ∈ store.auditEvents.rows, event.Written sha256
  distinct : (store.auditEvents.rows.map AuditEvent.eventHash).Nodup
  linked : ∀ taskId generation, Linked AuditEvent.previousHash AuditEvent.eventHash zeroEventHash
    (store.auditEvents.of taskId generation)

omit [FloatText φ] in
theorem of_append {store later : EventStore φ} {row : AuditEvent φ}
    (rows : later.auditEvents.rows = store.auditEvents.rows ++ [row]) (taskId generation : String) :
    later.auditEvents.of taskId generation =
      if row.taskId = taskId ∧ row.generation = generation then
        store.auditEvents.of taskId generation ++ [row]
      else store.auditEvents.of taskId generation := by
  unfold EventTable.of
  rw [rows, List.filter_append, List.filter_cons, List.filter_nil]
  by_cases same : row.taskId = taskId ∧ row.generation = generation
  · rw [if_pos same, if_pos (by simp [same])]
  · rw [if_neg same, if_neg (by simpa using same), List.append_nil]

theorem Recorded.chained {store : EventStore φ} (recorded : Recorded sha256 store) :
    Chained sha256 store := by
  induction recorded with
  | start blank =>
      refine ⟨?_, ?_, ?_⟩
      · intro event present
        rw [blank] at present
        cases present
      · rw [blank]
        exact List.nodup_nil
      · intro taskId generation
        unfold EventTable.of
        rw [blank]
        trivial
  | append recorded typed appended ih =>
      rename_i store later event
      obtain ⟨row, rows, contents, previous, hashed, fresh, positive⟩ :=
        appendEvent_appends appended
      have payload : row.payload = event.payload.sorted := congrArg NewEvent.payload contents
      refine ⟨?_, ?_, ?_⟩
      · intro other present
        rw [rows] at present
        rcases List.mem_append.mp present with earlier | isRow
        · exact ih.written other earlier
        · rw [List.mem_singleton.mp isRow]
          have stage : row.stage = event.stage := congrArg NewEvent.stage contents
          exact ⟨hashed, by rw [stage]; exact typed.stage,
            by rw [payload]; exact legible_sorted _ typed.legible,
            by rw [payload, sorted_sorted], positive⟩
      · rw [rows, List.map_append, List.map_singleton]
        refine List.nodup_append.mpr ⟨ih.distinct, List.nodup_singleton _, ?_⟩
        intro hash present other isOther
        rw [List.mem_singleton.mp isOther]
        obtain ⟨earlier, member, rfl⟩ := List.mem_map.mp present
        exact fresh earlier member
      · intro taskId generation
        rw [of_append rows]
        split
        · rename_i same
          rw [linked_append_singleton]
          refine ⟨ih.linked taskId generation, ?_⟩
          have ofTask : event.taskId = taskId :=
            (congrArg NewEvent.taskId contents).symm.trans same.1
          have ofGeneration : event.generation = generation :=
            (congrArg NewEvent.generation contents).symm.trans same.2
          rw [previous, ofTask, ofGeneration]
        · exact ih.linked taskId generation
  | seed recorded taskId suffix ih => exact ⟨ih.written, ih.distinct, ih.linked⟩

end Recorded

end EgoAgent.Api
