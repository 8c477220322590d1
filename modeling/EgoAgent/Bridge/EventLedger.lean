import EgoAgent.Api.JsonReading
import EgoAgent.Bridge.Fencing
import EgoAgent.Lib.Frame

/-!
The event ledger of a bridge run: envelopes are appended under the hash of the
event before, and `events` recomputes the chain from what it reads.
-/

namespace EgoAgent.Bridge

open EgoAgent.Api Effect

/-! ### Envelopes -/

inductive EnvelopeKind where
  | taskRequest
  | taskUpdate
  | artifactAccepted
  | conflict
  | replan
  | approvalRequired
  | approvalGranted
  | compensation
  | terminal
  deriving DecidableEq

def EnvelopeKind.text : EnvelopeKind → String
  | .taskRequest => "TASK_REQUEST"
  | .taskUpdate => "TASK_UPDATE"
  | .artifactAccepted => "ARTIFACT_ACCEPTED"
  | .conflict => "CONFLICT"
  | .replan => "REPLAN"
  | .approvalRequired => "APPROVAL_REQUIRED"
  | .approvalGranted => "APPROVAL_GRANTED"
  | .compensation => "COMPENSATION"
  | .terminal => "TERMINAL"

/-- A `datetime`: its instant and, if it is aware, its offset in minutes. -/
structure EventTime where
  instant : Instant
  offset : Option Int

/-- `CollaborationEnvelope`.  Its `body_sha256` is validated to be that of the body. -/
structure Envelope (φ : Type) where
  envelopeId : String
  taskId : String
  projectId : String
  traceId : String
  correlationId : String
  contextVersion : Int
  attempt : Int
  kind : EnvelopeKind
  sender : String
  recipient : String
  causationId : Option String
  body : List (String × Json φ)
  createdAt : EventTime
  idsLong : 3 ≤ taskId.length ∧ 3 ≤ projectId.length ∧ 8 ≤ traceId.length ∧
    8 ≤ correlationId.length
  contextPositive : 1 ≤ contextVersion
  attemptPositive : 1 ≤ attempt
  senderSome : sender ≠ ""
  senderPlain : ∀ c ∈ sender.toList,
    ('a' ≤ c ∧ c ≤ 'z') ∨ ('0' ≤ c ∧ c ≤ '9') ∨ c ∈ ['.', '_', '-']

/-- How times are written: in UTC by `isoformat`, and by the model's JSON mode. -/
structure TimeText where
  utcIso : Instant → String
  jsonIso : EventTime → String

section Ledger

variable {κ φ : Type} [FloatText φ] (sha256 : Bytes → Digest) (times : TimeText)

/-- `envelope.model_dump(mode="json", by_alias=True)`. -/
def Envelope.dump (envelope : Envelope φ) : List (String × Json φ) :=
  [("schema", .str "egoagentos.agentteams-envelope.v2"),
    ("envelope_id", .str envelope.envelopeId), ("task_id", .str envelope.taskId),
    ("project_id", .str envelope.projectId), ("trace_id", .str envelope.traceId),
    ("correlation_id", .str envelope.correlationId),
    ("context_version", .int envelope.contextVersion), ("attempt", .int envelope.attempt),
    ("kind", .str envelope.kind.text), ("sender", .str envelope.sender),
    ("recipient", .str envelope.recipient),
    ("causation_id", match envelope.causationId with | some id => .str id | none => .null),
    ("body", .dict envelope.body),
    ("body_sha256", .str (bridgeSha256 sha256 (.dict envelope.body))),
    ("created_at", .str (times.jsonIso envelope.createdAt))]

def eventTimeInvalid : Failure :=
  .bridge "event_time_invalid" "Bridge ledger timestamps must carry an explicit timezone" 409 false

/-- `_utc_iso`. -/
def utcIso (time : EventTime) : Except Failure String := do
  raiseIf (time.offset = none) eventTimeInvalid
  .ok (times.utcIso time.instant)

/-- `append_event` of an envelope, under the event id it drew. -/
def appendEnvelope (runId eventId : String) (envelope : Envelope φ) (leaseOwner : Option String)
    (now : Instant) : Effect (Store κ φ) Failure Unit := do
  let createdAt ← check (utcIso times envelope.createdAt)
  appendEvent sha256 runId eventId envelope.kind.text createdAt
    (.dict (envelope.dump sha256 times)) leaseOwner now

/-- What is hashed of an event. -/
def hashPayload (eventId runId kind previousHash createdAt : String) (envelope : Json φ) :
    Json φ :=
  .dict [("event_id", .str eventId), ("run_id", .str runId), ("kind", .str kind),
    ("envelope", envelope), ("previous_hash", .str previousHash), ("created_at", .str createdAt)]

/-! ### Reading the ledger -/

/-- `json.loads(row["envelope_json"])`. -/
def readEnvelope (loads : Bytes → Option (Json φ)) (row : EventRow φ) : Except Failure (Json φ) :=
  expect (.value "envelope_json is not JSON") (loads (utf8Encode row.envelope.sorted.text))

/-- Whether the rows form a chain from `expected` on. -/
def chainValid (expected : String) : List (EventRow φ × Json φ) → Bool
  | [] => true
  | (row, envelope) :: rest =>
      row.previousHash == expected &&
        row.eventHash == bridgeSha256 sha256
          (hashPayload row.eventId row.runId row.kind row.previousHash row.createdAt envelope) &&
        chainValid row.eventHash rest

def ledgerItem (sequence : Nat) (row : EventRow φ) (envelope : Json φ) : Json φ :=
  .dict [("sequence", .int sequence), ("event_id", .str row.eventId), ("kind", .str row.kind),
    ("envelope", envelope), ("previous_hash", .str row.previousHash),
    ("event_hash", .str row.eventHash), ("created_at", .str row.createdAt)]

/-- The rows of a run with their sequence numbers in the table. -/
def Store.eventRows (store : Store κ φ) (runId : String) : List (EventRow φ × Nat) :=
  (store.events.zipIdx 1).filter fun entry => entry.1.runId = runId

def readEnvelopes (loads : Bytes → Option (Json φ)) :
    List (EventRow φ × Nat) → Except Failure (List (EventRow φ × Json φ))
  | [] => .ok []
  | (row, _) :: rest => do
      let envelope ← readEnvelope loads row
      let others ← readEnvelopes loads rest
      .ok ((row, envelope) :: others)

/-- `BridgeStore.events`. -/
def events (loads : Bytes → Option (Json φ)) (store : Store κ φ) (runId : String) :
    Except Failure (List (String × Json φ)) := do
  let _ ← store.run runId
  let rows := store.eventRows runId
  let read ← readEnvelopes loads rows
  .ok [("items", .list ((rows.zip read).map fun entry =>
      ledgerItem entry.1.2 entry.1.1 entry.2.2)),
    ("total", .int rows.length), ("chain_valid", .bool (chainValid sha256 zeroHash read))]

/-! ### Runs -/

/-- Whether a call appends no event. -/
def Call.silent : Call κ φ → Bool
  | .event .. => false
  | _ => true

/-- A call on the store: an envelope is appended, or it is a call that appends none. -/
inductive LedgerCall (κ φ : Type) where
  | append (runId eventId : String) (envelope : Envelope φ) (leaseOwner : Option String)
  | other (call : Call κ φ) (silent : call.silent = true)

def LedgerCall.perform (call : LedgerCall κ φ) (now : Instant) : Effect (Store κ φ) Failure Unit :=
  match call with
  | .append runId eventId envelope leaseOwner =>
      appendEnvelope sha256 times runId eventId envelope leaseOwner now
  | .other call _ => call.perform sha256 now

/-- The store after some calls, whatever each of them returned. -/
def afterLedgerCalls (store : Store κ φ) (calls : List (Instant × LedgerCall κ φ)) : Store κ φ :=
  calls.foldl (fun store timed => (timed.2.perform sha256 times timed.1 store).2) store

/-! ### The chain of a run -/

/-- The row of an appended envelope. -/
def rowOf (runId previousHash eventId : String) (envelope : Envelope φ) : EventRow φ where
  eventId := eventId
  runId := runId
  kind := envelope.kind.text
  envelope := .dict (envelope.dump sha256 times)
  previousHash := previousHash
  eventHash := bridgeSha256 sha256 (hashPayload eventId runId envelope.kind.text previousHash
    (times.utcIso envelope.createdAt.instant) (.dict (envelope.dump sha256 times)))
  createdAt := times.utcIso envelope.createdAt.instant

/-- The rows of appended envelopes, one upon the other. -/
def rowsOf (runId : String) : String → List (String × Envelope φ) → List (EventRow φ)
  | _, [] => []
  | previousHash, (eventId, envelope) :: rest =>
      rowOf sha256 times runId previousHash eventId envelope ::
        rowsOf runId (rowOf sha256 times runId previousHash eventId envelope).eventHash rest

def lastHash (previousHash : String) (rows : List (EventRow φ)) : String :=
  (rows.getLast?.map EventRow.eventHash).getD previousHash

omit [FloatText φ] in
theorem lastHash_cons (previousHash : String) (row : EventRow φ) (rows : List (EventRow φ)) :
    lastHash previousHash (row :: rows) = lastHash row.eventHash rows := by
  cases rows with
  | nil => rfl
  | cons second rest =>
      unfold lastHash
      rw [List.getLast?_cons_cons]
      cases last : (second :: rest).getLast? with
      | none => simp at last
      | some row => rfl

theorem rowsOf_concat (runId previousHash eventId : String) (envelope : Envelope φ)
    (appended : List (String × Envelope φ)) :
    rowsOf sha256 times runId previousHash (appended ++ [(eventId, envelope)]) =
      rowsOf sha256 times runId previousHash appended ++
        [rowOf sha256 times runId
          (lastHash previousHash (rowsOf sha256 times runId previousHash appended)) eventId
          envelope] := by
  induction appended generalizing previousHash with
  | nil => rfl
  | cons first rest ih =>
      obtain ⟨id, other⟩ := first
      rw [List.cons_append, rowsOf, rowsOf, ih, lastHash_cons, List.cons_append]

theorem rowsOf_eventIds (runId : String) :
    ∀ (appended : List (String × Envelope φ)) (previousHash : String),
      (rowsOf sha256 times runId previousHash appended).map EventRow.eventId =
        appended.map Prod.fst
  | [], _ => rfl
  | (eventId, envelope) :: rest, previousHash => by
      rw [rowsOf, List.map_cons, rowsOf_eventIds runId rest]
      rfl

/-- The events a run was asked to append, in order. -/
def appendsTo (runId : String) (calls : List (Instant × LedgerCall κ φ)) :
    List (String × Envelope φ) :=
  calls.filterMap fun timed =>
    match timed.2 with
    | .append run eventId envelope _ => if run = runId then some (eventId, envelope) else none
    | _ => none

/-- The rows of the run are a chain of the envelopes. -/
def Holds (store : Store κ φ) (runId : String) (appended : List (String × Envelope φ)) : Prop :=
  (store.events.filter fun row => row.runId = runId) =
      rowsOf sha256 times runId zeroHash appended ∧
    ∀ entry ∈ appended, entry.2.createdAt.offset ≠ none

variable {sha256 times}

variable {runId : String}

theorem mem_rowsOf {row : EventRow φ} :
    ∀ {appended : List (String × Envelope φ)} {previousHash : String},
      row ∈ rowsOf sha256 times runId previousHash appended →
        ∃ entry ∈ appended, row.envelope = .dict (entry.2.dump sha256 times)
  | [], _, present => nomatch present
  | (eventId, envelope) :: rest, _, present => by
      rw [rowsOf, List.mem_cons] at present
      rcases present with rfl | later
      · exact ⟨(eventId, envelope), List.mem_cons_self, rfl⟩
      · obtain ⟨entry, inside, same⟩ := mem_rowsOf later
        exact ⟨entry, List.mem_cons_of_mem _ inside, same⟩

variable (sha256 times) in
theorem appendEnvelope_cases (runId eventId : String) (envelope : Envelope φ)
    (leaseOwner : Option String) (now : Instant) (store : Store κ φ) :
    (appendEnvelope sha256 times runId eventId envelope leaseOwner now store).2 = store ∨
      (envelope.createdAt.offset ≠ none ∧
        (appendEnvelope sha256 times runId eventId envelope leaseOwner now store).2 =
          { store with events := store.events ++
            [rowOf sha256 times runId (store.lastEventHash runId) eventId envelope] }) := by
  by_cases aware : envelope.createdAt.offset = none
  · left
    unfold appendEnvelope utcIso
    simp [raiseIf, aware, Effect.check_bind_apply]
    rfl
  · have time : utcIso times envelope.createdAt =
        .ok (times.utcIso envelope.createdAt.instant) := by
      unfold utcIso
      rw [raiseIf_bind_of_not aware]
    unfold appendEnvelope
    rw [time, Effect.check_ok_bind]
    rcases outcome : appendEvent sha256 runId eventId envelope.kind.text
      (times.utcIso envelope.createdAt.instant) (.dict (envelope.dump sha256 times)) leaseOwner now
      store with ⟨error | _, later⟩
    · exact .inl (Effect.atomic_transaction _ _ error later outcome)
    · right
      refine ⟨aware, ?_⟩
      have inner := (Effect.transaction_eq_ok _ _ _ _).mp outcome
      rw [Effect.read_bind] at inner
      obtain ⟨row, _, inner⟩ := (Effect.check_bind_eq_ok _ _ _ _ _).mp inner
      obtain ⟨_, _, inner⟩ := (Effect.check_bind_eq_ok _ _ _ _ _).mp inner
      rw [← (Prod.mk.inj inner).2]
      rfl

/-- A call that appends no event leaves the events alone. -/
theorem silent_preserves {call : Call κ φ} (silent : call.silent = true) (now : Instant) :
    Preserves (fun store : Store κ φ => store.events) (call.perform sha256 now) := by
  cases call with
  | claim runId operation ownerId timeoutSeconds =>
      exact preserves_transaction <| preserves_bind (preserves_check _) fun _ =>
        preserves_bind preserves_read fun _ => preserves_bind (preserves_check _) fun _ =>
          preserves_bind (preserves_check _) fun _ => preserves_write fun _ => rfl
  | release runId ownerId =>
      refine preserves_transaction <| preserves_bind preserves_read fun store => ?_
      split
      · exact preserves_pure ()
      · refine preserves_bind (preserves_check _) fun lease => ?_
        split
        · exact preserves_write fun _ => rfl
        · exact preserves_pure ()
  | renew runId ownerId timeoutSeconds =>
      exact preserves_transaction <| preserves_bind preserves_read fun _ =>
        preserves_bind (preserves_check _) fun _ => preserves_bind (preserves_check _) fun _ =>
          preserves_bind (preserves_check _) fun _ => preserves_bind (preserves_check _) fun _ =>
            preserves_bind (preserves_check _) fun _ => preserves_write fun _ => rfl
  | update runId content lease expectedVersion leaseOwner updatedAt =>
      exact preserves_transaction <| preserves_bind preserves_read fun _ =>
        preserves_bind (preserves_check _) fun _ => preserves_bind (preserves_check _) fun _ =>
          preserves_bind (preserves_check _) fun _ => preserves_write fun _ => rfl
  | event runId eventId kind createdAt envelope leaseOwner => cases silent
  | receipt runId receiptId receiptKey source kind createdAt payload leaseOwner =>
      refine preserves_transaction <| preserves_bind preserves_read fun store =>
        preserves_bind (preserves_check _) fun row => preserves_bind (preserves_check _) fun _ => ?_
      simp only
      split
      · exact preserves_check _
      · exact preserves_write fun _ => rfl

/-- One call extends the chain of a run at most by the envelope it appends. -/
theorem perform_holds {appended : List (String × Envelope φ)}
    {store : Store κ φ} (holds : Holds sha256 times store runId appended)
    (timed : Instant × LedgerCall κ φ) :
    ∃ more, more.Sublist (appendsTo runId [timed]) ∧
      Holds sha256 times (timed.2.perform sha256 times timed.1 store).2 runId
        (appended ++ more) := by
  have kept : (timed.2.perform sha256 times timed.1 store).2.events = store.events →
      ∃ more, more.Sublist (appendsTo runId [timed]) ∧
        Holds sha256 times (timed.2.perform sha256 times timed.1 store).2 runId
          (appended ++ more) := by
    intro same
    refine ⟨[], List.nil_sublist _, ?_⟩
    rw [List.append_nil]
    exact ⟨by rw [same]; exact holds.1, holds.2⟩
  obtain ⟨now, call⟩ := timed
  cases call with
  | append run eventId envelope leaseOwner =>
      rcases appendEnvelope_cases sha256 times run eventId envelope leaseOwner now store
        with same | ⟨aware, written⟩
      · exact kept (congrArg Store.events same)
      · by_cases here : run = runId
        · subst here
          refine ⟨[(eventId, envelope)], by simp [appendsTo], ?_, ?_⟩
          · change ((appendEnvelope sha256 times run eventId envelope leaseOwner now
              store).2.events.filter _) = _
            rw [written, rowsOf_concat, ← holds.1]
            simp [rowOf, Store.lastEventHash, lastHash]
          · intro entry present
            rcases List.mem_append.mp present with earlier | last
            · exact holds.2 entry earlier
            · rw [List.mem_singleton.mp last]
              exact aware
        · refine ⟨[], List.nil_sublist _, ?_⟩
          rw [List.append_nil]
          refine ⟨?_, holds.2⟩
          change ((appendEnvelope sha256 times run eventId envelope leaseOwner now
            store).2.events.filter _) = _
          rw [written, ← holds.1]
          simp [rowOf, here]
  | other call silent => exact kept (silent_preserves silent now store)

/-- After any calls the rows of the run are a chain of some of the envelopes it was asked to
append, in order. -/
theorem after_holds (calls : List (Instant × LedgerCall κ φ)) :
    ∀ {appended : List (String × Envelope φ)} {store : Store κ φ},
      Holds sha256 times store runId appended →
        ∃ more, more.Sublist (appendsTo runId calls) ∧
          Holds sha256 times (afterLedgerCalls sha256 times store calls) runId
            (appended ++ more) := by
  induction calls with
  | nil =>
      intro appended store holds
      exact ⟨[], List.nil_sublist _, by rw [List.append_nil]; exact holds⟩
  | cons timed rest ih =>
      intro appended store holds
      obtain ⟨first, inFirst, holdsFirst⟩ := perform_holds holds timed
      obtain ⟨later, inRest, holdsLater⟩ := ih holdsFirst
      refine ⟨first ++ later, ?_, by rw [← List.append_assoc]; exact holdsLater⟩
      have split : appendsTo runId (timed :: rest) =
          appendsTo runId [timed] ++ appendsTo runId rest := by
        unfold appendsTo
        rw [← List.filterMap_append, List.singleton_append]
      rw [split]
      exact inFirst.append inRest

end Ledger

end EgoAgent.Bridge
