import EgoAgent.Lib.Dict
import EgoAgent.Api.Provenance

/-!
The operation lease of a bridge run and the store calls it guards.

The lease is a document under one key of a run's checkpoint.  Claiming, renewing
and releasing rewrite it without a new version; a run update, an event and a
receipt only check it.
-/

namespace EgoAgent.Bridge

open EgoAgent.Api Effect

/-! ### Errors -/

/-- A `BridgeError`, or the `ValueError` of an invalid argument. -/
inductive Failure where
  | bridge (code message : String) (statusCode : Nat) (retryable : Bool)
  | value (message : String)
  deriving DecidableEq

def runNotFound : Failure := .bridge "run_not_found" "Bridge run was not found" 404 false

def leaseInvalid (message : String) : Failure := .bridge "operation_lease_invalid" message 409 false

def leaseLost : Failure :=
  .bridge "operation_lease_lost" "Bridge operation no longer owns the persisted run lease" 409 true

def leaseExpired : Failure :=
  .bridge "operation_lease_lost" "Bridge operation lease expired before the state transition" 409
    true

def operationInProgress : Failure :=
  .bridge "operation_in_progress" "Another bridge process owns the run operation lease" 409 true

def leaseMutation (message : String) : Failure :=
  .bridge "operation_lease_mutation" message 409 false

/-! ### Leases -/

/-- Microseconds of a timezone-aware time. -/
abbrev Instant := Int

/-- `expires_at`; a text that is no aware time is kept as it is. -/
inductive Expiry where
  | at (instant : Instant)
  | unreadable (text : String)
  deriving DecidableEq

structure Lease where
  operation : String
  ownerId : String
  acquiredAt : Instant
  expiresAt : Expiry
  timeoutSeconds : Int
  deriving DecidableEq

/-- The value a checkpoint holds under `_operation_lease`. -/
inductive LeaseEntry where
  | absent
  | malformed
  | incomplete
  | complete (lease : Lease)
  deriving DecidableEq

/-- `_operation_lease`. -/
def LeaseEntry.operationLease : LeaseEntry → Except Failure (Option Lease)
  | .absent => .ok none
  | .malformed =>
      .error (leaseInvalid "Persisted bridge operation lease is malformed; refusing to steal it")
  | .incomplete =>
      .error (leaseInvalid "Persisted bridge operation lease is incomplete; refusing to steal it")
  | .complete lease => .ok (some lease)

/-- `_lease_expiry`. -/
def Lease.expiry (lease : Lease) : Except Failure Instant :=
  match lease.expiresAt with
  | .at instant => .ok instant
  | .unreadable _ =>
      .error (leaseInvalid
        "Persisted bridge operation lease has an invalid expiry; refusing to steal it")

/-- `_lease_payload`. -/
def leasePayload (operation ownerId : String) (acquiredAt : Instant) (timeoutSeconds : Int) :
    Except Failure Lease := do
  raiseIf (operation = "" ∨ ownerId = "" ∨ ¬ (1 ≤ timeoutSeconds ∧ timeoutSeconds ≤ 3600))
    (.value "operation, owner_id, and a 1..3600 second lease timeout are required")
  pure ⟨operation, ownerId, acquiredAt, .at (acquiredAt + timeoutSeconds * 1000000), timeoutSeconds⟩

/-- `_raise_if_lease_held`. -/
def raiseIfLeaseHeld (entry : LeaseEntry) (acquiredAt : Instant) : Except Failure Unit := do
  match ← entry.operationLease with
  | none => pure ()
  | some lease =>
      let expiresAt ← lease.expiry
      raiseIf (¬ expiresAt ≤ acquiredAt) operationInProgress

/-- `_assert_update_lease`. -/
def assertUpdateLease (entry next : LeaseEntry) (leaseOwner : Option String) (checkedAt : Instant) :
    Except Failure Unit := do
  let lease ← entry.operationLease
  let nextLease ← next.operationLease
  match lease, leaseOwner with
  | none, none =>
      raiseIf (nextLease ≠ none) (leaseMutation "Run updates may not create an operation lease")
  | some lease, some owner =>
      raiseIf (lease.ownerId ≠ owner) leaseLost
      let expiresAt ← lease.expiry
      raiseIf (expiresAt ≤ checkedAt) leaseExpired
      raiseIf (nextLease ≠ some lease) (leaseMutation
        "Run updates may not remove, replace, or extend the operation lease")
  | _, _ => .error leaseLost

/-! ### The store -/

/-- A row of `bridge_runs`; `content` is its state, task graph and the rest of its checkpoint. -/
structure RunRow (κ : Type) where
  content : κ
  lease : LeaseEntry
  version : Int
  updatedAt : Instant

structure EventRow (φ : Type) where
  eventId : String
  runId : String
  kind : String
  envelope : Json φ
  previousHash : String
  eventHash : String
  createdAt : String

structure ReceiptRow (φ : Type) where
  receiptId : String
  runId : String
  receiptKey : String
  source : String
  kind : String
  payload : Json φ
  payloadSha256 : String
  previousHash : String
  receiptHash : String
  createdAt : String

structure Store (κ φ : Type) where
  runs : Dict String (RunRow κ)
  events : List (EventRow φ)
  receipts : List (ReceiptRow φ)

def zeroHash : String := String.ofList (List.replicate 64 '0')

section Calls

variable {κ φ : Type} [FloatText φ] (sha256 : Bytes → Digest)

/-- `canonical_sha256` of the bridge. -/
def bridgeSha256 (value : Json φ) : String := (sha256 (utf8Encode value.sorted.text)).labelled ""

def Store.setRun (runId : String) (row : RunRow κ) (store : Store κ φ) : Store κ φ :=
  { store with runs := store.runs.set runId row }

def Store.run (store : Store κ φ) (runId : String) : Except Failure (RunRow κ) :=
  expect runNotFound (store.runs.get? runId)

def claimOperation (runId operation ownerId : String) (timeoutSeconds : Int) (now : Instant) :
    Effect (Store κ φ) Failure Unit := transaction do
  let lease ← check (leasePayload operation ownerId now timeoutSeconds)
  let store ← read
  let row ← check (store.run runId)
  check (raiseIfLeaseHeld row.lease now)
  write (Store.setRun runId { row with lease := .complete lease })

def releaseOperation (runId ownerId : String) : Effect (Store κ φ) Failure Unit := transaction do
  let store ← read
  match store.runs.get? runId with
  | none => pure ()
  | some row =>
      let lease ← check row.lease.operationLease
      if lease.map Lease.ownerId = some ownerId then
        write (Store.setRun runId { row with lease := .absent })
      else pure ()

def renewOperation (runId ownerId : String) (timeoutSeconds : Int) (now : Instant) :
    Effect (Store κ φ) Failure Unit := transaction do
  let store ← read
  let row ← check (store.run runId)
  let lease ← check row.lease.operationLease
  check (assertUpdateLease row.lease row.lease (some ownerId) now)
  let lease ← check (expect leaseLost lease)
  let renewed ← check (leasePayload lease.operation ownerId now timeoutSeconds)
  write (Store.setRun runId { row with lease := .complete renewed })

/-- The run as its caller holds it: the content and the lease of its checkpoint. -/
def updateRun (runId : String) (content : κ) (lease : LeaseEntry) (expectedVersion : Int)
    (leaseOwner : Option String) (updatedAt now : Instant) : Effect (Store κ φ) Failure Unit :=
  transaction do
    let store ← read
    let current ← check (store.run runId)
    check (raiseIf (current.version ≠ expectedVersion)
      (.bridge "run_version_conflict"
        "Bridge run was concurrently modified; reload before retrying" 409 true))
    check (assertUpdateLease current.lease lease leaseOwner now)
    write (Store.setRun runId ⟨content, lease, expectedVersion + 1, updatedAt⟩)

def Store.lastEventHash (store : Store κ φ) (runId : String) : String :=
  ((store.events.filter fun row => row.runId = runId).getLast?.map EventRow.eventHash).getD zeroHash

def appendEvent (runId eventId kind createdAt : String) (envelope : Json φ)
    (leaseOwner : Option String) (now : Instant) : Effect (Store κ φ) Failure Unit :=
  transaction do
    let store ← read
    let row ← check (store.run runId)
    check (assertUpdateLease row.lease row.lease leaseOwner now)
    let previousHash := store.lastEventHash runId
    let eventHash := bridgeSha256 sha256 <| .dict
      [("event_id", .str eventId), ("run_id", .str runId), ("kind", .str kind),
        ("envelope", envelope), ("previous_hash", .str previousHash), ("created_at", .str createdAt)]
    write fun store => { store with events := store.events ++
      [⟨eventId, runId, kind, envelope, previousHash, eventHash, createdAt⟩] }

def Store.lastReceiptHash (store : Store κ φ) (runId : String) : String :=
  ((store.receipts.filter fun row => row.runId = runId).getLast?.map
    ReceiptRow.receiptHash).getD zeroHash

def archiveReceipt (runId receiptId receiptKey source kind createdAt : String) (payload : Json φ)
    (leaseOwner : Option String) (now : Instant) : Effect (Store κ φ) Failure Unit :=
  transaction do
    let store ← read
    let row ← check (store.run runId)
    check (assertUpdateLease row.lease row.lease leaseOwner now)
    let payloadSha256 := bridgeSha256 sha256 payload
    match store.receipts.find? fun row => row.runId = runId ∧ row.receiptKey = receiptKey with
    | some existing =>
        check (raiseIf (existing.payloadSha256 ≠ payloadSha256 ∨ existing.source ≠ source ∨
            existing.kind ≠ kind)
          (.bridge "receipt_key_conflict"
            "A receipt key was replayed with different upstream content" 409 false))
    | none =>
        let previousHash := store.lastReceiptHash runId
        let receiptHash := bridgeSha256 sha256 <| (.dict
          [("receipt_id", .str receiptId), ("run_id", .str runId), ("receipt_key", .str receiptKey),
            ("source", .str source), ("kind", .str kind), ("payload_sha256", .str payloadSha256),
            ("previous_hash", .str previousHash), ("created_at", .str createdAt)] : Json φ)
        write fun store => { store with receipts := store.receipts ++
          [⟨receiptId, runId, receiptKey, source, kind, payload, payloadSha256, previousHash,
            receiptHash, createdAt⟩] }

end Calls

/-! ### Calls as data -/

/-- One store call with its arguments. -/
inductive Call (κ φ : Type) where
  | claim (runId operation ownerId : String) (timeoutSeconds : Int)
  | release (runId ownerId : String)
  | renew (runId ownerId : String) (timeoutSeconds : Int)
  | update (runId : String) (content : κ) (lease : LeaseEntry) (expectedVersion : Int)
      (leaseOwner : Option String) (updatedAt : Instant)
  | event (runId eventId kind createdAt : String) (envelope : Json φ) (leaseOwner : Option String)
  | receipt (runId receiptId receiptKey source kind createdAt : String) (payload : Json φ)
      (leaseOwner : Option String)

section Perform

variable {κ φ : Type} [FloatText φ] (sha256 : Bytes → Digest)

def Call.perform (call : Call κ φ) (now : Instant) : Effect (Store κ φ) Failure Unit :=
  match call with
  | .claim runId operation ownerId timeoutSeconds =>
      claimOperation runId operation ownerId timeoutSeconds now
  | .release runId ownerId => releaseOperation runId ownerId
  | .renew runId ownerId timeoutSeconds => renewOperation runId ownerId timeoutSeconds now
  | .update runId content lease expectedVersion leaseOwner updatedAt =>
      updateRun runId content lease expectedVersion leaseOwner updatedAt now
  | .event runId eventId kind createdAt envelope leaseOwner =>
      appendEvent sha256 runId eventId kind createdAt envelope leaseOwner now
  | .receipt runId receiptId receiptKey source kind createdAt payload leaseOwner =>
      archiveReceipt sha256 runId receiptId receiptKey source kind createdAt payload leaseOwner now

/-- The store after an interleaving, whatever each call returned. -/
def after (store : Store κ φ) (calls : List (Instant × Call κ φ)) : Store κ φ :=
  calls.foldl (fun store timed => (timed.2.perform sha256 timed.1 store).2) store

end Perform

end EgoAgent.Bridge
