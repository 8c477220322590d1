import EgoAgent.Lib.Dict
import EgoAgent.SecureMemory.Canonical

/-!
`append_trusted_memory_record`: history, streams and the current projection.

Every lineage has a hash-chained history, a stream row with its head and, once a
trusted fact was appended, one current row.  A record's content is its JSON
document; `Body` holds the fields the store reads.
-/

namespace EgoAgent.TrustedMemory

open EgoAgent.Api Effect

/-! ### Records -/

inductive MemoryState where
  | candidate
  | validated
  | rejected
  | quarantined
  | conflicted
  | expired
  | revoked
  | superseded
  deriving DecidableEq

/-- `_ALLOWED_LIFECYCLE_TRANSITIONS`. -/
def MemoryState.Allowed : MemoryState → MemoryState → Prop
  | .candidate, .validated | .candidate, .rejected | .candidate, .quarantined
  | .candidate, .conflicted | .candidate, .expired | .candidate, .revoked
  | .validated, .superseded | .validated, .conflicted | .validated, .expired
  | .validated, .revoked => True
  | _, _ => False

/-- The length of an identifier. -/
abbrev Bounded (limit : Nat) (text : String) : Prop := 1 ≤ text.length ∧ text.length ≤ limit

structure Scope where
  tenantId : String
  projectId : String
  component : String
  version : String
  tenantBounded : Bounded 200 tenantId
  projectBounded : Bounded 200 projectId
  componentBounded : Bounded 200 component
  versionBounded : Bounded 120 version

structure CandidateFact where
  scope : Scope
  lineageId : String

inductive DecisionOutcome where
  | keep
  | drop
  | inconclusive
  deriving DecidableEq

inductive MemoryOrigin where
  | localTrusted
  | attestedExternal
  | originUnverified
  | synthetic
  | revoked
  deriving DecidableEq

/-- `TrustedFactCore`; `statement` is the text of its canonical base64. -/
structure TrustedFactCore where
  factKind : String
  statement : String
  kindNonempty : 1 ≤ factKind.length
  statementNonempty : 1 ≤ statement.length

/-- `FactProvenance`, with the document its digest is taken of. -/
structure FactProvenance where
  decisionClosureDigest : String
  evidenceIds : List String
  evidenceDigests : List String
  document : Json Empty
  idsSorted : evidenceIds.Pairwise (· < ·)
  digestsSorted : evidenceDigests.Pairwise (· < ·)
  idsBounded : ∀ evidenceId ∈ evidenceIds, Bounded 200 evidenceId
  nonempty : evidenceIds ≠ []
  aligned : evidenceIds.length = evidenceDigests.length

/-- The state of a trusted fact is VALIDATED by its validator. -/
structure TrustedFact where
  scope : Scope
  lineageId : String
  revisionId : String
  revision : Nat
  outcome : DecisionOutcome
  origin : MemoryOrigin
  core : TrustedFactCore
  trustedFactDigest : String
  provenance : FactProvenance
  revisionPositive : 1 ≤ revision
  lineageBounded : Bounded 200 lineageId
  revisionIdBounded : Bounded 200 revisionId
  trustedOrigin : origin = .localTrusted ∨ origin = .attestedExternal

structure LifecycleTransition where
  scope : Scope
  lineageId : String
  factDigest : String
  fromRevision : Nat
  fromState : MemoryState
  toState : MemoryState
  decisionClosureDigest : Option String
  allowed : fromState.Allowed toState

structure ConflictMember where
  lineageId : String
  revisionId : String
  revision : Nat
  factDigest : String

structure ConflictRecord where
  scope : Scope
  members : List ConflictMember
  decisionClosureDigests : List String

structure SupersessionRecord where
  scope : Scope
  lineageId : String
  supersededRevisionId : String
  supersededRevision : Nat
  supersedingRevisionId : String
  supersedingRevision : Nat
  decisionClosureDigest : String
  next : supersedingRevision = supersededRevision + 1

structure RevocationRecord where
  scope : Scope
  lineageId : String
  revisionId : String
  revision : Nat
  expectedRevision : Nat
  factDigest : String
  decisionClosureDigest : String
  bound : expectedRevision = revision

inductive RecordBody where
  | candidate (fact : CandidateFact)
  | trustedFact (fact : TrustedFact)
  | lifecycle (transition : LifecycleTransition)
  | conflict (record : ConflictRecord)
  | supersession (record : SupersessionRecord)
  | revocation (record : RevocationRecord)

structure Record where
  body : RecordBody
  document : Json Empty

/-- `canonical_bytes`. -/
def Record.bytes (record : Record) : Bytes := utf8Encode record.document.sorted.text

def RecordBody.eventType : RecordBody → String
  | .candidate _ => "candidate"
  | .trustedFact _ => "trusted_fact"
  | .lifecycle _ => "lifecycle"
  | .conflict _ => "conflict"
  | .supersession _ => "supersession"
  | .revocation _ => "revocation"

def RecordBody.scope : RecordBody → Scope
  | .candidate fact => fact.scope
  | .trustedFact fact => fact.scope
  | .lifecycle transition => transition.scope
  | .conflict record => record.scope
  | .supersession record => record.scope
  | .revocation record => record.scope

def RecordBody.namesLineage : RecordBody → String → Bool
  | .candidate fact, lineageId => fact.lineageId = lineageId
  | .trustedFact fact, lineageId => fact.lineageId = lineageId
  | .lifecycle transition, lineageId => transition.lineageId = lineageId
  | .conflict record, lineageId => record.members.any fun member => member.lineageId = lineageId
  | .supersession record, lineageId => record.lineageId = lineageId
  | .revocation record, lineageId => record.lineageId = lineageId

def RecordBody.closureDigests : RecordBody → List String
  | .candidate _ => []
  | .trustedFact fact => [fact.provenance.decisionClosureDigest]
  | .lifecycle transition => transition.decisionClosureDigest.toList
  | .conflict record => record.decisionClosureDigests
  | .supersession record => [record.decisionClosureDigest]
  | .revocation record => [record.decisionClosureDigest]

def RecordBody.isCandidate : RecordBody → Bool
  | .candidate _ => true
  | _ => false

def RecordBody.trusted : RecordBody → Option TrustedFact
  | .trustedFact fact => some fact
  | _ => none

/-- The state a record projects onto the current row. -/
def RecordBody.projectedState : RecordBody → Option MemoryState
  | .candidate _ => none
  | .trustedFact _ => some .validated
  | .lifecycle transition => some transition.toState
  | .conflict _ => some .conflicted
  | .supersession _ => some .superseded
  | .revocation _ => some .revoked

/-! ### Tables -/

/-- Tenant, project and lineage. -/
structure Key where
  tenantId : String
  projectId : String
  lineageId : String
  deriving DecidableEq

/-- A row of `trusted_memory_history`; `record_bytes` are the record's. -/
structure HistoryRow where
  key : Key
  sequence : Nat
  record : Record
  recordSha256 : String
  previousHash : String
  eventHash : String
  idempotencyKey : String

structure CurrentRow where
  revisionId : String
  revision : Nat
  factDigest : String
  state : MemoryState
  eligible : Bool
  factBytes : Bytes
  factEventHash : String
  projectionEventHash : String

structure Tables where
  history : List HistoryRow
  streams : Dict Key (Nat × String)
  current : Dict Key CurrentRow
  closures : List (Key × String × String)
  outbox : List HistoryRow

def Tables.empty : Tables := ⟨[], [], [], [], []⟩

inductive MemoryError where
  | conflict (code message : String)
  | value (message : String)
  | integrity

def projectionConflict (message : String) : MemoryError :=
  .conflict "trusted_memory_projection_conflict" message

/-! ### Appending -/

structure Append where
  key : Key
  record : Record
  idempotencyKey : String
  expectedCurrentEventHash : Option String

def Append.admissible (call : Append) : Except MemoryError Unit := do
  raiseIf (call.record.body.scope.tenantId ≠ call.key.tenantId ∨
      call.record.body.scope.projectId ≠ call.key.projectId ∨
      call.record.body.namesLineage call.key.lineageId = false)
    (.value "trusted-memory append scope does not match record scope")
  raiseIf (call.idempotencyKey = "") (.value "trusted-memory idempotency_key must not be empty")
  raiseIf (call.record.body.isCandidate = true ∧ call.expectedCurrentEventHash ≠ none)
    (.conflict "trusted_memory_candidate_promotion"
      "A candidate cannot update the trusted current projection")

/-- The kind-specific match of a record with the current row. -/
def RecordBody.matches (body : RecordBody) (lineageId : String) (current : CurrentRow) : Bool :=
  match body with
  | .lifecycle transition =>
      transition.factDigest = current.factDigest ∧ transition.fromRevision = current.revision ∧
        transition.fromState = current.state
  | .conflict record =>
      record.members.any fun member =>
        member.lineageId = lineageId ∧ member.revisionId = current.revisionId ∧
          member.revision = current.revision ∧ member.factDigest = current.factDigest
  | .supersession record =>
      record.supersededRevisionId = current.revisionId ∧
        record.supersededRevision = current.revision
  | .revocation record =>
      record.revisionId = current.revisionId ∧ record.revision = current.revision ∧
        record.expectedRevision = current.revision ∧ record.factDigest = current.factDigest
  | _ => true

/-- The compare-and-swap guards. -/
def Append.guards (call : Append) (current : Option CurrentRow) : Except MemoryError Unit :=
  match call.record.body, current with
  | .candidate _, _ => .ok ()
  | .trustedFact fact, none =>
      raiseIf (call.expectedCurrentEventHash ≠ none ∨ fact.revision ≠ 1)
        (projectionConflict "Trusted-memory compare-and-swap does not match current projection")
  | .trustedFact fact, some row =>
      raiseIf (call.expectedCurrentEventHash ≠ some row.projectionEventHash ∨
          fact.revision ≠ row.revision + 1)
        (projectionConflict "Trusted-memory compare-and-swap does not match current projection")
  | _, none =>
      .error (projectionConflict
        "Trusted-memory compare-and-swap does not match current projection")
  | body, some row => do
      raiseIf (call.expectedCurrentEventHash ≠ some row.projectionEventHash)
        (projectionConflict "Trusted-memory compare-and-swap does not match current projection")
      raiseIf (body.matches call.key.lineageId row = false)
        (projectionConflict "Trusted-memory event does not match the current fact projection")

def zeroHash : String := String.ofList (List.replicate 64 '0')

section Appending

variable (sha256 : Bytes → Digest)

/-- `canonical_sha256` of `benchmarks.secure_memory`, with its domain prefix. -/
def domainSha256 (domain : String) (value : Json Empty) : String :=
  (SecureMemory.domainDigest sha256 domain value).labelled ""

def trustedMemoryEventHash (key : Key) (sequence : Nat) (eventType recordSha256 previousHash : String) :
    String :=
  domainSha256 sha256 "trusted-memory-history-event" <| .dict
    [("tenant_id", .str key.tenantId), ("project_id", .str key.projectId),
      ("lineage_id", .str key.lineageId), ("sequence", .int sequence),
      ("event_type", .str eventType), ("record_sha256", .str recordSha256),
      ("previous_hash", .str previousHash)]

/-- The row a call appends after a stream row. -/
def Append.row (call : Append) (stream : Option (Nat × String)) : HistoryRow :=
  let sequence := match stream with | some (last, _) => last + 1 | none => 1
  let previousHash := match stream with | some (_, root) => root | none => zeroHash
  let recordSha256 := (sha256 call.record.bytes).labelled ""
  { key := call.key
    sequence
    record := call.record
    recordSha256
    previousHash
    eventHash := trustedMemoryEventHash sha256 call.key sequence call.record.body.eventType
      recordSha256 previousHash
    idempotencyKey := call.idempotencyKey }

/-- The current row a call writes; a candidate writes none. -/
def Append.projection (call : Append) (row : HistoryRow) (current : Option CurrentRow) :
    Except MemoryError (Option CurrentRow) :=
  match call.record.body, current with
  | .candidate _, _ => .ok none
  | .trustedFact fact, none =>
      .ok (some ⟨fact.revisionId, fact.revision, fact.trustedFactDigest, .validated, true,
        call.record.bytes, row.eventHash, row.eventHash⟩)
  | .trustedFact fact, some old => do
      raiseIf (call.expectedCurrentEventHash ≠ some old.projectionEventHash)
        (projectionConflict "Trusted-memory compare-and-swap lost a concurrent update")
      raiseIf (row.eventHash = old.projectionEventHash) MemoryError.integrity
      .ok (some ⟨fact.revisionId, fact.revision, fact.trustedFactDigest, .validated, true,
        call.record.bytes, row.eventHash, row.eventHash⟩)
  | _, none =>
      .error (projectionConflict "Trusted-memory compare-and-swap lost a concurrent update")
  | body, some old => do
      raiseIf (call.expectedCurrentEventHash ≠ some old.projectionEventHash)
        (projectionConflict "Trusted-memory compare-and-swap lost a concurrent update")
      raiseIf (row.eventHash = old.projectionEventHash) MemoryError.integrity
      .ok (some { old with
        state := body.projectedState.getD old.state
        eligible := body.projectedState = some .validated
        projectionEventHash := row.eventHash })

def Tables.find (tables : Tables) (key : Key) (idempotencyKey : String) : Option HistoryRow :=
  tables.history.find? fun row => row.key = key ∧ row.idempotencyKey = idempotencyKey

def setCurrent (key : Key) (row : Option CurrentRow) (tables : Tables) : Tables :=
  match row with
  | some row => { tables with current := tables.current.set key row }
  | none => tables

/-- The inserts and the update of one record that is not a replay. -/
def Append.insert (call : Append) : Effect Tables MemoryError HistoryRow := do
  let tables ← read
  let current := tables.current.get? call.key
  check (call.guards current)
  let row := call.row sha256 (tables.streams.get? call.key)
  check (raiseIf (row.eventHash ∈ tables.history.map HistoryRow.eventHash) MemoryError.integrity)
  write fun tables => { tables with history := tables.history ++ [row] }
  write fun tables => { tables with
    streams := tables.streams.set call.key (row.sequence, row.eventHash) }
  write fun tables => { tables with
    closures := tables.closures ++
      call.record.body.closureDigests.map fun digest => (call.key, row.eventHash, digest) }
  let projected ← check (call.projection row current)
  write (setCurrent call.key projected)
  write fun tables => { tables with outbox := tables.outbox ++ [row] }
  pure row

/-- `append_trusted_memory_record`. -/
def appendTrustedMemoryRecord (call : Append) : Effect Tables MemoryError HistoryRow := do
  check call.admissible
  transaction do
    let tables ← read
    match tables.find call.key call.idempotencyKey with
    | some existing =>
        if existing.record.bytes ≠ call.record.bytes then
          check (.error (.conflict "trusted_memory_idempotency_conflict"
            "Trusted-memory idempotency key has different canonical bytes"))
        else pure existing
    | none => call.insert sha256

end Appending

end EgoAgent.TrustedMemory
