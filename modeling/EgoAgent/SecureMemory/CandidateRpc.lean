import EgoAgent.Lib.Base64
import EgoAgent.SecureMemory.ChannelFrames

/-!
`CandidateRpc`: the admission of proposals under quotas, once for each attempt.
-/

namespace EgoAgent.SecureMemory

open EgoAgent.Api
open EgoAgent.TrustedMemory (Coercions textField FactScope SourceRef)

/-! ### Proposals -/

structure CandidateProposal where
  proposalId : String
  taskId : String
  generation : Nat
  claimedFactId : Option String
  statementUtf8Base64 : String
  memoryType : String
  component : String
  outcomeClaim : String
  applicabilityScope : FactScope
  sourceRefs : List SourceRef
  supportDigestClaims : List String

def CandidateProposal.dump (proposal : CandidateProposal) : Json Empty := .dict
  [("schema_version", .str "secure-memory-candidate/v1"), ("proposal_id", .str proposal.proposalId),
    ("task_id", .str proposal.taskId), ("generation", .int proposal.generation),
    ("claimed_fact_id", TrustedMemory.optionalText proposal.claimedFactId),
    ("statement_utf8_base64", .str proposal.statementUtf8Base64),
    ("memory_type", .str proposal.memoryType), ("component", .str proposal.component),
    ("outcome_claim", .str proposal.outcomeClaim),
    ("applicability_scope", proposal.applicabilityScope.json),
    ("source_refs", .list (proposal.sourceRefs.map SourceRef.json)),
    ("support_digest_claims", .list (proposal.supportDigestClaims.map Json.str))]

/-- The sextets of the standard alphabet. -/
def standardSextet (c : Char) : Option Nat :=
  if c = '+' then some 62
  else if c = '/' then some 63
  else if c = '-' ∨ c = '_' then none
  else sextetValue c

def standardChar (value : Nat) : Char :=
  if value = 62 then '+' else if value = 63 then '/' else sextetChar value

/-- `base64.b64decode(value, validate=True)`. -/
def b64decode (text : String) : Option Bytes :=
  let chars := text.toList
  let padding := chars.dropWhile (· ≠ '=')
  if chars.length % 4 = 0 ∧ (padding = [] ∨ padding = ['='] ∨ padding = ['=', '=']) then
    ((chars.takeWhile (· ≠ '=')).mapM standardSextet).bind ofSextets
  else none

def b64encode (bytes : Bytes) : String :=
  let body := (toSextets bytes).map standardChar
  String.ofList (body ++ List.replicate ((4 - body.length % 4) % 4) '=')

/-- `validate_canonical_utf8_base64`. -/
def isCanonicalUtf8Base64 (text : String) : Bool :=
  text != "" && (b64decode text).any fun bytes =>
    (utf8Decode bytes).isSome && b64encode bytes == text

section Validation

variable {φ : Type} [FloatText φ] (coercions : Coercions φ)

def optionalField : Json φ → Option (Option String)
  | .null => some none
  | .str text => some (some text)
  | _ => none

def listField {α : Type} (read : Json φ → Option α) : Json φ → Option (List α)
  | .list items => items.mapM read
  | _ => none

def filledField : Json φ → Option String := textField (· != "")

/-- `FactScope.model_validate`. -/
def readScope : Json φ → Option FactScope
  | .dict members =>
      let text := fun key => (Dict.get? members key).elim (some none) optionalField
      let known := ["tenant_id", "project_id", "component", "version", "problem_id"]
      if members.all fun member => known.contains member.1 then do
        let tenantId ← text "tenant_id"
        let projectId ← (Dict.get? members "project_id").bind filledField
        let component ← (Dict.get? members "component").bind filledField
        let version ← text "version"
        let problemId ← text "problem_id"
        some { tenantId, projectId, component, version, problemId }
      else none
  | _ => none

/-- `SourceRef.model_validate`. -/
def readSource : Json φ → Option SourceRef
  | .dict members =>
      if members.all fun member => ["kind", "identifier"].contains member.1 then do
        let kind ← (Dict.get? members "kind").bind filledField
        let identifier ← (Dict.get? members "identifier").bind filledField
        some { kind, identifier }
      else none
  | _ => none

def candidateFields : List String :=
  ["schema_version", "proposal_id", "task_id", "generation", "claimed_fact_id",
    "statement_utf8_base64", "memory_type", "component", "outcome_claim", "applicability_scope",
    "source_refs", "support_digest_claims"]

/-- `CandidateProposal.model_validate`. -/
def validateProposal (members : List (String × Json φ)) : Option CandidateProposal :=
  if members.all fun member => candidateFields.contains member.1 then do
    let _ ← (Dict.get? members "schema_version").bind
      (textField (· == "secure-memory-candidate/v1"))
    let proposalId ← (Dict.get? members "proposal_id").bind filledField
    let taskId ← (Dict.get? members "task_id").bind filledField
    let generation ← (Dict.get? members "generation").bind coercions.positiveInt
    let claimedFactId ← (Dict.get? members "claimed_fact_id").bind optionalField
    let statementUtf8Base64 ← (Dict.get? members "statement_utf8_base64").bind
      (textField isCanonicalUtf8Base64)
    let memoryType ← (Dict.get? members "memory_type").bind
      (textField fun text => ["semantic", "episodic", "procedural"].contains text)
    let component ← (Dict.get? members "component").bind filledField
    let outcomeClaim ← (Dict.get? members "outcome_claim").bind
      (textField fun text => ["KEEP", "DROP", "INCONCLUSIVE"].contains text)
    let applicabilityScope ← (Dict.get? members "applicability_scope").bind readScope
    let sourceRefs ← (Dict.get? members "source_refs").bind (listField readSource)
    let supportDigestClaims ← (Dict.get? members "support_digest_claims").bind
      (listField (textField Gateway.isSha256))
    if (sourceRefs.map fun source => canonicalBytes source.json).Pairwise (· < ·) ∧
        supportDigestClaims.Pairwise (· < ·) then
      some
        { proposalId, taskId, generation, claimedFactId, statementUtf8Base64, memoryType,
          component, outcomeClaim, applicabilityScope, sourceRefs, supportDigestClaims }
    else none
  else none

end Validation

/-! ### Contexts -/

structure Campaign where
  campaignId : String
  configurationId : Configuration
  tenant : String
  deriving DecidableEq

structure Problem where
  campaign : Campaign
  problemId : String
  deriving DecidableEq

structure SemanticBoundary where
  problem : Problem
  turn : String
  deriving DecidableEq

structure AttemptKey where
  boundary : SemanticBoundary
  taskId : String
  generation : Nat
  attempt : String
  idempotencyKey : String
  deriving DecidableEq

def AttemptKey.campaign (key : AttemptKey) : Campaign := key.boundary.problem.campaign

structure CandidateContext where
  campaignId : String
  configurationId : Configuration
  tenant : String
  problemId : String
  taskId : String
  generation : Nat
  turn : String
  attempt : String
  idempotencyKey : String
  positive : 1 ≤ generation
  filled : ∀ text ∈ [campaignId, tenant, problemId, taskId, turn, attempt, idempotencyKey],
    text ≠ ""

def CandidateContext.semanticBoundary (context : CandidateContext) : SemanticBoundary :=
  ⟨⟨⟨context.campaignId, context.configurationId, context.tenant⟩, context.problemId⟩,
    context.turn⟩

def CandidateContext.attemptKey (context : CandidateContext) : AttemptKey where
  boundary := context.semanticBoundary
  taskId := context.taskId
  generation := context.generation
  attempt := context.attempt
  idempotencyKey := context.idempotencyKey

def AttemptKey.document (key : AttemptKey) : Json Empty := .list
  [.str key.campaign.campaignId, .str key.campaign.configurationId.value,
    .str key.campaign.tenant, .str key.boundary.problem.problemId, .str key.boundary.turn,
    .str key.taskId, .int key.generation, .str key.attempt, .str key.idempotencyKey]

/-! ### The ledger -/

/-- What is kept of an attempt: the digest, the receipt and the reason of the refusal. -/
structure Attempt where
  digest : Option String
  receipt : Option Bytes
  reason : Option String

structure AcceptedProposal where
  boundary : SemanticBoundary
  digest : String
  receipt : Bytes
  deriving DecidableEq

/-- The clock as the ledger looks at it: the readings that it takes at all, which one is before
another, and whether a time is at least sixty seconds, or less than one second, behind now. -/
structure CandidateClock (τ : Type) where
  finite : τ → Bool
  before : τ → τ → Bool
  aged : τ → τ → Bool
  recent : τ → τ → Bool

structure CandidateLedger (τ : Type) where
  turns : SemanticBoundary → Nat
  problems : Problem → Nat
  campaigns : Campaign → Nat
  rates : Campaign → List τ
  queues : Campaign → Dict String AttemptKey
  completed : String → Option AttemptKey
  attempts : AttemptKey → Option Attempt
  proposals : String → Option AcceptedProposal
  lastClock : Option τ
  schemaRejections : List (String × String)
  scannerRejections : List (String × String × Nat)

def CandidateLedger.empty {τ : Type} : CandidateLedger τ where
  turns := fun _ => 0
  problems := fun _ => 0
  campaigns := fun _ => 0
  rates := fun _ => []
  queues := fun _ => []
  completed := fun _ => none
  attempts := fun _ => none
  proposals := fun _ => none
  lastClock := none
  schemaRejections := []
  scannerRejections := []

inductive CandidateFault where
  | rejected (reason : String)
  /-- A `TypeError`, `ValueError` or `ValidationError`. -/
  | invalid
  deriving DecidableEq

section Admission

variable {φ τ : Type} [FloatText φ]

/-- What the admission takes from outside: SHA-256, `casefold`, pydantic's coercions, the
comparison of a float with an integer, and the clock. -/
structure CandidatePlatform (φ τ : Type) where
  sha256 : Bytes → Digest
  casefold : String → String
  coercions : Coercions φ
  floatEquals : φ → Nat → Bool
  clock : CandidateClock τ

variable (platform : CandidatePlatform φ τ)

def forbiddenTrustKeys : List String :=
  ["gate", "decision", "closure", "origin", "validator", "validated", "tenant_id", "audit_head",
    "rxp_root"]

mutual

/-- `_forbidden`. -/
def forbidden (casefold : String → String) : Json φ → Bool
  | .dict members => forbiddenMembers casefold members
  | .list items => forbiddenItems casefold items
  | _ => false

def forbiddenMembers (casefold : String → String) : List (String × Json φ) → Bool
  | [] => false
  | (key, value) :: rest =>
      forbiddenTrustKeys.contains (casefold key) || forbidden casefold value ||
        forbiddenMembers casefold rest

def forbiddenItems (casefold : String → String) : List (Json φ) → Bool
  | [] => false
  | item :: rest => forbidden casefold item || forbiddenItems casefold rest

end

/-- The digest of a proposal, where its canonical bytes exist. -/
def proposalDigest (document : List (String × Json φ)) : Option String :=
  if forbidden platform.casefold (.dict document) then none
  else if writable (.dict document) then
    some ((domainDigest platform.sha256 "candidate-proposal" (.dict document)).labelled "")
  else none

/-- Python's `==` of a value and an integer. -/
def equalsNat (number : Nat) : Json φ → Bool
  | .int other => other == number
  | .bool flag => (if flag then 1 else 0) == number
  | .float other => platform.floatEquals other number
  | _ => false

def equalsText (text : String) : Json φ → Bool
  | .str other => other == text
  | _ => false

/-- `_now`. -/
def ledgerNow (reading : τ) : Effect (CandidateLedger τ) CandidateFault τ := do
  let ledger ← Effect.read
  Effect.check (raiseIf (platform.clock.finite reading = false ∨
    ledger.lastClock.any (platform.clock.before reading) = true) (.rejected "clock_invalid"))
  Effect.write fun ledger => { ledger with lastClock := some reading }
  pure reading

/-- `reserve`. -/
def reserveAttempt (context : CandidateContext) (reading : τ) :
    Effect (CandidateLedger τ) CandidateFault Unit := do
  let turn := context.semanticBoundary
  let problem := turn.problem
  let campaign := problem.campaign
  let ledger ← Effect.read
  Effect.check (raiseIf (16 ≤ ledger.turns turn) (.rejected "turn_quota_exhausted"))
  Effect.check (raiseIf (32 ≤ ledger.problems problem) (.rejected "problem_quota_exhausted"))
  Effect.check (raiseIf (128 ≤ ledger.campaigns campaign) (.rejected "campaign_quota_exhausted"))
  Effect.write fun ledger => { ledger with
    turns := Function.update ledger.turns turn (ledger.turns turn + 1)
    problems := Function.update ledger.problems problem (ledger.problems problem + 1)
    campaigns := Function.update ledger.campaigns campaign (ledger.campaigns campaign + 1) }
  let now ← ledgerNow platform reading
  let kept := (ledger.rates campaign).dropWhile (platform.clock.aged now)
  Effect.write fun ledger => { ledger with
    rates := Function.update ledger.rates campaign (kept ++ [now]) }
  Effect.check (raiseIf (16 ≤ kept.countP (platform.clock.recent now))
    (.rejected "burst_rate_exhausted"))
  Effect.check (raiseIf (32 < (kept ++ [now]).length) (.rejected "rolling_rate_exhausted"))

/-- `_limits`. -/
def checkLimits (document : List (String × Json φ)) : Except CandidateFault Unit := do
  raiseIf (writable (.dict document) = false) .invalid
  raiseIf (64 * 1024 < (canonicalBytes (.dict document)).length) (.rejected "payload_too_large")
  let refs : Nat := match Dict.get? document "source_refs" with
    | some (.list items) => items.length
    | _ => 0
  raiseIf (16 < refs) (.rejected "too_many_source_refs")
  let value ← expect (.rejected "schema_invalid")
    ((Dict.get? document "statement_utf8_base64").bind (textField fun _ => true))
  let decoded ← expect (.rejected "schema_invalid") (b64decode value)
  raiseIf ((utf8Decode decoded).isNone = true) (.rejected "schema_invalid")
  raiseIf (2048 < decoded.length) (.rejected "statement_too_long")

def receiptDocument (key : AttemptKey) (digest : String) : Json Empty :=
  .dict [("boundary", key.document), ("digest", .str digest)]

def candidateReceiptId (key : AttemptKey) (digest : String) : String :=
  (domainDigest platform.sha256 "candidate-receipt" (receiptDocument key digest)).labelled ""

def candidateReceipt (candidate : CandidateProposal) (receiptId : String) : Bytes :=
  canonicalBytes (φ := Empty) (.dict
    [("schema_version", .str "secure-memory-candidate-receipt/v1"),
      ("proposal_id", .str candidate.proposalId),
      ("proposal_digest",
        digestText (domainDigest platform.sha256 "candidate-proposal" candidate.dump)),
      ("receipt_id", .str receiptId)])

/-- The text of the refusal. -/
def CandidateFault.reason : CandidateFault → String
  | .rejected reason => reason
  | .invalid => "schema_invalid"

/-- An effect, with what is done when it raises. -/
def onFault {α : Type} (effect : Effect (CandidateLedger τ) CandidateFault α)
    (handler : CandidateFault → Effect (CandidateLedger τ) CandidateFault α) :
    Effect (CandidateLedger τ) CandidateFault α := fun ledger =>
  match effect ledger with
  | (.error fault, later) => handler fault later
  | (.ok item, later) => (.ok item, later)

def recordAttempt (key : AttemptKey) (attempt : Attempt) :
    Effect (CandidateLedger τ) CandidateFault Unit :=
  Effect.write fun ledger =>
    { ledger with attempts := Function.update ledger.attempts key (some attempt) }

/-- An attempt is refused, for good. -/
def refuseAttempt {α : Type} (key : AttemptKey) (digest : Option String) (reason : String) :
    Effect (CandidateLedger τ) CandidateFault α := do
  recordAttempt key ⟨digest, none, some reason⟩
  Effect.check (.error (.rejected reason))

def noteRejection (digest : Option String) (reason : String) :
    Effect (CandidateLedger τ) CandidateFault Unit :=
  Effect.write fun ledger => { ledger with
    schemaRejections := ledger.schemaRejections ++
      (digest.map fun digest => (digest, reason)).toList }

def differsFrom (context : CandidateContext) (document : List (String × Json φ)) : Option String :=
  if ¬ (Dict.get? document "task_id").any (equalsText context.taskId) = true then
    some "task_mismatch"
  else if ¬ (Dict.get? document "generation").any
      (equalsNat platform context.generation) = true then some "generation_mismatch"
  else none

/-- The `try` block: a new proposal is admitted. -/
def admitProposal (context : CandidateContext) (document : Option (List (String × Json φ)))
    (digest : Option String) (reading : τ) : Effect (CandidateLedger τ) CandidateFault Bytes := do
  reserveAttempt platform context reading
  let document ← Effect.check (expect (.rejected "schema_invalid") document)
  Effect.check (checkLimits document)
  let candidate ← Effect.check (expect .invalid (validateProposal platform.coercions document))
  let digest ← Effect.check (expect (.rejected "schema_invalid") digest)
  let key := context.attemptKey
  let receiptId := candidateReceiptId platform key digest
  let ledger ← Effect.read
  let queue := ledger.queues key.campaign
  Effect.check (raiseIf ((Dict.get? queue receiptId).isSome = true ∨
    (ledger.completed receiptId).isSome = true ∨ 32 ≤ queue.length)
    (.rejected "queue_depth_exhausted"))
  let receipt := candidateReceipt platform candidate receiptId
  Effect.write fun ledger => { ledger with
    queues := Function.update ledger.queues key.campaign (Dict.set queue receiptId key)
    attempts := Function.update ledger.attempts key (some ⟨some digest, some receipt, none⟩)
    proposals := Function.update ledger.proposals candidate.proposalId
      (some ⟨context.semanticBoundary, digest, receipt⟩) }
  pure receipt

/-- The answer to an attempt that was made before. -/
def Attempt.answer (attempt : Attempt) (digest : Option String) : Except CandidateFault Bytes := do
  raiseIf (attempt.digest.isSome = true ∧ attempt.digest ≠ digest)
    (.rejected "idempotency_reuse_with_different_bytes")
  match attempt.receipt with
  | some receipt => .ok receipt
  | none => .error (.rejected ((attempt.reason.filter (· ≠ "")).getD "schema_invalid"))

/-- The text under `proposal_id`. -/
def namedProposal (document : Option (List (String × Json φ))) : Option String :=
  document.bind fun document => (Dict.get? document "proposal_id").bind (textField fun _ => true)

/-- `propose`; a proposal that is no mapping is `none`. -/
def propose (document : Option (List (String × Json φ))) (context : CandidateContext)
    (reading : τ) : Effect (CandidateLedger τ) CandidateFault Bytes := do
  let key := context.attemptKey
  let digest := document.bind (proposalDigest platform)
  let ledger ← Effect.read
  match ledger.attempts key with
  | some prior => Effect.check (prior.answer digest)
  | none =>
      if document.any (fun document => forbidden platform.casefold (.dict document)) = true then do
        onFault (reserveAttempt platform context reading) fun fault =>
          refuseAttempt key none fault.reason
        Effect.write fun ledger => { ledger with
          scannerRejections := ledger.scannerRejections ++ [("proposal", "forbidden_field", 1)] }
        refuseAttempt key none "forbidden_field"
      else match document.bind (differsFrom platform context) with
        | some reason => do
            onFault (reserveAttempt platform context reading) fun fault =>
              refuseAttempt key digest fault.reason
            noteRejection digest reason
            refuseAttempt key digest reason
        | none =>
            match (namedProposal document).bind ledger.proposals with
            | some known =>
                if known.boundary = context.semanticBoundary ∧ some known.digest = digest then do
                  recordAttempt key ⟨digest, some known.receipt, none⟩
                  pure known.receipt
                else refuseAttempt key digest "cross_boundary_duplicate"
            | none =>
                onFault (admitProposal platform context document digest reading) fun fault => do
                  noteRejection digest fault.reason
                  refuseAttempt key digest fault.reason

/-- `complete`. -/
def complete (context : CandidateContext) (receiptId : String) :
    Effect (CandidateLedger τ) CandidateFault Unit := do
  let key := context.attemptKey
  let ledger ← Effect.read
  let queue := ledger.queues key.campaign
  if Dict.get? queue receiptId = some key then
    Effect.write fun ledger => { ledger with
      queues := Function.update ledger.queues key.campaign
        (queue.filter fun entry => entry.1 ≠ receiptId)
      completed := Function.update ledger.completed receiptId (some key) }
  else Effect.check (raiseIf (ledger.completed receiptId ≠ some key)
    (.rejected "queue_completion_mismatch"))

end Admission

end EgoAgent.SecureMemory
