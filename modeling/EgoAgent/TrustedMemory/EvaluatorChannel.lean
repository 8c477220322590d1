import EgoAgent.TrustedMemory.Finalizer

/-!
`EvaluatorChannel.receive`: signed frames become source receipts.

A frame is answered once for each idempotency key, in sequence; the receipt keeps
the digest of the frame only if the payload was admitted.
-/

namespace EgoAgent.TrustedMemory

open EgoAgent.Api Effect

/-! ### Envelopes -/

structure EvaluatorEnvelope (φ : Type) where
  issuerId : String
  keyId : String
  campaignId : String
  taskId : String
  generation : Nat
  sequence : Nat
  idempotencyKey : String
  payloadSha256 : String
  payload : List (String × Json φ)
  signature : String

/-- What the channel and its admission gate use: the hash, the JSON reader, the model
validation, the signature verifier and the scanner's reason codes. -/
structure ChannelPlatform (φ : Type) where
  sha256 : Bytes → Digest
  parseJsonBytes : Bytes → Option (Json φ)
  modelValidate : Json φ → Option (EvaluatorEnvelope φ)
  signatureVerifier : Bytes → String → String → String → Bool
  scan : Bytes → List String
  scannerSha256 : String

/-- The scope of a channel. -/
structure EvaluatorChannel where
  expectedIssuerId : String
  expectedKeyId : String
  campaignId : String
  taskId : String
  generation : Nat

structure ChannelState where
  headSequence : Nat
  idempotency : Dict String (Option String × EvaluatorSourceReceipt)
  sequences : Dict Nat String

def ChannelState.empty : ChannelState := ⟨0, [], []⟩

inductive ChannelError where
  | rejected (reason : String)
  | value (message : String)

def maxEvaluatorEnvelopeBytes : Nat := 128 * 1024

section Receiving

variable {φ : Type} [FloatText φ]

def EvaluatorEnvelope.signedCore (envelope : EvaluatorEnvelope φ) : Json φ := .dict
  [("schema_version", .str "secure-memory-evaluator-envelope/v1"),
    ("issuer_id", .str envelope.issuerId), ("key_id", .str envelope.keyId),
    ("campaign_id", .str envelope.campaignId), ("task_id", .str envelope.taskId),
    ("generation", .int envelope.generation), ("sequence", .int envelope.sequence),
    ("idempotency_key", .str envelope.idempotencyKey),
    ("payload_sha256", .str envelope.payloadSha256), ("payload", .dict envelope.payload)]

def EvaluatorEnvelope.payloadBytes (envelope : EvaluatorEnvelope φ) : Bytes :=
  SecureMemory.canonicalBytes (.dict envelope.payload)

variable (platform : ChannelPlatform φ)

def frameSha256 (frame : Bytes) : String := (platform.sha256 frame).labelled ""

/-- `_decode`. -/
def decode (frame : Bytes) : Except ChannelError (EvaluatorEnvelope φ) := do
  raiseIf (frame.length = 0 ∨ maxEvaluatorEnvelopeBytes < frame.length)
    (.rejected "envelope_size_invalid")
  let value ← expect (.rejected "envelope_invalid") (platform.parseJsonBytes frame)
  raiseIf (SecureMemory.canonicalBytes value ≠ frame) (.rejected "envelope_invalid")
  expect (.rejected "envelope_invalid") (platform.modelValidate value)

/-! ### Admission -/

/-- The reason codes of a payload; the origin and the channel always match. -/
def admissionReasons (envelope : EvaluatorEnvelope φ) : List String :=
  sortedSet (platform.scan envelope.payloadBytes ++
    if frameSha256 platform envelope.payloadBytes ≠ envelope.payloadSha256 then
      ["CONTENT_DIGEST_MISMATCH"] else [])

def AdmissionStatus.text : AdmissionStatus → String
  | .admitted => "ADMITTED"
  | .quarantined => "QUARANTINED"

/-- The fields of an admission receipt that its digest is taken of. -/
def admissionMembers (envelope : EvaluatorEnvelope φ) (status : AdmissionStatus)
    (contentSha256 : Option String) (reasons : List String) : List (String × Json Empty) :=
  [("schema_version", .str "secure-memory-admission-receipt/v1"), ("status", .str status.text),
    ("trust_label", .str "ORIGIN_UNVERIFIED"), ("promotion_authorized", .bool false),
    ("declared_origin", .str "EVALUATOR"), ("channel", .str "EVALUATOR_OUTPUT"),
    ("campaign_id", .str envelope.campaignId), ("task_id", .str envelope.taskId),
    ("generation", .int envelope.generation), ("sequence", .int envelope.sequence),
    ("content_sha256", optionalText contentSha256), ("reason_codes", texts reasons),
    ("rule_version", .str "secure-memory-ingress-scanner/1"),
    ("scanner_sha256", .str platform.scannerSha256)]

/-- The receipt of `AdmissionGate` for the payload of an envelope. -/
def admissionGate (envelope : EvaluatorEnvelope φ) : Except ChannelError AdmissionReceipt := do
  raiseIf (isStableId envelope.campaignId = false ∨ isStableId envelope.taskId = false)
    (.value "campaign_id and task_id must be bounded stable identifiers")
  raiseIf (envelope.generation < 1) (.value "generation must be positive")
  raiseIf (envelope.sequence < 1) (.value "sequence must be positive")
  raiseIf (Gateway.isSha256 envelope.payloadSha256 = false)
    (.value "expected a lowercase 64-character SHA-256 digest")
  let reasons := admissionReasons platform envelope
  if reasons = [] then
    let content := frameSha256 platform envelope.payloadBytes
    .ok ⟨.admitted, envelope.taskId, envelope.generation, some content,
      domainSha256 platform.sha256 "secure-memory-admission-receipt"
        (.dict (admissionMembers platform envelope .admitted (some content) reasons)),
      ⟨fun _ => rfl, fun _ => rfl⟩⟩
  else
    .ok ⟨.quarantined, envelope.taskId, envelope.generation, none,
      domainSha256 platform.sha256 "secure-memory-admission-receipt"
        (.dict (admissionMembers platform envelope .quarantined none reasons)),
      by decide⟩

/-! ### Receiving -/

def sourceReceiptJson (envelope : EvaluatorEnvelope φ) (envelopeSha256 : Option String)
    (admission : Json Empty) : Json Empty := .dict
  [("schema_version", .str "secure-memory-evaluator-source-receipt/v1"),
    ("issuer_id", .str envelope.issuerId), ("key_id", .str envelope.keyId),
    ("campaign_id", .str envelope.campaignId), ("task_id", .str envelope.taskId),
    ("generation", .int envelope.generation), ("sequence", .int envelope.sequence),
    ("idempotency_key", .str envelope.idempotencyKey), ("source_verified", .bool true),
    ("trust_label", .str "ORIGIN_UNVERIFIED"), ("promotion_authorized", .bool false),
    ("envelope_sha256", optionalText envelopeSha256), ("admission", admission)]

/-- The receipt of a frame, from its envelope and the admission of its payload. -/
def sourceReceipt (envelope : EvaluatorEnvelope φ) (frame : Bytes)
    (admission : AdmissionReceipt) : EvaluatorSourceReceipt :=
  let envelopeSha256 := if admission.contentSha256.isSome then some (frameSha256 platform frame)
    else none
  { issuerId := envelope.issuerId
    keyId := envelope.keyId
    campaignId := envelope.campaignId
    taskId := envelope.taskId
    generation := envelope.generation
    sequence := envelope.sequence
    idempotencyKey := envelope.idempotencyKey
    envelopeSha256
    admission
    receiptSha256 := domainSha256 platform.sha256 "secure-memory-evaluator-source-receipt"
      (sourceReceiptJson envelope envelopeSha256 (.dict
        (admissionMembers platform envelope admission.status admission.contentSha256
          (admissionReasons platform envelope) ++
            [("receipt_sha256", .str admission.receiptSha256)]))) }

/-- The checks of an envelope before the channel looks at its state. -/
def verifyEnvelope (channel : EvaluatorChannel) (envelope : EvaluatorEnvelope φ)
    (expectedIdempotencyKey : String) : Except ChannelError Unit := do
  raiseIf (envelope.issuerId ≠ channel.expectedIssuerId) (.rejected "issuer_mismatch")
  raiseIf (envelope.keyId ≠ channel.expectedKeyId) (.rejected "key_mismatch")
  raiseIf (envelope.campaignId ≠ channel.campaignId) (.rejected "campaign_mismatch")
  raiseIf (envelope.taskId ≠ channel.taskId) (.rejected "task_mismatch")
  raiseIf (envelope.generation ≠ channel.generation) (.rejected "generation_mismatch")
  raiseIf (expectedIdempotencyKey = "" ∨ envelope.idempotencyKey ≠ expectedIdempotencyKey)
    (.rejected "idempotency_mismatch")
  raiseIf (frameSha256 platform envelope.payloadBytes ≠ envelope.payloadSha256)
    (.rejected "payload_digest_mismatch")
  raiseIf (platform.signatureVerifier (SecureMemory.canonicalBytes envelope.signedCore)
      envelope.signature envelope.issuerId envelope.keyId = false)
    (.rejected "signature_invalid")

/-- `receive`. -/
def receive (channel : EvaluatorChannel) (frame : Bytes) (expectedIdempotencyKey : String) :
    Effect ChannelState ChannelError EvaluatorSourceReceipt := do
  let envelope ← check (decode platform frame)
  check (verifyEnvelope platform channel envelope expectedIdempotencyKey)
  let state ← read
  match Dict.get? state.idempotency envelope.idempotencyKey with
  | some (retained, prior) =>
      if retained = some (frameSha256 platform frame) then pure prior
      else check (.error (.rejected "idempotency_conflict"))
  | none => do
      check (raiseIf ((Dict.get? state.sequences envelope.sequence).isSome = true)
        (.rejected "sequence_reuse"))
      check (raiseIf (envelope.sequence ≠ state.headSequence + 1)
        (.rejected "sequence_out_of_order"))
      let admission ← check (admissionGate platform envelope)
      let receipt := sourceReceipt platform envelope frame admission
      write fun state =>
        { headSequence := envelope.sequence
          idempotency := Dict.set state.idempotency envelope.idempotencyKey
            (receipt.envelopeSha256, receipt)
          sequences := Dict.set state.sequences envelope.sequence receipt.receiptSha256 }
      pure receipt

end Receiving

end EgoAgent.TrustedMemory
