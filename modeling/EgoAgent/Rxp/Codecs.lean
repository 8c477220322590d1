import EgoAgent.Rxp.Models

/-!
JSON forms of the RXP/1 document models.

Each codec lists a model's fields under the names of the source, with the
value an absent field gets, and then applies the model validator.  Unknown
fields are refused.
-/

namespace EgoAgent.Rxp

open Platform

/-! ### Enumeration texts -/

private def readAmong {α : Type} (render : α → String) (all : List α) (text : String) : Option α :=
  all.find? fun item => render item == text

def DeterminismLevel.text : DeterminismLevel → String
  | .d0Unverified => "D0_UNVERIFIED"
  | .d1InputsBound => "D1_INPUTS_BOUND"
  | .d2SeededEnvBound => "D2_SEEDED_ENV_BOUND"
  | .d3ByteReplayVerified => "D3_BYTE_REPLAY_VERIFIED"

def LedgerEventType.text : LedgerEventType → String
  | .matrixFrozen => "MATRIX_FROZEN"
  | .intentRecorded => "INTENT_RECORDED"
  | .grantRecorded => "GRANT_RECORDED"
  | .receiptRecorded => "RECEIPT_RECORDED"
  | .evidenceRecorded => "EVIDENCE_RECORDED"
  | .decisionRecorded => "DECISION_RECORDED"

def DocumentKind.text : DocumentKind → String
  | .matrixPlan => "MatrixPlan"
  | .intent => "Intent"
  | .grant => "Grant"
  | .receipt => "Receipt"
  | .evidence => "Evidence"
  | .decision => "Decision"

def Outcome.text : Outcome → String
  | .succeeded => "SUCCEEDED"
  | .failed => "FAILED"

def GateStatus.text : GateStatus → String
  | .pass => "PASS"
  | .fail => "FAIL"

def Verdict.text : Verdict → String
  | .keep => "KEEP"
  | .reject => "REJECT"
  | .inconclusive => "INCONCLUSIVE"

def Completeness.text : Completeness → String
  | .complete => "COMPLETE"
  | .incomplete => "INCOMPLETE"

variable [Platform]

/-! ### Leaf codecs -/

private def named {α : Type} (render : α → String) (all : List α)
    (ascii : ∀ item, isAscii (render item))
    (inverse : ∀ item, readAmong render all (render item) = some item) : Codec unicode α :=
  Codec.rendered render (readAmong render all) (fun item => unicode.nfc_ascii (ascii item)) inverse

def determinismCodec : Codec unicode DeterminismLevel :=
  named DeterminismLevel.text
    [.d0Unverified, .d1InputsBound, .d2SeededEnvBound, .d3ByteReplayVerified]
    (by intro item; cases item <;> decide) (by intro item; cases item <;> rfl)

def cellStateCodec : Codec unicode CellState :=
  named CellState.text [.intentRecorded, .granted, .receiptRecorded, .evidenceReady, .decided]
    (by intro item; cases item <;> decide) (by intro item; cases item <;> rfl)

def eventTypeCodec : Codec unicode LedgerEventType :=
  named LedgerEventType.text
    [.matrixFrozen, .intentRecorded, .grantRecorded, .receiptRecorded, .evidenceRecorded,
      .decisionRecorded]
    (by intro item; cases item <;> decide) (by intro item; cases item <;> rfl)

def documentKindCodec : Codec unicode DocumentKind :=
  named DocumentKind.text [.matrixPlan, .intent, .grant, .receipt, .evidence, .decision]
    (by intro item; cases item <;> decide) (by intro item; cases item <;> rfl)

def outcomeCodec : Codec unicode Outcome :=
  named Outcome.text [.succeeded, .failed]
    (by intro item; cases item <;> decide) (by intro item; cases item <;> rfl)

def evidenceTypeCodec : Codec unicode EvidenceType :=
  named EvidenceType.text [.code, .config, .datasetManifest, .log, .metric, .trace, .review]
    (by intro item; cases item <;> decide) (by intro item; cases item <;> rfl)

def gateStatusCodec : Codec unicode GateStatus :=
  named GateStatus.text [.pass, .fail]
    (by intro item; cases item <;> decide) (by intro item; cases item <;> rfl)

def verdictCodec : Codec unicode Verdict :=
  named Verdict.text [.keep, .reject, .inconclusive]
    (by intro item; cases item <;> decide) (by intro item; cases item <;> rfl)

def completenessCodec : Codec unicode Completeness :=
  named Completeness.text [.complete, .incomplete]
    (by intro item; cases item <;> decide) (by intro item; cases item <;> rfl)

def matchedCodec (pattern : Pattern) : Codec unicode (Matched pattern) :=
  Codec.rendered Subtype.val (Codec.permit fun text => pattern.accepts text = true)
    (fun item => unicode.nfc_ascii item.ascii)
    (fun item => (Codec.permit_eq_some _ _ item).mpr rfl)

def utcCodec : Codec unicode Utc :=
  Codec.rendered Subtype.val (Codec.permit isUtc) Utc.nfc
    (fun item => (Codec.permit_eq_some _ _ item).mpr rfl)

def digestCodec (label : String) (ascii : isAscii label) : Codec unicode Digest :=
  Codec.rendered (Digest.labelled label) (Digest.ofLabelled label)
    (fun item => unicode.nfc_ascii (item.labelled_ascii label ascii))
    (Digest.ofLabelled_labelled label)

/-- `DIGEST_PATTERN` -/
def sha256Codec : Codec unicode Digest := digestCodec "sha256:" (by decide)

/-- `RAW_DIGEST_PATTERN` -/
def rawDigestCodec : Codec unicode Digest := digestCodec "" (by decide)

def boundedTextCodec (low high : Nat) : Codec unicode (BoundedText low high) :=
  Codec.text.refine fun text => low ≤ text.length ∧ text.length ≤ high

omit [Platform] in
theorem boundedInt_fits {low high : Int} (within : -(2 ^ 63) ≤ low ∧ high ≤ maxInt64)
    (number : BoundedInt low high) : inInt64 number.val := by
  have bounds := number.property
  unfold inInt64
  unfold maxInt64 at within
  omega

def boundedIntCodec (low high : Int) (within : -(2 ^ 63) ≤ low ∧ high ≤ maxInt64) :
    Codec unicode (BoundedInt low high) where
  dump number := .int number.val
  load
    | .int number => Codec.permit (fun number => low ≤ number ∧ number ≤ high) number
    | _ => none
  norm number := some number
  load_canon number := by
    simp only [Value.canon, if_pos (boundedInt_fits within number), Option.bind_some]
    exact (Codec.permit_eq_some _ _ number).mpr rfl
  dump_norm := by rintro number _ ⟨⟩; rfl

def scalarCodec : Codec unicode Scalar where
  dump := Scalar.value
  load
    | .str text => some (.str text)
    | .int number => some (.int number)
    | .bool flag => some (.bool flag)
    | _ => none
  norm
    | .str text => some (.str (unicode.nfc text))
    | .int number => if inInt64 number then some (.int number) else none
    | .bool flag => some (.bool flag)
  load_canon scalar := by
    cases scalar with
    | str text => rfl
    | int number => by_cases fits : inInt64 number <;> simp [Scalar.value, Value.canon, fits]
    | bool flag => rfl
  dump_norm := by
    intro scalar normal computed
    cases scalar with
    | str text => cases computed; simp [Scalar.value, Value.canon, unicode.nfc_idem]
    | int number =>
        by_cases fits : inInt64 number
        · simp only [if_pos fits, Option.some.injEq] at computed
          rw [← computed]
        · simp [fits] at computed
    | bool flag => cases computed; rfl

def coordinatesCodec : Codec unicode Coordinates := Mapping.codec scalarCodec

def optionalDigestCodec : Codec unicode (Option Digest) :=
  sha256Codec.optional fun _ => Value.canon_str_ne_null _ _

def optionalTextCodec : Codec unicode (Option String) :=
  Codec.text.optional fun _ => Value.canon_str_ne_null _ _

/-! ### Matrix plans -/

def MatrixAxisFields.codec : Codec unicode MatrixAxisFields :=
  (Record.field "name" (matchedCodec axisNamePattern) none <|
    Record.field "values" scalarCodec.array none <|
    Record.empty).object (by decide)
  |>.iso (fun (name, values, ()) => { name, values })
    (fun axis => (axis.name, axis.values, ())) (fun _ => rfl)

def MatrixAxis.codec : Codec unicode MatrixAxis :=
  (MatrixAxisFields.codec.refine MatrixAxisFields.valuesAreUnique).iso
    (fun axis => { axis.val with valuesUnique := axis.property })
    (fun axis => ⟨axis.toMatrixAxisFields, axis.valuesUnique⟩) (fun _ => rfl)

def MatrixCellDefinition.codec : Codec unicode MatrixCellDefinition :=
  (Record.field "cell_id" (matchedCodec idPattern) none <|
    Record.field "coordinates" coordinatesCodec none <|
    Record.empty).object (by decide)
  |>.iso (fun (cellId, coordinates, ()) => { cellId, coordinates })
    (fun cell => (cell.cellId, cell.coordinates, ())) (fun _ => rfl)

def MatrixPlanFields.codec : Codec unicode MatrixPlanFields :=
  (Record.constant "rxp_version" "1.0" (by decide) <|
    Record.constant "kind" "MatrixPlan" (by decide) <|
    Record.field "matrix_id" (matchedCodec idPattern) none <|
    Record.field "name" (boundedTextCodec 1 160) none <|
    Record.field "frozen_by" (matchedCodec idPattern) none <|
    Record.field "frozen_at" utcCodec none <|
    Record.field "axes" MatrixAxis.codec.array none <|
    Record.field "cells" MatrixCellDefinition.codec.array none <|
    Record.constant "selection_rule" "CARTESIAN_COMPLETE" (by decide) <|
    Record.empty).object (by decide)
  |>.iso (fun (matrixId, name, frozenBy, frozenAt, axes, cells, ()) =>
      { matrixId, name, frozenBy, frozenAt, axes, cells })
    (fun plan => (plan.matrixId, plan.name, plan.frozenBy, plan.frozenAt, plan.axes, plan.cells, ()))
    (fun _ => rfl)

def MatrixPlan.codec : Codec unicode MatrixPlan :=
  (MatrixPlanFields.codec.refine MatrixPlanFields.cellsAreTheCompleteCartesianSpace).iso
    (fun plan => { plan.val with cellsComplete := plan.property })
    (fun plan => ⟨plan.toMatrixPlanFields, plan.cellsComplete⟩) (fun _ => rfl)

/-! ### Intents -/

def RunManifest.codec : Codec unicode RunManifest :=
  (Record.field "git_commit" (matchedCodec gitCommitPattern) none <|
    Record.field "config_sha256" sha256Codec none <|
    Record.field "dataset_manifest_sha256" sha256Codec none <|
    Record.field "environment_lock_sha256" sha256Codec none <|
    Record.field "base_model_sha256" sha256Codec none <|
    Record.field "seed" (boundedIntCodec 0 maxInt64 (by decide)) none <|
    Record.empty).object (by decide)
  |>.iso (fun (gitCommit, configSha256, datasetManifestSha256, environmentLockSha256,
        baseModelSha256, seed, ()) =>
      { gitCommit, configSha256, datasetManifestSha256, environmentLockSha256, baseModelSha256,
        seed })
    (fun manifest => (manifest.gitCommit, manifest.configSha256, manifest.datasetManifestSha256,
      manifest.environmentLockSha256, manifest.baseModelSha256, manifest.seed, ()))
    (fun _ => rfl)

def ResourceAmountsFields.codec (minWallTime : Int) (small : -(2 ^ 63) ≤ minWallTime) :
    Codec unicode (ResourceAmountsFields minWallTime) :=
  (Record.field "gpu_count" (boundedIntCodec 0 1024 (by decide)) none <|
    Record.field "wall_time_seconds"
      (boundedIntCodec minWallTime 31536000 ⟨small, by decide⟩) none <|
    Record.field "gpu_time_seconds" (boundedIntCodec 0 32292864000 (by decide)) none <|
    Record.field "artifact_bytes" (boundedIntCodec 0 maxInt64 (by decide)) none <|
    Record.empty).object (by decide)
  |>.iso (fun (gpuCount, wallTimeSeconds, gpuTimeSeconds, artifactBytes, ()) =>
      { gpuCount, wallTimeSeconds, gpuTimeSeconds, artifactBytes })
    (fun amounts => (amounts.gpuCount, amounts.wallTimeSeconds, amounts.gpuTimeSeconds,
      amounts.artifactBytes, ()))
    (fun _ => rfl)

def ResourceAmounts.codec (minWallTime : Int) (small : -(2 ^ 63) ≤ minWallTime) :
    Codec unicode (ResourceAmounts minWallTime) :=
  ((ResourceAmountsFields.codec minWallTime small).refine
      ResourceAmountsFields.gpuTimeIsPhysicallyBounded).iso
    (fun amounts => { amounts.val with gpuTimeBounded := amounts.property })
    (fun amounts => ⟨amounts.toResourceAmountsFields, amounts.gpuTimeBounded⟩) (fun _ => rfl)

def ResourceBounds.codec : Codec unicode ResourceBounds :=
  (Record.field "max_gpu_count" (boundedIntCodec 0 1024 (by decide)) none <|
    Record.field "max_wall_time_seconds" (boundedIntCodec 1 31536000 (by decide)) none <|
    Record.field "max_gpu_time_seconds" (boundedIntCodec 0 32292864000 (by decide)) none <|
    Record.field "max_artifact_bytes" (boundedIntCodec 0 maxInt64 (by decide)) none <|
    Record.empty).object (by decide)
  |>.iso (fun (maxGpuCount, maxWallTimeSeconds, maxGpuTimeSeconds, maxArtifactBytes, ()) =>
      { maxGpuCount, maxWallTimeSeconds, maxGpuTimeSeconds, maxArtifactBytes })
    (fun bounds => (bounds.maxGpuCount, bounds.maxWallTimeSeconds, bounds.maxGpuTimeSeconds,
      bounds.maxArtifactBytes, ()))
    (fun _ => rfl)

def LegacyApprovalV1Binding.codec : Codec unicode LegacyApprovalV1Binding :=
  (Record.field "jti" (matchedCodec noncePattern) none <|
    Record.field "action_digest" rawDigestCodec none <|
    Record.field "config_sha256" rawDigestCodec none <|
    Record.field "token_sha256" rawDigestCodec none <|
    Record.empty).object (by decide)
  |>.iso (fun (jti, actionDigest, configSha256, tokenSha256, ()) =>
      { jti, actionDigest, configSha256, tokenSha256 })
    (fun binding => (binding.jti, binding.actionDigest, binding.configSha256,
      binding.tokenSha256, ()))
    (fun _ => rfl)

def optionalBindingCodec : Codec unicode (Option LegacyApprovalV1Binding) :=
  LegacyApprovalV1Binding.codec.optional fun _ => Value.canon_dict_ne_null _ _

/-- `default_factory=dict` -/
def emptyObject : JsonObject unicode where
  members := []
  valid := rfl

def IntentFields.codec : Codec unicode IntentFields :=
  (Record.constant "rxp_version" "1.0" (by decide) <|
    Record.constant "kind" "Intent" (by decide) <|
    Record.field "intent_id" (matchedCodec idPattern) none <|
    Record.field "matrix_id" (matchedCodec idPattern) none <|
    Record.field "cell_id" (matchedCodec idPattern) none <|
    Record.field "coordinates" coordinatesCodec none <|
    Record.field "actor_id" (matchedCodec idPattern) none <|
    Record.field "created_at" utcCodec none <|
    Record.field "action" (boundedTextCodec 1 128) none <|
    Record.field "scope" (boundedTextCodec 1 512) none <|
    Record.field "action_payload" JsonObject.codec none <|
    Record.field "action_payload_digest" sha256Codec none <|
    Record.field "run_manifest" RunManifest.codec none <|
    Record.field "requested_resources" (ResourceAmounts.codec 1 (by decide)) none <|
    Record.field "required_determinism" determinismCodec none <|
    Record.field "approval_v1_binding" optionalBindingCodec (some none) <|
    Record.field "extensions" JsonObject.codec (some emptyObject) <|
    Record.empty).object (by decide)
  |>.iso (fun (intentId, matrixId, cellId, coordinates, actorId, createdAt, action, scope,
        actionPayload, actionPayloadDigest, runManifest, requestedResources, requiredDeterminism,
        approvalV1Binding, extensions, ()) =>
      { intentId, matrixId, cellId, coordinates, actorId, createdAt, action, scope,
        actionPayload, actionPayloadDigest, runManifest, requestedResources, requiredDeterminism,
        approvalV1Binding, extensions })
    (fun intent => (intent.intentId, intent.matrixId, intent.cellId, intent.coordinates,
      intent.actorId, intent.createdAt, intent.action, intent.scope, intent.actionPayload,
      intent.actionPayloadDigest, intent.runManifest, intent.requestedResources,
      intent.requiredDeterminism, intent.approvalV1Binding, intent.extensions, ()))
    (fun _ => rfl)

def Intent.codec : Codec unicode Intent :=
  (IntentFields.codec.refine IntentFields.payloadDigestMatches).iso
    (fun intent => { intent.val with payloadMatches := intent.property })
    (fun intent => ⟨intent.toIntentFields, intent.payloadMatches⟩) (fun _ => rfl)

/-! ### Grants -/

def GrantClaims.codec : Codec unicode GrantClaims :=
  (Record.field "grant_id" (matchedCodec idPattern) none <|
    Record.field "issuer_id" (matchedCodec idPattern) none <|
    Record.field "intent_id" (matchedCodec idPattern) none <|
    Record.field "intent_digest" sha256Codec none <|
    Record.field "matrix_id" (matchedCodec idPattern) none <|
    Record.field "cell_id" (matchedCodec idPattern) none <|
    Record.field "action" (boundedTextCodec 1 128) none <|
    Record.field "scope" (boundedTextCodec 1 512) none <|
    Record.field "action_payload_digest" sha256Codec none <|
    Record.field "bounds" ResourceBounds.codec none <|
    Record.field "minimum_determinism" determinismCodec none <|
    Record.field "issued_at" utcCodec none <|
    Record.field "expires_at" utcCodec none <|
    Record.field "nonce" (matchedCodec noncePattern) none <|
    Record.field "legacy_approval_v1" optionalBindingCodec (some none) <|
    Record.empty).object (by decide)
  |>.iso (fun (grantId, issuerId, intentId, intentDigest, matrixId, cellId, action, scope,
        actionPayloadDigest, bounds, minimumDeterminism, issuedAt, expiresAt, nonce,
        legacyApprovalV1, ()) =>
      { grantId, issuerId, intentId, intentDigest, matrixId, cellId, action, scope,
        actionPayloadDigest, bounds, minimumDeterminism, issuedAt, expiresAt, nonce,
        legacyApprovalV1 })
    (fun claims => (claims.grantId, claims.issuerId, claims.intentId, claims.intentDigest,
      claims.matrixId, claims.cellId, claims.action, claims.scope, claims.actionPayloadDigest,
      claims.bounds, claims.minimumDeterminism, claims.issuedAt, claims.expiresAt, claims.nonce,
      claims.legacyApprovalV1, ()))
    (fun _ => rfl)

def Grant.codec : Codec unicode Grant :=
  (Record.constant "rxp_version" "1.0" (by decide) <|
    Record.constant "kind" "Grant" (by decide) <|
    Record.constant "algorithm" "HMAC-SHA256" (by decide) <|
    Record.field "key_id" (matchedCodec idPattern) none <|
    Record.field "claims" GrantClaims.codec none <|
    Record.field "signature" (digestCodec "hmac-sha256:" (by decide)) none <|
    Record.empty).object (by decide)
  |>.iso (fun (keyId, claims, signature, ()) => { keyId, claims, signature })
    (fun grant => (grant.keyId, grant.claims, grant.signature, ())) (fun _ => rfl)

/-! ### Receipts and evidence -/

def ArtifactRef.codec : Codec unicode ArtifactRef :=
  (Record.field "uri" (boundedTextCodec 1 2048) none <|
    Record.field "media_type" (boundedTextCodec 1 255) none <|
    Record.field "sha256" sha256Codec none <|
    Record.field "bytes" (boundedIntCodec 0 maxInt64 (by decide)) none <|
    Record.empty).object (by decide)
  |>.iso (fun (uri, mediaType, sha256, bytes, ()) => { uri, mediaType, sha256, bytes })
    (fun artifact => (artifact.uri, artifact.mediaType, artifact.sha256, artifact.bytes, ()))
    (fun _ => rfl)

def ReceiptFields.codec : Codec unicode ReceiptFields :=
  (Record.constant "rxp_version" "1.0" (by decide) <|
    Record.constant "kind" "Receipt" (by decide) <|
    Record.field "receipt_id" (matchedCodec idPattern) none <|
    Record.field "matrix_id" (matchedCodec idPattern) none <|
    Record.field "cell_id" (matchedCodec idPattern) none <|
    Record.field "intent_digest" sha256Codec none <|
    Record.field "grant_digest" sha256Codec none <|
    Record.field "grant_id" (matchedCodec idPattern) none <|
    Record.field "executor_id" (matchedCodec idPattern) none <|
    Record.field "started_at" utcCodec none <|
    Record.field "completed_at" utcCodec none <|
    Record.field "outcome" outcomeCodec none <|
    Record.field "output" ArtifactRef.codec none <|
    Record.field "usage" (ResourceAmounts.codec 0 (by decide)) none <|
    Record.field "determinism_level" determinismCodec none <|
    Record.field "replay_count" (boundedIntCodec 1 1000000 (by decide)) none <|
    Record.field "replay_digest" optionalDigestCodec (some none) <|
    Record.field "metadata" JsonObject.codec (some emptyObject) <|
    Record.empty).object (by decide)
  |>.iso (fun (receiptId, matrixId, cellId, intentDigest, grantDigest, grantId, executorId,
        startedAt, completedAt, outcome, output, usage, determinismLevel, replayCount,
        replayDigest, metadata, ()) =>
      { receiptId, matrixId, cellId, intentDigest, grantDigest, grantId, executorId,
        startedAt, completedAt, outcome, output, usage, determinismLevel, replayCount,
        replayDigest, metadata })
    (fun receipt => (receipt.receiptId, receipt.matrixId, receipt.cellId, receipt.intentDigest,
      receipt.grantDigest, receipt.grantId, receipt.executorId, receipt.startedAt,
      receipt.completedAt, receipt.outcome, receipt.output, receipt.usage,
      receipt.determinismLevel, receipt.replayCount, receipt.replayDigest, receipt.metadata, ()))
    (fun _ => rfl)

def Receipt.codec : Codec unicode Receipt :=
  (ReceiptFields.codec.refine ReceiptFields.replayClaimIsSupported).iso
    (fun receipt => { receipt.val with replaySupported := receipt.property })
    (fun receipt => ⟨receipt.toReceiptFields, receipt.replaySupported⟩) (fun _ => rfl)

def Evidence.codec : Codec unicode Evidence :=
  (Record.constant "rxp_version" "1.0" (by decide) <|
    Record.constant "kind" "Evidence" (by decide) <|
    Record.field "evidence_id" (matchedCodec idPattern) none <|
    Record.field "matrix_id" (matchedCodec idPattern) none <|
    Record.field "cell_id" (matchedCodec idPattern) none <|
    Record.field "receipt_digest" sha256Codec none <|
    Record.field "evidence_type" evidenceTypeCodec none <|
    Record.field "producer_id" (matchedCodec idPattern) none <|
    Record.field "artifact" ArtifactRef.codec none <|
    Record.field "claims" JsonObject.codec (some emptyObject) <|
    Record.field "observed_at" utcCodec none <|
    Record.empty).object (by decide)
  |>.iso (fun (evidenceId, matrixId, cellId, receiptDigest, evidenceType, producerId, artifact,
        claims, observedAt, ()) =>
      { evidenceId, matrixId, cellId, receiptDigest, evidenceType, producerId, artifact,
        claims, observedAt })
    (fun evidence => (evidence.evidenceId, evidence.matrixId, evidence.cellId,
      evidence.receiptDigest, evidence.evidenceType, evidence.producerId, evidence.artifact,
      evidence.claims, evidence.observedAt, ()))
    (fun _ => rfl)

/-! ### Decisions -/

def GateAssessment.codec : Codec unicode GateAssessment :=
  (Record.field "status" gateStatusCodec none <|
    Record.field "required_types" Codec.text.array none <|
    Record.field "present_types" Codec.text.array none <|
    Record.field "missing_types" Codec.text.array none <|
    Record.field "evidence_digests" sha256Codec.array none <|
    Record.field "evidence_root" sha256Codec none <|
    Record.field "independent_reviewer" optionalTextCodec (some none) <|
    Record.field "reasons" Codec.text.array (some []) <|
    Record.empty).object (by decide)
  |>.iso (fun (status, requiredTypes, presentTypes, missingTypes, evidenceDigests, evidenceRoot,
        independentReviewer, reasons, ()) =>
      { status, requiredTypes, presentTypes, missingTypes, evidenceDigests, evidenceRoot,
        independentReviewer, reasons })
    (fun gate => (gate.status, gate.requiredTypes, gate.presentTypes, gate.missingTypes,
      gate.evidenceDigests, gate.evidenceRoot, gate.independentReviewer, gate.reasons, ()))
    (fun _ => rfl)

def DecisionFields.codec : Codec unicode DecisionFields :=
  (Record.constant "rxp_version" "1.0" (by decide) <|
    Record.constant "kind" "Decision" (by decide) <|
    Record.field "decision_id" (matchedCodec idPattern) none <|
    Record.field "matrix_id" (matchedCodec idPattern) none <|
    Record.field "cell_id" (matchedCodec idPattern) none <|
    Record.field "intent_digest" sha256Codec none <|
    Record.field "receipt_digest" sha256Codec none <|
    Record.field "evidence_digests" sha256Codec.array none <|
    Record.field "evidence_root" sha256Codec none <|
    Record.field "gate" GateAssessment.codec none <|
    Record.field "verdict" verdictCodec none <|
    Record.field "determinism_level" determinismCodec none <|
    Record.field "decided_by" (matchedCodec idPattern) none <|
    Record.field "decided_at" utcCodec none <|
    Record.field "rationale_code" (matchedCodec rationaleCodePattern) none <|
    Record.empty).object (by decide)
  |>.iso (fun (decisionId, matrixId, cellId, intentDigest, receiptDigest, evidenceDigests,
        evidenceRoot, gate, verdict, determinismLevel, decidedBy, decidedAt, rationaleCode, ()) =>
      { decisionId, matrixId, cellId, intentDigest, receiptDigest, evidenceDigests,
        evidenceRoot, gate, verdict, determinismLevel, decidedBy, decidedAt, rationaleCode })
    (fun decision => (decision.decisionId, decision.matrixId, decision.cellId,
      decision.intentDigest, decision.receiptDigest, decision.evidenceDigests,
      decision.evidenceRoot, decision.gate, decision.verdict, decision.determinismLevel,
      decision.decidedBy, decision.decidedAt, decision.rationaleCode, ()))
    (fun _ => rfl)

def Decision.codec : Codec unicode Decision :=
  (DecisionFields.codec.refine DecisionFields.evidenceMatchesGate).iso
    (fun decision => { decision.val with matchesGate := decision.property })
    (fun decision => ⟨decision.toDecisionFields, decision.matchesGate⟩) (fun _ => rfl)

/-! ### Ledgers -/

/-- The fields an entry digest covers. -/
def LedgerEntryCore.codec : Codec unicode LedgerEntryCore :=
  (Record.field "sequence" (Codec.integer.refine fun number => 1 ≤ number) none <|
    Record.field "event_type" eventTypeCodec none <|
    Record.field "matrix_id" (matchedCodec idPattern) none <|
    Record.field "cell_id" (matchedCodec idPattern) none <|
    Record.field "document_kind" documentKindCodec none <|
    Record.field "document_digest" sha256Codec none <|
    Record.field "document" JsonObject.codec none <|
    Record.field "causal_parents" sha256Codec.array none <|
    Record.field "previous_root" sha256Codec none <|
    Record.field "recorded_at" utcCodec none <|
    Record.empty).object (by decide)
  |>.iso (fun (sequence, eventType, matrixId, cellId, documentKind, documentDigest, document,
        causalParents, previousRoot, recordedAt, ()) =>
      { sequence, eventType, matrixId, cellId, documentKind, documentDigest, document,
        causalParents, previousRoot, recordedAt })
    (fun core => (core.sequence, core.eventType, core.matrixId, core.cellId, core.documentKind,
      core.documentDigest, core.document, core.causalParents, core.previousRoot,
      core.recordedAt, ()))
    (fun _ => rfl)

end EgoAgent.Rxp
