import EgoAgent.Rxp.DecisionSupport

/-!
Documents re-read from their canonical bytes.

A document and its re-reading agree on identifiers, digests, timestamps,
resources and enumerations; free text, coordinates and embedded objects are
normalised.  Re-reading fails only where normalisation pushes a bounded text
past its bound.
-/

namespace EgoAgent.Rxp

open Platform MatrixLedger

private theorem required_ascii : ∀ name ∈ requiredEvidenceTypes, isAscii name := by
  decide

variable [Platform]

/-! ### Fields that re-reading leaves alone -/

private theorem matched_norm (pattern : Pattern) (item : Matched pattern) :
    (matchedCodec pattern).norm item = some item := rfl

private theorem utc_norm (item : Utc) : utcCodec.norm item = some item := rfl

private theorem sha256_norm (item : Digest) : sha256Codec.norm item = some item := rfl

private theorem digest_norm (label : String) (ascii : isAscii label) (item : Digest) :
    (digestCodec label ascii).norm item = some item := rfl

private theorem boundedInt_norm (low high : Int) (within : -(2 ^ 63) ≤ low ∧ high ≤ maxInt64)
    (item : BoundedInt low high) : (boundedIntCodec low high within).norm item = some item := rfl

private theorem determinism_norm (item : DeterminismLevel) :
    determinismCodec.norm item = some item := rfl

private theorem outcome_norm (item : Outcome) : outcomeCodec.norm item = some item := rfl

private theorem evidenceType_norm (item : EvidenceType) :
    evidenceTypeCodec.norm item = some item := rfl

private theorem verdict_norm (item : Verdict) : verdictCodec.norm item = some item := rfl

private theorem runManifest_norm (item : RunManifest) : RunManifest.codec.norm item = some item :=
  rfl

private theorem resourceAmounts_norm (minWallTime : Int) (small : -(2 ^ 63) ≤ minWallTime)
    (item : ResourceAmounts minWallTime) :
    (ResourceAmounts.codec minWallTime small).norm item = some item := by
  have fields : (ResourceAmountsFields.codec minWallTime small).norm item.toResourceAmountsFields =
      some item.toResourceAmountsFields := rfl
  have refined := (Codec.refine_norm (ResourceAmountsFields.codec minWallTime small)
    ResourceAmountsFields.gpuTimeIsPhysicallyBounded
    ⟨item.toResourceAmountsFields, item.gpuTimeBounded⟩
    ⟨item.toResourceAmountsFields, item.gpuTimeBounded⟩).mpr fields
  simp only [ResourceAmounts.codec, Codec.iso, refined, Option.map_some]

private theorem resourceBounds_norm (item : ResourceBounds) :
    ResourceBounds.codec.norm item = some item := rfl

private theorem optionalBinding_norm (item : Option LegacyApprovalV1Binding) :
    optionalBindingCodec.norm item = some item := by
  cases item <;> rfl

private theorem optionalDigest_norm (item : Option Digest) :
    optionalDigestCodec.norm item = some item := by
  cases item <;> rfl

private theorem digests_norm (items : List Digest) : sha256Codec.array.norm items = some items :=
  Codec.traverse_of_fixed _ _ fun _ _ => rfl

/-- A bounded text still within its bounds after normalisation. -/
def ReadsBack {low high : Nat} (text : BoundedText low high) : Prop :=
  low ≤ (unicode.nfc text.val).length ∧ (unicode.nfc text.val).length ≤ high

theorem boundedText_norm {low high : Nat} {text : BoundedText low high} (fits : ReadsBack text) :
    (boundedTextCodec low high).norm text = some ⟨unicode.nfc text.val, fits⟩ :=
  (Codec.refine_norm _ _ _ _).mpr rfl

/-! ### Coordinates -/

private theorem scalar_pyEq_norm {left right left' right' : Scalar}
    (leftNorm : scalarCodec.norm left = some left')
    (rightNorm : scalarCodec.norm right = some right')
    (same : left.pyEq right = true) : left'.pyEq right' = true := by
  have intNorm : ∀ {number : Int} {normal : Scalar},
      scalarCodec.norm (.int number) = some normal → normal = .int number := by
    intro number normal computed
    simp only [scalarCodec] at computed
    split at computed
    · cases computed; rfl
    · cases computed
  cases left with
  | str leftText =>
      cases right with
      | str rightText =>
          cases leftNorm
          cases rightNorm
          simp only [Scalar.pyEq, beq_iff_eq] at same ⊢
          rw [same]
      | _ => cases same
  | int leftNumber =>
      have leftEq := intNorm leftNorm
      subst leftEq
      cases right with
      | str => cases same
      | int rightNumber =>
          have rightEq := intNorm rightNorm
          subst rightEq
          exact same
      | bool flag =>
          cases rightNorm
          exact same
  | bool leftFlag =>
      cases leftNorm
      cases right with
      | str => cases same
      | int rightNumber =>
          have rightEq := intNorm rightNorm
          subst rightEq
          exact same
      | bool flag =>
          cases rightNorm
          exact same

/-- Equal coordinates are equal after re-reading. -/
theorem Coordinates.pyEq_norm {left right left' right' : Coordinates}
    (leftNorm : coordinatesCodec.norm left = some left')
    (rightNorm : coordinatesCodec.norm right = some right')
    (same : left.pyEq right = true) : left'.pyEq right' = true := by
  obtain ⟨leftEntries, leftRelated, leftPerm⟩ := Mapping.norm_entries _ _ _ leftNorm
  obtain ⟨rightEntries, rightRelated, rightPerm⟩ := Mapping.norm_entries _ _ _ rightNorm
  simp only [Coordinates.pyEq, Bool.and_eq_true, beq_iff_eq, List.all_eq_true] at same ⊢
  obtain ⟨lengths, matching⟩ := same
  refine ⟨?_, ?_⟩
  · rw [leftPerm.length_eq, rightPerm.length_eq, ← leftRelated.length_eq,
      ← rightRelated.length_eq, lengths]
  · intro target present
    obtain ⟨source, inLeft, keyEq, valueNorm⟩ :=
      Related.partner_of_right leftRelated target (leftPerm.mem_iff.mp present)
    have matched := matching source inLeft
    split at matched
    · rename_i other found
      obtain ⟨otherTarget, inRight, otherKey, otherNorm⟩ :=
        Related.partner_of_left rightRelated (source.1, other) (Dict.mem_of_get? _ found)
      have here : (target.1, otherTarget.2) ∈ right'.members := by
        rw [keyEq, ← otherKey]
        exact rightPerm.mem_iff.mpr inRight
      rw [Dict.get?_of_mem right'.members right'.distinct here]
      exact scalar_pyEq_norm valueNorm otherNorm matched
    · cases matched

theorem scalarCodec_total : scalarCodec.Total := by
  intro scalar value computed
  cases scalar with
  | str text => exact ⟨_, rfl⟩
  | int number =>
      simp only [scalarCodec, Scalar.value, Value.canon] at computed
      split at computed
      · rename_i fits
        exact ⟨.int number, by simp [scalarCodec, fits]⟩
      · cases computed
  | bool flag => exact ⟨_, rfl⟩

theorem coordinatesCodec_total : coordinatesCodec.Total := Mapping.total scalarCodec_total

/-! ### Documents and their re-readings -/

structure IntentNormal (source reread : Intent) : Prop where
  intentId : reread.intentId = source.intentId
  matrixId : reread.matrixId = source.matrixId
  cellId : reread.cellId = source.cellId
  coordinates : coordinatesCodec.norm source.coordinates = some reread.coordinates
  createdAt : reread.createdAt = source.createdAt
  action : (boundedTextCodec 1 128).norm source.action = some reread.action
  scope : (boundedTextCodec 1 512).norm source.scope = some reread.scope
  actionPayloadDigest : reread.actionPayloadDigest = source.actionPayloadDigest
  requestedResources : reread.requestedResources = source.requestedResources
  requiredDeterminism : reread.requiredDeterminism = source.requiredDeterminism
  approvalV1Binding : reread.approvalV1Binding = source.approvalV1Binding

theorem Intent.norm_some {source reread : Intent}
    (computed : Intent.codec.norm source = some reread) : IntentNormal source reread := by
  have refined := Codec.iso_norm _ _ _ _ _ _ computed
  rw [Codec.refine_norm] at refined
  have fields := Codec.iso_norm _ _ _ _ _ _ refined
  simp only [Record.object_norm, Record.field_norm, Record.constant_norm, matched_norm, utc_norm,
    sha256_norm, determinism_norm, runManifest_norm, resourceAmounts_norm, optionalBinding_norm,
    Option.some.injEq] at fields
  obtain ⟨intentId, matrixId, cellId, coordinates, _, createdAt, action, scope, _, payloadDigest,
    _, requested, required, binding, _⟩ := fields
  exact ⟨intentId.symm, matrixId.symm, cellId.symm, coordinates, createdAt.symm, action, scope,
    payloadDigest.symm, requested.symm, required.symm, binding.symm⟩


/-- An intent with a digest re-reads when its free text stays within bounds. -/
theorem Intent.norm_returns (source : Intent) (action : ReadsBack source.action)
    (scope : ReadsBack source.scope)
    (encodes : ∃ value, (Intent.codec.dump source).canon unicode = some value) :
    ∃ reread, Intent.codec.norm source = some reread := by
  obtain ⟨value, canonEq⟩ := encodes
  obtain ⟨_, coordinatesCanon⟩ := Value.canon_member canonEq
    (show ("coordinates", coordinatesCodec.dump source.coordinates) ∈ _ from
      .tail _ <| .tail _ <| .tail _ <| .tail _ <| .tail _ <| .head _)
  obtain ⟨coordinates, coordinatesEq⟩ := coordinatesCodec_total _ _ coordinatesCanon
  obtain ⟨payload, payloadEq, _⟩ := source.actionPayload.norm_isSome
  obtain ⟨extensions, extensionsEq, _⟩ := source.extensions.norm_isSome
  let fields : IntentFields := { source.toIntentFields with
    coordinates
    action := ⟨unicode.nfc source.action.val, action⟩
    scope := ⟨unicode.nfc source.scope.val, scope⟩
    actionPayload := payload
    extensions }
  have fieldsEq : IntentFields.codec.norm source.toIntentFields = some fields := by
    refine Codec.iso_norm_of _ _ _ _ rfl ?_
    simp only [Record.object_norm, Record.field_norm, Record.constant_norm]
    exact ⟨rfl, rfl, rfl, coordinatesEq, rfl, rfl, boundedText_norm action,
      boundedText_norm scope, payloadEq, rfl, rfl, resourceAmounts_norm _ _ _, rfl, optionalBinding_norm _, extensionsEq, rfl⟩
  have legal : fields.payloadDigestMatches := by
    refine ⟨?_, source.payloadMatches.2⟩
    have sameDigest := digestDocument_congr (JsonObject.codec.dump_norm _ _ payloadEq)
    change (digestDocument payload.value).toOption = _
    change digestDocument payload.value = digestDocument source.actionPayload.value at sameDigest
    rw [sameDigest]
    exact source.payloadMatches.1
  exact ⟨{ fields with payloadMatches := legal },
    Codec.iso_norm_of _ _ _ _ rfl ((Codec.refine_norm _ _ _ _).mpr fieldsEq)⟩

structure GrantNormal (source reread : Grant) : Prop where
  keyId : reread.keyId = source.keyId
  signature : reread.signature = source.signature
  grantId : reread.claims.grantId = source.claims.grantId
  intentId : reread.claims.intentId = source.claims.intentId
  intentDigest : reread.claims.intentDigest = source.claims.intentDigest
  matrixId : reread.claims.matrixId = source.claims.matrixId
  cellId : reread.claims.cellId = source.claims.cellId
  action : (boundedTextCodec 1 128).norm source.claims.action = some reread.claims.action
  scope : (boundedTextCodec 1 512).norm source.claims.scope = some reread.claims.scope
  actionPayloadDigest : reread.claims.actionPayloadDigest = source.claims.actionPayloadDigest
  bounds : reread.claims.bounds = source.claims.bounds
  minimumDeterminism : reread.claims.minimumDeterminism = source.claims.minimumDeterminism
  issuedAt : reread.claims.issuedAt = source.claims.issuedAt
  expiresAt : reread.claims.expiresAt = source.claims.expiresAt
  legacyApprovalV1 : reread.claims.legacyApprovalV1 = source.claims.legacyApprovalV1

theorem Grant.norm_some {source reread : Grant}
    (computed : Grant.codec.norm source = some reread) : GrantNormal source reread := by
  have outer := Codec.iso_norm _ _ _ _ _ _ computed
  simp only [Record.object_norm, Record.field_norm, Record.constant_norm, matched_norm,
    digest_norm, Option.some.injEq] at outer
  obtain ⟨keyId, claims, signature, _⟩ := outer
  have fields := Codec.iso_norm _ _ _ _ _ _ claims
  simp only [Record.object_norm, Record.field_norm, matched_norm, utc_norm, sha256_norm,
    determinism_norm, resourceBounds_norm, optionalBinding_norm, Option.some.injEq] at fields
  obtain ⟨grantId, _, intentId, intentDigest, matrixId, cellId, action, scope, payloadDigest,
    bounds, minimum, issuedAt, expiresAt, _, legacy, _⟩ := fields
  exact ⟨keyId.symm, signature.symm, grantId.symm, intentId.symm, intentDigest.symm,
    matrixId.symm, cellId.symm, action, scope, payloadDigest.symm, bounds.symm, minimum.symm,
    issuedAt.symm, expiresAt.symm, legacy.symm⟩

theorem Grant.norm_returns (source : Grant) (action : ReadsBack source.claims.action)
    (scope : ReadsBack source.claims.scope) :
    ∃ reread, Grant.codec.norm source = some reread := by
  let claims : GrantClaims := { source.claims with
    action := ⟨unicode.nfc source.claims.action.val, action⟩
    scope := ⟨unicode.nfc source.claims.scope.val, scope⟩ }
  have claimsEq : GrantClaims.codec.norm source.claims = some claims := by
    refine Codec.iso_norm_of _ _ _ _ rfl ?_
    simp only [Record.object_norm, Record.field_norm]
    exact ⟨rfl, rfl, rfl, rfl, rfl, rfl, boundedText_norm action, boundedText_norm scope, rfl,
      rfl, rfl, rfl, rfl, rfl, optionalBinding_norm _, rfl⟩
  refine ⟨{ source with claims }, Codec.iso_norm_of _ _ _ _ rfl ?_⟩
  simp only [Record.object_norm, Record.field_norm, Record.constant_norm]
  exact ⟨rfl, claimsEq, rfl, rfl⟩

structure ReceiptNormal (source reread : Receipt) : Prop where
  matrixId : reread.matrixId = source.matrixId
  cellId : reread.cellId = source.cellId
  intentDigest : reread.intentDigest = source.intentDigest
  grantDigest : reread.grantDigest = source.grantDigest
  grantId : reread.grantId = source.grantId
  startedAt : reread.startedAt = source.startedAt
  completedAt : reread.completedAt = source.completedAt
  outcome : reread.outcome = source.outcome
  outputBytes : reread.output.bytes = source.output.bytes
  usage : reread.usage = source.usage
  determinismLevel : reread.determinismLevel = source.determinismLevel

/-- The free text of an artifact reference stays within its bounds. -/
def ArtifactRef.ReadsBack (artifact : ArtifactRef) : Prop :=
  Rxp.ReadsBack artifact.uri ∧ Rxp.ReadsBack artifact.mediaType

private theorem artifact_norm_some {source reread : ArtifactRef}
    (computed : ArtifactRef.codec.norm source = some reread) : reread.bytes = source.bytes := by
  have fields := Codec.iso_norm _ _ _ _ _ _ computed
  simp only [Record.object_norm, Record.field_norm, sha256_norm, boundedInt_norm,
    Option.some.injEq] at fields
  exact fields.2.2.2.1.symm

private theorem artifact_norm_returns (source : ArtifactRef) (reads : source.ReadsBack) :
    ∃ reread, ArtifactRef.codec.norm source = some reread ∧ reread.sha256 = source.sha256 := by
  refine ⟨{ source with
    uri := ⟨unicode.nfc source.uri.val, reads.1⟩
    mediaType := ⟨unicode.nfc source.mediaType.val, reads.2⟩ },
    Codec.iso_norm_of _ _ _ _ rfl ?_, rfl⟩
  simp only [Record.object_norm, Record.field_norm]
  exact ⟨boundedText_norm reads.1, boundedText_norm reads.2, rfl, rfl, rfl⟩

theorem Receipt.norm_some {source reread : Receipt}
    (computed : Receipt.codec.norm source = some reread) : ReceiptNormal source reread := by
  have refined := Codec.iso_norm _ _ _ _ _ _ computed
  rw [Codec.refine_norm] at refined
  have fields := Codec.iso_norm _ _ _ _ _ _ refined
  simp only [Record.object_norm, Record.field_norm, Record.constant_norm, matched_norm, utc_norm,
    sha256_norm, determinism_norm, outcome_norm, resourceAmounts_norm, boundedInt_norm,
    optionalDigest_norm, Option.some.injEq] at fields
  obtain ⟨_, matrixId, cellId, intentDigest, grantDigest, grantId, _, startedAt, completedAt,
    outcome, output, usage, determinism, _, _, _, _⟩ := fields
  exact ⟨matrixId.symm, cellId.symm, intentDigest.symm, grantDigest.symm, grantId.symm,
    startedAt.symm, completedAt.symm, outcome.symm, artifact_norm_some output, usage.symm,
    determinism.symm⟩

theorem Receipt.norm_returns (source : Receipt) (reads : source.output.ReadsBack) :
    ∃ reread, Receipt.codec.norm source = some reread := by
  obtain ⟨output, outputEq, sameSha⟩ := artifact_norm_returns source.output reads
  obtain ⟨metadata, metadataEq, _⟩ := source.metadata.norm_isSome
  let fields : ReceiptFields := { source.toReceiptFields with output, metadata }
  have fieldsEq : ReceiptFields.codec.norm source.toReceiptFields = some fields := by
    refine Codec.iso_norm_of _ _ _ _ rfl ?_
    simp only [Record.object_norm, Record.field_norm, Record.constant_norm]
    exact ⟨rfl, rfl, rfl, rfl, rfl, rfl, rfl, rfl, rfl, rfl, outputEq,
      resourceAmounts_norm _ _ _, rfl, rfl, optionalDigest_norm _, metadataEq, rfl⟩
  have legal : fields.replayClaimIsSupported := by
    unfold ReceiptFields.replayClaimIsSupported
    change _ → ¬ (_ ∨ _ ≠ some output.sha256)
    rw [sameSha]
    exact source.replaySupported
  exact ⟨{ fields with replaySupported := legal },
    Codec.iso_norm_of _ _ _ _ rfl ((Codec.refine_norm _ _ _ _).mpr fieldsEq)⟩

structure EvidenceNormal (source reread : Evidence) : Prop where
  evidenceId : reread.evidenceId = source.evidenceId
  matrixId : reread.matrixId = source.matrixId
  cellId : reread.cellId = source.cellId
  receiptDigest : reread.receiptDigest = source.receiptDigest
  evidenceType : reread.evidenceType = source.evidenceType
  producerId : reread.producerId = source.producerId
  claims : JsonObject.codec.norm source.claims = some reread.claims
  observedAt : reread.observedAt = source.observedAt

theorem Evidence.norm_some {source reread : Evidence}
    (computed : Evidence.codec.norm source = some reread) : EvidenceNormal source reread := by
  have fields := Codec.iso_norm _ _ _ _ _ _ computed
  simp only [Record.object_norm, Record.field_norm, Record.constant_norm, matched_norm, utc_norm,
    sha256_norm, evidenceType_norm, Option.some.injEq] at fields
  obtain ⟨evidenceId, matrixId, cellId, receiptDigest, evidenceType, producerId, _, claims,
    observedAt, _⟩ := fields
  exact ⟨evidenceId.symm, matrixId.symm, cellId.symm, receiptDigest.symm, evidenceType.symm,
    producerId.symm, claims, observedAt.symm⟩

theorem Evidence.norm_returns (source : Evidence) (reads : source.artifact.ReadsBack) :
    ∃ reread, Evidence.codec.norm source = some reread := by
  obtain ⟨artifact, artifactEq, _⟩ := artifact_norm_returns source.artifact reads
  obtain ⟨claims, claimsEq, _⟩ := source.claims.norm_isSome
  refine ⟨{ source with artifact, claims }, Codec.iso_norm_of _ _ _ _ rfl ?_⟩
  simp only [Record.object_norm, Record.field_norm, Record.constant_norm]
  exact ⟨rfl, rfl, rfl, rfl, rfl, rfl, artifactEq, claimsEq, rfl, rfl⟩

structure DecisionNormal (source reread : Decision) : Prop where
  matrixId : reread.matrixId = source.matrixId
  cellId : reread.cellId = source.cellId
  intentDigest : reread.intentDigest = source.intentDigest
  receiptDigest : reread.receiptDigest = source.receiptDigest
  evidenceDigests : reread.evidenceDigests = source.evidenceDigests
  gate : GateAssessment.codec.norm source.gate = some reread.gate
  determinismLevel : reread.determinismLevel = source.determinismLevel
  decidedAt : reread.decidedAt = source.decidedAt

theorem Decision.norm_some {source reread : Decision}
    (computed : Decision.codec.norm source = some reread) : DecisionNormal source reread := by
  have refined := Codec.iso_norm _ _ _ _ _ _ computed
  rw [Codec.refine_norm] at refined
  have fields := Codec.iso_norm _ _ _ _ _ _ refined
  simp only [Record.object_norm, Record.field_norm, Record.constant_norm, matched_norm, utc_norm,
    sha256_norm, digests_norm, determinism_norm, verdict_norm, Option.some.injEq] at fields
  obtain ⟨_, matrixId, cellId, intentDigest, receiptDigest, digests, _, gate, _, determinism, _,
    decidedAt, _, _⟩ := fields
  exact ⟨matrixId.symm, cellId.symm, intentDigest.symm, receiptDigest.symm, digests.symm, gate,
    determinism.symm, decidedAt.symm⟩

private theorem texts_norm (items : List String) :
    Codec.text.array.norm (u := unicode) items = some (items.map unicode.nfc) := by
  refine (Codec.traverse_eq_some_iff _ _ _).mpr ?_
  induction items with
  | nil => exact .nil
  | cons item rest ih => exact .cons rfl ih

theorem Decision.norm_returns (source : Decision) :
    ∃ reread, Decision.codec.norm source = some reread := by
  let gate : GateAssessment := { source.gate with
    requiredTypes := source.gate.requiredTypes.map unicode.nfc
    presentTypes := source.gate.presentTypes.map unicode.nfc
    missingTypes := source.gate.missingTypes.map unicode.nfc
    independentReviewer := source.gate.independentReviewer.map unicode.nfc
    reasons := source.gate.reasons.map unicode.nfc }
  have reviewerEq : optionalTextCodec.norm source.gate.independentReviewer =
      some gate.independentReviewer := by
    cases same : source.gate.independentReviewer <;> simp [gate, same] <;> rfl
  have gateEq : GateAssessment.codec.norm source.gate = some gate := by
    refine Codec.iso_norm_of _ _ _ _ rfl ?_
    simp only [Record.object_norm, Record.field_norm]
    exact ⟨rfl, texts_norm _, texts_norm _, texts_norm _, digests_norm _, rfl, reviewerEq,
      texts_norm _, rfl⟩
  let fields : DecisionFields := { source.toDecisionFields with gate }
  have fieldsEq : DecisionFields.codec.norm source.toDecisionFields = some fields := by
    refine Codec.iso_norm_of _ _ _ _ rfl ?_
    simp only [Record.object_norm, Record.field_norm, Record.constant_norm]
    exact ⟨rfl, rfl, rfl, rfl, rfl, digests_norm _, rfl, gateEq, rfl, rfl, rfl, rfl, rfl, rfl⟩
  exact ⟨{ fields with matchesGate := source.matchesGate },
    Codec.iso_norm_of _ _ _ _ rfl ((Codec.refine_norm _ _ _ _).mpr fieldsEq)⟩

private theorem texts_fixed {items : List String} (ascii : ∀ item ∈ items, isAscii item) :
    Codec.text.array.norm (u := unicode) items = some items := by
  refine (texts_norm items).trans (congrArg some ?_)
  conv_rhs => rw [← List.map_id items]
  exact List.map_congr_left fun item present => unicode.nfc_ascii (ascii item present)

private theorem presentTypes_ascii (records : List Evidence) :
    ∀ name ∈ presentTypes records, isAscii name := by
  intro name present
  rw [presentTypes, mem_sortedText, List.mem_dedup] at present
  obtain ⟨record, _, rfl⟩ := List.mem_map.mp present
  cases record.evidenceType <;> decide

private theorem missingTypes_ascii (records : List Evidence) :
    ∀ name ∈ missingTypes records, isAscii name := by
  intro name present
  rw [missingTypes, mem_sortedText] at present
  exact required_ascii name (List.mem_of_mem_filter present)

private theorem gateReasons_ascii (records : List Evidence) :
    ∀ reason ∈ gateReasons records, isAscii reason := by
  have missingAscii : isAscii ("missing required evidence: " ++
      ", ".intercalate (missingTypes records)) :=
    isAscii_append (by decide) (isAscii_intercalate (by decide) _ (missingTypes_ascii records))
  have choice : ∀ (condition : Prop) [Decidable condition] (reason text : String),
      isAscii text → (reason ∈ (if condition then [text] else []) → isAscii reason) ∧
        (reason ∈ (if condition then [] else [text]) → isAscii reason) := by
    intro condition _ reason text ascii
    by_cases holds : condition <;> simp [holds] <;> rintro rfl <;> exact ascii
  intro reason present
  simp only [gateReasons, List.mem_append] at present
  rcases present with (((first | second) | third) | fourth) | fifth
  · exact (choice _ _ _ missingAscii).2 first
  · exact (choice _ _ _ (by decide)).1 second
  · exact (choice _ _ _ (by decide)).2 third
  · exact (choice _ _ _ (by decide)).1 fourth
  · exact (choice _ _ _ (by decide)).1 fifth

/-- A gate assessment the gate itself computed holds plain text only. -/
theorem gate_norm_fixed {records : List Evidence} {gate : GateAssessment}
    (computed : evidenceGate records = .ok gate) :
    GateAssessment.codec.norm gate = some gate := by
  obtain ⟨digests, evidenceRoot, _, _, rfl⟩ := (evidenceGate_eq_ok records gate).mp computed
  have reviewerEq : optionalTextCodec.norm (independentReviewer records) =
      some (independentReviewer records) := by
    unfold independentReviewer
    cases (ofType .review records).find? (isIndependentReview records) with
    | none => rfl
    | some review =>
        have plain := unicode.nfc_ascii review.producerId.ascii
        simp only [Option.map_some]
        change some (some (unicode.nfc review.producerId.val)) = _
        rw [plain]
  refine Codec.iso_norm_of _ _ _ _ rfl ?_
  simp only [Record.object_norm, Record.field_norm]
  exact ⟨rfl, texts_fixed required_ascii, texts_fixed (presentTypes_ascii records),
    texts_fixed (missingTypes_ascii records), digests_norm _, rfl, reviewerEq,
    texts_fixed (gateReasons_ascii records), rfl⟩

/-! ### The gate on re-read evidence -/

/-- The claims the gate looks at read the same after normalisation. -/
def Evidence.GateStable (evidence : Evidence) : Prop :=
  ∀ claims, JsonObject.codec.norm evidence.claims = some claims →
    ({ evidence with claims }).validMetric = evidence.validMetric ∧
      ({ evidence with claims }).independentPass = evidence.independentPass ∧
      ({ evidence with claims }).reviewedProducers = evidence.reviewedProducers

/-- A record and its re-reading, with the claims the gate looks at unchanged. -/
structure EvidenceReread (source reread : Evidence) : Prop where
  norm : Evidence.codec.norm source = some reread
  stable : source.GateStable

private theorem reread_claims {source reread : Evidence} (related : EvidenceReread source reread) :
    reread.validMetric = source.validMetric ∧
      reread.independentPass = source.independentPass ∧
      reread.reviewedProducers = source.reviewedProducers := by
  have fields := Evidence.norm_some related.norm
  obtain ⟨metric, pass, reviewed⟩ := related.stable reread.claims fields.claims
  refine ⟨metric, ?_, reviewed⟩
  rw [← pass]
  unfold Evidence.independentPass
  rw [fields.producerId]
  rfl

section Reread

variable {source reread : List Evidence} (related : List.Forall₂ EvidenceReread source reread)

include related

private theorem producers_reread : producers reread = producers source := by
  have kept := Related.filter related (fun record => record.evidenceType ≠ .review)
    (fun record => record.evidenceType ≠ .review)
    fun a b pair => by simp only [(Evidence.norm_some pair.norm).evidenceType]
  exact Related.map_eq kept _ _ fun a b pair => by
    rw [(Evidence.norm_some pair.norm).producerId]

private theorem ofType_reread (evidenceType : EvidenceType) :
    List.Forall₂ EvidenceReread (ofType evidenceType source) (ofType evidenceType reread) :=
  Related.filter related _ _ fun a b pair => by
    simp only [(Evidence.norm_some pair.norm).evidenceType]

private theorem isIndependentReview_reread (review review' : Evidence)
    (pair : EvidenceReread review review') :
    isIndependentReview reread review' = isIndependentReview source review := by
  obtain ⟨_, pass, reviewed⟩ := reread_claims pair
  unfold isIndependentReview
  rw [pass, reviewed, producers_reread related, (Evidence.norm_some pair.norm).producerId]

private theorem independentReviewer_reread :
    independentReviewer reread = independentReviewer source := by
  have found := Related.find? (ofType_reread related .review) _ _
    (isIndependentReview_reread related)
  unfold independentReviewer
  generalize (ofType .review source).find? _ = before at found ⊢
  generalize (ofType .review reread).find? _ = after at found ⊢
  cases found with
  | none => rfl
  | some pair => rw [Option.map_some, Option.map_some, (Evidence.norm_some pair.norm).producerId]

private theorem presentTypes_reread : presentTypes reread = presentTypes source := by
  unfold presentTypes
  rw [Related.map_eq related _ _ fun a b pair => by
    rw [(Evidence.norm_some pair.norm).evidenceType]]

private theorem gateReasons_reread : gateReasons reread = gateReasons source := by
  have metrics := ofType_reread related .metric
  have reviews := ofType_reread related .review
  have metricsEmpty : (ofType .metric reread = []) = (ofType .metric source = []) := by
    rw [← List.length_eq_zero_iff, ← List.length_eq_zero_iff, metrics.length_eq]
  have reviewsEmpty : (ofType .review reread = []) = (ofType .review source = []) := by
    rw [← List.length_eq_zero_iff, ← List.length_eq_zero_iff, reviews.length_eq]
  have receipts := Related.map_eq related (fun record => record.receiptDigest)
    (fun record => record.receiptDigest) fun a b pair => (Evidence.norm_some pair.norm).receiptDigest
  have ids := Related.map_eq related (fun record => record.evidenceId)
    (fun record => record.evidenceId) fun a b pair => (Evidence.norm_some pair.norm).evidenceId
  have valid := Related.any_eq metrics Evidence.validMetric Evidence.validMetric
    fun a b pair => (reread_claims pair).1
  unfold gateReasons missingTypes
  simp only [presentTypes_reread related, receipts, ids, valid, metricsEmpty, reviewsEmpty, ne_eq,
    independentReviewer_reread related]

private theorem digestAll_reread : digestAll reread = digestAll source := by
  induction related with
  | nil => rfl
  | cons first _ ih =>
      have same := digestDocument_congr (Evidence.codec.dump_norm _ _ first.norm)
      simp only [digestAll, ih, Evidence.value, same]

/-- The gate reads re-read evidence as it read the original. -/
theorem evidenceGate_reread : evidenceGate reread = evidenceGate source := by
  unfold evidenceGate
  rw [digestAll_reread related]
  simp only [gateReasons_reread related, presentTypes_reread related, missingTypes,
    independentReviewer_reread related]

end Reread

end EgoAgent.Rxp
