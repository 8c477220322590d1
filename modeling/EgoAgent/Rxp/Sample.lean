import EgoAgent.Rxp.Completion

/-!
Files whose documents normalisation leaves alone, and one such file.

Entries with distinct digests do not collide, and the signature pass accepts
the entries of a coherent file.  The file at the end lives on a platform that
normalises nothing and whose hash is eight bytes of what it hashes, enough to
tell the sample's documents apart.
-/

namespace EgoAgent.Rxp

open Platform MatrixLedger

section General

variable [Platform]

variable {entries : List LedgerEntry}

/-- Embedded documents with distinct digests were hashed without a collision. -/
theorem collisionFree_of_distinct {documents : List Document}
    (embedded : List.Forall₂ Embeds entries documents)
    (distinct : (entries.map fun entry => entry.documentDigest).Nodup) :
    Set.InjOn sha256 (hashedDocuments entries) := by
  have digested : ∀ entry ∈ entries, ∀ payload,
      canonicalBytes unicode entry.document.value = some payload →
        entry.documentDigest = sha256 (documentDomain ++ payload) := by
    intro entry present payload encoded
    obtain ⟨document, _, embeds⟩ := Related.partner_of_left embedded entry present
    have own : digestDocument entry.document.value = .ok entry.documentDigest := by
      rw [← embeds.digest]
      exact digestDocument_congr
        ((Value.canon_isCanon unicode _ _ embeds.canon).trans embeds.canon.symm)
    obtain ⟨other, otherEncoded, digestEq⟩ := (digestDocument_eq_ok _ _).mp own
    rw [encoded, Option.some.injEq] at otherEncoded
    rw [digestEq, ← otherEncoded]
    rfl
  rintro _ ⟨left, inLeft, leftPayload, leftEncoded, rfl⟩ _
    ⟨right, inRight, rightPayload, rightEncoded, rfl⟩ same
  rw [← digested left inLeft _ leftEncoded, ← digested right inRight _ rightEncoded] at same
  obtain rfl := List.inj_on_of_nodup_map distinct inLeft inRight same
  rw [leftEncoded, Option.some.injEq] at rightEncoded
  rw [rightEncoded]

/-- The digests of embedded documents, in order. -/
theorem digests_of_embeds {documents : List Document}
    (embedded : List.Forall₂ Embeds entries documents) :
    documents.map (fun document => (digestDocument document.value).toOption) =
      entries.map fun entry => some entry.documentDigest := by
  induction embedded with
  | nil => rfl
  | cons first _ ih =>
      rw [List.map_cons, List.map_cons, ih, first.digest]
      rfl

private theorem verifySignatures_skip (signer : GrantSigner) (intents : Dict Ident Intent)
    (others : ∀ entry ∈ entries, entry.documentKind ≠ .intent ∧ entry.documentKind ≠ .grant) :
    verifySignatures signer intents entries = .ok () := by
  induction entries with
  | nil => rfl
  | cons entry rest ih =>
      obtain ⟨notIntent, notGrant⟩ := others entry List.mem_cons_self
      have skipped := ih fun other present => others other (List.mem_cons_of_mem _ present)
      unfold verifySignatures
      split
      · exact absurd (by assumption) notIntent
      · exact absurd (by assumption) notGrant
      · exact skipped

/-- The signature pass accepts the intent and the grant of a coherent file. -/
theorem CellFile.signed {plan : MatrixPlan} {file : CellFile} (coherent : file.Coherent plan)
    (intentNormal : (Document.intent file.intent).norm = some (.intent file.intent))
    (grantNormal : (Document.grant file.grant).norm = some (.grant file.grant))
    {later : List Document}
    (embedded : List.Forall₂ Embeds entries
      (.matrixPlan plan :: .intent file.intent :: .grant file.grant :: later))
    (others : ∀ document ∈ later, document.kind ≠ .intent ∧ document.kind ≠ .grant) :
    verifySignatures file.signer [] entries = .ok () := by
  cases embedded with
  | cons planEmbeds embedded =>
      cases embedded with
      | cons intentEmbeds embedded =>
          cases embedded with
          | @cons grantEntry _ rest _ grantEmbeds embedded =>
              obtain ⟨intentKind, intentParsed⟩ := parse_intent (intentEmbeds.parses intentNormal)
              obtain ⟨grantKind, grantParsed⟩ := parse_grant (grantEmbeds.parses grantNormal)
              have grantCell : grantEntry.cellId = file.intent.cellId :=
                grantEmbeds.cellId.trans coherent.authorised.cellId
              obtain ⟨checked, issued, expires, _, issuedEq, expiresEq, _, _⟩ := coherent.window
              have verified := (GrantSigner.verify_eq_ok file.signer file.grant file.intent
                file.grant.claims.issuedAt.val).mpr ⟨coherent.authorised, issued, issued, expires,
                  issuedEq, issuedEq, expiresEq, Nat.le_add_right _ _, by
                    have window := coherent.authorised.window
                    simp only [GrantSigner.validateWindow, issuedEq, expiresEq, bind_eq_ok,
                      raiseIf_eq_ok, not_not] at window
                    obtain ⟨_, ⟨⟩, _, ⟨⟩, atLeast, _⟩ := window
                    omega⟩
              have skipped : ∀ intents : Dict Ident Intent,
                  verifySignatures file.signer intents rest = .ok () :=
                fun intents => verifySignatures_skip _ _ fun entry present => by
                  obtain ⟨document, listed, embeds⟩ :=
                    Related.partner_of_left embedded entry present
                  rw [embeds.kind]
                  exact others document listed
              have intentCell : _ = file.intent.cellId := intentEmbeds.cellId
              simp only [verifySignatures, planEmbeds.kind, Document.kind, intentKind, grantKind,
                intentParsed, grantParsed, bind_eq_ok, expect_eq_ok]
              refine ⟨_, rfl, _, rfl, file.intent, ?_, (), verified, skipped _⟩
              rw [intentCell, grantCell, Dict.get?_set, if_pos rfl]

/-- The assessment of records that pass the gate. -/
def passedGate (records : List Evidence) (digests : List Digest) : GateAssessment where
  status := .pass
  requiredTypes := requiredEvidenceTypes
  presentTypes := presentTypes records
  missingTypes := missingTypes records
  evidenceDigests := sortDigests digests
  evidenceRoot := (merkleRoot (sortDigests digests)).toOption.getD 0
  independentReviewer := independentReviewer records
  reasons := []

theorem evidenceGate_passed {items : List (Evidence × Digest)}
    (digested : ∀ item ∈ items, digestDocument item.1.value = .ok item.2)
    (distinct : (items.map Prod.snd).Nodup) (passes : GatePasses (items.map Prod.fst)) :
    evidenceGate (items.map Prod.fst) =
      .ok (passedGate (items.map Prod.fst) (items.map Prod.snd)) := by
  have computed : digestAll (items.map Prod.fst) = .ok (items.map Prod.snd) := by
    clear distinct passes
    induction items with
    | nil => rfl
    | cons item rest ih =>
        have later := ih fun other present => digested other (List.mem_cons_of_mem _ present)
        simp only [List.map_cons, digestAll, digested item List.mem_cons_self, later]
        rfl
  obtain ⟨evidenceRoot, rooted⟩ := merkleRoot_returns (sortDigests (items.map Prod.snd))
    ((sortDigests_perm _).nodup_iff.mpr distinct)
  rw [evidenceGate_eq_ok]
  refine ⟨_, evidenceRoot, computed, rooted, ?_⟩
  have reasons := (gateReasons_eq_nil _).mpr passes
  rw [reasons, if_pos rfl, passedGate, rooted]
  rfl

/-- Claims that are their own normal form keep the gate stable. -/
theorem gateStable_of_norm {evidence : Evidence}
    (fixed : JsonObject.codec.norm evidence.claims = some evidence.claims) :
    evidence.GateStable := by
  intro claims computed
  rw [fixed, Option.some.injEq] at computed
  subst computed
  exact ⟨rfl, rfl, rfl⟩

end General

/-! ### A platform whose hash can be read off -/

/-- No normalisation, and the ASCII digits only. -/
def plainUnicode : Unicode where
  nfc text := text
  decimal c := if c.isDigit then some (c.toNat - 48) else none
  nfc_idem _ := rfl
  nfc_plain _ _ := rfl
  decimal_ascii := ascii_decimal

/-- The eight bytes from the thirtieth on, behind a one: for a document, the
characters 14 to 21 of its canonical text. -/
def windowHash (payload : Bytes) : Digest :=
  BitVec.ofNat 256
    (((payload.drop 29).take 8).foldl (fun total byte => total * 256 + byte.toNat) 1)

namespace Sample

scoped instance plainPlatform : Platform where
  unicode := plainUnicode
  sha256 := windowHash
  hmacSha256 secret payload := windowHash (secret ++ payload)

/-! ### The documents -/

def matrixId : Ident := ⟨"m", by decide⟩
def cellId : Ident := ⟨"c", by decide⟩
def operator : Ident := ⟨"x", by decide⟩
def producer : Ident := ⟨"p", by decide⟩
def reviewer : Ident := ⟨"q", by decide⟩
def noon : Utc := ⟨"2026-01-01T12:00:00Z", by decide⟩
def later : Utc := ⟨"2026-01-01T12:30:00Z", by decide⟩

/-- Noon, or a day that does not exist. -/
def frozenAt (real : Bool) : Utc :=
  if real then noon else ⟨"2026-02-30T12:00:00Z", by decide⟩

/-- One axis with the integer one. -/
def plan (real : Bool) : MatrixPlan where
  matrixId := matrixId
  name := ⟨"n", by decide⟩
  frozenBy := operator
  frozenAt := frozenAt real
  axes := [{ name := ⟨"a", by decide⟩, values := [.int 1], valuesUnique := by decide +kernel }]
  cells := [{ cellId := cellId, coordinates := ⟨[("a", .int 1)], by decide⟩ }]
  cellsComplete := by
    have complete : MatrixPlanFields.cellsAreTheCompleteCartesianSpace {
        matrixId := matrixId
        name := ⟨"n", by decide⟩
        frozenBy := operator
        frozenAt := noon
        axes := [{
          name := ⟨"a", by decide⟩
          values := [.int 1]
          valuesUnique := by decide +kernel }]
        cells := [{ cellId := cellId, coordinates := ⟨[("a", .int 1)], by decide⟩ }] } := by
      decide +kernel
    exact complete

/-- The declared coordinate, or the boolean that equals it. -/
def coordinate (flag : Bool) : Scalar := if flag then .bool true else .int 1

def payloadDigest : Digest := 1

def intent (flag : Bool) : Intent where
  intentId := ⟨"i", by decide⟩
  matrixId := matrixId
  cellId := cellId
  coordinates := ⟨[("a", coordinate flag)], List.nodup_singleton _⟩
  actorId := operator
  createdAt := noon
  action := ⟨"run", by decide⟩
  scope := ⟨"all", by decide⟩
  actionPayload := emptyObject
  actionPayloadDigest := payloadDigest
  runManifest := {
    gitCommit := ⟨"0000000", by decide⟩
    configSha256 := 0
    datasetManifestSha256 := 0
    environmentLockSha256 := 0
    baseModelSha256 := 0
    seed := ⟨0, by decide⟩ }
  requestedResources := {
    gpuCount := ⟨0, by decide⟩
    wallTimeSeconds := ⟨1, by decide⟩
    gpuTimeSeconds := ⟨0, by decide⟩
    artifactBytes := ⟨0, by decide⟩
    gpuTimeBounded := by decide }
  requiredDeterminism := .d0Unverified
  approvalV1Binding := none
  extensions := emptyObject
  payloadMatches := ⟨rfl, fun _ => lt_irrefl (0 : Int)⟩

def intentDigest : Digest := 0x1222c22616374696f

section

variable (flag : Bool)

theorem intent_digest :
    digestDocument (Document.intent (intent flag)).value = .ok intentDigest := by
  cases flag <;> rfl

def signer : GrantSigner where
  secret := List.replicate 40 7
  keyId := "k"
  longEnough := by decide

def claims : GrantClaims where
  grantId := ⟨"g", by decide⟩
  issuerId := operator
  intentId := ⟨"i", by decide⟩
  intentDigest := intentDigest
  matrixId := matrixId
  cellId := cellId
  action := ⟨"run", by decide⟩
  scope := ⟨"all", by decide⟩
  actionPayloadDigest := payloadDigest
  bounds := {
    maxGpuCount := ⟨0, by decide⟩
    maxWallTimeSeconds := ⟨60, by decide⟩
    maxGpuTimeSeconds := ⟨0, by decide⟩
    maxArtifactBytes := ⟨0, by decide⟩ }
  minimumDeterminism := .d0Unverified
  issuedAt := noon
  expiresAt := later
  nonce := ⟨"0123456789abcdef", by decide⟩
  legacyApprovalV1 := none

def grant : Grant where
  keyId := ⟨"k", by decide⟩
  claims := claims
  signature := 0x10707070707070707

def grantDigest : Digest := 0x1484d41432d534841

theorem grant_digest : digestDocument (Document.grant grant).value = .ok grantDigest := rfl

def receipt : Receipt where
  receiptId := ⟨"r", by decide⟩
  matrixId := matrixId
  cellId := cellId
  intentDigest := intentDigest
  grantDigest := grantDigest
  grantId := claims.grantId
  executorId := operator
  startedAt := noon
  completedAt := noon
  outcome := .succeeded
  output := {
    uri := ⟨"o", by decide⟩
    mediaType := ⟨"t", by decide⟩
    sha256 := 0
    bytes := ⟨0, by decide⟩ }
  usage := {
    gpuCount := ⟨0, by decide⟩
    wallTimeSeconds := ⟨1, by decide⟩
    gpuTimeSeconds := ⟨0, by decide⟩
    artifactBytes := ⟨0, by decide⟩
    gpuTimeBounded := by decide }
  determinismLevel := .d0Unverified
  replayCount := ⟨1, by decide⟩
  replayDigest := none
  metadata := emptyObject
  replaySupported := by intro verified; cases verified

def receiptDigest : Digest := 0x12c22636f6d706c65

theorem receipt_digest : digestDocument (Document.receipt receipt).value = .ok receiptDigest := rfl

/-- An evidence record, told apart by the size of its artifact. -/
def record (evidenceId : Ident) (bytes : BoundedInt 0 maxInt64) (evidenceType : EvidenceType)
    (producerId : Ident) (claims : JsonObject unicode) : Evidence where
  evidenceId
  matrixId := matrixId
  cellId := cellId
  receiptDigest := receiptDigest
  evidenceType
  producerId
  artifact := {
    uri := ⟨"u", by decide⟩
    mediaType := ⟨"t", by decide⟩
    sha256 := 0
    bytes }
  claims
  observedAt := noon

def metricClaims : JsonObject unicode where
  members := [("deterministic", .bool true),
    ("raw_data_digest", .str (Digest.labelled "sha256:" 0)), ("summary_only", .bool false)]
  valid := rfl

def reviewClaims : JsonObject unicode where
  members := [("independent", .bool true), ("reviewed_producers", .list [.str "p"]),
    ("reviewer_id", .str "q"), ("verdict", .str "PASS")]
  valid := rfl

def evidence : List (Evidence × Digest) :=
  [(record ⟨"e1", by decide⟩ ⟨1, by decide⟩ .code producer emptyObject, 0x16279746573223a31),
    (record ⟨"e2", by decide⟩ ⟨2, by decide⟩ .config producer emptyObject, 0x16279746573223a32),
    (record ⟨"e3", by decide⟩ ⟨3, by decide⟩ .datasetManifest producer emptyObject,
      0x16279746573223a33),
    (record ⟨"e4", by decide⟩ ⟨4, by decide⟩ .log producer emptyObject, 0x16279746573223a34),
    (record ⟨"e5", by decide⟩ ⟨5, by decide⟩ .trace producer emptyObject, 0x16279746573223a35),
    (record ⟨"e6", by decide⟩ ⟨6, by decide⟩ .metric producer metricClaims, 0x16279746573223a36),
    (record ⟨"e7", by decide⟩ ⟨7, by decide⟩ .review reviewer reviewClaims, 0x16279746573223a37)]

theorem evidence_digested : ∀ item ∈ evidence, digestDocument item.1.value = .ok item.2 := by
  simp only [evidence, List.forall_mem_cons]
  exact ⟨rfl, rfl, rfl, rfl, rfl, rfl, rfl, fun _ impossible => by cases impossible⟩

theorem evidence_distinct : (evidence.map Prod.snd).Nodup := by
  decide

theorem evidence_passes : GatePasses (evidence.map Prod.fst) := by
  refine ⟨?_, ?_, ?_, ?_, ?_⟩
  · intro evidenceType
    cases evidenceType <;> simp [evidence, record]
  · decide
  · decide
  · exact ⟨record ⟨"e6", by decide⟩ ⟨6, by decide⟩ .metric producer metricClaims,
      by simp [evidence], rfl, by decide +kernel⟩
  · exact ⟨record ⟨"e7", by decide⟩ ⟨7, by decide⟩ .review reviewer reviewClaims,
      by simp [evidence], rfl, by decide +kernel⟩

def decision : Decision where
  decisionId := ⟨"d", by decide⟩
  matrixId := matrixId
  cellId := cellId
  intentDigest := intentDigest
  receiptDigest := receiptDigest
  evidenceDigests := sortDigests (evidence.map Prod.snd)
  evidenceRoot := (merkleRoot (sortDigests (evidence.map Prod.snd))).toOption.getD 0
  gate := passedGate (evidence.map Prod.fst) (evidence.map Prod.snd)
  verdict := .keep
  determinismLevel := .d0Unverified
  decidedBy := operator
  decidedAt := noon
  rationaleCode := ⟨"OK", by decide⟩
  matchesGate := ⟨(sortDigests_sorted _).insertionSort_eq, rfl, rfl, rfl⟩

def file (flag : Bool) : CellFile where
  intent := intent flag
  intentDigest
  grant
  grantDigest
  signer
  acceptedAt := noon
  receipt
  receiptDigest
  evidence
  decision

/-- Seconds from the first instant of year 1 to the sample's noon. -/
def noonSeconds : Nat := 63902865600

theorem noon_parses : parseUtc noon.val = .ok noonSeconds := rfl

theorem later_parses : parseUtc later.val = .ok (noonSeconds + 1800) := rfl

theorem grant_signed : signer.signatureOf claims = .ok grant.signature := rfl

theorem grant_window : GrantSigner.validateWindow noon.val later.val = .ok () := by
  unfold GrantSigner.validateWindow
  rw [bind_eq_ok]
  refine ⟨noonSeconds, noon_parses, ?_⟩
  rw [bind_eq_ok]
  refine ⟨noonSeconds + 1800, later_parses, ?_⟩
  rw [raiseIf_eq_ok, not_not, maxGrantTtlSeconds]
  omega

theorem file_authorised : signer.Authorises grant (intent flag) where
  key := rfl
  signature := grant_signed
  intentId := rfl
  intentDigest := intent_digest flag
  matrixId := rfl
  cellId := rfl
  action := rfl
  scope := rfl
  actionPayloadDigest := rfl
  legacy := rfl
  bounds := by decide +revert
  determinism := by decide +revert
  window := grant_window

theorem receipt_times : ∃ started completed issued expires,
    parseUtc receipt.startedAt.val = .ok started ∧
    parseUtc receipt.completedAt.val = .ok completed ∧
    parseUtc grant.claims.issuedAt.val = .ok issued ∧
    parseUtc grant.claims.expiresAt.val = .ok expires ∧
    started ≤ completed ∧ issued ≤ started + clockSkewSeconds ∧ started < expires :=
  ⟨noonSeconds, noonSeconds, noonSeconds, noonSeconds + 1800, noon_parses, noon_parses,
    noon_parses, later_parses, Nat.le_refl _, Nat.le_add_right _ _, Nat.lt_add_of_pos_right (by decide)⟩

theorem file_within : ReceiptWithinGrant receipt grant (intent flag) where
  times := receipt_times
  gpuCount := by decide
  wallTime := by decide
  gpuTime := by decide
  artifactBytes := by decide
  outputBytes := rfl
  aboveMinimum := by decide
  aboveRequired := by decide +revert

theorem file_documents : (file flag).documents =
    [.intent (intent flag), .grant grant, .receipt receipt] ++
      evidence.map (fun item => .evidence item.1) ++ [.decision decision] := rfl

theorem decision_digest :
    digestDocument (Document.decision decision).value = .ok 0x12c22646563696465 := by
  have computed : (digestDocument (Document.decision decision).value).toOption =
      some 0x12c22646563696465 := by decide +kernel
  cases digested : digestDocument (Document.decision decision).value with
  | error => rw [digested] at computed; cases computed
  | ok digest => rw [digested] at computed; rw [Option.some.inj computed]

theorem evidence_named : ∀ item ∈ evidence, item.1.matrixId = matrixId ∧
    item.1.cellId = cellId ∧ item.1.receiptDigest = receiptDigest := by
  simp only [evidence, List.forall_mem_cons]
  exact ⟨⟨rfl, rfl, rfl⟩, ⟨rfl, rfl, rfl⟩, ⟨rfl, rfl, rfl⟩, ⟨rfl, rfl, rfl⟩, ⟨rfl, rfl, rfl⟩,
    ⟨rfl, rfl, rfl⟩, ⟨rfl, rfl, rfl⟩, fun _ impossible => by cases impossible⟩

theorem documents_named : ∀ document ∈ (file flag).documents,
    document.matrixId = matrixId ∧ document.cellId = cellId := by
  intro document listed
  rw [file_documents, List.mem_append, List.mem_append] at listed
  rcases listed with (early | record) | last
  · simp only [List.mem_cons, List.not_mem_nil, or_false] at early
    rcases early with rfl | rfl | rfl <;> exact ⟨rfl, rfl⟩
  · obtain ⟨item, present, rfl⟩ := List.mem_map.mp record
    exact ⟨(evidence_named item present).1, (evidence_named item present).2.1⟩
  · rw [List.mem_singleton.mp last]
    exact ⟨rfl, rfl⟩

theorem file_coherent (real flag : Bool) : (file flag).Coherent (plan real) where
  matrixIds := fun document listed => (documents_named flag document listed).1
  cellIds := fun document listed => (documents_named flag document listed).2
  located := ⟨{ cellId := cellId, coordinates := ⟨[("a", .int 1)], by decide⟩ }, rfl, by
    cases flag <;> rfl⟩
  intentDigested := intent_digest flag
  grantDigested := grant_digest
  receiptDigested := receipt_digest
  evidenceDigested := evidence_digested
  decisionDigested := ⟨_, decision_digest⟩
  authorised := file_authorised flag
  window := ⟨noonSeconds, noonSeconds, noonSeconds + 1800, noon_parses, noon_parses, later_parses,
    Nat.le_add_right _ _, Nat.lt_add_of_pos_right (by decide)⟩
  receiptDescends := ⟨rfl, rfl, rfl⟩
  withinGrant := file_within flag
  succeeded := rfl
  targets := fun item present => (evidence_named item present).2.2
  distinctIds := by
    change (evidence.map fun item => item.1.evidenceId).Nodup
    decide
  distinctDigests := evidence_distinct
  gated := evidenceGate_passed evidence_digested evidence_distinct evidence_passes
  decisionDescends := ⟨rfl, rfl, rfl, rfl⟩

/-! ### The runs of the sample -/

theorem plan_digest (real : Bool) :
    digestDocument (Document.matrixPlan (plan real)).value = .ok 0x165223a2261222c22 := by
  cases real <;> rfl

theorem plan_opens (real : Bool) : ∃ ledger, MatrixLedger.new (plan real) = .ok ledger ∧
    ledger.cells = [] ∧ ledger.intentIds = [] ∧ ledger.grantIds = [] ∧
    ledger.entries.length = 1 ∧ ∀ instant, parseUtc (frozenAt real).val = .ok instant →
      ledger.LastTime instant := by
  obtain ⟨normal, encoded⟩ := canon_of_digestDocument (plan_digest real)
  obtain ⟨entry, next⟩ := NextEntry.returns (.empty (plan real) 0x165223a2261222c22)
    .matrixFrozen [] (frozenAt real) rfl encoded (by change inInt64 1; decide)
  refine ⟨_, (MatrixLedger.new_eq_ok _ _).mpr ⟨_, entry, plan_digest real, next, rfl⟩, rfl,
    rfl, rfl, rfl, fun instant parsed => ⟨entry, rfl, ?_⟩⟩
  rw [next.recordedAt]
  exact parsed

theorem file_ordered : TimesOrdered noonSeconds (file flag).times := by
  have all : ∀ times : List Utc, (∀ time ∈ times, time = noon) → TimesOrdered noonSeconds times := by
    intro times same
    induction times with
    | nil => trivial
    | cons time rest ih =>
        rw [same time List.mem_cons_self]
        exact ⟨noonSeconds, noon_parses, Nat.le_refl _,
          ih fun other present => same other (List.mem_cons_of_mem _ present)⟩
  refine all _ ?_
  simp [CellFile.times, file, evidence, intent, receipt, record, decision]

theorem plan_normal (real : Bool) :
    (Document.matrixPlan (plan real)).norm = some (.matrixPlan (plan real)) := by
  cases real <;> rfl

theorem intent_normal :
    (Document.intent (intent flag)).norm = some (.intent (intent flag)) := by
  cases flag <;> rfl

theorem grant_normal : (Document.grant grant).norm = some (.grant grant) := by
  rfl

theorem documents_readBack : ∀ document ∈ (file flag).documents, document.ReadsBack := by
  have fixed : ∀ item ∈ evidence,
      JsonObject.codec.norm item.1.claims = some item.1.claims := by
    simp only [evidence, List.forall_mem_cons]
    exact ⟨rfl, rfl, rfl, rfl, rfl, rfl, rfl, fun _ impossible => by cases impossible⟩
  intro document listed
  rw [file_documents, List.mem_append, List.mem_append] at listed
  rcases listed with (early | record) | last
  · simp only [List.mem_cons, List.not_mem_nil, or_false] at early
    rcases early with rfl | rfl | rfl
    · exact ⟨(intent flag).action.property, (intent flag).scope.property⟩
    · trivial
    · exact ⟨receipt.output.uri.property, receipt.output.mediaType.property⟩
  · obtain ⟨item, present, rfl⟩ := List.mem_map.mp record
    exact ⟨⟨item.1.artifact.uri.property, item.1.artifact.mediaType.property⟩,
      gateStable_of_norm (fixed item present)⟩
  · rw [List.mem_singleton.mp last]
    trivial

/-- The documents before the decision. -/
def undecided (flag : Bool) : List Document :=
  [.intent (intent flag), .grant grant, .receipt receipt] ++
    evidence.map fun item => .evidence item.1

/-- The sample up to its last evidence record. -/
theorem gathered : ∃ ledger, LiveRun (plan true) (undecided flag) ledger := by
  obtain ⟨opened, created, cells, intents, grants, count, last⟩ := plan_opens true
  obtain ⟨ledger, _, _, run, _⟩ := CellFile.gathers (file_coherent true flag)
    (.opened opened created) (last noonSeconds noon_parses) (file_ordered flag)
    (by rw [cells]; rfl) (by rw [intents]; exact List.not_mem_nil)
    (by rw [grants]; exact List.not_mem_nil) (by rw [count]; change inInt64 11; decide)
  exact ⟨ledger, run⟩

/-- The whole sample, with its one cell decided. -/
theorem decided : ∃ ledger cell, LiveRun (plan true) (file flag).documents ledger ∧
      ledger.cells.get? cellId = some cell ∧ cell.state = .decided := by
  obtain ⟨opened, created, cells, intents, grants, count, last⟩ := plan_opens true
  exact CellFile.completes (file_coherent true flag)
    (.opened opened created) (last noonSeconds noon_parses) (file_ordered flag)
    (by rw [cells]; rfl) (by rw [intents]; exact List.not_mem_nil)
    (by rw [grants]; exact List.not_mem_nil) (by rw [count]; change inInt64 12; decide)

/-- The digests of the plan and the documents of the sample. -/
def digests : List Digest :=
  [0x165223a2261222c22, intentDigest, grantDigest, receiptDigest] ++ evidence.map Prod.snd ++
    [0x12c22646563696465]

theorem documents_digests :
    (Document.matrixPlan (plan true) :: (file flag).documents).map
      (fun document => (digestDocument document.value).toOption) = digests.map some := by
  have records : (evidence.map fun item => Document.evidence item.1).map
      (fun document => (digestDocument document.value).toOption) =
        (evidence.map Prod.snd).map some := by
    rw [List.map_map, List.map_map]
    refine List.map_congr_left fun item present => ?_
    exact congrArg Except.toOption (evidence_digested item present)
  rw [file_documents, digests, List.map_cons, List.map_append, List.map_append, records,
    List.map_append, List.map_append]
  simp only [List.map_cons, List.map_nil, plan_digest, intent_digest, grant_digest,
    receipt_digest, decision_digest, Except.toOption, List.cons_append]

end

theorem digests_distinct : digests.Nodup := by
  decide

/-- No two documents of the sample collide, however far it has come. -/
theorem collisionFree {flag : Bool} {documents : List Document} {ledger : MatrixLedger}
    (run : LiveRun (plan true) documents ledger) (early : documents <+: (file flag).documents) :
    Set.InjOn sha256 (hashedDocuments ledger.entries) := by
  have embedded := run.embeds.2
  refine collisionFree_of_distinct embedded ?_
  have known := digests_of_embeds embedded
  have within := (((List.prefix_cons_inj (Document.matrixPlan (plan true))).mpr early).map
    fun document : Document => (digestDocument document.value).toOption).sublist
  rw [known, documents_digests] at within
  have distinct := within.nodup (digests_distinct.map (Option.some_injective _))
  rw [← Function.comp_def some, ← List.map_map] at distinct
  exact List.Nodup.of_map some distinct

/-- The sample verifies, however far it has come. -/
theorem verifies {flag : Bool} {documents : List Document} {ledger : MatrixLedger}
    (run : LiveRun (plan true) documents ledger) (early : documents <+: (file flag).documents) :
    ∃ document, ledger.snapshot = .ok document ∧ verifyLedgerDocument document = .ok () ∧
      SnapshotOf ledger document := by
  obtain ⟨history, state, mirrored⟩ := run.mirrored (plan true).name.property
    ⟨noonSeconds, noon_parses⟩
    (fun document listed => documents_readBack flag document (early.subset listed))
    (collisionFree run early)
  obtain ⟨document, taken, verified⟩ := mirrored.verifies
  obtain ⟨other, otherTaken, snapshot⟩ := snapshot_returns ledger mirrored.filed
  rw [taken, Except.ok.injEq] at otherTaken
  subst otherTaken
  exact ⟨document, taken, verified, snapshot⟩

end Sample

end EgoAgent.Rxp
