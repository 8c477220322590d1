import EgoAgent.Bridge.LedgerInvariant

/-!
Repeated calls on the authority stream, and the stream as one ledger.

A repeated key is looked up before the admission tables are.  For the typed events and
the leases the stored row settles all arguments; for a sealed evaluation it settles the
signed payload, but neither the binding nor its signature, key and issuer.
-/

namespace EgoAgent.Bridge.Authority

open EgoAgent.Api EgoAgent.SecureMemory Effect

/-! ### Raising -/

section Raising

variable {σ α β τ : Type}

variable {next : α → Effect σ AuthorityError β} {state : σ}

variable {effect : Effect σ AuthorityError α}

end Raising

section Ledger

variable {φ : Type} [FloatEquality φ] (platform : AuthorityPlatform φ)

/-! ### Repeated calls -/

/-- The run and the idempotency key of a call. -/
def AuthorityCall.keyed : AuthorityCall φ → Option (String × String)
  | .bindCampaign .. => none
  | .appendExtensionEvent runId _ _ key _ _ => some (runId, key)
  | .storeSignedTaskLease runId _ key _ => some (runId, key)
  | .bindSealedEvaluation runId evaluation _ => some (runId, evaluation.idempotencyKey)

/-- The record is the one stored for the row, and the call gives the row's arguments. -/
def SameArguments (store : AuthorityStore φ) (row : ExtensionRow φ) :
    AuthorityCall φ → AuthorityRecord φ → Prop
  | .appendExtensionEvent _ eventType event _ memoryWatermark _, .event outcome =>
      outcome = ⟨row, true⟩ ∧ row.content.eventType = eventType ∧
        row.memoryWatermark = memoryWatermark ∧
        ∃ payload, event = some payload ∧ row.content.canonicalPayload platform.sha256 =
          SecureMemory.canonicalBytes (payload.json platform.sha256)
  | .storeSignedTaskLease _ payload _ _, .lease outcome =>
      outcome.idempotentReplay = true ∧ outcome.record ∈ store.leases ∧
        LeaseOf row outcome.record ∧ outcome.record.canonicalSignedPayload = payload
  | .bindSealedEvaluation _ evaluation _, .evaluator outcome =>
      outcome.idempotentReplay = true ∧ outcome.record ∈ store.evaluators ∧
        EvaluatorOf row outcome.record ∧ outcome.record.bindingId = evaluation.bindingId ∧
        outcome.record.admission.taskId = evaluation.taskId ∧
        outcome.record.admission.canonicalSignedPayload = evaluation.payload ∧
        outcome.record.admission.signatureBase64 = evaluation.signatureBase64 ∧
        outcome.record.admission.keyId = evaluation.keyId ∧
        outcome.record.admission.issuerId = evaluation.issuerId
  | _, _ => False

/-- A repeated call writes nothing; it returns the record of its own arguments or raises
a bridge error. -/
def Repeats (store : AuthorityStore φ) (call : AuthorityCall φ) : Prop :=
  ∀ runId key row, call.keyed = some (runId, key) → store.keyed runId key = some row →
    (perform platform call store).2 = store ∧
      match (perform platform call store).1 with
      | .ok record => SameArguments platform store row call record
      | .error error => error.isBridge = true

variable {store : AuthorityStore φ} {row : ExtensionRow φ}

variable {runId : String}

/-- The campaign a run is bound to. -/
def AuthorityStore.campaignOf (store : AuthorityStore φ) (runId : String) :
    Option CampaignBinding :=
  (store.runs.find? fun run => run.id = runId).bind AuthorityRun.campaign

theorem campaignOf_eq_some {campaign : CampaignBinding} : store.campaignOf runId = some campaign ↔
      ∃ run, store.findRun runId = .ok run ∧ run.campaign = some campaign := by
  unfold AuthorityStore.campaignOf
  rw [Option.bind_eq_some_iff]
  simp only [findRun_eq_ok]

theorem Wrote.campaign {store later : AuthorityStore φ} (wrote : Wrote platform store later)
    {campaign : CampaignBinding}
    (known : store.campaignOf runId = some campaign) :
    later.campaignOf runId = some campaign := by
  cases wrote with
  | bound bound binding =>
      obtain ⟨run, found, isBound⟩ := campaignOf_eq_some.mp known
      exact campaignOf_eq_some.mpr ⟨run, findRun_bound bound binding found isBound, isBound⟩
  | nothing => exact known
  | event => exact known
  | lease => exact known
  | evaluator => exact known

/-! ### One ledger -/

end Ledger

/-! ### A replaced signature -/

namespace Sample

def campaign : CampaignBinding where
  campaignId := "campaign-1"
  configurationId := some .a
  executionPhaseOwner := .a
  problemId := "problem-1"
  turn := 1
  generation := 1
  manifestSha256 := 0
  postSelectionExtensionSha256 := none
  policySha256 := 0
  requirementLedgerSha256 := 0
  workspaceCheckpointSha256 := 0
  memoryWatermark := 0

def signedLease : SignedTaskLease :=
  ⟨⟨campaign, "p", "t", "issuer", "key"⟩, "bGVhc2U="⟩

def leaseDocument : List (String × Json Empty) :=
  [("core", .dict [("campaign_id", .str "campaign-1"), ("project_id", .str "p"),
    ("task_id", .str "t")]), ("signature_base64", .str "bGVhc2U=")]

def evaluationDocument : List (String × Json Empty) := [("task_id", .str "t")]

def payloadOf (members : List (String × Json Empty)) : Bytes :=
  SecureMemory.canonicalBytes (.dict members : Json Empty)

/-- Reads the two payloads of the sample run. -/
def authority : AuthorityPlatform Empty where
  sha256 bytes := BitVec.ofNat 256 bytes.length
  unicode := Bridge.Sample.asciiText
  parseJson payload :=
    if payload = payloadOf leaseDocument then some (.dict leaseDocument)
    else if payload = payloadOf evaluationDocument then some (.dict evaluationDocument)
    else none
  readTaskLease members := if members.length = 2 then some signedLease else none

def sealing (bindingId signature : String) : AuthorityCall Empty :=
  .bindSealedEvaluation "run" ⟨bindingId, "t", payloadOf evaluationDocument, signature, "key",
    "issuer", "evaluation"⟩ ⟨"event-2", "2026-09-01T00:00:02Z"⟩

def evaluated : AuthorityStore Empty :=
  afterCalls authority
    [.bindCampaign "run" campaign,
      .storeSignedTaskLease "run" (payloadOf leaseDocument) "lease"
        ⟨"event-1", "2026-09-01T00:00:01Z"⟩,
      sealing "binding" "Zmlyc3Q="]
    (freshStore [⟨"run", "p", none⟩])

def signatureOf : Except AuthorityError (AuthorityRecord Empty) → Option String
  | .ok (.evaluator outcome) => some outcome.record.admission.signatureBase64
  | _ => none

def raised : Except AuthorityError (AuthorityRecord Empty) → Option AuthorityError
  | .error error => some error
  | .ok _ => none

end Sample

end EgoAgent.Bridge.Authority
