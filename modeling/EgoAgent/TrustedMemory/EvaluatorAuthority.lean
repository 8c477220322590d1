import EgoAgent.TrustedMemory.EvaluatorChannel
import EgoAgent.TrustedMemory.Finalization

/-!
What a stored closure says about the frame of its evaluator.

A run receives frames and finalizes with receipts the channel returned.  Every
closure then carries the digest of a frame that the channel accepted, and the facts
stored under a closure are those it names.  Which facts it names is the caller's
choice: the channel never looks at the payload for them.
-/

namespace EgoAgent.TrustedMemory

open EgoAgent.Api

section Channel

variable {φ : Type} [FloatText φ] (platform : ChannelPlatform φ) (channel : EvaluatorChannel)

/-! ### Receipts -/

/-- The frame a receipt was made of. -/
structure Vouches (frame : Bytes) (envelope : EvaluatorEnvelope φ)
    (receipt : EvaluatorSourceReceipt) : Prop where
  decoded : decode platform frame = .ok envelope
  issuer : envelope.issuerId = channel.expectedIssuerId
  issuerKey : envelope.keyId = channel.expectedKeyId
  campaign : envelope.campaignId = channel.campaignId
  signed : platform.signatureVerifier (SecureMemory.canonicalBytes envelope.signedCore)
    envelope.signature envelope.issuerId envelope.keyId = true
  payload : frameSha256 platform envelope.payloadBytes = envelope.payloadSha256
  task : envelope.taskId = channel.taskId ∧ receipt.taskId = channel.taskId
  generation : envelope.generation = channel.generation ∧ receipt.generation = channel.generation
  digest : ∀ digest, receipt.envelopeSha256 = some digest → digest = frameSha256 platform frame

/-- Every receipt that is kept was made of a frame with its idempotency key. -/
def ChannelState.Sound (state : ChannelState) : Prop :=
  ∀ key retained receipt, Dict.get? state.idempotency key = some (retained, receipt) →
    ∃ frame envelope, Vouches platform channel frame envelope receipt ∧
      envelope.idempotencyKey = key

/-- A receipt of the channel. -/
def ChannelState.Keeps (state : ChannelState) (receipt : EvaluatorSourceReceipt) : Prop :=
  ∃ key retained, Dict.get? state.idempotency key = some (retained, receipt)

variable {expectedIdempotencyKey : String}

theorem verifyEnvelope_vouches {envelope : EvaluatorEnvelope φ}
    (verified : verifyEnvelope platform channel envelope expectedIdempotencyKey = .ok ())
    {frame : Bytes} (decoded : decode platform frame = .ok envelope)
    (admission : AdmissionReceipt) :
    Vouches platform channel frame envelope (sourceReceipt platform envelope frame admission) := by
  unfold verifyEnvelope at verified
  obtain ⟨issuer, verified⟩ := (raiseIf_bind_eq_ok _ _ _ _).mp verified
  obtain ⟨issuerKey, verified⟩ := (raiseIf_bind_eq_ok _ _ _ _).mp verified
  obtain ⟨campaign, verified⟩ := (raiseIf_bind_eq_ok _ _ _ _).mp verified
  obtain ⟨task, verified⟩ := (raiseIf_bind_eq_ok _ _ _ _).mp verified
  obtain ⟨generation, verified⟩ := (raiseIf_bind_eq_ok _ _ _ _).mp verified
  obtain ⟨_, verified⟩ := (raiseIf_bind_eq_ok _ _ _ _).mp verified
  obtain ⟨payload, verified⟩ := (raiseIf_bind_eq_ok _ _ _ _).mp verified
  have signed := (raiseIf_eq_ok _ _ _).mp verified
  constructor
  · exact decoded
  · exact not_not.mp issuer
  · exact not_not.mp issuerKey
  · exact not_not.mp campaign
  · exact Bool.eq_true_of_not_eq_false signed
  · exact not_not.mp payload
  · exact ⟨not_not.mp task, not_not.mp task⟩
  · exact ⟨not_not.mp generation, not_not.mp generation⟩
  · intro digest kept
    unfold sourceReceipt at kept
    simp only at kept
    split at kept
    · exact (Option.some.inj kept).symm
    · cases kept

/-- A call of the channel keeps its receipts and returns one of them. -/
theorem receive_eq_ok {frame : Bytes}
    {state later : ChannelState} {receipt : EvaluatorSourceReceipt}
    (sound : state.Sound platform channel)
    (ran : receive platform channel frame expectedIdempotencyKey state = (.ok receipt, later)) :
    later.Sound platform channel ∧ later.Keeps receipt ∧
      ∀ other, state.Keeps other → later.Keeps other := by
  unfold receive at ran
  obtain ⟨envelope, decoded, ran⟩ := (Effect.check_bind_eq_ok _ _ _ _ _).mp ran
  obtain ⟨_, verified, ran⟩ := (Effect.check_bind_eq_ok _ _ _ _ _).mp ran
  rw [Effect.read_bind] at ran
  rcases found : Dict.get? state.idempotency envelope.idempotencyKey with _ | ⟨retained, prior⟩
  · simp only [found] at ran
    obtain ⟨_, ran⟩ := (Effect.raiseIf_bind_eq_ok _ _ _ _ _ _).mp ran
    obtain ⟨_, ran⟩ := (Effect.raiseIf_bind_eq_ok _ _ _ _ _ _).mp ran
    obtain ⟨admission, _, ran⟩ := (Effect.check_bind_eq_ok _ _ _ _ _).mp ran
    rw [Effect.write_bind] at ran
    simp only [Effect.pure_apply, Prod.mk.injEq, Except.ok.injEq] at ran
    obtain ⟨rfl, rfl⟩ := ran
    refine ⟨?_, ⟨_, _, Dict.get?_set_self _ _ _⟩, ?_⟩
    · intro key retained kept present
      by_cases same : key = envelope.idempotencyKey
      · subst same
        rw [Dict.get?_set_self] at present
        cases present
        exact ⟨frame, envelope,
          verifyEnvelope_vouches platform channel verified decoded admission, rfl⟩
      · rw [Dict.get?_set_ne _ _ same] at present
        exact sound key retained kept present
    · rintro other ⟨key, retained, present⟩
      refine ⟨key, retained, ?_⟩
      rw [Dict.get?_set_ne]
      · exact present
      · rintro rfl
        cases found.symm.trans present
  · simp only [found] at ran
    split at ran
    · simp only [Effect.pure_apply, Prod.mk.injEq, Except.ok.injEq] at ran
      obtain ⟨rfl, rfl⟩ := ran
      exact ⟨sound, ⟨_, _, found⟩, fun _ kept => kept⟩
    · cases ran

/-- A refused frame leaves the channel as it was. -/
theorem receive_atomic (frame : Bytes) (expectedIdempotencyKey : String) (state : ChannelState) :
    Effect.Atomic (receive platform channel frame expectedIdempotencyKey) state := by
  apply Effect.keeps_check_bind
  intro envelope _
  apply Effect.keeps_check_bind
  intro _ _
  apply Effect.keeps_read_bind
  split
  · split
    · exact Effect.keeps_of_returns ⟨_, _, rfl⟩
    · intro error final raised
      cases raised
      rfl
  · apply Effect.keeps_check_bind
    intro _ _
    apply Effect.keeps_check_bind
    intro _ _
    apply Effect.keeps_check_bind
    intro _ _
    exact Effect.keeps_of_returns ⟨_, _, rfl⟩

/-! ### Runs -/

structure World where
  channel : ChannelState
  memory : Memory
  returned : List EvaluatorSourceReceipt

/-- The receipt of a call, if it returned one. -/
def returnedBy (outcome : Except ChannelError EvaluatorSourceReceipt) :
    List EvaluatorSourceReceipt :=
  match outcome with
  | .ok receipt => [receipt]
  | .error _ => []

/-- Frames and finalizations in any order; a finalization uses a receipt that was returned. -/
inductive Reached : World → Prop
  | opened : Reached ⟨.empty, .empty, []⟩
  | received {world : World} (reached : Reached world) (frame : Bytes)
      (expectedIdempotencyKey : String) :
      Reached { world with
        channel := (receive platform channel frame expectedIdempotencyKey world.channel).2
        returned := world.returned ++
          returnedBy (receive platform channel frame expectedIdempotencyKey world.channel).1 }
  | finalized {world : World} (reached : Reached world) (request : FinalizationRequest)
      (idempotencyKey : String)
      (held : request.evaluatorResult.sourceReceipt ∈ world.returned) :
      Reached { world with
        memory := (finalize platform.sha256 request idempotencyKey world.memory).2 }

/-- A stored row of a closure. -/
structure Closes (sha256 : Bytes → Digest) (row : ClosureRow) (closure : DecisionClosure) :
    Prop where
  placed : row.inScope closure.core.tenantId closure.core.projectId
  digest : row.closureDigest = closure.digest sha256
  bytes : row.closureBytes = SecureMemory.canonicalBytes (closure.json sha256)

/-- The closure was made with the receipt of a frame that the channel accepted. -/
def SignedBy (returned : List EvaluatorSourceReceipt) (closure : DecisionClosure) : Prop :=
  ∃ receipt ∈ returned, ∃ frame envelope, Vouches platform channel frame envelope receipt ∧
    closure.core.evaluatorResultDigest = frameSha256 platform frame ∧
    closure.core.evaluatorSourceReceiptDigest = receipt.receiptSha256 ∧
    closure.core.taskId = channel.taskId ∧ closure.core.generation = channel.generation

/-- The record of a fact that a closure names. -/
def NamedBy (sha256 : Bytes → Digest) (closure : DecisionClosure) (digest : String)
    (bytes : Bytes) : Prop :=
  ∃ built : BuiltFact, bytes = built.record.bytes ∧ built.fact.trustedFactDigest = digest ∧
    built.fact.provenance.decisionClosureDigest = closure.digest sha256 ∧
    digest ∈ closure.core.verifiedFactDigests

/-- What the stored closures and facts of a run say. -/
structure Vouched (world : World) : Prop where
  closures : ∀ row ∈ world.memory.decisionClosures, ∃ closure,
    Closes platform.sha256 row closure ∧ SignedBy platform channel world.returned closure ∧
      ∀ digest ∈ closure.core.verifiedFactDigests, ∃ event ∈ world.memory.tables.history,
        NamedBy platform.sha256 closure digest event.record.bytes
  facts : ∀ event ∈ world.memory.tables.history, ∃ fact, event.record.body = .trustedFact fact ∧
    ∃ row ∈ world.memory.decisionClosures, ∃ closure, Closes platform.sha256 row closure ∧
      NamedBy platform.sha256 closure fact.trustedFactDigest event.record.bytes
  current : ∀ key shown, world.memory.tables.current.get? key = some shown →
    ∃ event ∈ world.memory.tables.history, event.key = key ∧
      ∃ fact, event.record.body = .trustedFact fact ∧ shown.factDigest = fact.trustedFactDigest

/-- The receipts of a run are kept by its channel. -/
structure Kept (world : World) : Prop where
  sound : world.channel.Sound platform channel
  returned : ∀ receipt ∈ world.returned, world.channel.Keeps receipt

variable {world : World}

theorem Reached.kept (reached : Reached platform channel world) :
    Kept platform channel world := by
  induction reached with
  | opened =>
      constructor
      · intro key retained receipt present
        cases present
      · intro receipt member
        cases member
  | received reached frame expectedIdempotencyKey kept =>
      rename_i world
      rcases outcome : receive platform channel frame expectedIdempotencyKey world.channel with
        ⟨error | receipt, later⟩
      · have same : later = world.channel :=
          receive_atomic platform channel frame expectedIdempotencyKey _ error later outcome
        constructor
        · rw [same]
          exact kept.sound
        · intro other member
          rw [returnedBy, List.append_nil] at member
          rw [same]
          exact kept.returned other member
      · have ⟨sound, keeps, older⟩ := receive_eq_ok platform channel kept.sound outcome
        constructor
        · exact sound
        · intro other member
          rcases List.mem_append.mp member with old | new
          · exact older other (kept.returned other old)
          · rw [List.mem_singleton.mp new]
            exact keeps
  | finalized _ _ _ _ kept => exact ⟨kept.sound, kept.returned⟩

variable {request : FinalizationRequest}

/-- What is closed with a returned receipt is signed by its frame. -/
theorem Kept.signedBy (kept : Kept platform channel world) {closure : DecisionClosure}
    (held : request.evaluatorResult.sourceReceipt ∈ world.returned)
    (closed : buildDecisionClosure platform.sha256 request.toClosureInputs = .ok closure) :
    SignedBy platform channel world.returned closure := by
  have ⟨closable, _, core⟩ := (buildDecisionClosure_eq_ok platform.sha256).mp closed
  obtain ⟨key, retained, present⟩ := kept.returned _ held
  obtain ⟨frame, envelope, vouches, _⟩ := kept.sound key retained _ present
  refine ⟨_, held, frame, envelope, vouches, ?_⟩
  rw [core]
  refine ⟨vouches.digest _ closable.result, rfl, ?_, ?_⟩
  · exact closable.task.symm.trans vouches.task.2
  · exact closable.generation.symm.trans vouches.generation.2

theorem Finalized.named {sha256 : Bytes → Digest}
    {idempotencyKey : String} {memory later : Memory} {result : FinalizationResult}
    (finalized : Finalized sha256 request idempotencyKey memory result later) {built : BuiltFact}
    (member : built ∈ result.facts) :
    NamedBy sha256 result.closure built.fact.trustedFactDigest built.record.bytes := by
  refine ⟨built, rfl, rfl, (finalized.naming built member).2.2, ?_⟩
  rw [← finalized.exact]
  exact List.mem_mergeSort.mpr (List.mem_map_of_mem member)

theorem Vouched.finalized (vouched : Vouched platform channel world)
    (kept : Kept platform channel world) (request : FinalizationRequest) (idempotencyKey : String)
    (held : request.evaluatorResult.sourceReceipt ∈ world.returned) :
    Vouched platform channel { world with
      memory := (finalize platform.sha256 request idempotencyKey world.memory).2 } := by
  rcases outcome : finalize platform.sha256 request idempotencyKey world.memory with
    ⟨error | result, later⟩
  · have same : later = world.memory :=
      finalize_atomic platform.sha256 request idempotencyKey _ error later outcome
    rw [same]
    exact vouched
  obtain ⟨row, middle, finalizes⟩ := finalize_eq_ok platform.sha256 outcome
  have finalized := finalizes.finalized
  have signed := kept.signedBy platform channel held finalizes.closure
  have filed := finalizes.filed
  have ⟨_, _, appended⟩ := appendFacts_holds platform.sha256 _ finalizes.appended
  have older : ∀ event ∈ world.memory.tables.history, event ∈ later.tables.history := by
    intro event member
    rw [finalized.history]
    exact List.mem_append_left _ member
  have found : ∀ built ∈ result.facts, ∃ event ∈ later.tables.history,
      event.key = built.key ∧ Stores idempotencyKey world.memory later built event := by
    intro built member
    obtain ⟨event, _, stored⟩ := Related.partner_of_left finalized.stores built member
    have ⟨inRows, _⟩ := find_spec stored.found
    have ⟨inHistory, key⟩ := List.mem_filter.mp inRows
    exact ⟨event, inHistory, of_decide_eq_true key, stored⟩
  have closes : Closes platform.sha256 row result.closure :=
    ⟨⟨filed.tenant, filed.project⟩, filed.digest, filed.bytes⟩
  constructor
  · intro other member
    have split : other ∈ world.memory.decisionClosures ∨ other = row := by
      simp only [appended] at member
      rcases filed.cases with ⟨_, same⟩ | ⟨_, _, same⟩ | ⟨_, _, _, same⟩
      · exact .inl (same ▸ member)
      · exact .inl (same ▸ member)
      · rw [same] at member
        exact (List.mem_append.mp member).imp_right List.mem_singleton.mp
    rcases split with old | rfl
    · obtain ⟨closure, itsRow, itsFrame, complete⟩ := vouched.closures other old
      refine ⟨closure, itsRow, itsFrame, fun digest named => ?_⟩
      obtain ⟨event, inHistory, names⟩ := complete digest named
      exact ⟨event, older event inHistory, names⟩
    · refine ⟨result.closure, closes, signed, fun digest named => ?_⟩
      rw [← finalized.exact] at named
      obtain ⟨built, member, rfl⟩ := List.mem_map.mp (List.mem_mergeSort.mp named)
      obtain ⟨event, inHistory, _, stored⟩ := found built member
      refine ⟨event, inHistory, ?_⟩
      rw [stored.bytes]
      exact finalized.named member
  · intro event member
    simp only [finalized.history, List.mem_append] at member
    rcases member with old | new
    · obtain ⟨fact, body, row, inClosures, closure, itsRow, names⟩ := vouched.facts event old
      refine ⟨fact, body, row, ?_, closure, itsRow, names⟩
      obtain ⟨_, ⟨more, grown⟩⟩ := finalizes.grows
      simp only [grown]
      exact List.mem_append_left _ inClosures
    · obtain ⟨⟨built, event⟩, inPairs, rfl⟩ := List.mem_map.mp new
      obtain ⟨inZip, missing⟩ := List.mem_filter.mp inPairs
      have stored := List.forall₂_zip finalized.stores inZip
      have ⟨record, _⟩ := stored.fresh (Option.isNone_iff_eq_none.mp missing)
      refine ⟨built.fact, by rw [record]; rfl, row, ?_, result.closure, closes, ?_⟩
      · simp only [appended]
        exact filed.member
      · rw [stored.bytes]
        exact finalized.named (List.of_mem_zip inZip).1
  · intro key shown present
    by_cases written : key ∈ result.facts.map BuiltFact.key
    · obtain ⟨built, member, rfl⟩ := List.mem_map.mp written
      obtain ⟨event, inHistory, eventKey, stored⟩ := found built member
      rcases before : world.memory.tables.find built.key (factKey idempotencyKey built) with
        _ | earlier
      · have ⟨record, current⟩ := stored.fresh before
        rw [current] at present
        refine ⟨event, inHistory, eventKey, built.fact, by rw [record]; rfl, ?_⟩
        rw [← Option.some.inj present]
      · have ⟨_, unchanged⟩ := stored.replayed earlier before
        rw [unchanged] at present
        obtain ⟨event, inHistory, holds⟩ := vouched.current _ shown present
        exact ⟨event, older event inHistory, holds⟩
    · rw [finalized.others key written] at present
      obtain ⟨event, inHistory, holds⟩ := vouched.current key shown present
      exact ⟨event, older event inHistory, holds⟩

/-- In every run each stored closure carries the digest of a frame the channel
accepted and verified, in its task and generation; every fact stored is named by a
stored closure, every fact a closure names is stored under it, and the facts that
are current come from those. -/
theorem evaluator_results_vouched {world : World} (reached : Reached platform channel world) :
    Vouched platform channel world := by
  induction reached with
  | opened =>
      constructor
      · intro row member
        cases member
      · intro event member
        cases member
      · intro key shown present
        cases present
  | received reached frame expectedIdempotencyKey vouched =>
      refine ⟨?_, vouched.facts, vouched.current⟩
      intro row member
      obtain ⟨closure, closes, signed, complete⟩ := vouched.closures row member
      obtain ⟨receipt, held, signature⟩ := signed
      exact ⟨closure, closes, ⟨receipt, List.mem_append_left _ held, signature⟩, complete⟩
  | finalized reached request idempotencyKey held vouched =>
      exact vouched.finalized platform channel (reached.kept platform channel) request
        idempotencyKey held

end Channel

namespace Sample

def evaluation : EvaluatorEnvelope Empty :=
  { issuerId := "sealed-evaluator"
    keyId := "eval-key-1"
    campaignId := "campaign-1"
    taskId := "task-001"
    generation := 1
    sequence := 1
    idempotencyKey := "eval-1"
    payloadSha256 := (marked (SecureMemory.canonicalBytes (φ := Empty)
      (.dict [("text", .str "verified")]))).labelled ""
    payload := [("text", .str "verified")]
    signature := "signature" }

def evaluationDocument : Json Empty :=
  match evaluation.signedCore with
  | .dict members => .dict (members ++ [("signature", .str evaluation.signature)])
  | other => other

def frame : Bytes := SecureMemory.canonicalBytes evaluationDocument

/-- A platform that reads and trusts the frame, with nothing to report about it. -/
def trusting : ChannelPlatform Empty :=
  { sha256 := marked
    parseJsonBytes := fun _ => some evaluationDocument
    modelValidate := fun _ => some evaluation
    signatureVerifier := fun _ _ _ _ => true
    scan := fun _ => []
    scannerSha256 := repeated '1' }

def evaluator : EvaluatorChannel :=
  ⟨"sealed-evaluator", "eval-key-1", "campaign-1", "task-001", 1⟩

theorem frame_size : ¬ (frame.length = 0 ∨ maxEvaluatorEnvelopeBytes < frame.length) := by
  decide +kernel

theorem frame_decoded : decode trusting frame = .ok evaluation := by
  unfold decode
  refine (raiseIf_bind_eq_ok _ _ _ _).mpr ⟨frame_size, ?_⟩
  refine (bind_eq_ok _ _ _).mpr ⟨evaluationDocument, rfl, ?_⟩
  exact (raiseIf_bind_eq_ok _ _ _ _).mpr ⟨not_not.mpr rfl, rfl⟩

theorem frame_verified : verifyEnvelope trusting evaluator evaluation "eval-1" = .ok () := by
  unfold verifyEnvelope
  iterate 5 refine (raiseIf_bind_eq_ok _ _ _ _).mpr ⟨not_not.mpr rfl, ?_⟩
  refine (raiseIf_bind_eq_ok _ _ _ _).mpr ⟨not_or.mpr ⟨by decide, not_not.mpr rfl⟩, ?_⟩
  refine (raiseIf_bind_eq_ok _ _ _ _).mpr ⟨not_not.mpr rfl, ?_⟩
  exact (raiseIf_eq_ok _ _ _).mpr Bool.noConfusion

theorem frame_admitted : ∃ admission, admissionGate trusting evaluation = .ok admission ∧
    admission.status = .admitted ∧ admission.contentSha256.isSome = true := by
  have ids : isStableId "campaign-1" = true ∧ isStableId "task-001" = true := by decide +kernel
  have reasons : admissionReasons trusting evaluation = [] := by
    have same : frameSha256 trusting evaluation.payloadBytes = evaluation.payloadSha256 := rfl
    unfold admissionReasons
    rw [if_neg (not_not.mpr same)]
    rfl
  unfold admissionGate
  rw [reasons]
  refine ⟨_, (raiseIf_bind_eq_ok _ _ _ _).mpr ⟨?_, (raiseIf_bind_eq_ok _ _ _ _).mpr ⟨?_,
    (raiseIf_bind_eq_ok _ _ _ _).mpr ⟨?_, (raiseIf_bind_eq_ok _ _ _ _).mpr ⟨?_, rfl⟩⟩⟩⟩, rfl, rfl⟩
  · exact not_or.mpr ⟨Bool.eq_false_iff.not.mpr (not_not.mpr ids.1),
      Bool.eq_false_iff.not.mpr (not_not.mpr ids.2)⟩
  · exact Nat.lt_irrefl 1
  · exact Nat.lt_irrefl 1
  · exact Bool.eq_false_iff.not.mpr (not_not.mpr (Gateway.isSha256_digest _))

/-- The frame is answered with a receipt that closes decisions of the task. -/
theorem frame_received : ∃ receipt later,
    receive trusting evaluator frame "eval-1" .empty = (.ok receipt, later) ∧ Usable receipt ∧
      receipt.envelopeSha256 = some (frameSha256 trusting frame) := by
  obtain ⟨admission, admitted, status, content⟩ := frame_admitted
  have kept : (sourceReceipt trusting evaluation frame admission).envelopeSha256 =
      some (frameSha256 trusting frame) := by
    unfold sourceReceipt
    simp only
    rw [if_pos content]
  have ran : ∃ later, receive trusting evaluator frame "eval-1" .empty =
      (.ok (sourceReceipt trusting evaluation frame admission), later) := by
    unfold receive
    rw [frame_decoded, Effect.check_ok_bind, frame_verified, Effect.check_ok_bind,
      Effect.read_bind]
    simp only [ChannelState.empty, Dict.get?_nil]
    apply Exists.intro
    apply (Effect.raiseIf_bind_eq_ok _ _ _ _ _ _).mpr
    refine ⟨Bool.noConfusion, ?_⟩
    apply (Effect.raiseIf_bind_eq_ok _ _ _ _ _ _).mpr
    refine ⟨not_not.mpr rfl, ?_⟩
    rw [admitted, Effect.check_ok_bind, Effect.write_bind]
    rfl
  obtain ⟨later, ran⟩ := ran
  refine ⟨sourceReceipt trusting evaluation frame admission, later, ran, ?_, kept⟩
  constructor
  · exact status
  · rw [kept]
    rfl
  · rw [kept]
    exact Gateway.isSha256_digest _
  · exact Gateway.isSha256_digest _
  · rfl
  · rfl

/-! ### Two closures -/

def coreFront (component : String) : List Char :=
  ("egoagentos:" ++ "trusted-fact" ++ ":v1\x00").toList ++
    ('{' :: (quoted "applicability_scope" ++ ':' :: '{' ::
      (quoted "component" ++ ':' :: quoted component)))

private theorem core_append (front first second value inner later : List Char) :
    front ++ ('{' :: (first ++ ':' :: (('{' :: (second ++ ':' :: (value ++ inner))) ++ later))) =
      (front ++ ('{' :: (first ++ ':' :: '{' :: (second ++ ':' :: value)))) ++
        (inner ++ later) := by
  simp

/-- Two components, each in the digest of its fact. -/
theorem coreFronts_long : 86 < (utf8Encode (coreFront "aaaaaaaaaaaaaaaaaaaaaaaa")).length ∧
    86 < (utf8Encode (coreFront "bbbbbbbbbbbbbbbbbbbbbbbb")).length := by
  decide +kernel

theorem coreFronts_distinct : marked (utf8Encode (coreFront "aaaaaaaaaaaaaaaaaaaaaaaa")) ≠
    marked (utf8Encode (coreFront "bbbbbbbbbbbbbbbbbbbbbbbb")) := by
  decide +kernel

theorem coreDigest_marked {component : String}
    (long : 86 < (utf8Encode (coreFront component)).length) :
    (verifiedCore component).digest marked =
      (marked (utf8Encode (coreFront component))).labelled "" := by
  have scopeAbove : ∀ key ∈ ["schema_version", "fact_id", "fact_kind", "statement_utf8_base64",
      "outcome"], ¬ key ≤ "applicability_scope" := by
    decide +kernel
  have scopeBelow : ∀ key ∈ ["source_refs", "support_digests"], "applicability_scope" ≤ key := by
    decide +kernel
  have componentAbove : ∀ key ∈ ["tenant_id", "project_id"], ¬ key ≤ "component" := by
    decide +kernel
  have componentBelow : ∀ key ∈ ["version", "problem_id"], "component" ≤ key := by
    decide +kernel
  have inner := @sortMembers_least (Json Empty) ("component", .str component)
    [("tenant_id", .str "tenant-a"), ("project_id", .str "project-a")]
    [("version", .str "v1"), ("problem_id", .null)]
    (fun entry member => componentAbove entry.1 (List.mem_map_of_mem (f := Prod.fst) member))
    (fun entry member => componentBelow entry.1 (List.mem_map_of_mem (f := Prod.fst) member))
  have split : ∃ rest, ("egoagentos:" ++ "trusted-fact" ++ ":v1\x00").toList ++
      (verifiedCore component).json.sorted.text = coreFront component ++ rest := by
    have outer := @sortMembers_least (Json Empty)
      ("applicability_scope", (verifiedCore component).applicabilityScope.json.sorted)
      (sortedMembers [("schema_version", .str "secure-memory-trusted-fact/v1"),
        ("fact_id", .str "fact-001"), ("fact_kind", .str "procedural"),
        ("statement_utf8_base64", .str "dmVyaWZpZWQgZmFjdA=="), ("outcome", .str "KEEP")])
      (sortedMembers [("source_refs", .list [SourceRef.json ⟨"evidence", "evidence-001"⟩]),
        ("support_digests", texts [repeated '5'])])
      (fun entry member => scopeAbove entry.1 (List.mem_map_of_mem (f := Prod.fst) member))
      (fun entry member => scopeBelow entry.1 (List.mem_map_of_mem (f := Prod.fst) member))
    have sorted : (verifiedCore component).json.sorted = _ := congrArg Json.dict outer
    have inScope : (verifiedCore component).applicabilityScope.json.sorted = _ :=
      congrArg Json.dict inner
    rw [sorted, inScope]
    generalize sortMembers _ = scope
    generalize sortMembers _ = later
    refine ⟨jsonTextMembers scope ++ jsonTextMembers later, ?_⟩
    rw [Json.text, Json.text, Json.text]
    exact core_append _ _ _ _ _ _
  obtain ⟨rest, split⟩ := split
  have read := marked_of_front long rest
  rw [← split] at read
  exact congrArg (Digest.labelled "") read

/-- Two finalizations with the receipt of one frame, each with a fact of its own. -/
theorem twice_finalized : ∃ world, Reached trusting evaluator world ∧
    world.memory.tables.history.length = 2 ∧
    ∃ firstRow secondRow first second, world.memory.decisionClosures = [firstRow, secondRow] ∧
      Closes trusting.sha256 firstRow first ∧ Closes trusting.sha256 secondRow second ∧
      first.core.evaluatorResultDigest = frameSha256 trusting frame ∧
      second.core.evaluatorResultDigest = frameSha256 trusting frame ∧
      first.core.verifiedFactDigests ≠ second.core.verifiedFactDigests := by
  have two : '2' ∈ ['1', '2', '3', '4', '5', '6', '7'] := by decide
  have seven : '7' ∈ ['1', '2', '3', '4', '5', '6', '7'] := by decide
  have stable : isStableId "aaaaaaaaaaaaaaaaaaaaaaaa" = true ∧
      isStableId "bbbbbbbbbbbbbbbbbbbbbbbb" = true := by
    decide +kernel
  obtain ⟨receipt, _, received, usable, digest⟩ := frame_received
  have started : ∃ world, Reached trusting evaluator world ∧ world.memory = .empty ∧
      receipt ∈ world.returned := by
    refine ⟨_, Reached.received Reached.opened frame "eval-1", rfl, ?_⟩
    apply List.mem_append_right
    rw [received]
    exact List.mem_singleton_self receipt
  obtain ⟨world, reached, empty, held⟩ := started
  have signed : receipt.envelopeSha256.getD "" = frameSha256 trusting frame := by
    rw [digest]
    rfl
  let first := closed usable "aaaaaaaaaaaaaaaaaaaaaaaa" two
  let second := closed usable "bbbbbbbbbbbbbbbbbbbbbbbb" seven
  let firstRow := (closureCall marked first "k").row marked
  let secondRow := (closureCall marked second "q").row marked
  have admissible := closureCall_admissible marked
  have filed1 : appendDecisionClosure marked (closureCall marked first "k") Memory.empty = _ :=
    appendDecisionClosure_new marked (admissible first "k") rfl rfl
  obtain ⟨_, m1, ran1, _, only1, closures1, grown1⟩ := Only.finalizes only_empty "1"
    (by decide) (by decide) "k" (by decide) usable stable.1 two filed1
  have rows1 : m1.decisionClosures = [firstRow] := closures1
  have unkeyed1 : m1.closureByKey "tenant-a" "project-a" ("q" ++ ":closure") = none := by
    unfold Memory.closureByKey
    rw [rows1]
    apply List.find?_eq_none.mpr
    intro row member holds
    rw [List.mem_singleton.mp member] at holds
    have same : "k" ++ ":closure" = "q" ++ ":closure" := (of_decide_eq_true holds).2
    exact absurd same (by decide)
  have missing1 : m1.closureByDigest "tenant-a" "project-a" (second.digest marked) = none := by
    unfold Memory.closureByDigest
    rw [rows1]
    apply List.find?_eq_none.mpr
    intro row member holds
    rw [List.mem_singleton.mp member] at holds
    exact closed_distinct usable usable _ _ two seven (of_decide_eq_true holds).2
  have placed1 : Only ["1"] ({ m1 with
      decisionClosures := m1.decisionClosures ++ [secondRow] } : Memory).tables := only1
  obtain ⟨_, m2, ran2, _, _, closures2, grown2⟩ := placed1.finalizes "2"
    (by decide) (by decide) "q" (by decide) usable stable.2 seven
    (appendDecisionClosure_new marked (admissible second "q") unkeyed1 missing1)
  have reached1 := reached.finalized
    (finalizing marked receipt "aaaaaaaaaaaaaaaaaaaaaaaa" "1" '2') "k" held
  rw [empty, show trusting.sha256 = marked from rfl, ran1] at reached1
  have reached2 := reached1.finalized
    (finalizing marked receipt "bbbbbbbbbbbbbbbbbbbbbbbb" "2" '7') "q" held
  rw [show trusting.sha256 = marked from rfl, ran2] at reached2
  have rows2 : m2.decisionClosures = [firstRow, secondRow] := by
    rw [closures2]
    exact congrArg (· ++ [secondRow]) rows1
  refine ⟨_, reached2, ?_, firstRow, secondRow, first, second, rows2, ⟨⟨rfl, rfl⟩, rfl, rfl⟩,
    ⟨⟨rfl, rfl⟩, rfl, rfl⟩, signed, signed, ?_⟩
  · change m2.tables.history.length = 2
    rw [grown2]
    exact congrArg (· + 1) grown1
  · intro same
    have digests : (verifiedCore "aaaaaaaaaaaaaaaaaaaaaaaa").digest marked =
        (verifiedCore "bbbbbbbbbbbbbbbbbbbbbbbb").digest marked := List.singleton_inj.mp same
    rw [coreDigest_marked coreFronts_long.1, coreDigest_marked coreFronts_long.2] at digests
    exact coreFronts_distinct (Digest.labelled_injective "" digests)

/-- One frame, and two closures under its digest that name different facts: nothing of
what the evaluator signed says which facts it verified. -/
theorem one_frame_two_closures : ∃ world, Reached trusting evaluator world ∧
    ∃ firstRow ∈ world.memory.decisionClosures, ∃ secondRow ∈ world.memory.decisionClosures,
      ∃ first second, Closes trusting.sha256 firstRow first ∧
        Closes trusting.sha256 secondRow second ∧
        first.core.evaluatorResultDigest = frameSha256 trusting frame ∧
        second.core.evaluatorResultDigest = frameSha256 trusting frame ∧
        first.core.verifiedFactDigests ≠ second.core.verifiedFactDigests := by
  obtain ⟨world, reached, _, firstRow, secondRow, first, second, rows, holds⟩ := twice_finalized
  have member : firstRow ∈ world.memory.decisionClosures ∧
      secondRow ∈ world.memory.decisionClosures := by
    rw [rows]
    exact ⟨List.mem_cons_self, List.mem_cons_of_mem _ List.mem_cons_self⟩
  exact ⟨world, reached, firstRow, member.1, secondRow, member.2, first, second, holds⟩

theorem evaluator_results_vouched_sample : ∃ world, Reached trusting evaluator world ∧
    world.memory.decisionClosures.length = 2 ∧ world.memory.tables.history.length = 2 ∧
    Vouched trusting evaluator world := by
  obtain ⟨world, reached, events, firstRow, secondRow, _, _, rows, _⟩ := twice_finalized
  refine ⟨world, reached, ?_, events, evaluator_results_vouched trusting evaluator reached⟩
  rw [rows]
  rfl

end Sample

end EgoAgent.TrustedMemory
