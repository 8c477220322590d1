import EgoAgent.Api.JsonReading
import EgoAgent.TrustedMemory.EvaluatorAuthority

/-!
Which frames an evaluator channel answers with a receipt.

The signature covers the validated envelope written out again, not the frame.
The two are the same bytes when the frame writes its numbers as numbers; what
pydantic makes a number of, a frame may write otherwise.
-/

namespace EgoAgent.TrustedMemory

open EgoAgent.Api

/-! ### The envelope's model -/

/-- What the lax mode of pydantic makes of a float and of a text for an `int`. -/
structure Coercions (φ : Type) where
  floatAsInt : φ → Option Int
  strAsInt : String → Option Int

section Validation

variable {φ : Type} (coercions : Coercions φ)

def Coercions.laxInt : Json φ → Option Int
  | .int number => some number
  | .bool flag => some (if flag then 1 else 0)
  | .float number => coercions.floatAsInt number
  | .str text => coercions.strAsInt text
  | _ => none

def Coercions.positiveInt (value : Json φ) : Option Nat :=
  (coercions.laxInt value).bind fun number => if 1 ≤ number then some number.toNat else none

/-- A text field with a check of its own. -/
def textField (allowed : String → Bool) : Json φ → Option String
  | .str text => if allowed text then some text else none
  | _ => none

def boundedText (longest : Nat) (text : String) : Bool :=
  1 ≤ text.length && text.length ≤ longest

def objectField : Json φ → Option (List (String × Json φ))
  | .dict members => some members
  | _ => none

def envelopeSchema : String := "secure-memory-evaluator-envelope/v1"

def envelopeFields : List String :=
  ["schema_version", "issuer_id", "key_id", "campaign_id", "task_id", "generation", "sequence",
    "idempotency_key", "payload_sha256", "payload", "signature"]

/-- `EvaluatorEnvelope.model_validate`; the check that its canonical bytes exist
never fails for a value that was read from JSON. -/
def modelValidate : Json φ → Option (EvaluatorEnvelope φ)
  | .dict members =>
      if members.all fun member => envelopeFields.contains member.1 then do
        let _ ← (Dict.get? members "schema_version").bind (textField (· == envelopeSchema))
        let issuerId ← (Dict.get? members "issuer_id").bind (textField (boundedText 200))
        let keyId ← (Dict.get? members "key_id").bind (textField (boundedText 200))
        let campaignId ← (Dict.get? members "campaign_id").bind (textField (boundedText 200))
        let taskId ← (Dict.get? members "task_id").bind (textField (boundedText 200))
        let generation ← (Dict.get? members "generation").bind coercions.positiveInt
        let sequence ← (Dict.get? members "sequence").bind coercions.positiveInt
        let idempotencyKey ←
          (Dict.get? members "idempotency_key").bind (textField (boundedText 200))
        let payloadSha256 ← (Dict.get? members "payload_sha256").bind (textField Gateway.isSha256)
        let payload ← (Dict.get? members "payload").bind objectField
        let signature ← (Dict.get? members "signature").bind (textField (boundedText 4096))
        some
          { issuerId, keyId, campaignId, taskId, generation, sequence, idempotencyKey,
            payloadSha256, payload, signature }
      else none
  | _ => none

/-- The members of an envelope as its signer writes them. -/
def EvaluatorEnvelope.members (envelope : EvaluatorEnvelope φ) : List (String × Json φ) :=
  [("schema_version", .str envelopeSchema),
    ("issuer_id", .str envelope.issuerId), ("key_id", .str envelope.keyId),
    ("campaign_id", .str envelope.campaignId), ("task_id", .str envelope.taskId),
    ("generation", .int envelope.generation), ("sequence", .int envelope.sequence),
    ("idempotency_key", .str envelope.idempotencyKey),
    ("payload_sha256", .str envelope.payloadSha256), ("payload", .dict envelope.payload),
    ("signature", .str envelope.signature)]

/-- The signed core together with its signature. -/
def EvaluatorEnvelope.document (envelope : EvaluatorEnvelope φ) : Json φ :=
  .dict envelope.members

variable {found : Option (Json φ)}

theorem textField_eq_some {allowed : String → Bool} {text : String}
    (read : found.bind (textField allowed) = some text) :
    found = some (.str text) ∧ allowed text = true := by
  obtain ⟨value, rfl, accepted⟩ := Option.bind_eq_some_iff.mp read
  cases value with
  | str written =>
      simp only [textField] at accepted
      split at accepted
      · rename_i fits
        cases accepted
        exact ⟨rfl, fits⟩
      · cases accepted
  | _ => cases accepted

theorem objectField_eq_some {members : List (String × Json φ)}
    (read : found.bind objectField = some members) : found = some (.dict members) := by
  obtain ⟨value, rfl, accepted⟩ := Option.bind_eq_some_iff.mp read
  cases value with
  | dict written =>
      cases accepted
      rfl
  | _ => cases accepted

theorem positiveInt_int {number : Int} {read : Nat}
    (written : found = some (.int number)) (value : found.bind coercions.positiveInt = some read) :
    found = some (.int (read : Int)) := by
  subst written
  simp only [Option.bind_some, Coercions.positiveInt, Coercions.laxInt] at value
  split at value
  · rename_i positive
    rw [← Option.some.inj value, Int.toNat_of_nonneg (by omega)]
  · cases value

variable {envelope : EvaluatorEnvelope φ}

/-- An accepted object with its numbers as numbers holds what the envelope holds. -/
theorem modelValidate_lookups {members : List (String × Json φ)}
    (accepted : modelValidate coercions (.dict members) = some envelope)
    {generation sequence : Int} (generationInt : Dict.get? members "generation" =
      some (.int generation)) (sequenceInt : Dict.get? members "sequence" = some (.int sequence)) :
    (∀ member ∈ members, member.1 ∈ envelopeFields) ∧
      ∀ member ∈ envelope.members, Dict.get? members member.1 = some member.2 := by
  simp only [modelValidate] at accepted
  split at accepted
  swap
  · cases accepted
  rename_i known
  simp only [Option.bind_eq_bind, Option.bind_eq_some_iff] at accepted
  obtain ⟨schemaVersion, schema, issuerId, issuer, keyId, key, campaignId, campaign,
    taskId, task, generationRead, generationIs, sequenceRead, sequenceIs, idempotencyKey,
    idempotency, payloadSha256, digest, payload, object, signature, signed, built⟩ := accepted
  simp only [← Option.bind_eq_some_iff] at schema issuer key campaign task generationIs sequenceIs
  simp only [← Option.bind_eq_some_iff] at idempotency digest object signed
  obtain ⟨schema, named⟩ := textField_eq_some schema
  have generationIs := positiveInt_int coercions generationInt generationIs
  have sequenceIs := positiveInt_int coercions sequenceInt sequenceIs
  rw [eq_of_beq named] at schema
  cases built
  constructor
  · intro member present
    exact List.contains_iff_mem.mp (List.all_eq_true.mp known member present)
  · intro member present
    simp only [EvaluatorEnvelope.members, List.mem_cons, List.not_mem_nil, or_false] at present
    rcases present with rfl | rfl | rfl | rfl | rfl | rfl | rfl | rfl | rfl | rfl | rfl
    · exact schema
    · exact (textField_eq_some issuer).1
    · exact (textField_eq_some key).1
    · exact (textField_eq_some campaign).1
    · exact (textField_eq_some task).1
    · exact generationIs
    · exact sequenceIs
    · exact (textField_eq_some idempotency).1
    · exact (textField_eq_some digest).1
    · exact objectField_eq_some object
    · exact (textField_eq_some signed).1

theorem envelopeFields_nodup : envelopeFields.Nodup := by
  decide +kernel

variable [FloatText φ]

/-- Such an object is written as the signer writes the envelope. -/
theorem canonicalBytes_of_modelValidate {members : List (String × Json φ)}
    (accepted : modelValidate coercions (.dict members) = some envelope)
    (distinct : (Dict.keys members).Nodup) {generation sequence : Int}
    (generationInt : Dict.get? members "generation" = some (.int generation))
    (sequenceInt : Dict.get? members "sequence" = some (.int sequence)) :
    SecureMemory.canonicalBytes (.dict members) =
      SecureMemory.canonicalBytes envelope.document := by
  obtain ⟨known, agree⟩ := modelValidate_lookups coercions accepted generationInt sequenceInt
  have fields : (Dict.keys envelope.members).Nodup := envelopeFields_nodup
  have same : members.Perm envelope.members :=
    Dict.perm_of_fields distinct fields known agree
  have inner : (sortedMembers members).Perm (sortedMembers envelope.members) := by
    rw [sortedMembers_eq_map, sortedMembers_eq_map]
    exact same.map _
  have innerDistinct : (Dict.keys (sortedMembers members)).Nodup := by
    rw [sortedMembers_keys]
    exact distinct
  unfold SecureMemory.canonicalBytes EvaluatorEnvelope.document
  simp only [Json.sorted]
  rw [sortMembers_eq_of_perm inner innerDistinct]

end Validation

/-! ### Reading JSON -/

section Reading

variable {φ : Type}

variable [FloatText φ]

/-- `parse_json_bytes`: what `json.loads` reads, without repeated keys and
without numbers that are not finite. -/
def parseJsonBytes (loads : Bytes → Option (Json φ)) (raw : Bytes) : Option (Json φ) :=
  (loads raw).bind fun value => if uniqueKeys value && value.finite then some value else none

theorem parseJsonBytes_distinct {loads : Bytes → Option (Json φ)} {raw : Bytes}
    {members : List (String × Json φ)} (read : parseJsonBytes loads raw = some (.dict members)) :
    (Dict.keys members).Nodup := by
  obtain ⟨value, _, accepted⟩ := Option.bind_eq_some_iff.mp read
  split at accepted
  · rename_i sound
    cases accepted
    simp only [uniqueKeys, Bool.and_eq_true, decide_eq_true_eq] at sound
    exact sound.1.1
  · cases accepted

end Reading

/-! ### Calls -/

section Calls

variable {φ : Type} [FloatText φ] (platform : ChannelPlatform φ) (channel : EvaluatorChannel)

structure FrameCall where
  frame : Bytes
  expectedIdempotencyKey : String

def FrameCall.answer (call : FrameCall) (state : ChannelState) :
    Except ChannelError EvaluatorSourceReceipt × ChannelState :=
  receive platform channel call.frame call.expectedIdempotencyKey state

/-- The channel after these calls. -/
def afterCalls (state : ChannelState) (calls : List FrameCall) : ChannelState :=
  calls.foldl (fun state call => (call.answer platform channel state).2) state

/-- The receipts of these calls that were not there before. -/
def createdBy : ChannelState → List FrameCall → List EvaluatorSourceReceipt
  | _, [] => []
  | state, call :: rest =>
      let answered := call.answer platform channel state
      let later := createdBy answered.2 rest
      match answered.1 with
      | .error _ => later
      | .ok receipt =>
          if (Dict.get? state.idempotency call.expectedIdempotencyKey).isNone then receipt :: later
          else later

variable {receipt : EvaluatorSourceReceipt} {expectedIdempotencyKey : String} {frame : Bytes}

/-- A call repeats a receipt that is kept under its key, or files a new one in
sequence. -/
theorem receive_cases {state later : ChannelState}
    (ran : receive platform channel frame expectedIdempotencyKey state = (.ok receipt, later)) :
    ∃ envelope, decode platform frame = .ok envelope ∧
      verifyEnvelope platform channel envelope expectedIdempotencyKey = .ok () ∧
      envelope.idempotencyKey = expectedIdempotencyKey ∧
      ((Dict.get? state.idempotency expectedIdempotencyKey =
            some (some (frameSha256 platform frame), receipt) ∧ later = state) ∨
        (Dict.get? state.idempotency expectedIdempotencyKey = none ∧
          receipt.idempotencyKey = expectedIdempotencyKey ∧
          receipt.sequence = state.headSequence + 1 ∧
          (receipt.envelopeSha256.isSome = true →
            receipt.envelopeSha256 = some (frameSha256 platform frame)) ∧
          later =
            { headSequence := receipt.sequence
              idempotency := Dict.set state.idempotency expectedIdempotencyKey
                (receipt.envelopeSha256, receipt)
              sequences := Dict.set state.sequences receipt.sequence receipt.receiptSha256 })) := by
  unfold receive at ran
  obtain ⟨envelope, decoded, ran⟩ := (Effect.check_bind_eq_ok _ _ _ _ _).mp ran
  obtain ⟨_, verified, ran⟩ := (Effect.check_bind_eq_ok _ _ _ _ _).mp ran
  have key : envelope.idempotencyKey = expectedIdempotencyKey := by
    have verified := verified
    unfold verifyEnvelope at verified
    iterate 5 obtain ⟨_, verified⟩ := (raiseIf_bind_eq_ok _ _ _ _).mp verified
    obtain ⟨same, _⟩ := (raiseIf_bind_eq_ok _ _ _ _).mp verified
    exact not_not.mp (not_or.mp same).2
  refine ⟨envelope, decoded, verified, key, ?_⟩
  rw [Effect.read_bind] at ran
  rcases found : Dict.get? state.idempotency envelope.idempotencyKey with _ | ⟨retained, prior⟩
  · simp only [found] at ran
    obtain ⟨_, ran⟩ := (Effect.raiseIf_bind_eq_ok _ _ _ _ _ _).mp ran
    obtain ⟨next, ran⟩ := (Effect.raiseIf_bind_eq_ok _ _ _ _ _ _).mp ran
    obtain ⟨admission, _, ran⟩ := (Effect.check_bind_eq_ok _ _ _ _ _).mp ran
    rw [Effect.write_bind] at ran
    simp only [Effect.pure_apply, Prod.mk.injEq, Except.ok.injEq] at ran
    obtain ⟨rfl, rfl⟩ := ran
    rw [key] at found
    refine .inr ⟨found, key, not_not.mp next, ?_, ?_⟩
    · intro kept
      unfold sourceReceipt at kept ⊢
      simp only at kept ⊢
      split at kept
      · rename_i admitted
        rw [if_pos admitted]
      · cases kept
    · rw [key]
      rfl
  · simp only [found] at ran
    split at ran
    · rename_i same
      simp only [Effect.pure_apply, Prod.mk.injEq, Except.ok.injEq] at ran
      obtain ⟨rfl, rfl⟩ := ran
      rw [key, same] at found
      exact .inl ⟨found, rfl⟩
    · cases ran

variable {state : ChannelState}

variable {envelope : EvaluatorEnvelope φ}

/-- A frame whose digest is kept with its key is answered from the map. -/
theorem receive_repeated (decoded : decode platform frame = .ok envelope)
    (verified : verifyEnvelope platform channel envelope expectedIdempotencyKey = .ok ())
    (key : envelope.idempotencyKey = expectedIdempotencyKey)
    (kept : Dict.get? state.idempotency expectedIdempotencyKey =
      some (some (frameSha256 platform frame), receipt)) :
    receive platform channel frame expectedIdempotencyKey state = (.ok receipt, state) := by
  unfold receive
  rw [decoded, Effect.check_ok_bind, verified, Effect.check_ok_bind, Effect.read_bind, key, kept]
  simp only [if_true]
  rfl

variable {entry : Option String × EvaluatorSourceReceipt}

theorem answer_keeps (call : FrameCall) {key : String}
    (kept : Dict.get? state.idempotency key = some entry) :
    Dict.get? (call.answer platform channel state).2.idempotency key = some entry := by
  rcases outcome : call.answer platform channel state with ⟨error | receipt, later⟩
  · have same : later = state := receive_atomic platform channel call.frame
      call.expectedIdempotencyKey state error later outcome
    rw [same]
    exact kept
  · obtain ⟨_, _, _, _, ⟨_, rfl⟩ | ⟨absent, _, _, _, rfl⟩⟩ :=
      receive_cases platform channel outcome
    · exact kept
    · simp only
      rw [Dict.get?_set_ne _ _ (fun same => ?_)]
      · exact kept
      · rw [same, absent] at kept
        cases kept

theorem afterCalls_keeps (calls : List FrameCall) {key : String}
    (kept : Dict.get? state.idempotency key = some entry) :
    Dict.get? (afterCalls platform channel state calls).idempotency key = some entry := by
  induction calls generalizing state with
  | nil => exact kept
  | cons call rest ih => exact ih (answer_keeps platform channel call kept)

/-- New receipts are numbered on from the head of the channel, under keys that
it does not hold yet. -/
theorem createdBy_spec (calls : List FrameCall) (state : ChannelState) :
    (createdBy platform channel state calls).map EvaluatorSourceReceipt.sequence =
        List.range' (state.headSequence + 1) (createdBy platform channel state calls).length ∧
      ((createdBy platform channel state calls).map
        EvaluatorSourceReceipt.idempotencyKey).Nodup ∧
      ∀ receipt ∈ createdBy platform channel state calls,
        Dict.get? state.idempotency receipt.idempotencyKey = none := by
  induction calls generalizing state with
  | nil => exact ⟨rfl, List.nodup_nil, fun _ absent => absurd absent List.not_mem_nil⟩
  | cons call rest ih =>
      rcases outcome : call.answer platform channel state with ⟨error | receipt, later⟩
      · have same : later = state := receive_atomic platform channel call.frame
          call.expectedIdempotencyKey state error later outcome
        subst same
        simpa [createdBy, outcome] using ih later
      · obtain ⟨_, _, _, _, ⟨found, rfl⟩ | ⟨absent, key, next, _, laterIs⟩⟩ :=
          receive_cases platform channel outcome
        · simpa [createdBy, outcome, found] using ih later
        · obtain ⟨sequences, keys, fresh⟩ := ih later
          have new : createdBy platform channel state (call :: rest) =
              receipt :: createdBy platform channel later rest := by
            simp [createdBy, outcome, absent]
          have others : ∀ other ∈ createdBy platform channel later rest,
              other.idempotencyKey ≠ call.expectedIdempotencyKey ∧
                Dict.get? state.idempotency other.idempotencyKey = none := by
            intro other member
            have missing := fresh other member
            rw [laterIs] at missing
            simp only at missing
            have different : other.idempotencyKey ≠ call.expectedIdempotencyKey := by
              intro same
              rw [same, Dict.get?_set_self] at missing
              cases missing
            rw [Dict.get?_set_ne _ _ different] at missing
            exact ⟨different, missing⟩
          have head : later.headSequence = state.headSequence + 1 := by
            rw [laterIs]
            exact next
          rw [new]
          refine ⟨?_, ?_, ?_⟩
          · rw [List.map_cons, sequences, List.length_cons, List.range'_succ, next, head]
          · rw [List.map_cons, List.nodup_cons]
            refine ⟨fun member => ?_, keys⟩
            obtain ⟨other, present, same⟩ := List.mem_map.mp member
            exact (others other present).1 (same.trans key)
          · intro other member
            rcases List.mem_cons.mp member with rfl | present
            · rw [key]
              exact absent
            · exact (others other present).2

/-! ### The channel of the signer -/

/-- What the channel and its gate take from outside. -/
structure FramePlatform (φ : Type) where
  sha256 : Bytes → Digest
  loads : Bytes → Option (Json φ)
  coercions : Coercions φ
  signatureVerifier : Bytes → String → String → String → Bool
  scan : Bytes → List String
  scannerSha256 : String

def FramePlatform.toChannel (outside : FramePlatform φ) : ChannelPlatform φ :=
  { sha256 := outside.sha256
    parseJsonBytes := parseJsonBytes outside.loads
    modelValidate := modelValidate outside.coercions
    signatureVerifier := outside.signatureVerifier
    scan := outside.scan
    scannerSha256 := outside.scannerSha256 }

variable (outside : FramePlatform φ)

/-- The frame writes its generation and its sequence as JSON integers. -/
def WrittenAsIntegers (frame : Bytes) : Prop :=
  ∀ members, parseJsonBytes outside.loads frame = some (.dict members) →
    ∃ generation sequence : Int, Dict.get? members "generation" = some (.int generation) ∧
      Dict.get? members "sequence" = some (.int sequence)

/-- A decoded frame that writes its numbers as integers is the signer's writing
of the envelope. -/
theorem decode_written (decoded : decode outside.toChannel frame = .ok envelope)
    (written : WrittenAsIntegers outside frame) :
    frame = SecureMemory.canonicalBytes envelope.document := by
  unfold decode at decoded
  obtain ⟨_, decoded⟩ := (raiseIf_bind_eq_ok _ _ _ _).mp decoded
  obtain ⟨value, read, decoded⟩ := (bind_eq_ok _ _ _).mp decoded
  obtain ⟨canonical, decoded⟩ := (raiseIf_bind_eq_ok _ _ _ _).mp decoded
  have read : parseJsonBytes outside.loads frame = some value := (expect_eq_ok _ _ _).mp read
  have accepted : modelValidate outside.coercions value = some envelope :=
    (expect_eq_ok _ _ _).mp decoded
  cases value with
  | dict members =>
      obtain ⟨generation, sequence, generationInt, sequenceInt⟩ := written members read
      rw [← canonicalBytes_of_modelValidate outside.coercions accepted
        (parseJsonBytes_distinct read) generationInt sequenceInt]
      exact (not_not.mp canonical).symm
  | _ => cases accepted

/-- For every sequence of calls: new receipts are numbered 1, 2, 3 and so on under
distinct keys; a call that raises changes nothing; an admitted frame is answered
with the same receipt ever after; and a frame that gets a receipt and writes its
numbers as integers is the canonical encoding of a core that was signed, with its
signature. -/
theorem channel_accepts_signed_frames (signed : Bytes → String → String → String → Prop)
    (unforgeable : ∀ message signature issuerId keyId,
      outside.signatureVerifier message signature issuerId keyId = true →
        signed message signature issuerId keyId) (calls : List FrameCall) :
    let created := createdBy outside.toChannel channel .empty calls
    created.map EvaluatorSourceReceipt.sequence = List.range' 1 created.length ∧
      (created.map EvaluatorSourceReceipt.idempotencyKey).Nodup ∧
      ∀ earlier call rest, calls = earlier ++ call :: rest →
        let state := afterCalls outside.toChannel channel .empty earlier
        (∀ error later, call.answer outside.toChannel channel state = (.error error, later) →
          later = state) ∧
        ∀ receipt later, call.answer outside.toChannel channel state = (.ok receipt, later) →
          (receipt.envelopeSha256.isSome = true → ∀ more,
            let grown := afterCalls outside.toChannel channel later more
            call.answer outside.toChannel channel grown = (.ok receipt, grown)) ∧
          (WrittenAsIntegers outside call.frame → ∃ envelope : EvaluatorEnvelope φ,
            call.frame = SecureMemory.canonicalBytes envelope.document ∧
              signed (SecureMemory.canonicalBytes envelope.signedCore) envelope.signature
                channel.expectedIssuerId channel.expectedKeyId) := by
  intro created
  obtain ⟨sequences, keys, _⟩ := createdBy_spec outside.toChannel channel calls .empty
  refine ⟨sequences, keys, fun earlier call rest _ => ⟨fun error later raised => ?_, ?_⟩⟩
  · exact receive_atomic outside.toChannel channel call.frame call.expectedIdempotencyKey _ error
      later raised
  · intro receipt later answered
    obtain ⟨envelope, decoded, verified, key, outcome⟩ :=
      receive_cases outside.toChannel channel answered
    refine ⟨fun admitted more => ?_, fun written => ?_⟩
    · have kept : Dict.get? later.idempotency call.expectedIdempotencyKey =
          some (some (frameSha256 outside.toChannel call.frame), receipt) := by
        rcases outcome with ⟨found, rfl⟩ | ⟨_, _, _, digest, rfl⟩
        · exact found
        · simp only
          rw [Dict.get?_set_self, digest admitted]
      exact receive_repeated outside.toChannel channel decoded verified key
        (afterCalls_keeps outside.toChannel channel more kept)
    · have vouches := verifyEnvelope_vouches outside.toChannel channel verified decoded
        receipt.admission
      refine ⟨envelope, decode_written outside decoded written, ?_⟩
      rw [← vouches.issuer, ← vouches.issuerKey]
      exact unforgeable _ _ _ _ vouches.signed

end Calls

/-! ### One signed frame -/

namespace FrameSample

open Sample (marked evaluation evaluator repeated)

def alteredDocument : Json Empty :=
  .dict (evaluation.members.map fun member =>
    if member.1 = "sequence" then ("sequence", .str "1") else member)

def signedFrame : Bytes := SecureMemory.canonicalBytes evaluation.document

/-- The signed frame with its sequence in quotes. -/
def alteredFrame : Bytes := SecureMemory.canonicalBytes alteredDocument

/-- The signer signed one core. -/
def outside : FramePlatform Empty :=
  { sha256 := marked
    loads := fun raw =>
      if raw = signedFrame then some evaluation.document
      else if raw = alteredFrame then some alteredDocument
      else none
    coercions := ⟨Empty.elim, fun text => if text = "1" then some 1 else none⟩
    signatureVerifier := fun message signature issuerId keyId =>
      decide (message = SecureMemory.canonicalBytes evaluation.signedCore ∧
        signature = evaluation.signature ∧ issuerId = evaluation.issuerId ∧
        keyId = evaluation.keyId)
    scan := fun _ => []
    scannerSha256 := repeated '1' }

def accepts (frame : Bytes) : Bool :=
  match (receive outside.toChannel evaluator frame "eval-1" .empty).1 with
  | .ok receipt => receipt.sequence == 1
  | .error _ => false

/-- The altered frame is not what was signed, and gets the first receipt. -/
theorem altered_frame_accepted : alteredFrame ≠ signedFrame ∧ accepts alteredFrame = true := by
  decide +kernel

theorem signedFrame_written : WrittenAsIntegers outside signedFrame := by
  intro members read
  obtain ⟨value, loaded, accepted⟩ := Option.bind_eq_some_iff.mp read
  have whole : outside.loads signedFrame = some evaluation.document := by
    simp only [outside, if_true]
  rw [whole] at loaded
  cases loaded
  split at accepted
  · cases accepted
    have look := fun {key : String} {value : Json Empty}
      (present : (key, value) ∈ evaluation.members) =>
        Dict.get?_of_mem evaluation.members envelopeFields_nodup present
    exact ⟨evaluation.generation, evaluation.sequence,
      look (by simp [EvaluatorEnvelope.members]), look (by simp [EvaluatorEnvelope.members])⟩
  · cases accepted

theorem signedFrame_answered : ∃ receipt later,
    FrameCall.answer outside.toChannel evaluator ⟨signedFrame, "eval-1"⟩ .empty =
      (.ok receipt, later) := by
  have accepted : accepts signedFrame = true := by decide +kernel
  unfold accepts at accepted
  rcases outcome : receive outside.toChannel evaluator signedFrame "eval-1" .empty with
    ⟨error | receipt, later⟩
  · rw [outcome] at accepted
    cases accepted
  · exact ⟨receipt, later, outcome⟩

theorem channel_accepts_signed_frames_sample :
    ∃ envelope : EvaluatorEnvelope Empty,
      signedFrame = SecureMemory.canonicalBytes envelope.document ∧
        outside.signatureVerifier (SecureMemory.canonicalBytes envelope.signedCore)
          envelope.signature "sealed-evaluator" "eval-key-1" = true := by
  obtain ⟨receipt, later, answered⟩ := signedFrame_answered
  have held := channel_accepts_signed_frames evaluator outside
    (fun message signature issuerId keyId =>
      outside.signatureVerifier message signature issuerId keyId = true)
    (fun _ _ _ _ verified => verified) [⟨signedFrame, "eval-1"⟩]
  exact ((held.2.2 [] ⟨signedFrame, "eval-1"⟩ [] rfl).2 receipt later answered).2
    signedFrame_written

end FrameSample

end EgoAgent.TrustedMemory
