import EgoAgent.SecureMemory.Channel

/-!
The frames that a codec accepts under one MAC.

The MAC covers the validated envelope written out again. Pydantic makes an integer of other
spellings of the epoch and of the sequence, and a float equals the declared length, so a frame is
only fixed by its MAC up to the way it writes these three numbers.
-/

namespace EgoAgent.SecureMemory

open EgoAgent.Api
open EgoAgent.TrustedMemory (Coercions textField objectField parseJsonBytes textField_eq_some
  objectField_eq_some parseJsonBytes_distinct positiveInt_int)

/-! ### Objects up to the order of their members -/

section Objects

variable {φ : Type}

variable {left right : List (String × Json φ)}

/-- Objects whose members agree when sorted. -/
theorem sorted_dict_eq_of_get?
    (leftDistinct : (Dict.keys left).Nodup) (rightDistinct : (Dict.keys right).Nodup)
    (same : ∀ key, (Dict.get? left key).map Json.sorted = (Dict.get? right key).map Json.sorted) :
    (Json.dict left).sorted = (Json.dict right).sorted := by
  have leftKeys : (Dict.keys (sortedMembers left)).Nodup := by
    rwa [sortedMembers_keys]
  have rightKeys : (Dict.keys (sortedMembers right)).Nodup := by
    rwa [sortedMembers_keys]
  have lookup : ∀ members : List (String × Json φ), ∀ key,
      Dict.get? (sortedMembers members) key = (Dict.get? members key).map Json.sorted := by
    intro members key
    rw [sortedMembers_eq_map]
    exact Dict.get?_mapValues Json.sorted members key
  have inner : (sortedMembers left).Perm (sortedMembers right) :=
    Dict.perm_of_get? leftKeys rightKeys fun key => by rw [lookup, lookup, same]
  simp only [Json.sorted]
  rw [sortMembers_eq_of_perm inner leftKeys]

/-- The members of a sorted object, up to order. -/
theorem get?_eq_of_sorted_dict_eq
    (leftDistinct : (Dict.keys left).Nodup) (rightDistinct : (Dict.keys right).Nodup)
    (same : (Json.dict left).sorted = (Json.dict right).sorted) (key : String) :
    (Dict.get? left key).map Json.sorted = (Dict.get? right key).map Json.sorted := by
  simp only [Json.sorted, Json.dict.injEq] at same
  rw [← get?_sorted_eq_map leftDistinct, ← get?_sorted_eq_map rightDistinct, same]

theorem legible_dict_perm (perm : left.Perm right) :
    legible (.dict left) = true ↔ legible (.dict right) = true := by
  rw [legible_dict_iff, legible_dict_iff]
  have keys : (Dict.keys left).Perm (Dict.keys right) := perm.map _
  rw [keys.nodup_iff]
  exact and_congr_right fun _ => forall_congr' fun _ => imp_congr_left perm.mem_iff

end Objects

/-! ### What was validated -/

section Validated

variable {φ : Type}

theorem enumField_eq_some {α : Type} {values : List α} {text : α → String}
    {found : Option (Json φ)} {value : α} (read : found.bind (enumField values text) = some value) :
    found = some (.str (text value)) := by
  obtain ⟨written, rfl, accepted⟩ := Option.bind_eq_some_iff.mp read
  cases written with
  | str chars =>
      have holds := List.find?_some (p := fun value => text value == chars) accepted
      have same : text value = chars := eq_of_beq holds
      rw [same]
  | _ => cases accepted

theorem channelFields_nodup : channelFields.Nodup := by
  decide +kernel

theorem spelled_keys (envelope : ChannelEnvelope φ) (epoch sequence : Json φ) :
    Dict.keys (envelope.spelled epoch sequence) = channelFields := rfl

theorem spelled_distinct (envelope : ChannelEnvelope φ) (epoch sequence : Json φ) :
    (Dict.keys (envelope.spelled epoch sequence)).Nodup := channelFields_nodup

variable [FloatText φ] (coercions : Coercions φ)

/-- The numbers of an envelope, as they were written. -/
structure Coercing (envelope : ChannelEnvelope φ) (epoch sequence : Json φ) : Prop where
  epoch : coercions.positiveInt epoch = some envelope.epoch
  sequence : coercions.positiveInt sequence = some envelope.sequence

/-- What pydantic demands of an envelope of its own. -/
structure ChannelEnvelope.Valid (envelope : ChannelEnvelope φ) : Prop where
  keyId : envelope.keyId ≠ ""
  campaignNonce : envelope.campaignNonce ≠ ""
  method : envelope.method ≠ ""
  idempotencyKey : envelope.idempotencyKey ≠ ""
  writable : writable (.dict envelope.members) = true

/-- A validated object holds the members of its envelope, but for the way it writes the epoch and
the sequence. -/
theorem validateEnvelope_spelled {members : List (String × Json φ)} {envelope : ChannelEnvelope φ}
    (distinct : (Dict.keys members).Nodup)
    (accepted : validateEnvelope coercions members = some envelope) :
    envelope.Valid ∧ ∃ epoch sequence, members.Perm (envelope.spelled epoch sequence) ∧
      Coercing coercions envelope epoch sequence := by
  unfold validateEnvelope at accepted
  split at accepted
  swap
  · cases accepted
  rename_i known
  obtain ⟨_, schema, accepted⟩ := Option.bind_eq_some_iff.mp accepted
  obtain ⟨channel, isChannel, accepted⟩ := Option.bind_eq_some_iff.mp accepted
  obtain ⟨configuration, isConfiguration, accepted⟩ := Option.bind_eq_some_iff.mp accepted
  obtain ⟨sender, isSender, accepted⟩ := Option.bind_eq_some_iff.mp accepted
  obtain ⟨recipient, isRecipient, accepted⟩ := Option.bind_eq_some_iff.mp accepted
  obtain ⟨direction, isDirection, accepted⟩ := Option.bind_eq_some_iff.mp accepted
  obtain ⟨keyId, isKey, accepted⟩ := Option.bind_eq_some_iff.mp accepted
  obtain ⟨nonce, isNonce, accepted⟩ := Option.bind_eq_some_iff.mp accepted
  obtain ⟨epoch, epochRead, accepted⟩ := Option.bind_eq_some_iff.mp accepted
  obtain ⟨sequence, sequenceRead, accepted⟩ := Option.bind_eq_some_iff.mp accepted
  obtain ⟨method, isMethod, accepted⟩ := Option.bind_eq_some_iff.mp accepted
  obtain ⟨idempotencyKey, isIdempotency, accepted⟩ := Option.bind_eq_some_iff.mp accepted
  obtain ⟨digest, isDigest, accepted⟩ := Option.bind_eq_some_iff.mp accepted
  obtain ⟨payload, isPayload, built⟩ := Option.bind_eq_some_iff.mp accepted
  obtain ⟨writtenEpoch, foundEpoch, isEpoch⟩ := Option.bind_eq_some_iff.mp epochRead
  obtain ⟨writtenSequence, foundSequence, isSequence⟩ := Option.bind_eq_some_iff.mp sequenceRead
  obtain ⟨schema, named⟩ := textField_eq_some schema
  obtain ⟨isKey, keyFilled⟩ := textField_eq_some isKey
  obtain ⟨isNonce, nonceFilled⟩ := textField_eq_some isNonce
  obtain ⟨isMethod, methodFilled⟩ := textField_eq_some isMethod
  obtain ⟨isIdempotency, idempotencyFilled⟩ := textField_eq_some isIdempotency
  rw [eq_of_beq named] at schema
  dsimp only at built
  split at built
  swap
  · cases built
  rename_i isWritable
  cases built
  refine ⟨⟨bne_iff_ne.mp keyFilled, bne_iff_ne.mp nonceFilled, bne_iff_ne.mp methodFilled,
    bne_iff_ne.mp idempotencyFilled, isWritable⟩, writtenEpoch, writtenSequence, ?_, isEpoch,
    isSequence⟩
  refine Dict.perm_of_fields distinct (spelled_keys _ _ _ ▸ channelFields_nodup) ?_ ?_
  · intro member present
    rw [spelled_keys]
    exact List.contains_iff_mem.mp (List.all_eq_true.mp known member present)
  · intro field present
    simp only [ChannelEnvelope.spelled, List.mem_cons, List.not_mem_nil, or_false] at present
    rcases present with rfl | rfl | rfl | rfl | rfl | rfl | rfl | rfl | rfl | rfl | rfl | rfl |
      rfl | rfl
    · exact schema
    · exact enumField_eq_some isChannel
    · exact enumField_eq_some isConfiguration
    · exact enumField_eq_some isSender
    · exact enumField_eq_some isRecipient
    · exact enumField_eq_some isDirection
    · exact isKey
    · exact isNonce
    · exact foundEpoch
    · exact foundSequence
    · exact isMethod
    · exact isIdempotency
    · exact (textField_eq_some isDigest).1
    · exact objectField_eq_some isPayload

end Validated

/-! ### What was accepted -/

section Accepted

variable {φ : Type} [FloatText φ] (codec : ChannelCodec φ)

def frameDocument (declaredLength : Json φ) (raw : List (String × Json φ)) (mac : String) :
    Json φ :=
  .dict (frameMembers declaredLength (.dict raw) (.str mac))

/-- The three numbers of a frame, as it writes them. -/
structure FrameNumbers (φ : Type) where
  declaredLength : Json φ
  epoch : Json φ
  sequence : Json φ

/-- How the frame of a document writes its numbers. -/
def numbersOf : Json φ → Option (FrameNumbers φ)
  | .dict members => do
      let declaredLength ← Dict.get? members "declared_length"
      let raw ← (Dict.get? members "envelope").bind objectField
      let epoch ← Dict.get? raw "epoch"
      let sequence ← Dict.get? raw "sequence"
      some ⟨declaredLength, epoch, sequence⟩
  | _ => none

def ChannelCodec.numbers (frame : Bytes) : Option (FrameNumbers φ) :=
  (parseJsonBytes codec.loads frame).bind numbersOf

def FrameNumbers.Integers : FrameNumbers φ → Prop
  | ⟨.int _, .int _, .int _⟩ => True
  | _ => False

/-- The document of an envelope whose numbers are written so. -/
def ChannelEnvelope.document (envelope : ChannelEnvelope φ) (numbers : FrameNumbers φ)
    (mac : String) : Json φ :=
  frameDocument numbers.declaredLength (envelope.spelled numbers.epoch numbers.sequence) mac

/-- An accepted frame is the document of its envelope, with numbers written its way. -/
structure Accepted (frame : Bytes) (envelope : ChannelEnvelope φ) (mac : String)
    (numbers : FrameNumbers φ) : Prop where
  written : codec.numbers frame = some numbers
  bytes : frame = canonicalBytes (envelope.document numbers mac)
  writable : writable (envelope.document numbers mac) = true
  length : codec.equalsLength (canonicalBytes (.dict
    (envelope.spelled numbers.epoch numbers.sequence))).length numbers.declaredLength = true
  valid : envelope.Valid
  coercing : Coercing codec.coercions envelope numbers.epoch numbers.sequence
  verified : codec.verify envelope = .ok ()
  mac : mac = codec.mac envelope

variable {members : List (String × Json φ)}

omit [FloatText φ] in
theorem frameObject_eq_some {document : Json φ} (read : frameObject document = some members) :
    document = .dict members ∧ (∀ member ∈ members, member.1 ∈ frameKeys) ∧
      ∀ key ∈ frameKeys, ∃ value, Dict.get? members key = some value := by
  cases document with
  | dict written =>
      rw [frameObject] at read
      split at read
      · rename_i keys
        cases read
        refine ⟨rfl, ?_, ?_⟩
        · intro member present
          exact List.contains_iff_mem.mp (List.all_eq_true.mp keys.1 member present)
        · intro key isKey
          exact Option.isSome_iff_exists.mp (List.all_eq_true.mp keys.2 key isKey)
      · cases read
  | _ => cases read

theorem frameKeys_nodup : frameKeys.Nodup := by
  decide +kernel

omit [FloatText φ] in
theorem frameMembers_distinct (declaredLength envelope mac : Json φ) :
    (Dict.keys (frameMembers declaredLength envelope mac)).Nodup := frameKeys_nodup

variable {left right : List (String × Json φ)}

theorem canonicalBytes_dict_perm (distinct : (Dict.keys left).Nodup) (perm : left.Perm right) :
    canonicalBytes (.dict left) = canonicalBytes (.dict right) := by
  have rightDistinct : (Dict.keys right).Nodup := (perm.map Prod.fst).nodup_iff.mp distinct
  unfold canonicalBytes
  rw [sorted_dict_eq_of_get? distinct rightDistinct fun key => by rw [Dict.get?_perm perm distinct]]

theorem writable_iff (value : Json φ) :
    writable value = true ↔ legible value = true ∧ value.finite = true := by
  rw [writable, Bool.and_eq_true]

theorem finite_dict_iff (members : List (String × Json φ)) :
    (Json.dict members).finite = true ↔ ∀ member ∈ members, member.2.finite = true := by
  rw [Json.finite, finiteMembers_iff]

theorem writable_dict_perm (perm : left.Perm right)
    (isWritable : writable (.dict left) = true) : writable (.dict right) = true := by
  obtain ⟨isLegible, isFinite⟩ := (writable_iff _).mp isWritable
  refine (writable_iff _).mpr ⟨(legible_dict_perm perm).mp isLegible, ?_⟩
  exact (finite_dict_iff _).mpr fun member present =>
    (finite_dict_iff _).mp isFinite member (perm.mem_iff.mpr present)

theorem writable_of_mem (isWritable : writable (.dict members) = true) {member : String × Json φ}
    (present : member ∈ members) : writable member.2 = true := by
  obtain ⟨isLegible, isFinite⟩ := (writable_iff _).mp isWritable
  exact (writable_iff _).mpr ⟨((legible_dict_iff _).mp isLegible).2 member present,
    (finite_dict_iff _).mp isFinite member present⟩

theorem writable_dict (distinct : (Dict.keys members).Nodup)
    (each : ∀ member ∈ members, writable member.2 = true) : writable (.dict members) = true := by
  refine (writable_iff _).mpr ⟨(legible_dict_iff _).mpr ⟨distinct, ?_⟩, (finite_dict_iff _).mpr ?_⟩
  · exact fun member present => ((writable_iff _).mp (each member present)).1
  · exact fun member present => ((writable_iff _).mp (each member present)).2

variable {value : Json φ}

theorem parseJsonBytes_finite {loads : Bytes → Option (Json φ)} {raw : Bytes}
    (read : parseJsonBytes loads raw = some value) : value.finite = true := by
  obtain ⟨loaded, _, accepted⟩ := Option.bind_eq_some_iff.mp read
  split at accepted
  · rename_i sound
    cases accepted
    exact (Bool.and_eq_true_iff.mp sound).2
  · cases accepted

omit [FloatText φ] in
/-- Writing the inner object in another order. -/
theorem frameDocument_sorted {raw spelled : List (String × Json φ)}
    (distinct : (Dict.keys raw).Nodup) (perm : raw.Perm spelled) (declaredLength : Json φ)
    (mac : String) :
    (frameDocument declaredLength raw mac).sorted =
      (frameDocument declaredLength spelled mac).sorted := by
  have spelledDistinct : (Dict.keys spelled).Nodup := (perm.map Prod.fst).nodup_iff.mp distinct
  have same := sorted_dict_eq_of_get? distinct spelledDistinct
    fun key => by rw [Dict.get?_perm perm distinct]
  simp only [Json.sorted, Json.dict.injEq] at same
  simp only [frameDocument, frameMembers, Json.sorted, sortedMembers, same]

variable {envelope : ChannelEnvelope φ}

variable {mac : String}

theorem accept_accepted {frame : Bytes} (accepted : codec.accept frame = .ok (envelope, mac)) :
    ∃ numbers, Accepted codec frame envelope mac numbers := by
  unfold ChannelCodec.accept at accepted
  obtain ⟨⟨decodedEnvelope, decodedMac⟩, decoded, accepted⟩ := (bind_eq_ok _ _ _).mp accepted
  obtain ⟨_, verified, accepted⟩ := (bind_eq_ok _ _ _).mp accepted
  obtain ⟨isMac, accepted⟩ := (raiseIf_bind_eq_ok _ _ _ _).mp accepted
  cases accepted
  unfold ChannelCodec.decode at decoded
  obtain ⟨_, decoded⟩ := (raiseIf_bind_eq_ok _ _ _ _).mp decoded
  obtain ⟨document, read, decoded⟩ := (bind_eq_ok _ _ _).mp decoded
  obtain ⟨isLegible, decoded⟩ := (raiseIf_bind_eq_ok _ _ _ _).mp decoded
  obtain ⟨canonical, decoded⟩ := (raiseIf_bind_eq_ok _ _ _ _).mp decoded
  obtain ⟨members, isObject, decoded⟩ := (bind_eq_ok _ _ _).mp decoded
  obtain ⟨raw, isRaw, decoded⟩ := (bind_eq_ok _ _ _).mp decoded
  obtain ⟨declares, decoded⟩ := (raiseIf_bind_eq_ok _ _ _ _).mp decoded
  obtain ⟨macText, foundMac, decoded⟩ := (bind_eq_ok _ _ _).mp decoded
  obtain ⟨validated, isValidated, decoded⟩ := (bind_eq_ok _ _ _).mp decoded
  cases decoded
  have read : parseJsonBytes codec.loads frame = some document := (expect_eq_ok _ _ _).mp read
  obtain ⟨rfl, known, filled⟩ := frameObject_eq_some ((expect_eq_ok _ _ _).mp isObject)
  have isRaw := objectField_eq_some ((expect_eq_ok _ _ _).mp isRaw)
  have foundMac := (textField_eq_some ((expect_eq_ok _ _ _).mp foundMac)).1
  obtain ⟨declaredLength, isDeclared⟩ := filled "declared_length" (by decide)
  have distinct := parseJsonBytes_distinct read
  have perm : members.Perm (frameMembers declaredLength (.dict raw) (.str mac)) := by
    refine Dict.perm_of_fields distinct frameKeys_nodup known ?_
    intro field present
    simp only [frameMembers, List.mem_cons, List.not_mem_nil, or_false] at present
    rcases present with rfl | rfl | rfl
    · exact isDeclared
    · exact isRaw
    · exact foundMac
  have isWritable : writable (.dict members) = true :=
    (writable_iff _).mpr ⟨Bool.of_not_eq_false isLegible, parseJsonBytes_finite read⟩
  have rawWritable : writable (.dict raw) = true :=
    writable_of_mem isWritable (Dict.mem_of_get? members isRaw)
  have rawDistinct : (Dict.keys raw).Nodup :=
    ((legible_dict_iff _).mp ((writable_iff _).mp rawWritable).1).1
  obtain ⟨valid, epoch, sequence, rawPerm, coercing⟩ :=
    validateEnvelope_spelled codec.coercions rawDistinct ((expect_eq_ok _ _ _).mp isValidated)
  have rawLookup := Dict.get?_perm rawPerm rawDistinct
  have spelledBytes := canonicalBytes_dict_perm rawDistinct rawPerm
  refine ⟨⟨declaredLength, epoch, sequence⟩, ?_, ?_, ?_, ?_, valid, coercing, verified,
    not_not.mp isMac⟩
  · unfold ChannelCodec.numbers
    rw [read, Option.bind_some, numbersOf, isDeclared, isRaw, Option.bind_some, objectField]
    simp only [Option.bind_eq_bind, Option.bind_some, rawLookup]
    rfl
  · have same := not_not.mp canonical
    rw [← same, canonicalBytes_dict_perm distinct perm]
    unfold canonicalBytes
    exact congrArg (fun value : Json φ => utf8Encode value.text)
      (frameDocument_sorted rawDistinct rawPerm declaredLength mac)
  · have framed := writable_dict_perm perm isWritable
    refine writable_dict frameKeys_nodup ?_
    intro member present
    simp only [frameMembers, List.mem_cons, List.not_mem_nil, or_false] at present
    rcases present with rfl | rfl | rfl
    · exact writable_of_mem framed (by simp [frameMembers])
    · exact writable_dict_perm rawPerm rawWritable
    · rfl
  · rw [← spelledBytes]
    have declared := Bool.of_not_eq_false declares
    rwa [isDeclared, Option.any_some] at declared

/-! ### What is written -/

omit [FloatText φ] in
theorem filter_filled {text : String} (filled : text ≠ "") :
    ((some text).filter (· ≠ "")) = some text :=
  Option.filter_eq_some_iff.mpr ⟨rfl, decide_eq_true filled⟩

/-- The arguments with which `encode` builds this envelope. -/
def ChannelEnvelope.encoding (envelope : ChannelEnvelope φ) : Encoding φ where
  channel := envelope.channel
  senderRole := envelope.senderRole
  recipientRole := envelope.recipientRole
  direction := envelope.direction
  keyId := some envelope.keyId
  epoch := some envelope.epoch
  sequence := envelope.sequence
  method := envelope.method
  idempotencyKey := envelope.idempotencyKey
  payload := envelope.payload

/-- What the checks of `_verify` say of an envelope. -/
structure Verified (envelope : ChannelEnvelope φ) : Prop where
  configuration : envelope.configurationId.value = codec.material.configurationId
  epoch : (envelope.epoch : Int) = codec.material.epoch
  keyId : envelope.keyId = codec.material.keyId
  campaignNonce : envelope.campaignNonce = codec.material.campaignNonce
  payload : envelope.payloadSha256 = codec.payloadSha256 envelope.payload

theorem verify_verified (passed : codec.verify envelope = .ok ()) :
    Verified codec envelope := by
  unfold ChannelCodec.verify at passed
  obtain ⟨configuration, passed⟩ := (raiseIf_bind_eq_ok _ _ _ _).mp passed
  obtain ⟨epoch, passed⟩ := (raiseIf_bind_eq_ok _ _ _ _).mp passed
  obtain ⟨identity, passed⟩ := (raiseIf_bind_eq_ok _ _ _ _).mp passed
  obtain ⟨nonce, passed⟩ := (raiseIf_bind_eq_ok _ _ _ _).mp passed
  obtain ⟨_, passed⟩ := (raiseIf_bind_eq_ok _ _ _ _).mp passed
  have payload := (raiseIf_eq_ok _ _ ()).mp passed
  obtain ⟨_, isConfiguration⟩ := not_or.mp configuration
  have isIdentity := not_not.mp identity
  simp only [Prod.mk.injEq] at isIdentity
  exact ⟨not_not.mp isConfiguration, not_not.mp epoch, isIdentity.2.2.2, not_not.mp nonce,
    not_not.mp payload⟩

/-- The numbers of an envelope as `encode` writes them. -/
def ChannelEnvelope.ownNumbers (envelope : ChannelEnvelope φ) : FrameNumbers φ where
  declaredLength := .int (canonicalBytes (.dict envelope.members)).length
  epoch := .int envelope.epoch
  sequence := .int envelope.sequence

theorem Configuration.find_value (configuration : Configuration) :
    (configurations.find? fun other => other.value == configuration.value) =
      some configuration := by
  cases configuration <;> decide

omit [FloatText φ] in
theorem coercing_positive {coercions : Coercions φ} {number : Nat}
    (read : coercions.positiveInt value = some number) : 1 ≤ number := by
  obtain ⟨integer, _, positive⟩ := Option.bind_eq_some_iff.mp read
  split at positive
  · cases positive
    omega
  · cases positive

/-- What `encode` writes for an accepted envelope. -/
theorem accepted_encode {frame : Bytes}
    {numbers : FrameNumbers φ} (accepted : Accepted codec frame envelope mac numbers) :
    codec.encode envelope.encoding =
      (raiseIf (writable (envelope.document envelope.ownNumbers mac) = false)
        (.value "canonical JSON") >>= fun _ =>
          .ok (canonicalBytes (envelope.document envelope.ownNumbers mac))) := by
  have verified := verify_verified codec accepted.verified
  have positive := coercing_positive accepted.coercing.epoch
  have sequence := coercing_positive accepted.coercing.sequence
  have payload : writable (.dict envelope.payload) = true :=
    writable_of_mem accepted.valid.writable
      (show ("payload", Json.dict envelope.payload) ∈ envelope.members by
        simp [ChannelEnvelope.members, ChannelEnvelope.spelled])
  have isPayload : ¬ writable (.dict envelope.encoding.payload) = false := by
    show ¬ writable (.dict envelope.payload) = false
    rw [payload]
    exact Bool.noConfusion
  have keyId : (envelope.encoding.keyId.filter (· ≠ "")).getD codec.material.keyId =
      envelope.keyId := by
    rw [show envelope.encoding.keyId = some envelope.keyId from rfl,
      filter_filled accepted.valid.keyId, Option.getD_some]
  have epoch : (envelope.encoding.epoch.filter (· ≠ 0)).getD codec.material.epoch =
      (envelope.epoch : Int) := by
    have kept : (some (envelope.epoch : Int)).filter (· ≠ 0) = some (envelope.epoch : Int) :=
      Option.filter_eq_some_iff.mpr ⟨rfl, decide_eq_true (by omega)⟩
    rw [show envelope.encoding.epoch = some (envelope.epoch : Int) from rfl, kept,
      Option.getD_some]
  have filled : ¬ (envelope.keyId = "" ∨ codec.material.campaignNonce = "" ∨
      (envelope.epoch : Int) < 1 ∨ envelope.encoding.sequence < 1 ∨
      envelope.encoding.method = "" ∨ envelope.encoding.idempotencyKey = "") := by
    rw [← verified.campaignNonce]
    rintro (isEmpty | isEmpty | small | small | isEmpty | isEmpty)
    · exact accepted.valid.keyId isEmpty
    · exact accepted.valid.campaignNonce isEmpty
    · omega
    · have isSequence : (envelope.sequence : Int) < 1 := small
      omega
    · exact accepted.valid.method isEmpty
    · exact accepted.valid.idempotencyKey isEmpty
  unfold ChannelCodec.encode
  dsimp only
  rw [keyId, epoch, ← verified.configuration, Configuration.find_value,
    (expect_eq_ok _ _ _).mpr rfl, ok_bind, raiseIf_bind_of_not isPayload,
    raiseIf_bind_of_not filled]
  have built : ChannelEnvelope.mk envelope.channel envelope.configurationId envelope.senderRole
      envelope.recipientRole envelope.direction envelope.keyId codec.material.campaignNonce
      (envelope.epoch : Int).toNat (envelope.sequence : Int).toNat envelope.method
      envelope.idempotencyKey (codec.payloadSha256 envelope.payload) envelope.payload =
        envelope := by
    rw [← verified.campaignNonce, ← verified.payload, Int.toNat_natCast, Int.toNat_natCast]
  have writes : ∀ other : ChannelEnvelope φ, other = envelope →
      (raiseIf (writable (other.document other.ownNumbers (codec.mac other)) = false)
        (ChannelFault.value "canonical JSON") >>= fun _ =>
          .ok (canonicalBytes (other.document other.ownNumbers (codec.mac other)))) =
      (raiseIf (writable (envelope.document envelope.ownNumbers mac) = false)
        (.value "canonical JSON") >>= fun _ =>
          .ok (canonicalBytes (envelope.document envelope.ownNumbers mac))) := by
    rintro _ rfl
    rw [← accepted.mac]
  exact writes _ built

omit [FloatText φ] in
theorem eq_int_of_sorted {number : Int} (same : value.sorted = .int number) :
    value = .int number := by
  cases value with
  | int other => exact same
  | _ => cases same

omit [FloatText φ] in
/-- The parts of a document, up to order. -/
theorem frameDocument_sorted_inj {leftLength rightLength : Json φ} {leftMac rightMac : String}
    (same : (frameDocument leftLength left leftMac).sorted =
      (frameDocument rightLength right rightMac).sorted) :
    leftLength.sorted = rightLength.sorted ∧
      (Json.dict left).sorted = (Json.dict right).sorted := by
  have lookup := get?_eq_of_sorted_dict_eq (frameMembers_distinct _ _ _)
    (frameMembers_distinct _ _ _) same
  exact ⟨Option.some.inj (lookup "declared_length"), Option.some.inj (lookup "envelope")⟩

/-- An accepted frame is the one that `encode` writes for its envelope just when it writes its
numbers as integers. -/
theorem accepted_encode_iff {frame : Bytes}
    {numbers : FrameNumbers φ} (readsBack : ReadsBack codec.loads)
    (accepted : Accepted codec frame envelope mac numbers) :
    codec.encode envelope.encoding = .ok frame ↔ numbers.Integers := by
  rw [accepted_encode codec accepted]
  constructor
  · intro written
    obtain ⟨isWritable, same⟩ := (raiseIf_bind_eq_ok _ _ _ _).mp written
    have sameBytes : canonicalBytes (envelope.document envelope.ownNumbers mac) =
        canonicalBytes (envelope.document numbers mac) :=
      (Except.ok.inj same).trans accepted.bytes
    have ownWritable := (writable_iff _).mp (Bool.of_not_eq_false isWritable)
    have itsWritable := (writable_iff _).mp accepted.writable
    have sorted := sorted_eq_of_bytes readsBack ownWritable.2 itsWritable.2 ownWritable.1
      itsWritable.1 sameBytes
    obtain ⟨declared, inner⟩ := frameDocument_sorted_inj sorted
    have lookup := get?_eq_of_sorted_dict_eq (spelled_distinct _ _ _) (spelled_distinct _ _ _) inner
    obtain ⟨declaredLength, epoch, sequence⟩ := numbers
    have isDeclared : declaredLength = .int _ := eq_int_of_sorted declared.symm
    have isEpoch : epoch = .int _ := eq_int_of_sorted (Option.some.inj (lookup "epoch")).symm
    have isSequence : sequence = .int _ :=
      eq_int_of_sorted (Option.some.inj (lookup "sequence")).symm
    rw [isDeclared, isEpoch, isSequence]
    trivial
  · intro integers
    have own : numbers = envelope.ownNumbers := by
      obtain ⟨declaredLength, epoch, sequence⟩ := numbers
      cases declaredLength <;> cases epoch <;> cases sequence <;> try exact integers.elim
      rename_i declaredLength epoch sequence
      have isEpoch := positiveInt_int codec.coercions rfl accepted.coercing.epoch
      have isSequence := positiveInt_int codec.coercions rfl accepted.coercing.sequence
      have isLength : declaredLength = _ := eq_of_beq accepted.length
      rw [Option.some.inj isEpoch, Option.some.inj isSequence] at isLength ⊢
      rw [isLength]
      rfl
    have isWritable : ¬ writable (envelope.document numbers mac) = false := by
      rw [accepted.writable]
      exact Bool.noConfusion
    rw [← own, raiseIf_bind_of_not isWritable, ← accepted.bytes]

/-! ### Two frames under one MAC -/

omit [FloatText φ] in
theorem get?_signed (envelope : ChannelEnvelope φ) {key : String} (other : key ≠ "payload_sha256") :
    Dict.get? (envelope.members.filter fun member => member.1 ≠ "payload_sha256") key =
      Dict.get? envelope.members key := by
  generalize envelope.members = members
  induction members with
  | nil => rfl
  | cons member rest ih =>
      obtain ⟨name, value⟩ := member
      by_cases isDigest : name = "payload_sha256"
      · rw [List.filter_cons_of_neg (by simpa using isDigest), ih, Dict.get?,
          if_neg (fun same => other (same.symm.trans isDigest))]
      · rw [List.filter_cons_of_pos (by simpa using isDigest), Dict.get?, Dict.get?, ih]

theorem signed_writable (valid : envelope.Valid) :
    writable envelope.signed = true := by
  refine writable_dict ?_ fun member present =>
    writable_of_mem valid.writable (List.mem_of_mem_filter present)
  exact (spelled_distinct _ _ _).sublist (List.filter_sublist.map _)

/-- Envelopes with one signed text differ at most in the order within their payloads. -/
theorem spelled_sorted_of_signed {left right : ChannelEnvelope φ}
    (readsBack : ReadsBack codec.loads) (leftValid : left.Valid) (rightValid : right.Valid)
    (leftVerified : Verified codec left) (rightVerified : Verified codec right)
    (same : canonicalBytes left.signed = canonicalBytes right.signed) (epoch sequence : Json φ) :
    (Json.dict (left.spelled epoch sequence)).sorted =
      (Json.dict (right.spelled epoch sequence)).sorted := by
  have leftWritable := (writable_iff _).mp (signed_writable leftValid)
  have rightWritable := (writable_iff _).mp (signed_writable rightValid)
  have sorted := sorted_eq_of_bytes readsBack leftWritable.2 rightWritable.2 leftWritable.1
    rightWritable.1 same
  have lookup : ∀ key, key ≠ "payload_sha256" →
      (Dict.get? left.members key).map Json.sorted =
        (Dict.get? right.members key).map Json.sorted := by
    intro key other
    rw [← get?_signed left other, ← get?_signed right other]
    exact get?_eq_of_sorted_dict_eq ((legible_dict_iff _).mp leftWritable.1).1
      ((legible_dict_iff _).mp rightWritable.1).1 sorted key
  have text : ∀ {one two : String}, Json.str (φ := φ) one = Json.str two → one = two :=
    fun same => Json.str.inj same
  have channel := text (Option.some.inj (lookup "channel" (by decide)))
  have configuration := text (Option.some.inj (lookup "configuration_id" (by decide)))
  have sender := text (Option.some.inj (lookup "sender_role" (by decide)))
  have recipient := text (Option.some.inj (lookup "recipient_role" (by decide)))
  have direction := text (Option.some.inj (lookup "direction" (by decide)))
  have keyId := text (Option.some.inj (lookup "key_id" (by decide)))
  have nonce := text (Option.some.inj (lookup "campaign_nonce" (by decide)))
  have method := text (Option.some.inj (lookup "method" (by decide)))
  have idempotencyKey := text (Option.some.inj (lookup "idempotency_key" (by decide)))
  have payload : (Json.dict left.payload).sorted = (Json.dict right.payload).sorted :=
    Option.some.inj (lookup "payload" (by decide))
  have digest : left.payloadSha256 = right.payloadSha256 := by
    rw [leftVerified.payload, rightVerified.payload]
    unfold ChannelCodec.payloadSha256 domainDigest
    rw [payload]
  simp only [Json.sorted, Json.dict.injEq] at payload
  simp only [ChannelEnvelope.spelled, Json.sorted, sortedMembers, channel, configuration, sender,
    recipient, direction, keyId, nonce, method, idempotencyKey, payload, digest]

/-- Frames under one MAC are one when they write their numbers the same way. -/
theorem accepted_unique {left right : Bytes} {leftEnvelope rightEnvelope : ChannelEnvelope φ}
    {leftNumbers rightNumbers : FrameNumbers φ} (readsBack : ReadsBack codec.loads)
    (leftAccepted : Accepted codec left leftEnvelope mac leftNumbers)
    (rightAccepted : Accepted codec right rightEnvelope mac rightNumbers)
    (collisionFree : codec.mac leftEnvelope = codec.mac rightEnvelope →
      canonicalBytes leftEnvelope.signed = canonicalBytes rightEnvelope.signed) :
    left = right ↔ leftNumbers = rightNumbers := by
  constructor
  · intro same
    have written := leftAccepted.written
    rw [same, rightAccepted.written] at written
    exact (Option.some.inj written).symm
  · rintro rfl
    have signed := collisionFree (leftAccepted.mac.symm.trans rightAccepted.mac)
    have inner := spelled_sorted_of_signed codec readsBack leftAccepted.valid rightAccepted.valid
      (verify_verified codec leftAccepted.verified) (verify_verified codec rightAccepted.verified)
      signed leftNumbers.epoch leftNumbers.sequence
    rw [leftAccepted.bytes, rightAccepted.bytes]
    unfold canonicalBytes ChannelEnvelope.document frameDocument
    simp only [Json.sorted, Json.dict.injEq] at inner
    simp only [frameMembers, Json.sorted, sortedMembers, inner]

/-- An accepted frame is what `encode` writes for its envelope if and only if it writes the
declared length, the epoch and the sequence as integers; two accepted frames under one MAC are
equal if and only if they write these numbers the same way. -/
theorem channel_frames_fixed_iff (readsBack : ReadsBack codec.loads) {frame : Bytes}
    {envelope : ChannelEnvelope φ} {mac : String}
    (accepted : codec.accept frame = .ok (envelope, mac)) :
    (codec.encode envelope.encoding = .ok frame ↔
      ∃ numbers, codec.numbers frame = some numbers ∧ numbers.Integers) ∧
    ∀ (other : Bytes) (otherEnvelope : ChannelEnvelope φ),
      codec.accept other = .ok (otherEnvelope, mac) →
      (codec.mac envelope = codec.mac otherEnvelope →
        canonicalBytes envelope.signed = canonicalBytes otherEnvelope.signed) →
      (frame = other ↔ codec.numbers frame = codec.numbers other) := by
  obtain ⟨numbers, isAccepted⟩ := accept_accepted codec accepted
  constructor
  · rw [accepted_encode_iff codec readsBack isAccepted, isAccepted.written]
    constructor
    · exact fun integers => ⟨numbers, rfl, integers⟩
    · rintro ⟨_, same, integers⟩
      cases same
      exact integers
  · intro other otherEnvelope otherAccepted collisionFree
    obtain ⟨otherNumbers, isOther⟩ := accept_accepted codec otherAccepted
    rw [accepted_unique codec readsBack isAccepted isOther collisionFree, isAccepted.written,
      isOther.written, Option.some.injEq]

end Accepted

/-! ### One envelope in two frames -/

namespace ChannelSample

def lengthSum (bytes : Bytes) : Digest := BitVec.ofNat 256 bytes.length

def material : ProvisionedChannelKey where
  campaignNonce := "nonce-1"
  channel := .candidate
  configurationId := "A"
  senderRole := .workspace
  recipientRole := .control
  direction := .request
  epoch := 1
  keyId := "key-1"
  secret := []

def proposal : ChannelEnvelope Empty where
  channel := .candidate
  configurationId := .a
  senderRole := .workspace
  recipientRole := .control
  direction := .request
  keyId := "key-1"
  campaignNonce := "nonce-1"
  epoch := 1
  sequence := 1
  method := "propose"
  idempotencyKey := "call-1"
  payloadSha256 := (domainDigest (φ := Empty) lengthSum "channel-payload" (.dict [])).labelled ""
  payload := []

def macText : String := (lengthSum (canonicalBytes proposal.signed)).labelled ""

def document : Json Empty := proposal.document proposal.ownNumbers macText

/-- The same envelope with its sequence in quotes. -/
def quotedNumbers : FrameNumbers Empty where
  declaredLength := .int (canonicalBytes (.dict (proposal.spelled (.int 1) (.str "1")))).length
  epoch := .int 1
  sequence := .str "1"

def quotedDocument : Json Empty := proposal.document quotedNumbers macText

def frame : Bytes := canonicalBytes document

def quotedFrame : Bytes := canonicalBytes quotedDocument

def loads (raw : Bytes) : Option (Json Empty) :=
  if raw = frame then some document.sorted
  else if raw = quotedFrame then some quotedDocument.sorted
  else readCompact raw

def codec : ChannelCodec Empty where
  material := material
  methods := [(.candidate, ["propose"])]
  sha256 := lengthSum
  hmacSha256 := fun _ message => lengthSum message
  loads := loads
  coercions := ⟨Empty.elim, fun text => if text = "1" then some 1 else none⟩
  floatEquals := fun number => nomatch number

theorem loads_readsBack : ReadsBack codec.loads := by
  have known : ∀ sample : Json Empty, writable sample = true → ∀ value : Json Empty,
      value.finite = true → legible value = true →
      utf8Encode value.sorted.text = canonicalBytes sample → value.sorted = sample.sorted := by
    intro sample isWritable value isFinite isLegible same
    have parts := (writable_iff _).mp isWritable
    exact sorted_eq_of_bytes readCompact_readsBack isFinite parts.2 isLegible parts.1 same
  intro value isFinite isLegible
  show loads _ = _
  unfold loads
  split
  · rename_i same
    rw [known document (by decide +kernel) value isFinite isLegible same]
  · split
    · rename_i same
      rw [known quotedDocument (by decide +kernel) value isFinite isLegible same]
    · exact readCompact_readsBack value isFinite isLegible

/-- The frame is accepted for an envelope with the text and the MAC of the proposal. -/
def acceptsProposal (bytes : Bytes) : Bool :=
  match codec.accept bytes with
  | .ok (envelope, mac) =>
      mac == macText && envelope.sequence == 1 &&
        canonicalBytes envelope.signed == canonicalBytes proposal.signed
  | .error _ => false

theorem exists_of_acceptsProposal {bytes : Bytes} (accepts : acceptsProposal bytes = true) :
    ∃ envelope, codec.accept bytes = .ok (envelope, macText) ∧ envelope.sequence = 1 ∧
      canonicalBytes envelope.signed = canonicalBytes proposal.signed := by
  unfold acceptsProposal at accepts
  cases outcome : codec.accept bytes with
  | error fault =>
      rw [outcome] at accepts
      cases accepts
  | ok accepted =>
      obtain ⟨envelope, mac⟩ := accepted
      rw [outcome] at accepts
      obtain ⟨checked, signed⟩ := Bool.and_eq_true_iff.mp accepts
      obtain ⟨isMac, first⟩ := Bool.and_eq_true_iff.mp checked
      exact ⟨envelope, by rw [eq_of_beq isMac], eq_of_beq first, eq_of_beq signed⟩

theorem frame_accepts : acceptsProposal frame = true := by
  decide +kernel

theorem quotedFrame_accepts : acceptsProposal quotedFrame = true := by
  decide +kernel

/-- Two different frames are accepted under one MAC of one signed text. -/
theorem quoted_frame_accepted : ∃ envelope quotedEnvelope mac,
    codec.accept frame = .ok (envelope, mac) ∧
      codec.accept quotedFrame = .ok (quotedEnvelope, mac) ∧
      canonicalBytes envelope.signed = canonicalBytes quotedEnvelope.signed ∧
      frame ≠ quotedFrame := by
  obtain ⟨envelope, accepted, _, signed⟩ := exists_of_acceptsProposal frame_accepts
  obtain ⟨quotedEnvelope, quotedAccepted, _, quotedSigned⟩ :=
    exists_of_acceptsProposal quotedFrame_accepts
  exact ⟨envelope, quotedEnvelope, macText, accepted, quotedAccepted,
    signed.trans quotedSigned.symm, by decide +kernel⟩

theorem channel_frames_fixed_iff_sample : ∃ envelope mac,
    codec.accept frame = .ok (envelope, mac) ∧
      (codec.encode envelope.encoding = .ok frame ↔
        ∃ numbers, codec.numbers frame = some numbers ∧ numbers.Integers) := by
  obtain ⟨envelope, accepted, _, _⟩ := exists_of_acceptsProposal frame_accepts
  exact ⟨envelope, macText, accepted, (channel_frames_fixed_iff codec loads_readsBack accepted).1⟩

end ChannelSample

end EgoAgent.SecureMemory
