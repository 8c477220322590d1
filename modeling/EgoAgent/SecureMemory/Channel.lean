import EgoAgent.SecureMemory.Budget
import EgoAgent.TrustedMemory.ReceivedFrames

/-!
`ChannelCodec`: frames under a provisioned key, as they are written and as they are admitted.
-/

namespace EgoAgent.SecureMemory

open EgoAgent.Api
open EgoAgent.TrustedMemory (Coercions textField objectField parseJsonBytes)

/-! ### Envelopes -/

inductive ChannelKind where
  | model | candidate | agentteamsControl | workspaceEffect | controlResult | evaluator
  deriving DecidableEq

/-- `Role`. -/
inductive ChannelRole where
  | agentteams | workspace | control | evaluator | broker | controller
  deriving DecidableEq

/-- `Direction`. -/
inductive ChannelDirection where
  | request | response | receipt
  deriving DecidableEq

def ChannelKind.value : ChannelKind → String
  | .model => "model"
  | .candidate => "candidate"
  | .agentteamsControl => "agentteams-control"
  | .workspaceEffect => "workspace-effect"
  | .controlResult => "control-result"
  | .evaluator => "evaluator"

def ChannelRole.value : ChannelRole → String
  | .agentteams => "agentteams"
  | .workspace => "workspace"
  | .control => "control"
  | .evaluator => "evaluator"
  | .broker => "broker"
  | .controller => "controller"

def ChannelDirection.value : ChannelDirection → String
  | .request => "request"
  | .response => "response"
  | .receipt => "receipt"

def channelKinds : List ChannelKind :=
  [.model, .candidate, .agentteamsControl, .workspaceEffect, .controlResult, .evaluator]

def channelRoles : List ChannelRole :=
  [.agentteams, .workspace, .control, .evaluator, .broker, .controller]

def channelDirections : List ChannelDirection := [.request, .response, .receipt]

def configurations : List Configuration := [.a, .b, .c, .d, .e, .f]

structure ChannelEnvelope (φ : Type) where
  channel : ChannelKind
  configurationId : Configuration
  senderRole : ChannelRole
  recipientRole : ChannelRole
  direction : ChannelDirection
  keyId : String
  campaignNonce : String
  epoch : Nat
  sequence : Nat
  method : String
  idempotencyKey : String
  payloadSha256 : String
  payload : List (String × Json φ)

def channelSchema : String := "secure-memory-channel/v2"

/-- The members of an envelope in which the numbers are written as given. -/
def ChannelEnvelope.spelled {φ : Type} (envelope : ChannelEnvelope φ) (epoch sequence : Json φ) :
    List (String × Json φ) :=
  [("schema_version", .str channelSchema), ("channel", .str envelope.channel.value),
    ("configuration_id", .str envelope.configurationId.value),
    ("sender_role", .str envelope.senderRole.value),
    ("recipient_role", .str envelope.recipientRole.value),
    ("direction", .str envelope.direction.value), ("key_id", .str envelope.keyId),
    ("campaign_nonce", .str envelope.campaignNonce), ("epoch", epoch), ("sequence", sequence),
    ("method", .str envelope.method), ("idempotency_key", .str envelope.idempotencyKey),
    ("payload_sha256", .str envelope.payloadSha256), ("payload", .dict envelope.payload)]

/-- `model_dump(mode="json")`. -/
def ChannelEnvelope.members {φ : Type} (envelope : ChannelEnvelope φ) : List (String × Json φ) :=
  envelope.spelled (.int envelope.epoch) (.int envelope.sequence)

/-- What the MAC is taken of. -/
def ChannelEnvelope.signed {φ : Type} (envelope : ChannelEnvelope φ) : Json φ :=
  .dict (envelope.members.filter fun member => member.1 ≠ "payload_sha256")

section Validation

variable {φ : Type} [FloatText φ] (coercions : Coercions φ)

/-- `canonical_bytes` of the value exists. -/
def writable (value : Json φ) : Bool := legible value && value.finite

/-- A field that holds the text of one of these values. -/
def enumField {α : Type} (values : List α) (text : α → String) : Json φ → Option α
  | .str written => values.find? fun value => text value == written
  | _ => none

def channelFields : List String :=
  ["schema_version", "channel", "configuration_id", "sender_role", "recipient_role", "direction",
    "key_id", "campaign_nonce", "epoch", "sequence", "method", "idempotency_key",
    "payload_sha256", "payload"]

/-- `ChannelEnvelope.model_validate`. -/
def validateEnvelope (members : List (String × Json φ)) : Option (ChannelEnvelope φ) :=
  if members.all fun member => channelFields.contains member.1 then do
    let _ ← (Dict.get? members "schema_version").bind (textField (· == channelSchema))
    let channel ← (Dict.get? members "channel").bind (enumField channelKinds ChannelKind.value)
    let configurationId ←
      (Dict.get? members "configuration_id").bind (enumField configurations Configuration.value)
    let senderRole ←
      (Dict.get? members "sender_role").bind (enumField channelRoles ChannelRole.value)
    let recipientRole ←
      (Dict.get? members "recipient_role").bind (enumField channelRoles ChannelRole.value)
    let direction ←
      (Dict.get? members "direction").bind (enumField channelDirections ChannelDirection.value)
    let keyId ← (Dict.get? members "key_id").bind (textField (· != ""))
    let campaignNonce ← (Dict.get? members "campaign_nonce").bind (textField (· != ""))
    let epoch ← (Dict.get? members "epoch").bind coercions.positiveInt
    let sequence ← (Dict.get? members "sequence").bind coercions.positiveInt
    let method ← (Dict.get? members "method").bind (textField (· != ""))
    let idempotencyKey ← (Dict.get? members "idempotency_key").bind (textField (· != ""))
    let payloadSha256 ← (Dict.get? members "payload_sha256").bind (textField Gateway.isSha256)
    let payload ← (Dict.get? members "payload").bind objectField
    let envelope : ChannelEnvelope φ :=
      { channel, configurationId, senderRole, recipientRole, direction, keyId, campaignNonce,
        epoch, sequence, method, idempotencyKey, payloadSha256, payload }
    -- `validate_canonical_json_value`
    if writable (.dict envelope.members) then some envelope else none
  else none

end Validation

/-! ### The codec -/

structure ProvisionedChannelKey where
  campaignNonce : String
  channel : ChannelKind
  configurationId : String
  senderRole : ChannelRole
  recipientRole : ChannelRole
  direction : ChannelDirection
  epoch : Int
  keyId : String
  secret : Bytes

/-- A codec, with what it takes from outside: the hashes, `json.loads`, pydantic's coercions and
the comparison of a float with a length. -/
structure ChannelCodec (φ : Type) where
  material : ProvisionedChannelKey
  methods : Dict ChannelKind (List String)
  sha256 : Bytes → Digest
  hmacSha256 : Bytes → Bytes → Digest
  loads : Bytes → Option (Json φ)
  coercions : Coercions φ
  floatEquals : φ → Nat → Bool

inductive ChannelFault where
  | rejected (reason : String)
  | value (message : String)
  deriving DecidableEq

def maxFrameBytes : Nat := 1024 * 1024

section Codec

variable {φ : Type} [FloatText φ] (codec : ChannelCodec φ)

def ChannelCodec.frameSha256 (frame : Bytes) : String := (codec.sha256 frame).labelled ""

def ChannelCodec.payloadSha256 (payload : List (String × Json φ)) : String :=
  (domainDigest codec.sha256 "channel-payload" (.dict payload)).labelled ""

/-- `_mac`. -/
def ChannelCodec.mac (envelope : ChannelEnvelope φ) : String :=
  (codec.hmacSha256 codec.material.secret (canonicalBytes envelope.signed)).labelled ""

def frameMembers (declaredLength envelope mac : Json φ) : List (String × Json φ) :=
  [("declared_length", declaredLength), ("envelope", envelope), ("mac", mac)]

/-- The arguments of `encode`. -/
structure Encoding (φ : Type) where
  channel : ChannelKind
  senderRole : ChannelRole
  recipientRole : ChannelRole
  direction : ChannelDirection
  keyId : Option String
  epoch : Option Int
  sequence : Int
  method : String
  idempotencyKey : String
  payload : List (String × Json φ)

/-- `encode`. -/
def ChannelCodec.encode (call : Encoding φ) : Except ChannelFault Bytes := do
  let keyId := (call.keyId.filter (· ≠ "")).getD codec.material.keyId
  let epoch := (call.epoch.filter (· ≠ 0)).getD codec.material.epoch
  let configurationId ← expect (.value "MeasuredConfigurationId")
    (configurations.find? fun configuration =>
      configuration.value == codec.material.configurationId)
  raiseIf (writable (.dict call.payload) = false) (.value "canonical JSON")
  raiseIf (keyId = "" ∨ codec.material.campaignNonce = "" ∨ epoch < 1 ∨ call.sequence < 1 ∨
    call.method = "" ∨ call.idempotencyKey = "") (.value "ChannelEnvelope")
  let envelope : ChannelEnvelope φ :=
    { channel := call.channel
      configurationId
      senderRole := call.senderRole
      recipientRole := call.recipientRole
      direction := call.direction
      keyId
      campaignNonce := codec.material.campaignNonce
      epoch := epoch.toNat
      sequence := call.sequence.toNat
      method := call.method
      idempotencyKey := call.idempotencyKey
      payloadSha256 := codec.payloadSha256 call.payload
      payload := call.payload }
  let body := Json.dict envelope.members
  let document := Json.dict (frameMembers (.int (canonicalBytes body).length) body
    (.str (codec.mac envelope)))
  raiseIf (writable document = false) (.value "canonical JSON")
  .ok (canonicalBytes document)

/-- Python's `==` of a value and a length. -/
def ChannelCodec.equalsLength (length : Nat) : Json φ → Bool
  | .int number => number == length
  | .bool flag => (if flag then 1 else 0) == length
  | .float number => codec.floatEquals number length
  | _ => false

def frameKeys : List String := ["declared_length", "envelope", "mac"]

/-- An object with the keys of a frame. -/
def frameObject : Json φ → Option (List (String × Json φ))
  | .dict members =>
      if members.all (fun member => frameKeys.contains member.1) ∧
          frameKeys.all (fun key => (Dict.get? members key).isSome) then some members
      else none
  | _ => none

/-- `_decode`. -/
def ChannelCodec.decode (frame : Bytes) : Except ChannelFault (ChannelEnvelope φ × String) := do
  raiseIf (maxFrameBytes < frame.length) (.rejected "frame_too_large")
  let document ← expect (.rejected "invalid_frame") (parseJsonBytes codec.loads frame)
  -- `int` has a limit of digits
  raiseIf (legible document = false) (.rejected "invalid_frame")
  raiseIf (canonicalBytes document ≠ frame) (.rejected "noncanonical_frame")
  let members ← expect (.rejected "invalid_frame") (frameObject document)
  let raw ← expect (.rejected "declared_length_mismatch")
    ((Dict.get? members "envelope").bind objectField)
  raiseIf (((Dict.get? members "declared_length").any
      (codec.equalsLength (canonicalBytes (.dict raw)).length)) = false)
    (.rejected "declared_length_mismatch")
  let mac ← expect (.rejected "invalid_envelope")
    ((Dict.get? members "mac").bind (textField Gateway.isSha256))
  let envelope ← expect (.rejected "invalid_envelope") (validateEnvelope codec.coercions raw)
  .ok (envelope, mac)

/-- `_verify`. -/
def ChannelCodec.verify (envelope : ChannelEnvelope φ) : Except ChannelFault Unit := do
  let material := codec.material
  raiseIf (envelope.channel ≠ material.channel ∨
    envelope.configurationId.value ≠ material.configurationId) (.rejected "configuration_mismatch")
  raiseIf ((envelope.epoch : Int) ≠ material.epoch) (.rejected "epoch_mismatch")
  raiseIf ((envelope.senderRole, envelope.recipientRole, envelope.direction, envelope.keyId) ≠
      (material.senderRole, material.recipientRole, material.direction, material.keyId))
    (.rejected "identity_mismatch")
  raiseIf (envelope.campaignNonce ≠ material.campaignNonce) (.rejected "campaign_nonce_mismatch")
  raiseIf (((Dict.get? codec.methods envelope.channel).getD []).contains envelope.method = false)
    (.rejected "unknown_method")
  raiseIf (envelope.payloadSha256 ≠ codec.payloadSha256 envelope.payload)
    (.rejected "payload_digest_mismatch")

/-- The checks of `receive` before it looks at the store. -/
def ChannelCodec.accept (frame : Bytes) : Except ChannelFault (ChannelEnvelope φ × String) := do
  let (envelope, mac) ← codec.decode frame
  codec.verify envelope
  raiseIf (mac ≠ codec.mac envelope) (.rejected "invalid_mac")
  .ok (envelope, mac)

end Codec

end EgoAgent.SecureMemory
