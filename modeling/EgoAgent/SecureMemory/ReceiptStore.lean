import EgoAgent.SecureMemory.Channel

/-!
`InMemoryReceiptStore` and the `receive` calls of any number of codecs that share one.

A call advances by the critical sections of the store and by the route between them.
-/

namespace EgoAgent.SecureMemory

open EgoAgent.Api
open EgoAgent.TrustedMemory (parseJsonBytes)

/-! ### The store -/

/-- `WindowKey`. -/
structure Window where
  channel : ChannelKind
  configurationId : String
  senderRole : ChannelRole
  recipientRole : ChannelRole
  direction : ChannelDirection
  keyId : String
  epoch : Nat
  deriving DecidableEq

/-- `_window`. -/
def ChannelEnvelope.window {φ : Type} (envelope : ChannelEnvelope φ) : Window where
  channel := envelope.channel
  configurationId := envelope.configurationId.value
  senderRole := envelope.senderRole
  recipientRole := envelope.recipientRole
  direction := envelope.direction
  keyId := envelope.keyId
  epoch := envelope.epoch

/-- A window with a sequence number. -/
abbrev ReceiptIdentity := Window × Nat

def identityDocument (identity : ReceiptIdentity) : Json Empty := .list
  [.str identity.1.channel.value, .str identity.1.configurationId,
    .str identity.1.senderRole.value, .str identity.1.recipientRole.value,
    .str identity.1.direction.value, .str identity.1.keyId, .int identity.1.epoch,
    .int identity.2]

structure InstalledReceipt where
  requestFrameSha256 : String
  durableReceiptId : String
  receiptFrame : Bytes
  identity : ReceiptIdentity

structure ReceiptStore where
  records : ReceiptIdentity → Option InstalledReceipt
  heads : Window → Option (Nat × String × InstalledReceipt)
  claims : ReceiptIdentity → Option String

def ReceiptStore.empty : ReceiptStore := ⟨fun _ => none, fun _ => none, fun _ => none⟩

/-- The last committed sequence of a window. -/
def ReceiptStore.head (store : ReceiptStore) (window : Window) : Nat :=
  ((store.heads window).map fun head => head.1).getD 0

inductive Claimed where
  /-- Another call works on the same frame. -/
  | waiting
  | conflict
  | inconsistent
  | mismatch
  | replay (receipt : InstalledReceipt)
  | owner

section Store

variable {φ : Type} [FloatText φ] (sha256 : Bytes → Digest) (loads : Bytes → Option (Json φ))

def durableReceiptId (identity : ReceiptIdentity) (digest : String) : String :=
  (sha256 (utf8Encode "receipt/v1\x00".toList ++ canonicalBytes (identityDocument identity) ++
    utf8Encode digest.toList)).labelled ""

/-- The bytes are those of an object with a member. -/
def holdsObject (bytes : Bytes) : Bool :=
  match parseJsonBytes loads bytes with
  | some (.dict members) => !members.isEmpty && canonicalBytes (.dict members) == bytes
  | _ => false

/-- `valid_record`. -/
def validRecord (record : InstalledReceipt) (identity : ReceiptIdentity) : Bool :=
  record.identity == identity && record.requestFrameSha256 != "" &&
    record.durableReceiptId == durableReceiptId sha256 identity record.requestFrameSha256 &&
    record.receiptFrame != [] && holdsObject loads record.receiptFrame

/-- One turn of the loop of `claim`; `waiting` stands for `self._condition.wait()`. -/
def claim (window : Window) (sequence : Nat) (digest : String) (store : ReceiptStore) :
    Claimed × ReceiptStore :=
  match store.claims (window, sequence) with
  | some held => if held = digest then (.waiting, store) else (.conflict, store)
  | none =>
      let own : Claimed × ReceiptStore :=
        (.owner, { store with
          claims := Function.update store.claims (window, sequence) (some digest) })
      match store.heads window with
      | some (head, _) =>
          if sequence ≤ head then
            match store.records (window, sequence) with
            | none => (.inconsistent, store)
            | some historical =>
                if validRecord sha256 loads historical (window, sequence) = false then
                  (.inconsistent, store)
                else if historical.requestFrameSha256 = digest then (.replay historical, store)
                else (.conflict, store)
          else if sequence ≠ head + 1 then (.mismatch, store)
          else own
      | none => if sequence ≠ 1 then (.mismatch, store) else own

def abort (window : Window) (sequence : Nat) (digest : String) (store : ReceiptStore) :
    ReceiptStore :=
  if store.claims (window, sequence) = some digest then
    { store with claims := Function.update store.claims (window, sequence) none }
  else store

/-- `install_or_get`; `none` stands for a result that is no `PendingReceipt` with a mapping. -/
def installOrGet (identity : ReceiptIdentity) (digest : String)
    (pending : Option (List (String × Json φ))) :
    Effect ReceiptStore ChannelFault InstalledReceipt := do
  let payload ← Effect.check (expect (.rejected "invalid_pending_receipt")
    (pending.filter fun payload => !payload.isEmpty))
  Effect.check (raiseIf (writable (.dict payload) = false) (.value "canonical JSON"))
  let frame := canonicalBytes (.dict payload)
  let read := (parseJsonBytes loads frame).bind TrustedMemory.objectField
  Effect.check (raiseIf (read.isNone = true) (.rejected "invalid_pending_receipt"))
  let store ← Effect.read
  match store.records identity with
  | some current => do
      Effect.check (raiseIf (validRecord sha256 loads current identity = false ∨
        current.requestFrameSha256 ≠ digest) (.rejected "receipt_store_mismatch"))
      pure current
  | none => do
      let result : InstalledReceipt :=
        ⟨digest, durableReceiptId sha256 identity digest, frame, identity⟩
      Effect.check (raiseIf (validRecord sha256 loads result identity = false)
        (.rejected "invalid_durable_receipt"))
      Effect.write fun store =>
        { store with records := Function.update store.records identity (some result) }
      pure result

def commit (window : Window) (sequence : Nat) (digest : String) (installed : InstalledReceipt) :
    Effect ReceiptStore ChannelFault Unit := do
  let store ← Effect.read
  Effect.check (raiseIf (store.claims (window, sequence) ≠ some digest)
    (.rejected "sequence_commit_conflict"))
  Effect.write fun store =>
    { store with
      heads := Function.update store.heads window (some (sequence, digest, installed))
      claims := Function.update store.claims (window, sequence) none }

end Store

/-! ### Calls -/

/-- What a call delivers. -/
structure Delivery where
  window : Window
  sequence : Nat
  digest : String

def Delivery.identity (delivery : Delivery) : ReceiptIdentity :=
  (delivery.window, delivery.sequence)

/-- Where a call of `receive` stands. -/
inductive CallStage (φ : Type) where
  | idle
  /-- Before the claim, or waiting for it. -/
  | claiming (delivery : Delivery)
  /-- Before the route. -/
  | owner (delivery : Delivery)
  | routed (delivery : Delivery) (pending : Option (List (String × Json φ)))
  | installed (delivery : Delivery) (receipt : InstalledReceipt)
  /-- In the `except` branch. -/
  | aborting (delivery : Delivery) (fault : ChannelFault)
  | returned (delivery : Delivery) (frame : Bytes)
  | raised (fault : ChannelFault)

/-- What makes a call advance. -/
inductive ReceiveStep (φ : Type) where
  | arrive (codec : ChannelCodec φ) (frame : Bytes)
  | claim
  /-- The route raises, or returns. -/
  | route (outcome : Except ChannelFault (Option (List (String × Json φ))))
  | install
  | commit
  | abort

section Calls

variable {φ : Type} [FloatText φ] (sha256 : Bytes → Digest) (loads : Bytes → Option (Json φ))

/-- How `receive` goes on from the outcome of its claim. -/
def afterClaim (delivery : Delivery) : Claimed → Option (CallStage φ)
  | .waiting => none
  | .replay receipt => some (.returned delivery receipt.receiptFrame)
  | .conflict => some (.raised (.rejected "sequence_reuse_with_different_bytes"))
  | .inconsistent => some (.raised (.rejected "historical_receipt_inconsistent"))
  | .mismatch => some (.raised (.rejected "sequence_mismatch"))
  | .owner => some (.owner delivery)

/-- One step of a call; `none` where the call cannot make it. -/
def advance (store : ReceiptStore) : ReceiveStep φ → CallStage φ →
    Option (CallStage φ × ReceiptStore)
  | .arrive codec frame, .idle =>
      match codec.accept frame with
      | .error fault => some (.raised fault, store)
      | .ok (envelope, _) =>
          some (.claiming ⟨envelope.window, envelope.sequence, codec.frameSha256 frame⟩, store)
  | .claim, .claiming delivery =>
      let claimed := claim sha256 loads delivery.window delivery.sequence delivery.digest store
      (afterClaim delivery claimed.1).map fun stage => (stage, claimed.2)
  | .route (.error fault), .owner delivery => some (.aborting delivery fault, store)
  | .route (.ok pending), .owner delivery => some (.routed delivery pending, store)
  | .install, .routed delivery pending =>
      match installOrGet sha256 loads delivery.identity delivery.digest pending store with
      | (.error fault, later) => some (.aborting delivery fault, later)
      | (.ok receipt, later) =>
          if validRecord sha256 loads receipt delivery.identity = false ∨
              receipt.requestFrameSha256 ≠ delivery.digest then
            some (.aborting delivery (.rejected "invalid_durable_receipt"), later)
          else some (.installed delivery receipt, later)
  | .commit, .installed delivery receipt =>
      match commit delivery.window delivery.sequence delivery.digest receipt store with
      | (.error fault, later) => some (.raised fault, later)
      | (.ok (), later) => some (.returned delivery receipt.receiptFrame, later)
  | .abort, .aborting delivery fault =>
      some (.raised fault, abort delivery.window delivery.sequence delivery.digest store)
  | _, _ => none

/-- The store and the calls that share it; the commits so far, in order, are kept for the
statements only. -/
structure Receivers (ι φ : Type) where
  store : ReceiptStore
  calls : ι → CallStage φ
  commits : List ReceiptIdentity

/-- The identity that is committed between these stages. -/
def committedBy : CallStage φ → CallStage φ → List ReceiptIdentity
  | .installed delivery _, .returned _ _ => [delivery.identity]
  | _, _ => []

variable {ι : Type} [DecidableEq ι]

def Receivers.start : Receivers ι φ := ⟨.empty, fun _ => .idle, []⟩

/-- The state after a step of one call. -/
def Receivers.after (state : Receivers ι φ) (call : ι) (stage : CallStage φ)
    (store : ReceiptStore) : Receivers ι φ where
  store := store
  calls := Function.update state.calls call stage
  commits := state.commits ++ committedBy (state.calls call) stage

/-- What any interleaving of the calls reaches. -/
inductive Receivers.Reachable : Receivers ι φ → Prop where
  | start : Reachable Receivers.start
  | step {state : Receivers ι φ} (reachable : Reachable state) (call : ι) (step : ReceiveStep φ)
      {stage : CallStage φ} {store : ReceiptStore}
      (advanced : advance sha256 loads state.store step (state.calls call) = some (stage, store)) :
      Reachable (state.after call stage store)

end Calls

end EgoAgent.SecureMemory
