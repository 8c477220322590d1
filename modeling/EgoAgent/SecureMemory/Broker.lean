import EgoAgent.SecureMemory.BudgetJournal

/-!
`ProviderBroker.dispatch`: a provider call and at most one retry of it, each under a ticket of the
budget ledger.
-/

namespace EgoAgent.SecureMemory

open EgoAgent.Api Effect

/-! ### Capabilities -/

/-- `BrokerState`. -/
inductive BrokerState where
  | locked | qualified | frozen
  deriving DecidableEq

/-- `ProviderCapabilityRecord`, as far as a dispatch reads it. -/
structure ProviderCapabilityRecord where
  state : BrokerState
  baseUrl : String
  endpoint : String
  method : String
  model : String
  hardOutputLimit : Bool
  roleAttribution : Bool
  authoritativeUsage : Bool
  streamingSemantics : Bool
  zeroBackgroundCalls : Bool
  calibratedPositiveError : Int
  temperaturePresent : Bool
  topPPresent : Bool
  issueSequence : Int
  expiresAtSequence : Int

/-- Its `body_shape` has only one value to take. -/
def ProviderCapabilityRecord.usable (record : ProviderCapabilityRecord) : Bool :=
  record.state = .qualified && record.endpoint = "/chat/completions" && record.method = "POST" &&
    record.model = "agnes-2.5-pro" && record.hardOutputLimit && record.roleAttribution &&
    record.authoritativeUsage && record.streamingSemantics && record.zeroBackgroundCalls

/-! ### Requests and replies -/

structure ModelRequest (φ : Type) where
  campaignId : String
  leaseSha256 : String
  ticketId : String
  requestClass : RequestClass
  providerBaseUrl : String
  providerModel : String
  messages : List (Json φ)
  maxInputTokens : Int
  maxOutputTokens : Int
  temperature : Option Int
  topP : Option Int
  stream : Bool
  tools : List (Json φ)

def numberMember {φ : Type} (name : String) (included : Bool) (value : Option Int) :
    List (String × Json φ) :=
  if included then [(name, (value.map Json.int).getD .null)] else []

/-- The `body` of a request. -/
def ModelRequest.body {φ : Type} (request : ModelRequest φ)
    (capability : ProviderCapabilityRecord) : Json φ :=
  .dict ([("model", .str request.providerModel), ("messages", .list request.messages),
      ("max_tokens", .int request.maxOutputTokens)] ++
    numberMember "temperature" capability.temperaturePresent request.temperature ++
    numberMember "top_p" capability.topPPresent request.topP ++
    [("stream", .bool request.stream), ("tools", .list request.tools)])

structure ProviderReply where
  rawUsage : Option (Dict String Int)
  outputText : String
  firstStreamNs : Option Int
  firstContentNs : Option Int

/-- What `transport.send` does: it replies, raises `ProviderTransportFailure`, or raises
something else. -/
inductive Sent where
  | reply (reply : ProviderReply)
  | failure (kind : String)
  | raised

structure BrokerResponse where
  outputText : String
  usage : SettledUsage
  firstStreamNs : Option Int
  firstContentNs : Option Int

inductive BrokerFault where
  | denied (code : String)
  | budget (denied : BudgetDenied)
  | observer (message : String)

/-- `RawUsage(**raw_usage)`; `none` when the model refuses it. -/
def readUsage (raw : Dict String Int) : Option RawUsage := do
  let inputTokens ← raw.get? "input_tokens"
  let outputTokens ← raw.get? "output_tokens"
  let cacheReadTokens := raw.get? "cache_read_tokens"
  let cacheWriteTokens := raw.get? "cache_write_tokens"
  let reasoningTokens := raw.get? "reasoning_tokens"
  if (∀ name ∈ raw.keys, name ∈ ["input_tokens", "output_tokens", "cache_read_tokens",
      "cache_write_tokens", "reasoning_tokens"]) ∧ ∀ count ∈ raw.map Prod.snd, 0 ≤ count then
    if within : (∀ tokens ∈ reasoningTokens.map Int.toNat, tokens ≤ outputTokens.toNat) ∧
        (∀ tokens ∈ cacheReadTokens.map Int.toNat, tokens ≤ inputTokens.toNat) ∧
        ∀ tokens ∈ cacheWriteTokens.map Int.toNat, tokens ≤ inputTokens.toNat then
      some ⟨inputTokens.toNat, outputTokens.toNat, cacheReadTokens.map Int.toNat,
        cacheWriteTokens.map Int.toNat, reasoningTokens.map Int.toNat, within.1, within.2.1,
        within.2.2⟩
    else none
  else none

/-! ### The broker -/

/-- A send, with the ticket it is made under and the ledger at that time. -/
structure SendRecord (φ : Type) where
  baseUrl : String
  method : String
  endpoint : String
  body : Json φ
  ticketId : String
  books : Ledger

/-- What a dispatch works on: the ledger, the capability of its authority, and the sends it has
made. -/
structure Dispatching (φ : Type) where
  ledger : Ledger
  capability : ProviderCapabilityRecord
  sends : List (SendRecord φ)

/-- What a broker is made with, and what its surroundings do during one dispatch. -/
structure Broker where
  book : Book
  verifiesLease : SignedTaskLease → Bool
  verifiesTicket : IssuedBudgetTicket → Bool
  tokenizer : Bytes → Int
  scanner : Bytes → Bool
  backoffObserver : String → Except String Unit
  /-- The sequences that the capability authority reads; `none` when reading raises. -/
  firstSequence : Option Int
  retrySequence : Option Int
  /-- The sequences that the ledger reads. -/
  reserveSequence : Int
  reserveRetrySequence : Int
  firstSend : Sent
  retrySend : Sent

section Dispatch

variable {φ α : Type} [FloatText φ]

/-- `CampaignCapabilityAuthority.freeze`. -/
def freeze : Effect (Dispatching φ) BrokerFault Unit :=
  write fun state => { state with capability := { state.capability with state := .frozen } }

def freezeThen (code : String) : Effect (Dispatching φ) BrokerFault α := do
  freeze
  check (.error (.denied code))

def freezeIf (wrong : Prop) [Decidable wrong] (code : String) :
    Effect (Dispatching φ) BrokerFault Unit :=
  if wrong then freezeThen code else pure ()

/-- `CampaignCapabilityAuthority.record`. -/
def capabilityRecord (sequence : Option Int) :
    Effect (Dispatching φ) BrokerFault ProviderCapabilityRecord :=
  match sequence with
  | none => freezeThen "capability_sequence"
  | some sequence => do
      let state ← read
      freezeIf (sequence < state.capability.issueSequence) "capability_not_yet_valid"
      freezeIf (state.capability.expiresAtSequence < sequence) "capability_expired"
      pure state.capability

def onLedger (fault : BudgetDenied → BrokerFault) (effect : Effect Ledger BudgetDenied α) :
    Effect (Dispatching φ) BrokerFault α := fun state =>
  match effect state.ledger with
  | (.ok item, ledger) => (.ok item, { state with ledger })
  | (.error denied, ledger) => (.error (fault denied), { state with ledger })

/-- A reservation, followed by `mark_dispatched`. -/
def openTicket (broker : Broker) (fault : BudgetDenied → BrokerFault) (ticketId : String)
    (opening : Effect Ledger BudgetDenied Reservation) : Effect (Dispatching φ) BrokerFault Unit :=
  onLedger fault do
    let _ ← opening
    let _ ← markDispatched broker.book ticketId
    pure ()

def closeTicket (broker : Broker) (ticketId reason : String) :
    Effect (Dispatching φ) BrokerFault Unit :=
  onLedger .budget do
    let _ ← retain broker.book ticketId reason
    pure ()

/-- `retain`, with the ledger's refusal passed over. -/
def closeTicketQuietly (broker : Broker) (ticketId reason : String) :
    Effect (Dispatching φ) BrokerFault Unit := fun state =>
  (.ok (), { state with ledger := (retain broker.book ticketId reason state.ledger).2 })

def transportSend (request : ModelRequest φ) (capability : ProviderCapabilityRecord) (body : Json φ)
    (ticketId : String) : Effect (Dispatching φ) BrokerFault Unit :=
  write fun state => { state with
    sends := state.sends ++ [⟨request.providerBaseUrl, capability.method, capability.endpoint, body,
      ticketId, state.ledger⟩] }

/-- The usage of a reply, settled or refused. -/
def settleReply (broker : Broker) (ticketId : String) (reply : ProviderReply)
    (closing : Effect (Dispatching φ) BrokerFault Unit) :
    Effect (Dispatching φ) BrokerFault BrokerResponse :=
  match reply.rawUsage with
  | none => do
      closeTicket broker ticketId "unknown_usage"
      freezeThen "authoritative_usage_missing"
  | some raw =>
      let refuse := do
        closing
        freezeThen "authoritative_usage_invalid"
      match readUsage raw with
      | none => refuse
      | some usage => fun state =>
          match settle broker.book ticketId usage state.ledger with
          | (.ok settled, ledger) =>
              (.ok ⟨reply.outputText, settled, reply.firstStreamNs, reply.firstContentNs⟩,
                { state with ledger })
          | (.error _, ledger) => refuse { state with ledger }

/-- The checks before the reservation. -/
def checkRequest (broker : Broker) (request : ModelRequest φ) (lease : SignedTaskLease) :
    Effect (Dispatching φ) BrokerFault ProviderCapabilityRecord := do
  let capability ← capabilityRecord broker.firstSequence
  check (raiseIf (capability.state = .frozen) (.denied "capability_frozen"))
  check (raiseIf (capability.state = .locked) (.denied "capability_locked"))
  freezeIf (capability.usable = false) "capability"
  freezeIf (capability.calibratedPositiveError ≠ broker.book.trust.calibratedPositiveError)
    "capability_calibration"
  let ticket ← check (expect (.denied "signature") (broker.book.tickets.get? request.ticketId))
  check (raiseIf (broker.verifiesLease lease = false ∨ broker.verifiesTicket ticket = false)
    (.denied "signature"))
  check (raiseIf (request.leaseSha256 ≠ lease.coreSha256) (.denied "lease_digest"))
  check (raiseIf (request.providerModel ≠ capability.model ∨
      request.maxInputTokens ≠ ticket.maxInputTokens ∨
      request.maxOutputTokens ≠ ticket.maxOutputTokens) (.denied "qualified_request"))
  check (raiseIf (request.requestClass ≠ ticket.effectiveRequestClass ∨
    request.campaignId ≠ ticket.campaignId) (.denied "trusted_binding"))
  check (raiseIf (request.providerBaseUrl ≠ capability.baseUrl) (.denied "qualified_request"))
  check (raiseIf (capability.temperaturePresent ≠ request.temperature.isSome)
    (.denied "qualified_request"))
  check (raiseIf (capability.topPPresent ≠ request.topP.isSome) (.denied "qualified_request"))
  check (raiseIf (broker.scanner (canonicalBytes (request.body capability)) = false)
    (.denied "model_bytes_rejected"))
  pure capability

def reserveRequest (broker : Broker) (lease : SignedTaskLease) (requesterRole : String)
    (calibratedPositiveError : Int) (visible : Bytes) : ReserveRequest where
  lease := lease
  requesterRole := requesterRole
  tokenizerEstimate := broker.tokenizer visible
  calibratedPositiveError := calibratedPositiveError
  serializedModelVisibleBytes := visible

/-- What precedes the first send. -/
def prepare (broker : Broker) (request : ModelRequest φ) (lease : SignedTaskLease)
    (requesterRole : String) : Effect (Dispatching φ) BrokerFault ProviderCapabilityRecord := do
  let capability ← checkRequest broker request lease
  openTicket broker (fun denied => .denied denied.code) request.ticketId
    (reserve broker.book broker.reserveSequence request.ticketId
      (reserveRequest broker lease requesterRole capability.calibratedPositiveError
        (canonicalBytes (request.body capability))))
  pure capability

/-- The checks that are made again before a retry. -/
def recheck (broker : Broker) (kind : String) :
    Effect (Dispatching φ) BrokerFault ProviderCapabilityRecord := do
  check ((broker.backoffObserver kind).mapError .observer)
  let capability ← capabilityRecord broker.retrySequence
  check (raiseIf (capability.state = .frozen) (.denied "capability_frozen"))
  freezeIf (capability.usable = false) "capability"
  freezeIf (capability.calibratedPositiveError ≠ broker.book.trust.calibratedPositiveError)
    "capability_calibration"
  pure capability

/-- The retry under a second ticket, of the body that was sent before. -/
def dispatchRetry (broker : Broker) (request : ModelRequest φ) (lease : SignedTaskLease)
    (requesterRole : String) (body : Json φ) (retryTicketId kind : String) :
    Effect (Dispatching φ) BrokerFault BrokerResponse := do
  let capability ← recheck broker kind
  openTicket broker .budget retryTicketId
    (reserveRetry broker.book broker.reserveRetrySequence retryTicketId request.ticketId
      (reserveRequest broker lease requesterRole capability.calibratedPositiveError
        (canonicalBytes body)))
  transportSend request capability body retryTicketId
  match broker.retrySend with
  | .reply reply =>
      settleReply broker retryTicketId reply
        (closeTicket broker retryTicketId "contradictory_usage")
  | .failure _ | .raised => do
      closeTicket broker retryTicketId "provider_failure"
      check (.error (.denied "provider_failure"))

/-- `ProviderBroker.dispatch`. -/
def dispatch (broker : Broker) (request : ModelRequest φ) (lease : SignedTaskLease)
    (requesterRole : String) (retryTicketId : Option String) :
    Effect (Dispatching φ) BrokerFault BrokerResponse := do
  let capability ← prepare broker request lease requesterRole
  let body := request.body capability
  transportSend request capability body request.ticketId
  match broker.firstSend with
  | .reply reply =>
      settleReply broker request.ticketId reply
        (closeTicketQuietly broker request.ticketId "contradictory_usage")
  | .failure kind => do
      closeTicket broker request.ticketId kind
      match retryTicketId with
      | some retryTicketId =>
          if kind ∈ ["429", "5xx", "timeout"] then
            dispatchRetry broker request lease requesterRole body retryTicketId kind
          else check (.error (.denied "provider_failure"))
      | none => check (.error (.denied "provider_failure"))
  | .raised => do
      closeTicket broker request.ticketId "provider_failure"
      check (.error (.denied "provider_failure"))

end Dispatch

end EgoAgent.SecureMemory
