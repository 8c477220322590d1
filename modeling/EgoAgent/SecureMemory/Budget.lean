import EgoAgent.Gateway.WorkspaceContract
import EgoAgent.Lib.Dict

/-!
`BudgetLedger`: append-only reservations for provider calls, and their replay.
-/

namespace EgoAgent.SecureMemory

open EgoAgent.Api Effect

/-! ### Tickets, templates and leases -/

/-- `MeasuredConfigurationId`. -/
inductive Configuration where
  | a | b | c | d | e | f
  deriving DecidableEq

/-- `ExecutionPhaseOwner`. -/
inductive PhaseOwner where
  | a | b | c | d | e | f
  | qualification | optimizer | winnerSealed | fSealed | gpuDemo
  deriving DecidableEq

inductive RequestClass where
  | main | auxiliary | review
  deriving DecidableEq

def Configuration.value : Configuration → String
  | .a => "A" | .b => "B" | .c => "C" | .d => "D" | .e => "E" | .f => "F"

def PhaseOwner.value : PhaseOwner → String
  | .a => "A" | .b => "B" | .c => "C" | .d => "D" | .e => "E" | .f => "F"
  | .qualification => "QUALIFICATION" | .optimizer => "OPTIMIZER"
  | .winnerSealed => "WINNER_SEALED" | .fSealed => "F_SEALED" | .gpuDemo => "GPU_DEMO"

def RequestClass.value : RequestClass → String
  | .main => "main" | .auxiliary => "auxiliary" | .review => "review"

structure RequestLimit where
  maxInput : Int
  maxOutput : Int

/-- `REQUEST_LIMITS`. -/
def requestLimit : RequestClass → RequestLimit
  | .main => ⟨10000, 1500⟩
  | .auxiliary => ⟨6000, 750⟩
  | .review => ⟨8000, 1000⟩

/-- `TicketTemplate`, without what no operation reads. -/
structure TicketTemplate where
  templateId : String
  executionPhaseOwner : PhaseOwner
  configurationId : Option Configuration
  problemId : Option String
  turn : Option Int
  allowedRole : String
  requestClass : RequestClass
  usagePhase : String
  retryOwner : Option PhaseOwner
  maxInputTokens : Int
  maxOutputTokens : Int

structure IssuedBudgetTicket where
  ticketId : String
  templateId : String
  campaignId : String
  manifestSha256 : String
  executionPhaseOwner : PhaseOwner
  configurationId : Option Configuration
  projectId : String
  taskId : String
  worker : String
  matrixUserId : String
  allowedRole : String
  effectiveRequestClass : RequestClass
  usagePhase : String
  maxInputTokens : Int
  maxOutputTokens : Int
  expiresAtSequence : Int
  issuerId : String
  keyId : String
  issueSequence : Int
  ticketSha256 : String
  signatureBase64 : String

def optionalText : Option String → Json Empty
  | some text => .str text
  | none => .null

/-- `ticket_core`: the ticket without its digest and signature. -/
def IssuedBudgetTicket.core (ticket : IssuedBudgetTicket) : List (String × Json Empty) :=
  [("schema_version", .str "secure-memory-issued-budget-ticket/v1"),
    ("ticket_id", .str ticket.ticketId), ("template_id", .str ticket.templateId),
    ("campaign_id", .str ticket.campaignId), ("manifest_sha256", .str ticket.manifestSha256),
    ("execution_phase_owner", .str ticket.executionPhaseOwner.value),
    ("configuration_id", optionalText (ticket.configurationId.map Configuration.value)),
    ("project_id", .str ticket.projectId), ("task_id", .str ticket.taskId),
    ("worker", .str ticket.worker), ("matrix_user_id", .str ticket.matrixUserId),
    ("allowed_role", .str ticket.allowedRole),
    ("effective_request_class", .str ticket.effectiveRequestClass.value),
    ("usage_phase", .str ticket.usagePhase), ("max_input_tokens", .int ticket.maxInputTokens),
    ("max_output_tokens", .int ticket.maxOutputTokens),
    ("expires_at_sequence", .int ticket.expiresAtSequence), ("issuer_id", .str ticket.issuerId),
    ("key_id", .str ticket.keyId), ("issue_sequence", .int ticket.issueSequence)]

/-- `SignedTaskLease`: of its core the fields an operation reads; the others only enter its
digest. -/
structure SignedTaskLease where
  campaignId : String
  configurationId : Option Configuration
  executionPhaseOwner : PhaseOwner
  problemId : String
  turn : Int
  manifestSha256 : String
  projectId : String
  taskId : String
  worker : String
  matrixUserId : String
  role : String
  requestClass : RequestClass
  issuedTicketIds : List String
  expiresAtSequence : Int
  issuerId : String
  keyId : String
  issueSequence : Int
  coreSha256 : String
  signatureBase64 : String

/-! ### Usage -/

/-- `RawUsage`, with its subtotals within their totals. -/
structure RawUsage where
  inputTokens : Nat
  outputTokens : Nat
  cacheReadTokens : Option Nat
  cacheWriteTokens : Option Nat
  reasoningTokens : Option Nat
  reasoningWithin : ∀ tokens ∈ reasoningTokens, tokens ≤ outputTokens
  cacheReadWithin : ∀ tokens ∈ cacheReadTokens, tokens ≤ inputTokens
  cacheWriteWithin : ∀ tokens ∈ cacheWriteTokens, tokens ≤ inputTokens
  deriving DecidableEq

structure SettledUsage where
  rawUsage : RawUsage
  budgetInput : Nat
  budgetOutput : Nat
  comparableInput : Nat
  comparableOutput : Nat
  deriving DecidableEq

def optionalCount : Option Nat → Json Empty
  | some count => .int count
  | none => .null

def SettledUsage.dump (usage : SettledUsage) : Json Empty :=
  .dict [("raw_usage", .dict [("input_tokens", .int usage.rawUsage.inputTokens),
      ("output_tokens", .int usage.rawUsage.outputTokens),
      ("cache_read_tokens", optionalCount usage.rawUsage.cacheReadTokens),
      ("cache_write_tokens", optionalCount usage.rawUsage.cacheWriteTokens),
      ("reasoning_tokens", optionalCount usage.rawUsage.reasoningTokens)]),
    ("budget_input", .int usage.budgetInput), ("budget_output", .int usage.budgetOutput),
    ("comparable_input", .int usage.comparableInput),
    ("comparable_output", .int usage.comparableOutput)]

/-! ### Reservations and events -/

inductive ReservationState where
  | reserved | dispatched | settled | retained
  deriving DecidableEq

def ReservationState.value : ReservationState → String
  | .reserved => "RESERVED" | .dispatched => "DISPATCHED"
  | .settled => "SETTLED" | .retained => "RETAINED"

/-- The figures of a reservation, which all its events repeat. -/
structure Figures where
  reservedInput : Int
  reservedOutput : Int
  tokenizerEstimate : Int
  calibratedPositiveError : Int
  modelVisibleByteLength : Int
  deriving DecidableEq

structure Reservation where
  ticketId : String
  templateId : String
  figures : Figures
  state : ReservationState
  sequence : Int
  settledUsage : Option SettledUsage
  retainedReason : Option String
  deriving DecidableEq

structure BudgetEvent where
  sequence : Int
  ticketId : String
  templateId : String
  previousState : Option ReservationState
  state : ReservationState
  figures : Figures
  settledUsage : Option SettledUsage
  retainedReason : Option String
  previousEventSha256 : String
  eventSha256 : String
  deriving DecidableEq

/-- The `core` whose digest is the event's. -/
def BudgetEvent.core (event : BudgetEvent) : List (String × Json Empty) :=
  [("sequence", .int event.sequence), ("ticket_id", .str event.ticketId),
    ("template_id", .str event.templateId),
    ("previous_state", optionalText (event.previousState.map ReservationState.value)),
    ("new_state", .str event.state.value), ("reserved_input", .int event.figures.reservedInput),
    ("reserved_output", .int event.figures.reservedOutput),
    ("tokenizer_estimate", .int event.figures.tokenizerEstimate),
    ("calibrated_positive_error", .int event.figures.calibratedPositiveError),
    ("model_visible_byte_length", .int event.figures.modelVisibleByteLength),
    ("settled_usage", (event.settledUsage.map SettledUsage.dump).getD .null),
    ("retained_reason", optionalText event.retainedReason),
    ("previous_event_sha256", .str event.previousEventSha256)]

/-- The reservation as it stands after an event. -/
def BudgetEvent.reservation (event : BudgetEvent) : Reservation where
  ticketId := event.ticketId
  templateId := event.templateId
  figures := event.figures
  state := event.state
  sequence := event.sequence
  settledUsage := event.settledUsage
  retainedReason := event.retainedReason

/-- `ALLOWED_RETAIN_REASONS`. -/
def allowedRetainReasons : List String :=
  ["provider_failure", "429", "5xx", "timeout", "4xx", "unknown_usage", "contradictory_usage"]

/-- `BudgetDenied`. -/
structure BudgetDenied where
  code : String
  deriving DecidableEq

/-- `BudgetTrustContext`, but for its sequence, which is read anew by each call. -/
structure BudgetTrustContext where
  issuerId : String
  keyId : String
  verifiesTicket : IssuedBudgetTicket → Bool
  verifiesLease : SignedTaskLease → Bool
  calibratedPositiveError : Int
  sha256 : Bytes → Digest

/-! ### The constructor -/

/-- What a ledger is loaded with. -/
structure Book where
  templates : Dict String TicketTemplate
  tickets : Dict String IssuedBudgetTicket
  manifestSha256 : String
  trust : BudgetTrustContext

/-- The loop of the constructor over its tickets. -/
def checkTicket (templates : Dict String TicketTemplate) (trust : BudgetTrustContext)
    (current : Int) (ticket : IssuedBudgetTicket) : Except BudgetDenied Unit := do
  let template ← expect ⟨"KeyError"⟩ (templates.get? ticket.templateId)
  raiseIf (ticket.ticketSha256 ≠
        (domainDigest trust.sha256 "issued-budget-ticket" (.dict ticket.core)).labelled "" ∨
      trust.verifiesTicket ticket = false ∨ ticket.issuerId ≠ trust.issuerId ∨
      ticket.keyId ≠ trust.keyId ∨ current < ticket.issueSequence ∨
      ticket.expiresAtSequence < current) ⟨"ticket_sequence"⟩
  raiseIf (template.retryOwner ≠ none ∧
    (template.retryOwner ≠ some template.executionPhaseOwner ∨
      template.executionPhaseOwner ∈ [.qualification, .optimizer] ∨
      template.requestClass ≠ .main)) ⟨"retry_template"⟩
  raiseIf (ticket.executionPhaseOwner ≠ template.executionPhaseOwner ∨
      ticket.configurationId ≠ template.configurationId ∨
      ticket.allowedRole ≠ template.allowedRole ∨
      (template.retryOwner = none ∧ ticket.effectiveRequestClass ≠ template.requestClass) ∨
      (template.retryOwner = none ∧ ticket.usagePhase ≠ template.usagePhase) ∨
      (template.retryOwner = none ∧ (ticket.maxInputTokens ≠ template.maxInputTokens ∨
        ticket.maxOutputTokens ≠ template.maxOutputTokens)) ∨
      (template.retryOwner ≠ none ∧
        ((requestLimit ticket.effectiveRequestClass).maxInput < ticket.maxInputTokens ∨
          (requestLimit ticket.effectiveRequestClass).maxOutput < ticket.maxOutputTokens)))
    ⟨"template_binding"⟩

/-- `BudgetLedger.__init__`, when the trusted sequence stands at `current`. -/
def Book.load (templates : List TicketTemplate) (tickets : List IssuedBudgetTicket)
    (manifestSha256 : String) (trust : BudgetTrustContext) (current : Int) :
    Except BudgetDenied Book := do
  let templateItems := templates.map fun item => (item.templateId, item)
  raiseIf (templates = []) ⟨"templates_required"⟩
  raiseIf (¬ (templates.map TicketTemplate.templateId).Nodup) ⟨"duplicate_template"⟩
  raiseIf (¬ (tickets.map IssuedBudgetTicket.ticketId).Nodup) ⟨"duplicate_ticket"⟩
  raiseIf (¬ (tickets.map IssuedBudgetTicket.issueSequence).Nodup) ⟨"duplicate_issue_sequence"⟩
  raiseIf (¬ (tickets.map IssuedBudgetTicket.templateId).Nodup) ⟨"template_ticket"⟩
  raiseIf (∃ ticket ∈ tickets, ticket.templateId ∉ templates.map TicketTemplate.templateId)
    ⟨"unknown_template"⟩
  raiseIf (∃ ticket ∈ tickets, ticket.manifestSha256 ≠ manifestSha256) ⟨"manifest"⟩
  raiseIf (trust.issuerId = "" ∨ trust.keyId = "" ∨ trust.calibratedPositiveError < 0)
    ⟨"trust_identity"⟩
  tickets.forM (checkTicket templateItems trust current)
  .ok { templates := templateItems
        tickets := tickets.map fun item => (item.ticketId, item)
        manifestSha256, trust }

/-! ### The ledger -/

/-- The collections of a ledger. -/
structure Ledger where
  reservations : Dict String Reservation
  usedTemplates : List String
  events : List BudgetEvent
  deriving DecidableEq

def Ledger.empty : Ledger := ⟨[], [], []⟩

structure BudgetTriple where
  requests : Int
  input : Int
  output : Int
  deriving DecidableEq

def campaignReservation : BudgetTriple := ⟨356, 3306000, 485500⟩
def campaignAbsolute : BudgetTriple := ⟨360, 4000000, 600000⟩

def BudgetTriple.exceeds (total cap : BudgetTriple) : Prop :=
  cap.requests < total.requests ∨ cap.input < total.input ∨ cap.output < total.output

instance (total cap : BudgetTriple) : Decidable (total.exceeds cap) :=
  inferInstanceAs (Decidable (_ ∨ _ ∨ _))

def Ledger.totals (ledger : Ledger) : BudgetTriple where
  requests := ledger.reservations.length
  input := (ledger.reservations.map fun entry => entry.2.figures.reservedInput).sum
  output := (ledger.reservations.map fun entry => entry.2.figures.reservedOutput).sum

/-- `self.totals.add(requests=1, ...)`. -/
def Ledger.nextTotal (ledger : Ledger) (figures : Figures) : BudgetTriple where
  requests := ledger.totals.requests + 1
  input := ledger.totals.input + figures.reservedInput
  output := ledger.totals.output + figures.reservedOutput

/-- The digest the next event continues. -/
def Ledger.lastSha256 (ledger : Ledger) : String :=
  (ledger.events.getLast?.map BudgetEvent.eventSha256).getD ""

def eventSha256 (sha256 : Bytes → Digest) (event : BudgetEvent) : String :=
  (domainDigest sha256 "budget-ledger-event" (.dict event.core)).labelled ""

def Ledger.stateDigest (sha256 : Bytes → Digest) (ledger : Ledger) : String :=
  (domainDigest sha256 "budget-ledger-state"
    (.list (ledger.events.map fun event => .str event.eventSha256) : Json Empty)).labelled ""

/-- The event that `_append` makes of a reservation. -/
def Ledger.nextEvent (sha256 : Bytes → Digest) (ledger : Ledger) (reservation : Reservation) :
    BudgetEvent :=
  let event : BudgetEvent :=
    { sequence := ledger.events.length + 1
      ticketId := reservation.ticketId
      templateId := reservation.templateId
      previousState := (ledger.reservations.get? reservation.ticketId).map Reservation.state
      state := reservation.state
      figures := reservation.figures
      settledUsage := reservation.settledUsage
      retainedReason := reservation.retainedReason
      previousEventSha256 := ledger.lastSha256
      eventSha256 := "" }
  { event with eventSha256 := eventSha256 sha256 event }

/-- `_append`. -/
def append (trust : BudgetTrustContext) (reservation : Reservation) :
    Effect Ledger BudgetDenied Reservation := do
  let ledger ← read
  let event := ledger.nextEvent trust.sha256 reservation
  let updated := { reservation with sequence := event.sequence }
  write fun ledger => { ledger with
    events := ledger.events ++ [event]
    reservations := ledger.reservations.set updated.ticketId updated }
  pure updated

/-- `_require` of one state. -/
def require (ticketId : String) (allowed : ReservationState) :
    Effect Ledger BudgetDenied Reservation := do
  let ledger ← read
  let value ← check (expect ⟨"unreserved_ticket"⟩ (ledger.reservations.get? ticketId))
  check (raiseIf (value.state ≠ allowed) ⟨"already_terminal"⟩)
  pure value

/-- What a caller asks a reservation for. -/
structure ReserveRequest where
  lease : SignedTaskLease
  requesterRole : String
  tokenizerEstimate : Int
  calibratedPositiveError : Int
  serializedModelVisibleBytes : Bytes

def ReserveRequest.reservedInput (request : ReserveRequest) : Int :=
  max (request.tokenizerEstimate + request.calibratedPositiveError + 512)
    (request.serializedModelVisibleBytes.length + 1024)

def ReserveRequest.figures (request : ReserveRequest) (ticket : IssuedBudgetTicket) : Figures where
  reservedInput := request.reservedInput
  reservedOutput := ticket.maxOutputTokens
  tokenizerEstimate := request.tokenizerEstimate
  calibratedPositiveError := request.calibratedPositiveError
  modelVisibleByteLength := request.serializedModelVisibleBytes.length

/-- `BudgetLedger.reserve`. -/
def reserve (book : Book) (current : Int) (ticketId : String) (request : ReserveRequest) :
    Effect Ledger BudgetDenied Reservation := do
  let lease := request.lease
  check (raiseIf (min request.tokenizerEstimate request.calibratedPositiveError < 0)
    ⟨"negative_estimate"⟩)
  check (raiseIf (request.calibratedPositiveError ≠ book.trust.calibratedPositiveError)
    ⟨"calibration_binding"⟩)
  let ticket ← check (expect ⟨"untrusted_ticket"⟩ (book.tickets.get? ticketId))
  -- the constructor has refused tickets of unknown templates
  let template ← check (expect ⟨"KeyError"⟩ (book.templates.get? ticket.templateId))
  check (raiseIf (current < ticket.issueSequence ∨ ticket.expiresAtSequence < current)
    ⟨"ticket_sequence"⟩)
  let ledger ← read
  check (raiseIf (ticket.templateId ∈ ledger.usedTemplates ∨
    (ledger.reservations.get? ticketId).isSome = true) ⟨"ticket_consumed"⟩)
  check (raiseIf (book.trust.verifiesLease lease = false ∨ lease.issuerId ≠ book.trust.issuerId ∨
      lease.keyId ≠ book.trust.keyId ∨ current < lease.issueSequence ∨
      lease.expiresAtSequence < current) ⟨"lease_sequence"⟩)
  check (raiseIf (ticketId ∉ lease.issuedTicketIds) ⟨"lease_ticket"⟩)
  check (raiseIf (lease.manifestSha256 ≠ book.manifestSha256 ∨
    ticket.manifestSha256 ≠ book.manifestSha256) ⟨"manifest"⟩)
  check (raiseIf (request.requesterRole ≠ ticket.allowedRole ∨ lease.role ≠ ticket.allowedRole)
    ⟨"role"⟩)
  check (raiseIf (lease.campaignId ≠ ticket.campaignId ∨
      lease.configurationId ≠ ticket.configurationId ∨
      lease.executionPhaseOwner ≠ ticket.executionPhaseOwner ∨
      lease.projectId ≠ ticket.projectId ∨ lease.taskId ≠ ticket.taskId ∨
      lease.worker ≠ ticket.worker ∨ lease.matrixUserId ≠ ticket.matrixUserId ∨
      lease.requestClass ≠ ticket.effectiveRequestClass) ⟨"lease_binding"⟩)
  check (raiseIf (template.allowedRole ≠ ticket.allowedRole ∨
      (template.retryOwner = none ∧ template.requestClass ≠ ticket.effectiveRequestClass))
    ⟨"template_binding"⟩)
  check (raiseIf ((template.problemId ≠ none ∧ template.problemId ≠ some lease.problemId) ∨
      (template.turn ≠ none ∧ template.turn ≠ some lease.turn)) ⟨"template_row"⟩)
  let limit := requestLimit ticket.effectiveRequestClass
  check (raiseIf (limit.maxInput < request.reservedInput ∨
    ticket.maxInputTokens < request.reservedInput) ⟨"input_ceiling"⟩)
  check (raiseIf (limit.maxOutput < ticket.maxOutputTokens) ⟨"output_ceiling"⟩)
  check (raiseIf ((ledger.nextTotal (request.figures ticket)).exceeds campaignReservation ∨
    (ledger.nextTotal (request.figures ticket)).exceeds campaignAbsolute)
    ⟨"campaign_reservation"⟩)
  write fun ledger => { ledger with usedTemplates := ticket.templateId :: ledger.usedTemplates }
  append book.trust
    { ticketId
      templateId := ticket.templateId
      figures := request.figures ticket
      state := .reserved
      sequence := 0
      settledUsage := none
      retainedReason := none }

/-- `BudgetLedger.mark_dispatched`. -/
def markDispatched (book : Book) (ticketId : String) : Effect Ledger BudgetDenied Reservation := do
  let value ← require ticketId .reserved
  append book.trust { value with state := .dispatched }

/-- `BudgetLedger.reserve_retry`. -/
def reserveRetry (book : Book) (current : Int) (retryTicketId originalTicketId : String)
    (request : ReserveRequest) : Effect Ledger BudgetDenied Reservation := do
  let ledger ← read
  let original ← check (expect ⟨"retry_original"⟩ (ledger.reservations.get? originalTicketId))
  check (raiseIf (original.state ≠ .retained) ⟨"retry_original"⟩)
  check (raiseIf (original.retainedReason ∉ [some "429", some "5xx", some "timeout"])
    ⟨"retry_reason"⟩)
  let retryTicket ← check (expect ⟨"retry_ticket"⟩ (book.tickets.get? retryTicketId))
  check (raiseIf (retryTicketId ∉ request.lease.issuedTicketIds) ⟨"retry_ticket"⟩)
  let template ← check (expect ⟨"KeyError"⟩ (book.templates.get? retryTicket.templateId))
  let originalTicket ← check (expect ⟨"KeyError"⟩ (book.tickets.get? originalTicketId))
  check (raiseIf (template.retryOwner ≠ some originalTicket.executionPhaseOwner ∨
      retryTicket.campaignId ≠ originalTicket.campaignId ∨
      retryTicket.configurationId ≠ originalTicket.configurationId ∨
      retryTicket.projectId ≠ originalTicket.projectId ∨
      retryTicket.taskId ≠ originalTicket.taskId ∨ retryTicket.worker ≠ originalTicket.worker ∨
      retryTicket.matrixUserId ≠ originalTicket.matrixUserId ∨
      retryTicket.allowedRole ≠ originalTicket.allowedRole ∨
      retryTicket.effectiveRequestClass ≠ originalTicket.effectiveRequestClass ∨
      retryTicket.usagePhase ≠ originalTicket.usagePhase ∨
      retryTicket.maxInputTokens ≠ originalTicket.maxInputTokens ∨
      retryTicket.maxOutputTokens ≠ originalTicket.maxOutputTokens) ⟨"retry_binding"⟩)
  reserve book current retryTicketId request

/-- `BudgetLedger.retain`. -/
def retain (book : Book) (ticketId reason : String) : Effect Ledger BudgetDenied Reservation := do
  check (raiseIf (reason ∉ allowedRetainReasons) ⟨"retain_reason"⟩)
  let value ← require ticketId .dispatched
  append book.trust { value with state := .retained, retainedReason := some reason }

def RawUsage.settled (usage : RawUsage) : SettledUsage :=
  ⟨usage, usage.inputTokens, usage.outputTokens, usage.inputTokens, usage.outputTokens⟩

/-- `BudgetLedger.settle`. -/
def settle (book : Book) (ticketId : String) (rawUsage : RawUsage) :
    Effect Ledger BudgetDenied SettledUsage := do
  let value ← require ticketId .dispatched
  check (raiseIf (value.figures.reservedInput < rawUsage.inputTokens ∨
    value.figures.reservedOutput < rawUsage.outputTokens) ⟨"contradictory_usage"⟩)
  let _ ← append book.trust
    { value with state := .settled, settledUsage := some rawUsage.settled }
  pure rawUsage.settled

/-! ### Replay -/

/-- The step from the state before an event to the one it records. -/
def checkTransition (ledger : Ledger) (event : BudgetEvent) : Except BudgetDenied Unit :=
  match ledger.reservations.get? event.ticketId with
  | none => do
      raiseIf (event.previousState ≠ none ∨ event.state ≠ .reserved) ⟨"event_transition"⟩
      raiseIf (event.templateId ∈ ledger.usedTemplates) ⟨"event_template"⟩
      raiseIf ((ledger.nextTotal event.figures).exceeds campaignReservation ∨
        (ledger.nextTotal event.figures).exceeds campaignAbsolute) ⟨"event_cap"⟩
  | some prior =>
      raiseIf (event.previousState ≠ some prior.state ∨ event.figures ≠ prior.figures ∨
        (prior.state = .reserved ∧ event.state ≠ .dispatched) ∨
        (prior.state = .dispatched ∧ event.state ∉ [.settled, .retained]) ∨
        prior.state ∈ [.settled, .retained]) ⟨"event_transition"⟩

/-- The usage and the reason that an event of its state carries. -/
def checkTerminal (event : BudgetEvent) : Except BudgetDenied Unit := do
  raiseIf (event.state ∈ [.reserved, .dispatched] ∧
    (event.settledUsage ≠ none ∨ event.retainedReason ≠ none)) ⟨"event_terminal"⟩
  raiseIf (event.state = .settled ∧ (event.settledUsage = none ∨ event.retainedReason ≠ none))
    ⟨"event_terminal"⟩
  raiseIf (event.state = .settled ∧ ∃ usage ∈ event.settledUsage,
      event.figures.reservedInput < usage.rawUsage.inputTokens ∨
      event.figures.reservedOutput < usage.rawUsage.outputTokens ∨
      usage.budgetInput ≠ usage.rawUsage.inputTokens ∨
      usage.budgetOutput ≠ usage.rawUsage.outputTokens ∨
      usage.comparableInput ≠ usage.rawUsage.inputTokens ∨
      usage.comparableOutput ≠ usage.rawUsage.outputTokens) ⟨"event_usage"⟩
  raiseIf (event.state = .retained ∧ (event.settledUsage ≠ none ∨
    event.retainedReason ∉ allowedRetainReasons.map some)) ⟨"event_terminal"⟩

/-- The loop of `replay`. -/
def replayEvent (book : Book) (ledger : Ledger) (event : BudgetEvent) :
    Except BudgetDenied Ledger := do
  raiseIf (event.sequence ≠ ledger.events.length + 1) ⟨"event_sequence"⟩
  raiseIf (event.previousEventSha256 ≠ ledger.lastSha256) ⟨"event_chain"⟩
  let ticket ← expect ⟨"event_ticket"⟩ (book.tickets.get? event.ticketId)
  raiseIf (ticket.templateId ≠ event.templateId) ⟨"event_ticket"⟩
  checkTransition ledger event
  raiseIf (event.eventSha256 ≠ eventSha256 book.trust.sha256 event) ⟨"event_hash"⟩
  let figures := event.figures
  raiseIf (min (min figures.tokenizerEstimate figures.calibratedPositiveError)
    figures.modelVisibleByteLength < 0) ⟨"event_reservation"⟩
  raiseIf (figures.calibratedPositiveError ≠ book.trust.calibratedPositiveError ∨
      figures.reservedInput ≠
        max (figures.tokenizerEstimate + figures.calibratedPositiveError + 512)
          (figures.modelVisibleByteLength + 1024) ∨
      figures.reservedOutput ≠ ticket.maxOutputTokens) ⟨"event_reservation"⟩
  let limit := requestLimit ticket.effectiveRequestClass
  raiseIf (ticket.maxInputTokens < figures.reservedInput ∨
      ticket.maxOutputTokens < figures.reservedOutput ∨ limit.maxInput < figures.reservedInput ∨
      limit.maxOutput < figures.reservedOutput) ⟨"event_ceiling"⟩
  checkTerminal event
  .ok { usedTemplates := if (ledger.reservations.get? event.ticketId).isNone
          then event.templateId :: ledger.usedTemplates else ledger.usedTemplates
        events := ledger.events ++ [event]
        reservations := ledger.reservations.set event.ticketId event.reservation }

/-- `BudgetLedger.replay`. -/
def replay (templates : List TicketTemplate) (tickets : List IssuedBudgetTicket)
    (manifestSha256 : String) (trust : BudgetTrustContext) (current : Int)
    (events : List BudgetEvent) (expectedStateDigest : String) :
    Except BudgetDenied (Book × Ledger) := do
  raiseIf (Gateway.isSha256 expectedStateDigest = false) ⟨"state_anchor_invalid"⟩
  let book ← Book.load templates tickets manifestSha256 trust current
  let ledger ← events.foldlM (replayEvent book) Ledger.empty
  raiseIf (ledger.stateDigest trust.sha256 ≠ expectedStateDigest) ⟨"state_anchor_mismatch"⟩
  .ok (book, ledger)

end EgoAgent.SecureMemory
