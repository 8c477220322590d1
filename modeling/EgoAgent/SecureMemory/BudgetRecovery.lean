import EgoAgent.Gateway.WireFormat
import EgoAgent.SecureMemory.BudgetInvariant

/-!
Recovery of a ledger from its own events: possible exactly while no loaded ticket has expired.
-/

namespace EgoAgent.SecureMemory

open EgoAgent.Api

section Recovery

variable {templates : List TicketTemplate} {tickets : List IssuedBudgetTicket}
  {manifestSha256 : String} {trust : BudgetTrustContext} {start recovery : Int} {book : Book}

/-- A ticket that passed before passes again, unless it has expired. -/
theorem checkTicket_later {items : Dict String TicketTemplate} {ticket : IssuedBudgetTicket}
    (later : start ≤ recovery) (passed : checkTicket items trust start ticket = .ok ()) :
    checkTicket items trust recovery ticket =
      if recovery ≤ ticket.expiresAtSequence then .ok () else .error ⟨"ticket_sequence"⟩ := by
  unfold checkTicket at passed ⊢
  obtain ⟨template, found, passed⟩ := (bind_eq_ok _ _ _).mp passed
  obtain ⟨trusted, passed⟩ := (raiseIf_bind_eq_ok _ _ _ _).mp passed
  rw [found, ok_bind]
  simp only [not_or, not_not, ne_eq, not_lt] at trusted
  obtain ⟨digest, verified, issuer, key, issued, _⟩ := trusted
  have notIssued : ¬ recovery < ticket.issueSequence := not_lt.mpr (issued.trans later)
  by_cases valid : recovery ≤ ticket.expiresAtSequence
  · rw [if_pos valid, raiseIf_bind_of_not]
    · exact passed
    · simp only [not_or, not_not, ne_eq]
      exact ⟨digest, verified, issuer, key, notIssued, not_lt.mpr valid⟩
  · rw [if_neg valid, raiseIf, if_pos (by simp [not_le.mp valid])]
    rfl

theorem forM_checkTicket_later {items : Dict String TicketTemplate} (later : start ≤ recovery) :
    ∀ {tickets : List IssuedBudgetTicket}, tickets.forM (checkTicket items trust start) = .ok () →
      tickets.forM (checkTicket items trust recovery) =
        if ∀ ticket ∈ tickets, recovery ≤ ticket.expiresAtSequence then .ok ()
        else .error ⟨"ticket_sequence"⟩
  | [], _ => rfl
  | ticket :: rest, passed => by
      obtain ⟨_, first, passed⟩ := (bind_eq_ok _ _ _).mp passed
      show (checkTicket items trust recovery ticket >>= fun _ =>
        rest.forM (checkTicket items trust recovery)) = _
      rw [checkTicket_later later first]
      by_cases valid : recovery ≤ ticket.expiresAtSequence
      · rw [if_pos valid, ok_bind, forM_checkTicket_later later passed]
        simp only [List.forall_mem_cons, valid, true_and]
      · rw [if_neg valid, if_neg]
        · rfl
        · intro all
          exact valid (all ticket List.mem_cons_self)

theorem load_later (later : start ≤ recovery)
    (loaded : Book.load templates tickets manifestSha256 trust start = .ok book) :
    Book.load templates tickets manifestSha256 trust recovery =
      if ∀ ticket ∈ tickets, recovery ≤ ticket.expiresAtSequence then .ok book
      else .error ⟨"ticket_sequence"⟩ := by
  unfold Book.load at loaded ⊢
  obtain ⟨some, loaded⟩ := (raiseIf_bind_eq_ok _ _ _ _).mp loaded
  obtain ⟨templateIds, loaded⟩ := (raiseIf_bind_eq_ok _ _ _ _).mp loaded
  obtain ⟨ticketIds, loaded⟩ := (raiseIf_bind_eq_ok _ _ _ _).mp loaded
  obtain ⟨sequences, loaded⟩ := (raiseIf_bind_eq_ok _ _ _ _).mp loaded
  obtain ⟨bound, loaded⟩ := (raiseIf_bind_eq_ok _ _ _ _).mp loaded
  obtain ⟨known, loaded⟩ := (raiseIf_bind_eq_ok _ _ _ _).mp loaded
  obtain ⟨manifest, loaded⟩ := (raiseIf_bind_eq_ok _ _ _ _).mp loaded
  obtain ⟨identity, loaded⟩ := (raiseIf_bind_eq_ok _ _ _ _).mp loaded
  obtain ⟨_, passed, loaded⟩ := (bind_eq_ok _ _ _).mp loaded
  rw [raiseIf_bind_of_not some, raiseIf_bind_of_not templateIds, raiseIf_bind_of_not ticketIds,
    raiseIf_bind_of_not sequences, raiseIf_bind_of_not bound, raiseIf_bind_of_not known,
    raiseIf_bind_of_not manifest, raiseIf_bind_of_not identity,
    forM_checkTicket_later later passed]
  split
  · exact loaded
  · rfl

/-- A ledger is rebuilt from its events, whatever the calls were that led to it, as long as none
of the loaded tickets has expired; afterwards it no longer is. -/
theorem budget_ledger_recovers (templates : List TicketTemplate)
    (tickets : List IssuedBudgetTicket) (manifestSha256 : String) (trust : BudgetTrustContext)
    (start recovery : Int) (book : Book) (calls : List (Int × BudgetCall))
    (loaded : Book.load templates tickets manifestSha256 trust start = .ok book)
    (rising : (start :: calls.map Prod.fst ++ [recovery]).Pairwise (· ≤ ·)) :
    let ledger := afterCalls book Ledger.empty calls
    replay templates tickets manifestSha256 trust recovery ledger.events
        (ledger.stateDigest trust.sha256) =
      if ∀ ticket ∈ tickets, recovery ≤ ticket.expiresAtSequence then .ok (book, ledger)
      else .error ⟨"ticket_sequence"⟩ := by
  have later : start ≤ recovery := by
    rw [List.cons_append, List.pairwise_cons] at rising
    exact rising.1 recovery (List.mem_append_right _ (List.mem_singleton.mpr rfl))
  have journal : Journal book (afterCalls book Ledger.empty calls) := Journal.empty.afterCalls
  dsimp only
  unfold replay
  rw [raiseIf_bind_of_not]
  · rw [load_later later loaded]
    split
    · rw [ok_bind, journal.replays, ok_bind, raiseIf_bind_of_not (not_not.mpr rfl)]
    · rfl
  · rw [Ledger.stateDigest, Gateway.isSha256_digest]
    exact Bool.noConfusion

end Recovery

/-! ### One ticket -/

namespace BudgetSample

/-- A digest that counts the bytes. -/
abbrev trust : BudgetTrustContext where
  issuerId := "control"
  keyId := "k"
  verifiesTicket _ := true
  verifiesLease _ := true
  calibratedPositiveError := 16
  sha256 bytes := BitVec.ofNat 256 bytes.length

abbrev manifest : String := (0 : Digest).labelled ""

abbrev template : TicketTemplate where
  templateId := "template-1"
  executionPhaseOwner := .a
  configurationId := some .a
  problemId := none
  turn := none
  allowedRole := "developer"
  requestClass := .main
  usagePhase := "architecture"
  retryOwner := none
  maxInputTokens := 10000
  maxOutputTokens := 1500

abbrev signed (ticket : IssuedBudgetTicket) : IssuedBudgetTicket :=
  { ticket with ticketSha256 :=
      (domainDigest trust.sha256 "issued-budget-ticket" (.dict ticket.core)).labelled "" }

abbrev ticket (ticketId templateId : String) (issueSequence : Int) : IssuedBudgetTicket :=
  signed
    { ticketId, templateId, issueSequence
      campaignId := "campaign"
      manifestSha256 := manifest
      executionPhaseOwner := .a
      configurationId := some .a
      projectId := "project"
      taskId := "task"
      worker := "worker"
      matrixUserId := "@worker"
      allowedRole := "developer"
      effectiveRequestClass := .main
      usagePhase := "architecture"
      maxInputTokens := 10000
      maxOutputTokens := 1500
      expiresAtSequence := 10
      issuerId := "control"
      keyId := "k"
      ticketSha256 := ""
      signatureBase64 := "c2ln" }

abbrev lease : SignedTaskLease where
  campaignId := "campaign"
  configurationId := some .a
  executionPhaseOwner := .a
  problemId := "problem-1"
  turn := 1
  manifestSha256 := manifest
  projectId := "project"
  taskId := "task"
  worker := "worker"
  matrixUserId := "@worker"
  role := "developer"
  requestClass := .main
  issuedTicketIds := ["retry-ticket", "ticket-1"]
  expiresAtSequence := 10
  issuerId := "control"
  keyId := "k"
  issueSequence := 1
  coreSha256 := manifest
  signatureBase64 := "c2ln"

abbrev request : ReserveRequest where
  lease := lease
  requesterRole := "developer"
  tokenizerEstimate := 100
  calibratedPositiveError := 16
  serializedModelVisibleBytes := [123, 125]

abbrev usage : RawUsage where
  inputTokens := 90
  outputTokens := 40
  cacheReadTokens := none
  cacheWriteTokens := none
  reasoningTokens := some 10
  reasoningWithin := by decide
  cacheReadWithin := by decide
  cacheWriteWithin := by decide

abbrev retryTemplate : TicketTemplate :=
  { template with templateId := "retry-template", retryOwner := some .a }

abbrev templates : List TicketTemplate := [template, retryTemplate]

abbrev tickets : List IssuedBudgetTicket :=
  [ticket "ticket-1" "template-1" 1, ticket "retry-ticket" "retry-template" 2]

abbrev items : Dict String TicketTemplate :=
  [("template-1", template), ("retry-template", retryTemplate)]

abbrev book : Book where
  templates := items
  tickets := [("ticket-1", ticket "ticket-1" "template-1" 1),
    ("retry-ticket", ticket "retry-ticket" "retry-template" 2)]
  manifestSha256 := manifest
  trust := trust

theorem found : items.get? (ticket "ticket-1" "template-1" 1).templateId = some template := rfl

theorem retry_found :
    items.get? (ticket "retry-ticket" "retry-template" 2).templateId = some retryTemplate := rfl

theorem loaded : Book.load templates tickets manifest trust 2 = .ok book := by
  have passed : checkTicket items trust 2 (ticket "ticket-1" "template-1" 1) = .ok () := by
    unfold checkTicket
    rw [found, (expect_eq_ok _ _ _).mpr rfl, ok_bind,
      raiseIf_bind_of_not (by simp [IssuedBudgetTicket.core]), raiseIf_bind_of_not (by simp),
      (raiseIf_eq_ok _ _ _).mpr (by simp)]
  have retryPassed :
      checkTicket items trust 2 (ticket "retry-ticket" "retry-template" 2) = .ok () := by
    unfold checkTicket
    rw [retry_found, (expect_eq_ok _ _ _).mpr rfl, ok_bind,
      raiseIf_bind_of_not (by simp [IssuedBudgetTicket.core]), raiseIf_bind_of_not (by simp),
      (raiseIf_eq_ok _ _ _).mpr (by simp [requestLimit])]
  unfold Book.load
  rw [raiseIf_bind_of_not (by simp), raiseIf_bind_of_not (by simp), raiseIf_bind_of_not (by simp),
    raiseIf_bind_of_not (by simp), raiseIf_bind_of_not (by simp), raiseIf_bind_of_not (by simp),
    raiseIf_bind_of_not (by simp), raiseIf_bind_of_not (by simp)]
  refine (bind_eq_ok _ _ _).mpr ⟨⟨⟩, ?_, rfl⟩
  refine (bind_eq_ok _ _ _).mpr ⟨⟨⟩, passed, ?_⟩
  exact (bind_eq_ok _ _ _).mpr ⟨⟨⟩, retryPassed, rfl⟩

abbrev calls : List (Int × BudgetCall) :=
  [(2, .reserve "ticket-1" request), (2, .markDispatched "ticket-1"),
    (3, .settle "ticket-1" usage)]

theorem budget_ledger_recovers_sample :
    (replay templates tickets manifest trust 10 (afterCalls book Ledger.empty calls).events
      ((afterCalls book Ledger.empty calls).stateDigest trust.sha256)) =
        .ok (book, afterCalls book Ledger.empty calls) :=
  (budget_ledger_recovers _ _ _ _ 2 10 book calls loaded (by decide)).trans
    (if_pos (by decide))

/-- A sequence number later the same ledger is refused. -/
theorem expired_ticket_refused :
    Book.load templates tickets manifest trust 2 = .ok book ∧
      (afterCalls book Ledger.empty calls).events.length = 3 ∧
      replay templates tickets manifest trust 11 (afterCalls book Ledger.empty calls).events
        ((afterCalls book Ledger.empty calls).stateDigest trust.sha256) =
          .error ⟨"ticket_sequence"⟩ := by
  refine ⟨loaded, by decide +kernel, ?_⟩
  unfold replay
  rw [raiseIf_bind_of_not, load_later (by decide) loaded, if_neg (by decide)]
  · rfl
  · rw [Ledger.stateDigest, Gateway.isSha256_digest]
    exact Bool.noConfusion

end BudgetSample

end EgoAgent.SecureMemory
