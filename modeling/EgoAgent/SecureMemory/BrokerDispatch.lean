import EgoAgent.SecureMemory.BrokerBooks

/-!
When the books of a dispatch are closed: unless the first send fails with a kind that the ledger
does not take as a reason to retain.
-/

namespace EgoAgent.SecureMemory

open EgoAgent.Api

section Assembly

variable {φ : Type} {book : Book} {ledger : Ledger} {request : ModelRequest φ}
  {result : Except BrokerFault BrokerResponse} {after : Dispatching φ}

theorem booked_none {fault : BrokerFault} (sends : after.sends = []) :
    Booked request (.error fault) [] after := by
  refine ⟨?_, ?_, ?_, ?_⟩
  · rw [sends]
    rfl
  · rw [sends]
    exact Nat.zero_le _
  · intro second present
    rw [sends] at present
    cases present
  · intro ticketId moved
    cases moved

theorem booked_one {ticketId : String} {events : List BudgetEvent} {first : SendRecord φ}
    (trip : Trip book ledger ticketId (if result.isOk = true then .settled else .retained) events
      after.ledger)
    (sends : after.sends = [first]) (under : first.ticketId = ticketId) :
    Booked request result events after := by
  refine ⟨?_, ?_, ?_, ?_⟩
  · rw [trip.moved.1, sends, ← under]
    rfl
  · rw [sends]
    exact Nat.le_succ 1
  · intro second present
    rw [sends] at present
    cases present
  · intro other moved
    rw [trip.moved.2, List.mem_singleton] at moved
    subst moved
    obtain ⟨reservation, found, final⟩ := trip.found
    refine ⟨reservation, found, final.trans ?_⟩
    have last : (after.sends.map SendRecord.ticketId).getLast? = some other := by
      rw [sends, ← under]
      rfl
    rw [last]
    simp only [and_true]

theorem booked_two {retryId : String} {firstEvents secondEvents : List BudgetEvent}
    {middle : Ledger} {first second : SendRecord φ}
    (firstTrip : Trip book ledger request.ticketId .retained firstEvents middle)
    (secondTrip : Trip book middle retryId (if result.isOk = true then .settled else .retained)
      secondEvents after.ledger)
    (sends : after.sends = [first, second]) (firstUnder : first.ticketId = request.ticketId)
    (secondUnder : second.ticketId = retryId)
    (transient : ∃ original, second.books.reservations.get? request.ticketId = some original ∧
      original.state = .retained ∧
      original.retainedReason ∈ [some "429", some "5xx", some "timeout"]) :
    Booked request result (firstEvents ++ secondEvents) after := by
  obtain ⟨original, isOriginal, kept⟩ := firstTrip.found
  have different : request.ticketId ≠ retryId := by
    intro same
    have fresh := secondTrip.fresh
    rw [← same, isOriginal] at fresh
    cases fresh
  refine ⟨?_, ?_, ?_, ?_⟩
  · rw [movedTo, List.filter_append, List.map_append, ← movedTo, ← movedTo, firstTrip.moved.1,
      secondTrip.moved.1, sends, ← firstUnder, ← secondUnder]
    rfl
  · rw [sends]
    exact Nat.le_refl _
  · intro other present
    rw [sends] at present
    cases present
    exact transient
  · have last : (after.sends.map SendRecord.ticketId).getLast? = some retryId := by
      rw [sends, ← secondUnder]
      rfl
    intro ticketId moved
    rw [last]
    simp only [Option.some_inj]
    rw [movedTo, List.filter_append, List.map_append, ← movedTo, ← movedTo, firstTrip.moved.2,
      secondTrip.moved.2] at moved
    rcases List.mem_append.mp moved with isFirst | isSecond
    · rw [List.mem_singleton.mp isFirst, secondTrip.kept different]
      refine ⟨original, isOriginal, ?_⟩
      rw [if_neg fun both => different both.2.symm]
      exact kept
    · rw [List.mem_singleton.mp isSecond]
      obtain ⟨reservation, found, final⟩ := secondTrip.found
      refine ⟨reservation, found, final.trans ?_⟩
      simp only [and_true]

/-- What a dispatch has appended to the ledger is booked. -/
def KeepsBooks (request : ModelRequest φ) (before : Ledger)
    (outcome : Except BrokerFault BrokerResponse × Dispatching φ) : Prop :=
  ∃ events, outcome.2.ledger.events = before.events ++ events ∧
    Booked request outcome.1 events outcome.2

/-- After the first send, a call that closes the ticket with one more event is booked. -/
theorem keepsBooks_one {state : Dispatching φ} (journal : Journal book state.ledger)
    (fresh : state.sends = [])
    {later : Dispatching φ} {first second : BudgetEvent}
    (openedBy : OpenedBy book state.ledger request.ticketId first second)
    (ledger : later.ledger = state.ledger.opened first second) {send : SendRecord φ}
    (sends : later.sends = state.sends ++ [send]) (under : send.ticketId = request.ticketId)
    {outcome : Except BrokerFault BrokerResponse × Dispatching φ}
    (closes : Closes book request.ticketId later outcome) :
    KeepsBooks request state.ledger outcome := by
  obtain ⟨closing, admissible, isTicket, pushed, kept, final⟩ := closes
  rw [ledger] at admissible pushed
  have terminal :
      (if outcome.1.isOk = true then ReservationState.settled else .retained) = .settled ∨
      (if outcome.1.isOk = true then ReservationState.settled else .retained) = .retained := by
    split
    · exact .inl rfl
    · exact .inr rfl
  have trip := openedBy.trip journal admissible isTicket final terminal
  rw [← pushed] at trip
  refine ⟨_, trip.appended, booked_one trip ?_ under⟩
  rw [kept, sends, fresh]
  rfl

end Assembly

/-! ### The course of a dispatch -/

section Course

variable {φ : Type} [FloatText φ] {broker : Broker} {request : ModelRequest φ}
  {lease : SignedTaskLease} {requesterRole : String} {state : Dispatching φ}

theorem prepare_cases (journal : Journal broker.book state.ledger) :
    (∃ fault later, prepare broker request lease requesterRole state = (.error fault, later) ∧
      later.ledger = state.ledger ∧ later.sends = state.sends) ∨
    ∃ capability later first second, prepare broker request lease requesterRole state =
      (.ok capability, later) ∧ OpenedBy broker.book state.ledger request.ticketId first second ∧
      later.ledger = state.ledger.opened first second ∧ later.sends = state.sends := by
  unfold prepare
  rw [Effect.bind_apply]
  obtain ⟨sameLedger, sameSends⟩ := quiet_checkRequest broker request lease state
  rcases ran : checkRequest broker request lease state with ⟨fault | capability, later⟩
  · rw [ran] at sameLedger sameSends
    exact .inl ⟨fault, later, rfl, sameLedger, sameSends⟩
  · rw [ran] at sameLedger sameSends
    dsimp only at sameLedger sameSends ⊢
    rw [← sameLedger] at journal
    rw [Effect.bind_apply]
    rcases openTicket_cases journal (fun denied => .denied denied.code)
      (journal.opens_reserve _ _) with ⟨fault, opened⟩ | ⟨first, second, openedBy, opened⟩
    · rw [opened]
      exact .inl ⟨fault, later, rfl, sameLedger, sameSends⟩
    · rw [opened, ← sameLedger]
      exact .inr ⟨capability, _, first, second, rfl, openedBy, rfl, sameSends⟩

/-- A retry that is refused before its send, or made and closed under its own ticket. -/
theorem dispatchRetry_cases (journal : Journal broker.book state.ledger) (body : Json φ)
    (retryTicketId kind : String) :
    let outcome :=
      dispatchRetry broker request lease requesterRole body retryTicketId kind state
    (∃ fault, outcome.1 = .error fault ∧ outcome.2.ledger = state.ledger ∧
      outcome.2.sends = state.sends) ∨
    ∃ later first second send, OpenedBy broker.book state.ledger retryTicketId first second ∧
      later.ledger = state.ledger.opened first second ∧ later.sends = state.sends ++ [send] ∧
      send.ticketId = retryTicketId ∧ send.books = later.ledger ∧
      Closes broker.book retryTicketId later outcome := by
  unfold dispatchRetry
  rw [Effect.bind_apply]
  obtain ⟨sameLedger, sameSends⟩ := quiet_recheck broker kind state
  rcases ran : recheck broker kind state with ⟨fault | capability, later⟩
  · rw [ran] at sameLedger sameSends
    exact .inl ⟨fault, rfl, sameLedger, sameSends⟩
  · rw [ran] at sameLedger sameSends
    dsimp only at sameLedger sameSends ⊢
    rw [← sameLedger] at journal
    rw [Effect.bind_apply]
    rcases openTicket_cases journal .budget (journal.opens_reserveRetry _ _ _) with
      ⟨fault, opened⟩ | ⟨first, second, openedBy, opened⟩
    · rw [opened]
      exact .inl ⟨fault, rfl, sameLedger, sameSends⟩
    · rw [opened]
      right
      have journal := openedBy.journal journal
      obtain ⟨found, dispatched⟩ := openedBy.found
      refine ⟨{ later with
          ledger := later.ledger.opened first second
          sends := later.sends ++ [⟨request.providerBaseUrl, capability.method, capability.endpoint,
            body, retryTicketId, later.ledger.opened first second⟩] },
        first, second, _, sameLedger ▸ openedBy, by rw [sameLedger], by rw [sameSends], rfl,
        rfl, ?_⟩
      dsimp only
      rw [transportSend, Effect.write_bind]
      dsimp only
      cases broker.retrySend with
      | reply reply =>
          exact settleReply_closes journal found dispatched reply fun _ _ => closeTicket_of
      | failure _ =>
          obtain ⟨event, reservation, admissible, isTicket, retained, _, closed⟩ :=
            journal.retains found dispatched
              (show "provider_failure" ∈ allowedRetainReasons by decide)
          dsimp only
          rw [Effect.bind_apply, closeTicket_of closed]
          exact closes_retained admissible isTicket retained rfl rfl
      | raised =>
          obtain ⟨event, reservation, admissible, isTicket, retained, _, closed⟩ :=
            journal.retains found dispatched
              (show "provider_failure" ∈ allowedRetainReasons by decide)
          dsimp only
          rw [Effect.bind_apply, closeTicket_of closed]
          exact closes_retained admissible isTicket retained rfl rfl

/-- The first send is made, and fails with a kind that is no reason to retain. -/
def FailsUnnamed (broker : Broker) (request : ModelRequest φ) (lease : SignedTaskLease)
    (requesterRole : String) (state : Dispatching φ) : Prop :=
  (prepare broker request lease requesterRole state).1.isOk = true ∧
    ∃ kind, broker.firstSend = .failure kind ∧ kind ∉ allowedRetainReasons

omit [FloatText φ] in
/-- A ticket left DISPATCHED by a call that raises is not booked. -/
theorem not_keepsBooks_opened {before : Ledger} {first second : BudgetEvent}
    (openedBy : OpenedBy broker.book before request.ticketId first second) {fault : BrokerFault}
    {later : Dispatching φ} (ledger : later.ledger = before.opened first second) :
    ¬ KeepsBooks request before (.error fault, later) := by
  rintro ⟨events, appended, booked⟩
  have split : before.events ++ [first, second] = before.events ++ events := by
    rw [← appended, ledger, Ledger.opened, Ledger.push, Ledger.push, List.append_assoc]
    rfl
  have same := List.append_cancel_left split
  subst same
  have moved : request.ticketId ∈ movedTo .reserved [first, second] := by
    simp [movedTo, openedBy.reserved, openedBy.openingTicket]
  obtain ⟨reservation, found, final⟩ := booked.terminal _ moved
  obtain ⟨here, dispatched⟩ := openedBy.found
  rw [ledger, here] at found
  cases found
  rw [dispatched] at final
  cases final

/-- After a transient failure of the first send, the retry is booked with it. -/
theorem keepsBooks_retry (journal : Journal broker.book state.ledger) (fresh : state.sends = [])
    {later : Dispatching φ} {first second closing : BudgetEvent}
    (openedBy : OpenedBy broker.book state.ledger request.ticketId first second)
    (ledger : later.ledger = state.ledger.opened first second) {send : SendRecord φ}
    (sends : later.sends = state.sends ++ [send]) (under : send.ticketId = request.ticketId)
    (admissible : Admissible broker.book later.ledger closing)
    (isTicket : closing.ticketId = request.ticketId) (retained : closing.state = .retained)
    {kind : String} (reason : closing.retainedReason = some kind)
    (transient : kind ∈ ["429", "5xx", "timeout"]) (retryTicketId : String) (body : Json φ) :
    KeepsBooks request state.ledger (dispatchRetry broker request lease requesterRole body
      retryTicketId kind { later with ledger := later.ledger.push closing }) := by
  have opened := openedBy.journal journal
  rw [← ledger] at opened
  rcases @dispatchRetry_cases φ _ broker request lease requesterRole
    { later with ledger := later.ledger.push closing } (opened.push admissible) body
    retryTicketId kind with ⟨fault, raised, kept, keptSends⟩ |
      ⟨last, third, fourth, retry, retryOpened, lastLedger, lastSends, retryUnder, books, closes⟩
  · refine keepsBooks_one journal fresh openedBy ledger sends under
      ⟨closing, admissible, isTicket, kept, keptSends, ?_⟩
    rw [raised]
    exact retained
  · obtain ⟨final, finalAdmissible, finalTicket, pushed, keptSends, finalState⟩ := closes
    have admissible' := admissible
    rw [ledger] at admissible'
    have firstTrip := openedBy.trip journal admissible' isTicket retained (.inr rfl)
    rw [← ledger] at firstTrip
    rw [lastLedger] at finalAdmissible pushed
    have secondTrip := retryOpened.trip firstTrip.journal finalAdmissible finalTicket finalState
      (by split <;> simp)
    rw [← pushed] at secondTrip
    refine ⟨_, secondTrip.appended.trans ?_, booked_two firstTrip secondTrip ?_ under retryUnder ?_⟩
    · rw [firstTrip.appended, List.append_assoc]
    · rw [keptSends, lastSends, sends, fresh]
      rfl
    · obtain ⟨original, isOriginal, _⟩ := firstTrip.found
      have different : request.ticketId ≠ retryTicketId := by
        intro same
        have unreserved := secondTrip.fresh
        rw [← same, isOriginal] at unreserved
        cases unreserved
      refine ⟨closing.reservation, ?_, retained, ?_⟩
      · rw [books, lastLedger, Ledger.opened,
          push_found_ne _ _ (by rw [retryOpened.markingTicket]; exact different),
          push_found_ne _ _ (by rw [retryOpened.openingTicket]; exact different), ← isTicket]
        exact push_found _ _
      · show closing.retainedReason ∈ _
        rw [reason]
        exact List.mem_map_of_mem transient

/-- The books of a dispatch are closed, on any ledger that earlier calls have led to, unless the
first send is made and fails with a kind outside the reasons to retain. -/
theorem dispatch_keeps_books_iff (broker : Broker) (calls : List (Int × BudgetCall))
    (capability : ProviderCapabilityRecord) (request : ModelRequest φ) (lease : SignedTaskLease)
    (requesterRole : String) (retryTicketId : Option String) :
    let ledger := afterCalls broker.book Ledger.empty calls
    KeepsBooks request ledger
        (dispatch broker request lease requesterRole retryTicketId ⟨ledger, capability, []⟩) ↔
      ¬ FailsUnnamed broker request lease requesterRole ⟨ledger, capability, []⟩ := by
  dsimp only
  generalize isLedger : afterCalls broker.book Ledger.empty calls = ledger
  have journal : Journal broker.book ledger := isLedger ▸ Journal.empty.afterCalls
  generalize isState : (⟨ledger, capability, []⟩ : Dispatching φ) = state
  have sameLedger : state.ledger = ledger := by rw [← isState]
  have fresh : state.sends = [] := by rw [← isState]
  rw [← sameLedger] at journal ⊢
  unfold dispatch FailsUnnamed
  rw [Effect.bind_apply]
  rcases @prepare_cases φ _ broker request lease requesterRole state journal with
    ⟨fault, later, ran, kept, keptSends⟩ |
      ⟨capability, later, first, second, ran, openedBy, kept, keptSends⟩
  · rw [ran]
    refine iff_of_true ⟨[], by rw [List.append_nil]; exact congrArg Ledger.events kept,
      booked_none (keptSends.trans fresh)⟩ ?_
    rintro ⟨passed, _⟩
    cases passed
  · rw [ran]
    obtain ⟨sent, send, isSent, sentLedger, sentSends, under⟩ : ∃ sent send,
        transportSend request capability (request.body capability) request.ticketId later =
          (.ok (), sent) ∧ sent.ledger = later.ledger ∧ sent.sends = later.sends ++ [send] ∧
          send.ticketId = request.ticketId := ⟨_, _, rfl, rfl, rfl, rfl⟩
    rw [kept] at sentLedger
    rw [keptSends] at sentSends
    dsimp only
    rw [Effect.bind_apply, isSent]
    have opened : Journal broker.book sent.ledger := sentLedger ▸ openedBy.journal journal
    obtain ⟨found, dispatched⟩ := openedBy.found
    rw [← sentLedger] at found
    cases broker.firstSend with
    | reply reply =>
        refine iff_of_true (keepsBooks_one journal fresh openedBy sentLedger sentSends under ?_) ?_
        · refine settleReply_closes opened found dispatched reply fun _ _ closed => ?_
          unfold closeTicketQuietly
          rw [closed]
        · rintro ⟨_, kind, failed, _⟩
          cases failed
    | failure kind =>
        dsimp only
        rw [Effect.bind_apply]
        by_cases allowed : kind ∈ allowedRetainReasons
        · obtain ⟨closing, reservation, admissible, isTicket, retained, reason, closed⟩ :=
            opened.retains found dispatched allowed
          rw [closeTicket_of closed]
          have refused : KeepsBooks request state.ledger
              ((.error (.denied "provider_failure"),
                { sent with ledger := sent.ledger.push closing }) :
                Except BrokerFault BrokerResponse × Dispatching φ) :=
            keepsBooks_one journal fresh openedBy sentLedger sentSends under
              (closes_retained admissible isTicket retained rfl rfl)
          refine iff_of_true ?_ ?_
          · cases retryTicketId with
            | none => exact refused
            | some retryTicketId =>
                dsimp only
                split
                · rename_i transient
                  exact keepsBooks_retry journal fresh openedBy sentLedger sentSends under
                    admissible isTicket retained reason transient retryTicketId _
                · exact refused
          · rintro ⟨_, other, same, unnamed⟩
            cases same
            exact unnamed allowed
        · have closed : closeTicket broker request.ticketId kind sent =
              (.error (.budget ⟨"retain_reason"⟩), sent) := by
            unfold closeTicket onLedger
            rw [Effect.bind_apply, retain_refused allowed]
          rw [closed]
          refine iff_of_false (not_keepsBooks_opened openedBy sentLedger) fun right => ?_
          exact right ⟨rfl, kind, rfl, allowed⟩
    | raised =>
        dsimp only
        rw [Effect.bind_apply]
        obtain ⟨closing, reservation, admissible, isTicket, retained, _, closed⟩ :=
          opened.retains found dispatched (show "provider_failure" ∈ allowedRetainReasons by decide)
        rw [closeTicket_of closed]
        refine iff_of_true (keepsBooks_one journal fresh openedBy sentLedger sentSends under
          (closes_retained admissible isTicket retained rfl rfl)) ?_
        rintro ⟨_, kind, failed, _⟩
        cases failed

end Course

/-! ### A failure of an unlisted kind -/

namespace BudgetSample

abbrev capability : ProviderCapabilityRecord where
  state := .qualified
  baseUrl := "https://apihub.agnes-ai.com/v1"
  endpoint := "/chat/completions"
  method := "POST"
  model := "agnes-2.5-pro"
  hardOutputLimit := true
  roleAttribution := true
  authoritativeUsage := true
  streamingSemantics := true
  zeroBackgroundCalls := true
  calibratedPositiveError := 16
  temperaturePresent := true
  topPPresent := true
  issueSequence := 0
  expiresAtSequence := 100

abbrev modelRequest : ModelRequest Empty where
  campaignId := "campaign"
  leaseSha256 := manifest
  ticketId := "ticket-1"
  requestClass := .main
  providerBaseUrl := "https://apihub.agnes-ai.com/v1"
  providerModel := "agnes-2.5-pro"
  messages := [.dict [("role", .str "user"), ("content", .str "hello")]]
  maxInputTokens := 10000
  maxOutputTokens := 1500
  temperature := some 0
  topP := some 1
  stream := true
  tools := []

/-- A broker whose transport cannot resolve the provider. -/
abbrev broker : Broker where
  book := book
  verifiesLease _ := true
  verifiesTicket _ := true
  tokenizer _ := 100
  scanner _ := true
  backoffObserver _ := .ok ()
  firstSequence := some 2
  retrySequence := some 2
  reserveSequence := 2
  reserveRetrySequence := 2
  firstSend := .failure "dns"
  retrySend := .raised

abbrev unresolved : Except BrokerFault BrokerResponse × Dispatching Empty :=
  dispatch broker modelRequest lease "developer" none ⟨Ledger.empty, capability, []⟩

/-- The ledger refuses the kind, and the ticket stays DISPATCHED. -/
theorem left_dispatched :
    Book.load templates tickets manifest trust 2 = .ok book ∧
      ¬ KeepsBooks modelRequest Ledger.empty unresolved := by
  refine ⟨loaded, ?_⟩
  have state : (unresolved.2.ledger.reservations.get? "ticket-1").map Reservation.state =
      some .dispatched := by
    decide +kernel
  have moved : "ticket-1" ∈ movedTo .reserved unresolved.2.ledger.events := by
    decide +kernel
  rintro ⟨events, appended, booked⟩
  have same : unresolved.2.ledger.events = events := appended
  rw [same] at moved
  obtain ⟨reservation, found, final⟩ := booked.terminal _ moved
  rw [found, Option.map_some, Option.some_inj, final] at state
  split at state <;> cases state

end BudgetSample

end EgoAgent.SecureMemory
