import EgoAgent.SecureMemory.Budget

/-!
What one event may record, and that both the live operations and the replay only append such
events.
-/

namespace EgoAgent.SecureMemory

open EgoAgent.Api

/-! ### Admissible events -/

/-- The figures are those of a reservation of this ticket. -/
structure Figures.Fit (trust : BudgetTrustContext) (ticket : IssuedBudgetTicket)
    (figures : Figures) : Prop where
  estimate : 0 ≤ figures.tokenizerEstimate
  calibration : 0 ≤ figures.calibratedPositiveError
  length : 0 ≤ figures.modelVisibleByteLength
  calibrated : figures.calibratedPositiveError = trust.calibratedPositiveError
  input : figures.reservedInput = max
    (figures.tokenizerEstimate + figures.calibratedPositiveError + 512)
    (figures.modelVisibleByteLength + 1024)
  output : figures.reservedOutput = ticket.maxOutputTokens
  inputTicket : figures.reservedInput ≤ ticket.maxInputTokens
  inputClass : figures.reservedInput ≤ (requestLimit ticket.effectiveRequestClass).maxInput
  outputClass : figures.reservedOutput ≤ (requestLimit ticket.effectiveRequestClass).maxOutput

/-- The usage and the reason are those of the state. -/
def Reservation.Closed (reservation : Reservation) : Prop :=
  match reservation.state with
  | .reserved | .dispatched =>
      reservation.settledUsage = none ∧ reservation.retainedReason = none
  | .settled => reservation.retainedReason = none ∧ ∃ usage : RawUsage,
      reservation.settledUsage = some usage.settled ∧
        usage.inputTokens ≤ reservation.figures.reservedInput ∧
        usage.outputTokens ≤ reservation.figures.reservedOutput
  | .retained => reservation.settledUsage = none ∧
      ∃ reason ∈ allowedRetainReasons, reservation.retainedReason = some reason

/-- The states that follow one another. -/
inductive Follows : ReservationState → ReservationState → Prop
  | dispatched : Follows .reserved .dispatched
  | settled : Follows .dispatched .settled
  | retained : Follows .dispatched .retained

/-- The event opens a reservation within the caps, or moves one on. -/
def Moves (ledger : Ledger) (event : BudgetEvent) : Prop :=
  match ledger.reservations.get? event.ticketId with
  | none => event.previousState = none ∧ event.state = .reserved ∧
      event.templateId ∉ ledger.usedTemplates ∧
      ¬ (ledger.nextTotal event.figures).exceeds campaignReservation
  | some prior => event.previousState = some prior.state ∧ event.figures = prior.figures ∧
      Follows prior.state event.state

structure Admissible (book : Book) (ledger : Ledger) (event : BudgetEvent) : Prop where
  sequence : event.sequence = ledger.events.length + 1
  chain : event.previousEventSha256 = ledger.lastSha256
  digest : event.eventSha256 = eventSha256 book.trust.sha256 event
  ticket : ∃ ticket, book.tickets.get? event.ticketId = some ticket ∧
    ticket.templateId = event.templateId ∧ event.figures.Fit book.trust ticket
  moves : Moves ledger event
  closed : event.reservation.Closed

/-- The ledger after one more event. -/
def Ledger.push (ledger : Ledger) (event : BudgetEvent) : Ledger where
  usedTemplates := if (ledger.reservations.get? event.ticketId).isNone
    then event.templateId :: ledger.usedTemplates else ledger.usedTemplates
  events := ledger.events ++ [event]
  reservations := ledger.reservations.set event.ticketId event.reservation

theorem not_follows_reserved (prior : ReservationState) : ¬ Follows prior .reserved := nofun

section

variable {ledger : Ledger} {book : Book}

variable {event : BudgetEvent}

/-- An event that opens a ticket finds it unreserved. -/
theorem Admissible.opens_fresh
    (admissible : Admissible book ledger event) (reserved : event.state = .reserved) :
    ledger.reservations.get? event.ticketId = none := by
  have moves := admissible.moves
  unfold Moves at moves
  cases isPrior : ledger.reservations.get? event.ticketId with
  | none => rfl
  | some prior =>
      rw [isPrior, reserved] at moves
      exact absurd moves.2.2 (not_follows_reserved _)

/-- The ledgers that grow from an empty one by admissible events. -/
inductive Journal (book : Book) : Ledger → Prop
  | empty : Journal book Ledger.empty
  | push {ledger : Ledger} {event : BudgetEvent} (journal : Journal book ledger)
      (admissible : Admissible book ledger event) : Journal book (ledger.push event)

/-! ### Replayed events -/

theorem exceeds_absolute {total : BudgetTriple} (above : total.exceeds campaignAbsolute) :
    total.exceeds campaignReservation := by
  simp only [BudgetTriple.exceeds, campaignAbsolute, campaignReservation] at above ⊢
  omega

theorem checkTransition_eq_ok (ledger : Ledger) (event : BudgetEvent) :
    checkTransition ledger event = .ok () ↔ Moves ledger event := by
  unfold checkTransition Moves
  cases ledger.reservations.get? event.ticketId with
  | none =>
      dsimp only
      rw [raiseIf_bind_eq_ok, raiseIf_bind_eq_ok, raiseIf_eq_ok, not_or, not_not, not_not, not_or]
      constructor
      · rintro ⟨⟨opens, reserved⟩, unused, within, _⟩
        exact ⟨opens, reserved, unused, within⟩
      · rintro ⟨opens, reserved, unused, within⟩
        exact ⟨⟨opens, reserved⟩, unused, within, fun above => within (exceeds_absolute above)⟩
  | some prior =>
      dsimp only
      rw [raiseIf_eq_ok]
      have steps : (¬ ((prior.state = .reserved ∧ event.state ≠ .dispatched) ∨
          (prior.state = .dispatched ∧ event.state ∉ [.settled, .retained]) ∨
            prior.state ∈ [.settled, .retained])) ↔ Follows prior.state event.state := by
        cases prior.state <;> cases event.state <;> constructor <;> intro holds <;>
          first
          | (exfalso; revert holds; decide)
          | constructor
          | (cases holds; done)
          | decide
      rw [← steps]
      simp only [not_or, not_not, ne_eq]

theorem settled_eq_iff (usage : SettledUsage) : usage = usage.rawUsage.settled ↔
    usage.budgetInput = usage.rawUsage.inputTokens ∧
      usage.budgetOutput = usage.rawUsage.outputTokens ∧
      usage.comparableInput = usage.rawUsage.inputTokens ∧
      usage.comparableOutput = usage.rawUsage.outputTokens := by
  obtain ⟨raw, input, output, comparableInput, comparableOutput⟩ := usage
  simp [RawUsage.settled]

theorem checkTerminal_eq_ok (event : BudgetEvent) :
    checkTerminal event = .ok () ↔ event.reservation.Closed := by
  obtain ⟨sequence, ticketId, templateId, previous, state, figures, usage, reason, before,
    digest⟩ := event
  unfold checkTerminal Reservation.Closed BudgetEvent.reservation
  rw [raiseIf_bind_eq_ok, raiseIf_bind_eq_ok, raiseIf_bind_eq_ok, raiseIf_eq_ok]
  dsimp only
  cases state with
  | reserved => simp
  | dispatched => simp
  | settled =>
      cases usage with
      | none => simp
      | some usage =>
          have same := settled_eq_iff usage
          simp only [reduceCtorEq, List.mem_cons, List.not_mem_nil, or_self, false_and,
            not_false_iff, true_and, false_or, not_not, ne_eq, Option.mem_some_iff,
            exists_eq_left', not_or, not_lt, and_true, Option.some.injEq]
          refine and_congr_right fun _ => ?_
          constructor
          · rintro ⟨input, output, rest⟩
            exact ⟨usage.rawUsage, same.mpr rest, input, output⟩
          · rintro ⟨raw, rfl, input, output⟩
            exact ⟨input, output, rfl, rfl, rfl, rfl⟩
  | retained =>
      simp only [reduceCtorEq, List.mem_cons, List.not_mem_nil, or_self, false_and, not_false_iff,
        true_and, not_or, not_not, ne_eq, List.mem_map]
      refine and_congr_right fun _ => ?_
      constructor
      · rintro ⟨allowed, isAllowed, rfl⟩
        exact ⟨allowed, isAllowed, rfl⟩
      · rintro ⟨allowed, isAllowed, rfl⟩
        exact ⟨allowed, isAllowed, rfl⟩

/-- What replay checks of the figures. -/
theorem fit_iff (trust : BudgetTrustContext) (ticket : IssuedBudgetTicket) (figures : Figures) :
    (¬ (min (min figures.tokenizerEstimate figures.calibratedPositiveError)
        figures.modelVisibleByteLength < 0) ∧
      ¬ (figures.calibratedPositiveError ≠ trust.calibratedPositiveError ∨
        figures.reservedInput ≠ max
          (figures.tokenizerEstimate + figures.calibratedPositiveError + 512)
          (figures.modelVisibleByteLength + 1024) ∨
        figures.reservedOutput ≠ ticket.maxOutputTokens) ∧
      ¬ (ticket.maxInputTokens < figures.reservedInput ∨
        ticket.maxOutputTokens < figures.reservedOutput ∨
        (requestLimit ticket.effectiveRequestClass).maxInput < figures.reservedInput ∨
        (requestLimit ticket.effectiveRequestClass).maxOutput < figures.reservedOutput)) ↔
      figures.Fit trust ticket := by
  constructor
  · rintro ⟨positive, equal, within⟩
    constructor <;> omega
  · rintro ⟨estimate, calibration, length, calibrated, input, output, inputTicket, inputClass,
      outputClass⟩
    refine ⟨?_, ?_, ?_⟩ <;> omega

/-- Replay accepts the admissible events, and appends them. -/
theorem replayEvent_eq_ok {ledger later : Ledger} :
    replayEvent book ledger event = .ok later ↔
      Admissible book ledger event ∧ later = ledger.push event := by
  unfold replayEvent
  constructor
  · intro replayed
    obtain ⟨sequence, replayed⟩ := (raiseIf_bind_eq_ok _ _ _ _).mp replayed
    obtain ⟨chain, replayed⟩ := (raiseIf_bind_eq_ok _ _ _ _).mp replayed
    obtain ⟨ticket, found, replayed⟩ := (bind_eq_ok _ _ _).mp replayed
    obtain ⟨template, replayed⟩ := (raiseIf_bind_eq_ok _ _ _ _).mp replayed
    obtain ⟨_, moved, replayed⟩ := (bind_eq_ok _ _ _).mp replayed
    obtain ⟨digest, replayed⟩ := (raiseIf_bind_eq_ok _ _ _ _).mp replayed
    obtain ⟨positive, replayed⟩ := (raiseIf_bind_eq_ok _ _ _ _).mp replayed
    obtain ⟨equal, replayed⟩ := (raiseIf_bind_eq_ok _ _ _ _).mp replayed
    obtain ⟨within, replayed⟩ := (raiseIf_bind_eq_ok _ _ _ _).mp replayed
    obtain ⟨_, closed, replayed⟩ := (bind_eq_ok _ _ _).mp replayed
    cases replayed
    exact ⟨⟨not_not.mp sequence, not_not.mp chain, not_not.mp digest,
      ⟨ticket, (expect_eq_ok _ _ _).mp found, not_not.mp template,
        (fit_iff _ _ _).mp ⟨positive, equal, within⟩⟩,
      (checkTransition_eq_ok _ _).mp moved, (checkTerminal_eq_ok _).mp closed⟩, rfl⟩
  · rintro ⟨⟨sequence, chain, digest, ⟨ticket, found, template, fit⟩, moved, closed⟩, rfl⟩
    obtain ⟨positive, equal, within⟩ := (fit_iff _ _ _).mpr fit
    rw [raiseIf_bind_of_not (not_not.mpr sequence), raiseIf_bind_of_not (not_not.mpr chain),
      (expect_eq_ok _ _ _).mpr found, ok_bind, raiseIf_bind_of_not (not_not.mpr template),
      (checkTransition_eq_ok _ _).mpr moved, ok_bind, raiseIf_bind_of_not (not_not.mpr digest),
      raiseIf_bind_of_not positive, raiseIf_bind_of_not equal, raiseIf_bind_of_not within,
      (checkTerminal_eq_ok _).mpr closed, ok_bind]
    rfl

/-- So a replay is a journal. -/
theorem Journal.replayed {book : Book} : ∀ {events : List BudgetEvent} {ledger later : Ledger},
    Journal book ledger → events.foldlM (replayEvent book) ledger = .ok later → Journal book later
  | [], _, _, journal, replayed => by
      cases replayed
      exact journal
  | event :: rest, ledger, later, journal, replayed => by
      rw [List.foldlM_cons] at replayed
      obtain ⟨middle, first, replayed⟩ := (bind_eq_ok _ _ _).mp replayed
      obtain ⟨admissible, rfl⟩ := replayEvent_eq_ok.mp first
      exact Journal.replayed (journal.push admissible) replayed

/-- And a journal is replayed by its own events. -/
theorem Journal.replays (journal : Journal book ledger) :
    ledger.events.foldlM (replayEvent book) Ledger.empty = .ok ledger := by
  induction journal with
  | empty => rfl
  | push journal admissible ih =>
      rename_i before event
      have events : (before.push event).events = before.events ++ [event] := rfl
      rw [events, List.foldlM_append, ih, ok_bind]
      exact (bind_eq_ok _ _ _).mpr
        ⟨_, replayEvent_eq_ok.mpr ⟨admissible, rfl⟩, rfl⟩

/-! ### Reservations of a journal -/

/-- What every reservation is. -/
structure Reservation.Held (book : Book) (ticketId : String) (reservation : Reservation) :
    Prop where
  own : reservation.ticketId = ticketId
  ticket : ∃ ticket, book.tickets.get? ticketId = some ticket ∧
    ticket.templateId = reservation.templateId ∧ reservation.figures.Fit book.trust ticket
  closed : reservation.Closed

theorem Admissible.held (admissible : Admissible book ledger event) :
    event.reservation.Held book event.ticketId :=
  ⟨rfl, admissible.ticket, admissible.closed⟩

variable {ticketId : String}

theorem Journal.held (journal : Journal book ledger) {reservation : Reservation}
    (found : ledger.reservations.get? ticketId = some reservation) :
    reservation.Held book ticketId := by
  induction journal with
  | empty => cases found
  | push journal admissible ih =>
      rename_i before event
      by_cases same : ticketId = event.ticketId
      · rw [same, Ledger.push, Dict.get?_set_self] at found
        cases found
        rw [same]
        exact admissible.held
      · rw [Ledger.push, Dict.get?_set_ne _ _ same] at found
        exact ih found

/-! ### Live operations -/

theorem append_apply (trust : BudgetTrustContext) (reservation : Reservation) (ledger : Ledger) :
    append trust reservation ledger =
      let event := ledger.nextEvent trust.sha256 reservation
      (.ok event.reservation, { ledger with
        events := ledger.events ++ [event]
        reservations := ledger.reservations.set event.ticketId event.reservation }) := rfl

theorem eventSha256_nextEvent (sha256 : Bytes → Digest) (ledger : Ledger)
    (reservation : Reservation) :
    (ledger.nextEvent sha256 reservation).eventSha256 =
      eventSha256 sha256 (ledger.nextEvent sha256 reservation) := by
  simp only [Ledger.nextEvent, eventSha256, BudgetEvent.core]

theorem require_eq {allowed : ReservationState} :
    (∃ code, require ticketId allowed ledger = (.error code, ledger)) ∨
      ∃ value, ledger.reservations.get? ticketId = some value ∧ value.state = allowed ∧
        require ticketId allowed ledger = (.ok value, ledger) := by
  unfold require
  rw [Effect.read_bind, Effect.check_bind_apply]
  cases found : ledger.reservations.get? ticketId with
  | none => exact .inl ⟨_, rfl⟩
  | some value =>
      by_cases same : value.state = allowed
      · refine .inr ⟨value, rfl, same, ?_⟩
        rw [(expect_eq_ok _ _ _).mpr rfl]
        dsimp only
        rw [(raiseIf_eq_ok _ _ ()).mpr (not_not.mpr same), Effect.check_ok_bind]
        rfl
      · refine .inl ⟨⟨"already_terminal"⟩, ?_⟩
        rw [(expect_eq_ok _ _ _).mpr rfl]
        dsimp only
        rw [raiseIf, if_pos same]
        rfl

/-- An event that moves a held reservation on is admissible. -/
theorem moved_admissible (journal : Journal book ledger) {value : Reservation}
    (found : ledger.reservations.get? ticketId = some value) (next : Reservation)
    (sameTicket : next.ticketId = value.ticketId)
    (sameTemplate : next.templateId = value.templateId)
    (sameFigures : next.figures = value.figures) (follows : Follows value.state next.state)
    (closed : next.Closed) :
    Admissible book ledger (ledger.nextEvent book.trust.sha256 next) ∧
      (append book.trust next ledger).2 =
        ledger.push (ledger.nextEvent book.trust.sha256 next) := by
  have held := journal.held found
  have here : ledger.reservations.get? next.ticketId = some value := by
    rw [sameTicket, held.own, found]
  constructor
  · refine ⟨rfl, rfl, eventSha256_nextEvent _ _ _, ?_, ?_, ?_⟩
    · obtain ⟨ticket, isTicket, template, fit⟩ := held.ticket
      refine ⟨ticket, ?_, ?_, ?_⟩
      · show book.tickets.get? next.ticketId = some ticket
        rw [sameTicket, held.own, isTicket]
      · exact template.trans sameTemplate.symm
      · show next.figures.Fit book.trust ticket
        rw [sameFigures]
        exact fit
    · show Moves ledger (ledger.nextEvent book.trust.sha256 next)
      unfold Moves
      have ticketId : (ledger.nextEvent book.trust.sha256 next).ticketId = next.ticketId := rfl
      rw [ticketId, here]
      refine ⟨?_, sameFigures, follows⟩
      show (ledger.reservations.get? next.ticketId).map Reservation.state = some value.state
      rw [here]
      rfl
    · exact closed
  · rw [append_apply]
    have ticketId : (ledger.nextEvent book.trust.sha256 next).ticketId = next.ticketId := rfl
    unfold Ledger.push
    rw [ticketId, here]
    rfl

/-- `mark_dispatched` raises, or moves a reservation on. -/
theorem markDispatched_cases (book : Book) (ticketId : String) (ledger : Ledger) :
    (∃ denied, markDispatched book ticketId ledger = (.error denied, ledger)) ∨
      ∃ value, ledger.reservations.get? ticketId = some value ∧ value.state = .reserved ∧
        markDispatched book ticketId ledger =
          append book.trust { value with state := .dispatched } ledger := by
  unfold markDispatched
  rw [Effect.bind_apply]
  rcases require_eq with ⟨denied, required⟩ | ⟨value, found, state, required⟩
  · rw [required]
    exact .inl ⟨denied, rfl⟩
  · rw [required]
    exact .inr ⟨value, found, state, rfl⟩

theorem retain_cases (book : Book) (ticketId reason : String) (ledger : Ledger) :
    (∃ denied, retain book ticketId reason ledger = (.error denied, ledger)) ∨
      ∃ value, reason ∈ allowedRetainReasons ∧
        ledger.reservations.get? ticketId = some value ∧ value.state = .dispatched ∧
        retain book ticketId reason ledger = append book.trust
          { value with state := .retained, retainedReason := some reason } ledger := by
  unfold retain
  by_cases allowed : reason ∈ allowedRetainReasons
  · rw [(raiseIf_eq_ok _ _ ()).mpr (not_not.mpr allowed), Effect.check_ok_bind, Effect.bind_apply]
    rcases require_eq with ⟨denied, required⟩ | ⟨value, found, state, required⟩
    · rw [required]
      exact .inl ⟨denied, rfl⟩
    · rw [required]
      exact .inr ⟨value, allowed, found, state, rfl⟩
  · rw [raiseIf, if_pos allowed]
    exact .inl ⟨_, rfl⟩

theorem settle_cases (book : Book) (ticketId : String) (usage : RawUsage) (ledger : Ledger) :
    (∃ denied, settle book ticketId usage ledger = (.error denied, ledger)) ∨
      ∃ value, ledger.reservations.get? ticketId = some value ∧ value.state = .dispatched ∧
        usage.inputTokens ≤ value.figures.reservedInput ∧
        usage.outputTokens ≤ value.figures.reservedOutput ∧
        settle book ticketId usage ledger = (.ok usage.settled, (append book.trust
          { value with state := .settled, settledUsage := some usage.settled } ledger).2) := by
  unfold settle
  rw [Effect.bind_apply]
  rcases require_eq with ⟨denied, required⟩ | ⟨value, found, state, required⟩
  · rw [required]
    exact .inl ⟨denied, rfl⟩
  · rw [required]
    dsimp only
    by_cases above : value.figures.reservedInput < usage.inputTokens ∨
        value.figures.reservedOutput < usage.outputTokens
    · rw [raiseIf, if_pos above]
      exact .inl ⟨_, rfl⟩
    · rw [(raiseIf_eq_ok _ _ ()).mpr above, Effect.check_ok_bind]
      rw [not_or, not_lt, not_lt] at above
      exact .inr ⟨value, found, state, above.1, above.2, rfl⟩

/-- The reservation that `reserve` makes. -/
def ReserveRequest.opening (request : ReserveRequest) (ticketId : String)
    (ticket : IssuedBudgetTicket) : Reservation where
  ticketId := ticketId
  templateId := ticket.templateId
  figures := request.figures ticket
  state := .reserved
  sequence := 0
  settledUsage := none
  retainedReason := none

/-- What `reserve` has found when it reserves. -/
structure Reserves (book : Book) (ticketId : String) (request : ReserveRequest)
    (ticket : IssuedBudgetTicket) (ledger : Ledger) : Prop where
  known : book.tickets.get? ticketId = some ticket
  unused : ticket.templateId ∉ ledger.usedTemplates
  unreserved : ledger.reservations.get? ticketId = none
  fit : (request.figures ticket).Fit book.trust ticket
  within : ¬ (ledger.nextTotal (request.figures ticket)).exceeds campaignReservation

/-- Nothing is written before the last check. -/
theorem reserve_atomic (book : Book) (current : Int) (ticketId : String)
    (request : ReserveRequest) (ledger : Ledger) :
    Effect.Atomic (reserve book current ticketId request) ledger := by
  unfold reserve
  refine Effect.keeps_check_bind _ _ fun _ _ => ?_
  refine Effect.keeps_check_bind _ _ fun _ _ => ?_
  refine Effect.keeps_check_bind _ _ fun ticket _ => ?_
  refine Effect.keeps_check_bind _ _ fun template _ => ?_
  refine Effect.keeps_check_bind _ _ fun _ _ => ?_
  refine Effect.keeps_read_bind _ ?_
  iterate 11 refine Effect.keeps_check_bind _ _ fun _ _ => ?_
  exact Effect.keeps_of_returns ⟨_, _, rfl⟩

theorem reserve_cases (book : Book) (current : Int) (ticketId : String)
    (request : ReserveRequest) (ledger : Ledger) :
    (∃ denied, reserve book current ticketId request ledger = (.error denied, ledger)) ∨
      ∃ ticket, Reserves book ticketId request ticket ledger ∧
        reserve book current ticketId request ledger =
          append book.trust (request.opening ticketId ticket)
            { ledger with usedTemplates := ticket.templateId :: ledger.usedTemplates } := by
  rcases ran : reserve book current ticketId request ledger with ⟨denied | reservation, later⟩
  · left
    exact ⟨denied, Prod.ext rfl
      (reserve_atomic book current ticketId request ledger denied later ran)⟩
  · right
    unfold reserve at ran
    obtain ⟨positive, ran⟩ := (Effect.raiseIf_bind_eq_ok _ _ _ _ _ _).mp ran
    obtain ⟨calibrated, ran⟩ := (Effect.raiseIf_bind_eq_ok _ _ _ _ _ _).mp ran
    obtain ⟨ticket, known, ran⟩ := (Effect.check_bind_eq_ok _ _ _ _ _).mp ran
    obtain ⟨template, _, ran⟩ := (Effect.check_bind_eq_ok _ _ _ _ _).mp ran
    obtain ⟨_, ran⟩ := (Effect.raiseIf_bind_eq_ok _ _ _ _ _ _).mp ran
    rw [Effect.read_bind] at ran
    obtain ⟨fresh, ran⟩ := (Effect.raiseIf_bind_eq_ok _ _ _ _ _ _).mp ran
    iterate 7 obtain ⟨_, ran⟩ := (Effect.raiseIf_bind_eq_ok _ _ _ _ _ _).mp ran
    obtain ⟨input, ran⟩ := (Effect.raiseIf_bind_eq_ok _ _ _ _ _ _).mp ran
    obtain ⟨output, ran⟩ := (Effect.raiseIf_bind_eq_ok _ _ _ _ _ _).mp ran
    obtain ⟨within, ran⟩ := (Effect.raiseIf_bind_eq_ok _ _ _ _ _ _).mp ran
    rw [Effect.write_bind] at ran
    rw [not_or] at fresh input
    refine ⟨ticket, ⟨(expect_eq_ok _ _ _).mp known, fresh.1, ?_, ?_, ?_⟩, ?_⟩
    · exact Option.not_isSome_iff_eq_none.mp fresh.2
    · have calibration : request.calibratedPositiveError = book.trust.calibratedPositiveError :=
        not_not.mp calibrated
      have estimates := not_lt.mp positive
      rw [le_min_iff] at estimates
      refine ⟨estimates.1, estimates.2, Int.natCast_nonneg _, calibration, rfl, rfl,
        not_lt.mp input.2, not_lt.mp input.1, not_lt.mp output⟩
    · exact fun above => within (.inl above)
    · exact ran.symm

theorem opening_admissible {request : ReserveRequest} {ticket : IssuedBudgetTicket}
    (reserves : Reserves book ticketId request ticket ledger) :
    Admissible book ledger
        (ledger.nextEvent book.trust.sha256 (request.opening ticketId ticket)) ∧
      (append book.trust (request.opening ticketId ticket)
        { ledger with usedTemplates := ticket.templateId :: ledger.usedTemplates }).2 =
          ledger.push (ledger.nextEvent book.trust.sha256 (request.opening ticketId ticket)) := by
  have ticketIdEq :
      (ledger.nextEvent book.trust.sha256 (request.opening ticketId ticket)).ticketId =
        ticketId := rfl
  constructor
  · refine ⟨rfl, rfl, eventSha256_nextEvent _ _ _, ⟨ticket, reserves.known, rfl, reserves.fit⟩,
      ?_, ⟨rfl, rfl⟩⟩
    unfold Moves
    rw [ticketIdEq, reserves.unreserved]
    refine ⟨?_, rfl, reserves.unused, reserves.within⟩
    show (ledger.reservations.get? ticketId).map Reservation.state = none
    rw [reserves.unreserved]
    rfl
  · unfold Ledger.push
    rw [ticketIdEq, reserves.unreserved]
    rfl

/-- What `reserve_retry` has found of the two tickets when it goes on to `reserve`. -/
structure RetryOf (book : Book) (ledger : Ledger) (retryTicketId originalTicketId : String) :
    Prop where
  original : ∃ original, ledger.reservations.get? originalTicketId = some original ∧
    original.state = .retained ∧
    original.retainedReason ∈ [some "429", some "5xx", some "timeout"]
  bound : ∃ retryTicket originalTicket template,
    book.tickets.get? retryTicketId = some retryTicket ∧
    book.tickets.get? originalTicketId = some originalTicket ∧
    book.templates.get? retryTicket.templateId = some template ∧
    template.retryOwner = some originalTicket.executionPhaseOwner ∧
    retryTicket.campaignId = originalTicket.campaignId ∧
    retryTicket.configurationId = originalTicket.configurationId ∧
    retryTicket.projectId = originalTicket.projectId ∧
    retryTicket.taskId = originalTicket.taskId ∧
    retryTicket.worker = originalTicket.worker ∧
    retryTicket.matrixUserId = originalTicket.matrixUserId ∧
    retryTicket.allowedRole = originalTicket.allowedRole ∧
    retryTicket.effectiveRequestClass = originalTicket.effectiveRequestClass ∧
    retryTicket.usagePhase = originalTicket.usagePhase ∧
    retryTicket.maxInputTokens = originalTicket.maxInputTokens ∧
    retryTicket.maxOutputTokens = originalTicket.maxOutputTokens

theorem reserveRetry_atomic (book : Book) (current : Int) (retryTicketId originalTicketId : String)
    (request : ReserveRequest) (ledger : Ledger) :
    Effect.Atomic (reserveRetry book current retryTicketId originalTicketId request) ledger := by
  unfold reserveRetry
  refine Effect.keeps_read_bind _ ?_
  iterate 8 refine Effect.keeps_check_bind _ _ fun _ _ => ?_
  exact reserve_atomic book current retryTicketId request ledger

theorem reserveRetry_cases (book : Book) (current : Int) (retryTicketId originalTicketId : String)
    (request : ReserveRequest) (ledger : Ledger) :
    (∃ denied, reserveRetry book current retryTicketId originalTicketId request ledger =
      (.error denied, ledger)) ∨
      (RetryOf book ledger retryTicketId originalTicketId ∧
        reserveRetry book current retryTicketId originalTicketId request ledger =
          reserve book current retryTicketId request ledger) := by
  rcases ran : reserveRetry book current retryTicketId originalTicketId request ledger with
    ⟨denied | reservation, later⟩
  · left
    exact ⟨denied, Prod.ext rfl (reserveRetry_atomic book current retryTicketId originalTicketId
      request ledger denied later ran)⟩
  · right
    unfold reserveRetry at ran
    rw [Effect.read_bind] at ran
    obtain ⟨original, found, ran⟩ := (Effect.check_bind_eq_ok _ _ _ _ _).mp ran
    obtain ⟨state, ran⟩ := (Effect.raiseIf_bind_eq_ok _ _ _ _ _ _).mp ran
    obtain ⟨reason, ran⟩ := (Effect.raiseIf_bind_eq_ok _ _ _ _ _ _).mp ran
    obtain ⟨retryTicket, isRetry, ran⟩ := (Effect.check_bind_eq_ok _ _ _ _ _).mp ran
    obtain ⟨_, ran⟩ := (Effect.raiseIf_bind_eq_ok _ _ _ _ _ _).mp ran
    obtain ⟨template, isTemplate, ran⟩ := (Effect.check_bind_eq_ok _ _ _ _ _).mp ran
    obtain ⟨originalTicket, isOriginal, ran⟩ := (Effect.check_bind_eq_ok _ _ _ _ _).mp ran
    obtain ⟨bound, ran⟩ := (Effect.raiseIf_bind_eq_ok _ _ _ _ _ _).mp ran
    simp only [ne_eq, not_or, not_not] at bound state reason
    exact ⟨⟨⟨original, (expect_eq_ok _ _ _).mp found, state, reason⟩,
      ⟨retryTicket, originalTicket, template, (expect_eq_ok _ _ _).mp isRetry,
        (expect_eq_ok _ _ _).mp isOriginal, (expect_eq_ok _ _ _).mp isTemplate, bound⟩⟩, ran.symm⟩

/-! ### Runs -/

/-- The public operations. -/
inductive BudgetCall where
  | reserve (ticketId : String) (request : ReserveRequest)
  | reserveRetry (retryTicketId originalTicketId : String) (request : ReserveRequest)
  | markDispatched (ticketId : String)
  | retain (ticketId reason : String)
  | settle (ticketId : String) (rawUsage : RawUsage)

/-- A call, when the trusted sequence stands at `current`. -/
def BudgetCall.perform (book : Book) (current : Int) :
    BudgetCall → Effect Ledger BudgetDenied Unit
  | .reserve ticketId request => do
      let _ ← SecureMemory.reserve book current ticketId request
      pure ()
  | .reserveRetry retryTicketId originalTicketId request => do
      let _ ← SecureMemory.reserveRetry book current retryTicketId originalTicketId request
      pure ()
  | .markDispatched ticketId => do
      let _ ← SecureMemory.markDispatched book ticketId
      pure ()
  | .retain ticketId reason => do
      let _ ← SecureMemory.retain book ticketId reason
      pure ()
  | .settle ticketId rawUsage => do
      let _ ← SecureMemory.settle book ticketId rawUsage
      pure ()

/-- The ledger after a sequence of calls, those that raise included. -/
def afterCalls (book : Book) (ledger : Ledger) (calls : List (Int × BudgetCall)) : Ledger :=
  calls.foldl (fun ledger call => (call.2.perform book call.1 ledger).2) ledger

/-- The event that a call appends when it returns. -/
def BudgetCall.Makes (book : Book) (ledger : Ledger) (event : BudgetEvent) : BudgetCall → Prop
  | .reserve ticketId _ => event.ticketId = ticketId ∧ event.state = .reserved
  | .reserveRetry retryTicketId originalTicketId _ =>
      event.ticketId = retryTicketId ∧ event.state = .reserved ∧
        RetryOf book ledger retryTicketId originalTicketId
  | .markDispatched ticketId => event.ticketId = ticketId ∧ event.state = .dispatched
  | .retain ticketId reason => event.ticketId = ticketId ∧ event.state = .retained ∧
      event.retainedReason = some reason
  | .settle ticketId rawUsage => event.ticketId = ticketId ∧ event.state = .settled ∧
      event.settledUsage = some rawUsage.settled

/-- A call raises and changes nothing, or appends one admissible event. -/
theorem perform_cases (journal : Journal book ledger) (current : Int) (call : BudgetCall) :
    (∃ denied, call.perform book current ledger = (.error denied, ledger)) ∨
      ∃ event, Admissible book ledger event ∧ call.Makes book ledger event ∧
        call.perform book current ledger = (.ok (), ledger.push event) := by
  cases call with
  | reserve ticketId request =>
      simp only [BudgetCall.perform, Effect.bind_apply]
      rcases reserve_cases book current ticketId request ledger with
        ⟨denied, ran⟩ | ⟨ticket, reserves, ran⟩
      · rw [ran]
        exact .inl ⟨denied, rfl⟩
      · obtain ⟨admissible, pushed⟩ := opening_admissible reserves
        refine .inr ⟨_, admissible, ⟨rfl, rfl⟩, ?_⟩
        rw [ran, ← pushed]
        rfl
  | reserveRetry retryTicketId originalTicketId request =>
      simp only [BudgetCall.perform, Effect.bind_apply]
      rcases reserveRetry_cases book current retryTicketId originalTicketId request ledger with
        ⟨denied, ran⟩ | ⟨retryOf, ran⟩
      · rw [ran]
        exact .inl ⟨denied, rfl⟩
      · rw [ran]
        rcases reserve_cases book current retryTicketId request ledger with
          ⟨denied, ran⟩ | ⟨ticket, reserves, ran⟩
        · rw [ran]
          exact .inl ⟨denied, rfl⟩
        · obtain ⟨admissible, pushed⟩ := opening_admissible reserves
          refine .inr ⟨_, admissible, ⟨rfl, rfl, retryOf⟩, ?_⟩
          rw [ran, ← pushed]
          rfl
  | markDispatched ticketId =>
      simp only [BudgetCall.perform, Effect.bind_apply]
      rcases markDispatched_cases book ticketId ledger with
        ⟨denied, ran⟩ | ⟨value, found, state, ran⟩
      · rw [ran]
        exact .inl ⟨denied, rfl⟩
      · have closed := (journal.held found).closed
        unfold Reservation.Closed at closed
        rw [state] at closed
        obtain ⟨admissible, pushed⟩ := moved_admissible journal found
          { value with state := .dispatched } rfl rfl rfl (by rw [state]; constructor) closed
        refine .inr ⟨_, admissible, ⟨(journal.held found).own, rfl⟩, ?_⟩
        rw [ran, ← pushed]
        rfl
  | retain ticketId reason =>
      simp only [BudgetCall.perform, Effect.bind_apply]
      rcases retain_cases book ticketId reason ledger with
        ⟨denied, ran⟩ | ⟨value, allowed, found, state, ran⟩
      · rw [ran]
        exact .inl ⟨denied, rfl⟩
      · have closed := (journal.held found).closed
        unfold Reservation.Closed at closed
        rw [state] at closed
        obtain ⟨admissible, pushed⟩ := moved_admissible journal found
          { value with state := .retained, retainedReason := some reason } rfl rfl rfl
          (by rw [state]; constructor) ⟨closed.1, reason, allowed, rfl⟩
        refine .inr ⟨_, admissible, ⟨(journal.held found).own, rfl, rfl⟩, ?_⟩
        rw [ran, ← pushed]
        rfl
  | settle ticketId rawUsage =>
      simp only [BudgetCall.perform, Effect.bind_apply]
      rcases settle_cases book ticketId rawUsage ledger with
        ⟨denied, ran⟩ | ⟨value, found, state, input, output, ran⟩
      · rw [ran]
        exact .inl ⟨denied, rfl⟩
      · have closed := (journal.held found).closed
        unfold Reservation.Closed at closed
        rw [state] at closed
        obtain ⟨admissible, pushed⟩ := moved_admissible journal found
          { value with state := .settled, settledUsage := some rawUsage.settled }
          rfl rfl rfl (by rw [state]; constructor) ⟨closed.2, rawUsage, rfl, input, output⟩
        refine .inr ⟨_, admissible, ⟨(journal.held found).own, rfl, rfl⟩, ?_⟩
        rw [ran, ← pushed]
        rfl

/-- On any ledger at all, a call that raises changes nothing. -/
theorem perform_atomic (book : Book) (current : Int) (call : BudgetCall) (ledger : Ledger) :
    Effect.Atomic (call.perform book current) ledger := by
  intro denied later raised
  cases call with
  | reserve ticketId request =>
      rcases (Effect.bind_eq_error _ _ _ _ _).mp raised with early | ⟨_, _, _, late⟩
      · exact reserve_atomic book current ticketId request ledger denied later early
      · cases late
  | reserveRetry retryTicketId originalTicketId request =>
      rcases (Effect.bind_eq_error _ _ _ _ _).mp raised with early | ⟨_, _, _, late⟩
      · exact reserveRetry_atomic book current retryTicketId originalTicketId request ledger denied
          later early
      · cases late
  | markDispatched ticketId =>
      rcases (Effect.bind_eq_error _ _ _ _ _).mp raised with early | ⟨_, _, _, late⟩
      · rcases markDispatched_cases book ticketId ledger with ⟨_, ran⟩ | ⟨_, _, _, ran⟩
        · rw [ran] at early
          exact (Prod.mk.inj early).2.symm
        · rw [ran] at early
          cases early
      · cases late
  | retain ticketId reason =>
      rcases (Effect.bind_eq_error _ _ _ _ _).mp raised with early | ⟨_, _, _, late⟩
      · rcases retain_cases book ticketId reason ledger with ⟨_, ran⟩ | ⟨_, _, _, _, ran⟩
        · rw [ran] at early
          exact (Prod.mk.inj early).2.symm
        · rw [ran] at early
          cases early
      · cases late
  | settle ticketId rawUsage =>
      rcases (Effect.bind_eq_error _ _ _ _ _).mp raised with early | ⟨_, _, _, late⟩
      · rcases settle_cases book ticketId rawUsage ledger with ⟨_, ran⟩ | ⟨_, _, _, _, _, ran⟩
        · rw [ran] at early
          exact (Prod.mk.inj early).2.symm
        · rw [ran] at early
          cases early
      · cases late

theorem Journal.performed (journal : Journal book ledger)
    (current : Int) (call : BudgetCall) : Journal book (call.perform book current ledger).2 := by
  rcases perform_cases journal current call with ⟨denied, ran⟩ | ⟨event, admissible, _, ran⟩
  · rw [ran]
    exact journal
  · rw [ran]
    exact journal.push admissible

theorem Journal.afterCalls : ∀ {calls : List (Int × BudgetCall)} {ledger : Ledger},
    Journal book ledger → Journal book (afterCalls book ledger calls)
  | [], _, journal => journal
  | (current, call) :: _, _, journal => (journal.performed current call).afterCalls

end

end EgoAgent.SecureMemory
